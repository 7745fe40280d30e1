import CardFilter.Command.Help
import CardFilter.Command.Perform

/-!
# Calls

One call of the program from its arguments to its report.
-/

namespace CardFilter

structure Call where
  environment : Environment
  arguments : List String
deriving DecidableEq, Repr

namespace Call

/-- What a call reports and does in an outside.  Arguments that make no command do nothing. -/
def run (outside : Outside) (call : Call) : Report × Effects :=
  match Invocation.ofArguments call.arguments with
  | .error stop => (stop.report, .none)
  | .ok invocation =>
    let (result, effects) := (invocation.answer call.environment).run outside
    (invocation.report call.environment result, effects)

end Call

end CardFilter
