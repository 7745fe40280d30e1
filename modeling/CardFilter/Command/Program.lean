import CardFilter.Command.Failure
import CardFilter.Names.Endpoint

/-!
# Programs

A command as a tree of questions to the outside: each question goes on in a way that depends on its
answer.  `Program.run` gives the outside as functions and says what a program does to it; the outer
layer of the program answers the same questions for real.  No program asks twice for the same thing,
so the answers do not have to reflect what has been written before.
-/

namespace CardFilter

inductive Program (α : Type)
  | done (value : α)
  | fail (failure : Failure)
  | load (path : String) (next : Except ReadError String → Program α)
  /-- Reads the standard input, or says why there is no text in it. -/
  | input (next : Except String String → Program α)
  | save (path content : String) (next : Except WriteError Unit → Program α)
  /-- Carries a request to where it goes, or says why that is not possible. -/
  | send (request : WebRequest) (next : Except String WebResponse → Program α)

namespace Program

variable {α β : Type}

/-- One program, and then another one that depends on its value. -/
def bind (program : Program α) (rest : α → Program β) : Program β :=
  match program with
  | .done value => rest value
  | .fail failure => .fail failure
  | .load path next => .load path fun found ↦ (next found).bind rest
  | .input next => .input fun found ↦ (next found).bind rest
  | .save path content next => .save path content fun result ↦ (next result).bind rest
  | .send request next => .send request fun response ↦ (next response).bind rest

instance : Monad Program where
  pure := .done
  bind := bind

/-- A value, or a failure. -/
def ofExcept {ε : Type} (failure : ε → Failure) : Except ε α → Program α
  | .ok value => .done value
  | .error error => .fail (failure error)

end Program

/-- The outside of a program. -/
structure Outside where
  load : String → Except ReadError String
  input : Except String String
  save : String → String → Except WriteError Unit
  send : WebRequest → Except String WebResponse

/-- What a program does. -/
structure Effects where
  /-- The files written, by path. -/
  written : List (String × String)
  sent : List WebRequest
deriving DecidableEq, Repr

def Effects.none : Effects := ⟨[], []⟩

namespace Program

variable {α : Type}

/-- What a program comes to in an outside, and what it has done after earlier effects. -/
def runAfter (outside : Outside) (effects : Effects) : Program α → Except Failure α × Effects
  | .done value => (.ok value, effects)
  | .fail failure => (.error failure, effects)
  | .load path next => runAfter outside effects (next (outside.load path))
  | .input next => runAfter outside effects (next outside.input)
  | .save path content next =>
    match outside.save path content with
    | .ok () =>
      let effects := { effects with written := effects.written ++ [(path, content)] }
      runAfter outside effects (next (.ok ()))
    | .error error => runAfter outside effects (next (.error error))
  | .send request next =>
    let effects := { effects with sent := effects.sent ++ [request] }
    runAfter outside effects (next (outside.send request))

def run (outside : Outside) (program : Program α) : Except Failure α × Effects :=
  program.runAfter outside .none

end Program

end CardFilter
