import CardFilter.Session.Basic

/-!
# Running sessions

A session together with the loads that wait for an answer.  Questions are numbered in the order in
which they are asked; answers may come in any order, each at most once.
-/

namespace CardFilter

/-- A load that waits for the answer to a question. -/
structure Waiting where
  question : Nat
  generation : UInt64
deriving DecidableEq, Repr

structure Run where
  session : Session
  /-- The conditions asked about, in order. -/
  asked : List Condition
  /-- The loads without an answer, in the order in which they began. -/
  waiting : List Waiting

namespace Run

def initial : Run := ⟨.initial, [], []⟩

/-- Begins a load; without an outcome it waits. -/
def load (condition : Condition) (run : Run) : Option LoadOutcome × Run :=
  match run.session.start condition with
  | (.ended outcome, session) => (some outcome, { run with session := session })
  | (.asks generation, session) =>
    (none, ⟨session, run.asked ++ [condition], run.waiting ++ [⟨run.asked.length, generation⟩]⟩)

/-- Ends those of the loads that wait for the question; gives the outcome of each, and the loads
that go on waiting. -/
def settle (question : Nat) (reply : Except FetchError Names) :
    List Waiting → Session → List (Option LoadOutcome) × List Waiting × Session
  | [], session => ([], [], session)
  | load :: rest, session =>
    if load.question = question then
      let (outcome, session) := session.finish load.generation reply
      let (outcomes, waiting, session) := settle question reply rest session
      (some outcome :: outcomes, waiting, session)
    else
      let (outcomes, waiting, session) := settle question reply rest session
      (none :: outcomes, load :: waiting, session)

/-- Answers a question; nothing happens when nobody waits for it. -/
def answer (question : Nat) (reply : Except FetchError Names) (run : Run) :
    Option (List (Option LoadOutcome)) × Run :=
  if run.waiting.any (·.question == question) then
    let (outcomes, waiting, session) := settle question reply run.waiting run.session
    (some outcomes, { run with session := session, waiting := waiting })
  else (none, run)

def reset (run : Run) : Run := { run with session := run.session.reset }

def push (change : Names → Names) (run : Run) : Run :=
  { run with session := run.session.push change }

end Run

end CardFilter
