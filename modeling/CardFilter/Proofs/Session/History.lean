import CardFilter.Session.Run
import Mathlib.Data.List.Induction

/-!
# Histories of runs

Everything that can happen to a session in use is an event: loads begin, answers arrive for loads
that wait, names are pushed or looked up, and the session is reset.  A run is taken through any list
of events, and what happened on the way is collected from it: the loads that were sent out with a
question, the endings of loads that had waited, and what was told in return for each event.

What one action does is said once, by `Effect`.  Statements about whole runs go through it event by
event and never look into loads and answers again.
-/

namespace CardFilter

/-! ## Events -/

/-- The ways in which names are added while editing. -/
inductive Push
  | field (id name : String)
  | fields (pairs : List (String × String))
  | link (id name : String)
  | links (pairs : List (String × String))
  | options (fieldId : String) (options : List FieldOption)
  | card (card : CardTitle)
  | status (id name : String)

def Push.apply : Push → Names → Names
  | .field id name => Names.addField id name
  | .fields pairs => Names.addFields pairs
  | .link id name => Names.addLink id name
  | .links pairs => Names.addLinks pairs
  | .options fieldId values => Names.addOptions fieldId values
  | .card value => Names.addCard value
  | .status id name => Names.addStatus id name

/-- The ways in which names are looked up. -/
inductive Lookup
  | field (id : String)
  | link (id : String)
  | options (fieldId : String)
  | option (fieldId optionId : String)
  | card (id : String)
  | cardLabel (id : String)
  | status (id : String)

/-- What a lookup gives. -/
inductive Found
  | name (text : String)
  | options (options : List FieldOption)
  | card (card : Option CardTitle)

def Lookup.find (names : Names) : Lookup → Found
  | .field id => .name (names.fieldName id)
  | .link id => .name (names.linkName id)
  | .options fieldId => .options (names.optionsOf fieldId)
  | .option fieldId optionId => .name (names.optionName fieldId optionId)
  | .card id => .card (names.card? id)
  | .cardLabel id => .name (names.cardLabel id)
  | .status id => .name (names.statusName id)

/-- What can happen between two resets. -/
inductive Action
  | load (condition : Condition)
  | answer (question : Nat) (reply : Except FetchError Names)
  | push (push : Push)
  | look (lookup : Lookup)

inductive Event
  | act (action : Action)
  | reset

/-- What is told in return for an event: whether a load ended at once, how the loads that waited for
an answer ended, or what a lookup gave. -/
inductive Told
  | nothing
  | begun (outcome : Option LoadOutcome)
  | settled (outcomes : Option (List (Option LoadOutcome)))
  | found (found : Found)

/-- The end of a load that had waited, in the generation that the session had reached by then. -/
structure Ending where
  load : Waiting
  outcome : LoadOutcome
  generation : UInt64

/-- What became of a load that waited, if it ended. -/
def Ending.ofPair? (generation : UInt64) (pair : Waiting × Option LoadOutcome) : Option Ending :=
  pair.2.map fun outcome ↦ ⟨pair.1, outcome, generation⟩

/-- Whether the answer was taken, for names or for an error. -/
def Ending.isAccepted (ending : Ending) : Bool :=
  ending.outcome == .loaded || ending.outcome == .failed

namespace Run

def act (run : Run) : Action → Run
  | .load condition => (run.load condition).2
  | .answer question reply => (run.answer question reply).2
  | .push push => run.push push.apply
  | .look _ => run

def step (run : Run) : Event → Run
  | .act action => run.act action
  | .reset => run.reset

/-- The run that a list of events leads to. -/
def after (events : List Event) : Run := events.foldl step initial

def told (run : Run) : Event → Told
  | .act (.load condition) => .begun (run.load condition).1
  | .act (.answer question reply) => .settled (run.answer question reply).1
  | .act (.look lookup) => .found (lookup.find run.session.names)
  | .act (.push _) | .reset => .nothing

/-- The load that is sent out with a question. -/
def fetched (run : Run) : Event → List Waiting
  | .act (.load condition) =>
    if (run.load condition).1.isNone then [⟨run.asked.length, run.session.generation⟩] else []
  | _ => []

/-- The loads that had waited and end. -/
def ended (run : Run) : Event → List Ending
  | .act (.answer question reply) =>
    (run.waiting.zip ((run.answer question reply).1.getD [])).filterMap
      (Ending.ofPair? run.session.generation)
  | _ => []

/-- What is seen of each event on the way. -/
def collect {α : Type} (look : Run → Event → List α) (run : Run) : List Event → List α
  | [] => []
  | event :: rest => look run event ++ (run.step event).collect look rest

end Run

/-- All loads that were sent out with a question, in order. -/
def fetches (events : List Event) : List Waiting := Run.initial.collect Run.fetched events

/-- All endings of loads that had waited, in order. -/
def endings (events : List Event) : List Ending := Run.initial.collect Run.ended events

def Event.isReset : Event → Bool
  | .reset => true
  | .act _ => false

def resets (events : List Event) : Nat := events.countP Event.isReset

/-! ## One more event -/

/-- A list of events is empty or ends in a reset or in an action. -/
@[elab_as_elim]
theorem events_induction {motive : List Event → Prop} (initial : motive [])
    (reset : ∀ events, motive events → motive (events ++ [.reset]))
    (act : ∀ events action, motive events → motive (events ++ [.act action]))
    (events : List Event) : motive events := by
  induction events using List.reverseRecOn with
  | nil => exact initial
  | append_singleton events event ih =>
    cases event with
    | act action => exact act events action ih
    | reset => exact reset events ih

namespace Run

theorem after_append (events others : List Event) :
    after (events ++ others) = others.foldl step (after events) := List.foldl_append

theorem after_append_singleton (events : List Event) (event : Event) :
    after (events ++ [event]) = (after events).step event :=
  after_append events [event]

theorem collect_append {α : Type} (look : Run → Event → List α) (run : Run)
    (events others : List Event) :
    run.collect look (events ++ others) =
      run.collect look events ++ (events.foldl step run).collect look others := by
  induction events generalizing run with
  | nil => rfl
  | cons event rest ih =>
    rw [List.cons_append, collect, collect, ih, List.append_assoc, List.foldl_cons]

end Run

theorem fetches_append_singleton (events : List Event) (event : Event) :
    fetches (events ++ [event]) = fetches events ++ (Run.after events).fetched event := by
  rw [fetches, Run.collect_append, Run.collect, Run.collect, List.append_nil]
  rfl

theorem endings_append_singleton (events : List Event) (event : Event) :
    endings (events ++ [event]) = endings events ++ (Run.after events).ended event := by
  rw [endings, Run.collect_append, Run.collect, Run.collect, List.append_nil]
  rfl

theorem after_append_reset (events : List Event) :
    Run.after (events ++ [.reset]) = (Run.after events).reset :=
  Run.after_append_singleton events .reset

theorem fetches_append_reset (events : List Event) :
    fetches (events ++ [.reset]) = fetches events := by
  rw [fetches_append_singleton]
  exact List.append_nil _

theorem endings_append_reset (events : List Event) :
    endings (events ++ [.reset]) = endings events := by
  rw [endings_append_singleton]
  exact List.append_nil _

theorem resets_append_reset (events : List Event) :
    resets (events ++ [.reset]) = resets events + 1 := by
  rw [resets, List.countP_append]
  rfl

theorem resets_append_act (events : List Event) (action : Action) :
    resets (events ++ [.act action]) = resets events := by
  rw [resets, List.countP_append]
  rfl

/-! ## Loads and answers -/

namespace Run

/-- The run after a load for the condition was sent out. -/
def fetching (run : Run) (condition : Condition) : Run where
  session := { run.session with initialized := true, loading := true, error := none }
  asked := run.asked ++ [condition]
  waiting := run.waiting ++ [⟨run.asked.length, run.session.generation⟩]

/-- A load ends at once, for the first of three reasons, or it is sent out. -/
theorem load_eq (run : Run) (condition : Condition) :
    run.load condition =
      if condition.root.isNone then (some .noRoot, run)
      else if run.session.loading then (some .inFlight, run)
      else if run.session.initialized then (some .alreadyInitialized, run)
      else (none, run.fetching condition) := by
  rw [load, Session.start]
  cases condition.root.isNone with
  | true => rfl
  | false =>
    cases run.session.loading with
    | true => rfl
    | false => cases run.session.initialized <;> rfl

theorem settle_of_ne {question : Nat} {loads : List Waiting}
    (h : ∀ load ∈ loads, load.question ≠ question) (reply : Except FetchError Names)
    (session : Session) :
    settle question reply loads session = (loads.map fun _ ↦ none, loads, session) := by
  induction loads with
  | nil => rfl
  | cons load rest ih =>
    obtain ⟨hload, hrest⟩ := List.forall_mem_cons.1 h
    rw [settle, if_neg hload, ih hrest]
    rfl

/-- The one load that waits for a question ends, and the others are not touched. -/
theorem settle_append_cons {load : Waiting} {before behind : List Waiting}
    (hbefore : ∀ other ∈ before, other.question ≠ load.question)
    (hbehind : ∀ other ∈ behind, other.question ≠ load.question)
    (reply : Except FetchError Names) (session : Session) :
    settle load.question reply (before ++ load :: behind) session =
      (before.map (fun _ ↦ none) ++
          some (session.finish load.generation reply).1 :: behind.map fun _ ↦ none,
        before ++ behind, (session.finish load.generation reply).2) := by
  induction before with
  | nil =>
    simp only [List.nil_append, settle, if_true, settle_of_ne hbehind]
    rfl
  | cons other rest ih =>
    obtain ⟨hother, hrest⟩ := List.forall_mem_cons.1 hbefore
    rw [List.cons_append, settle, if_neg hother, ih hrest]
    rfl

/-- Questions are numbered in the order in which they are asked. -/
structure Numbered (run : Run) : Prop where
  increasing : run.waiting.Pairwise fun first second ↦ first.question < second.question
  asked : ∀ load ∈ run.waiting, load.question < run.asked.length

theorem Numbered.ne {run : Run} (h : run.Numbered) {before behind : List Waiting} {load : Waiting}
    (hwaiting : run.waiting = before ++ load :: behind) :
    ∀ other ∈ before ++ behind, other.question ≠ load.question := by
  have hincreasing := h.increasing
  rw [hwaiting] at hincreasing
  obtain ⟨-, hbehind, hbefore⟩ := List.pairwise_append.1 hincreasing
  intro other hother
  rcases List.mem_append.1 hother with hother | hother
  · exact Nat.ne_of_lt (hbefore other hother load List.mem_cons_self)
  · exact Nat.ne_of_gt ((List.pairwise_cons.1 hbehind).1 other hother)

/-- The loads beside the one that ends had waited as well. -/
theorem sublist_waiting {run : Run} {before behind : List Waiting} {load : Waiting}
    (hwaiting : run.waiting = before ++ load :: behind) :
    List.Sublist (before ++ behind) run.waiting := by
  rw [hwaiting]
  exact (List.sublist_cons_self load behind).append_left before

theorem mem_others_of_ne {run : Run} {before behind : List Waiting} {load other : Waiting}
    (hwaiting : run.waiting = before ++ load :: behind) (h : other ∈ run.waiting)
    (hne : other ≠ load) : other ∈ before ++ behind := by
  rw [hwaiting] at h
  simpa [hne] using h

/-- The run after a load that waited was ended by a reply. -/
def finishing (run : Run) (load : Waiting) (reply : Except FetchError Names)
    (others : List Waiting) : Run :=
  { run with session := (run.session.finish load.generation reply).2, waiting := others }

/-- An answer ends the load that waits for it. -/
theorem answer_eq {run : Run} (h : run.Numbered) {before behind : List Waiting} {load : Waiting}
    (hwaiting : run.waiting = before ++ load :: behind) (reply : Except FetchError Names) :
    run.answer load.question reply =
      (some (before.map (fun _ ↦ none) ++
          some (run.session.finish load.generation reply).1 :: behind.map fun _ ↦ none),
        run.finishing load reply (before ++ behind)) := by
  have hothers := h.ne hwaiting
  have hsettle := settle_append_cons
    (fun other hother ↦ hothers other (List.mem_append_left _ hother))
    (fun other hother ↦ hothers other (List.mem_append_right _ hother)) reply run.session
  have hany : run.waiting.any (fun other ↦ other.question == load.question) = true :=
    List.any_eq_true.2 ⟨load, by simp [hwaiting], by simp⟩
  rw [answer, if_pos hany, hwaiting, hsettle]
  rfl

theorem answer_of_not_waiting {run : Run} {question : Nat}
    (h : ∀ load ∈ run.waiting, load.question ≠ question) (reply : Except FetchError Names) :
    run.answer question reply = (none, run) := by
  have hany : run.waiting.any (fun load ↦ load.question == question) = false :=
    List.any_eq_false.2 fun load hload ↦ by simpa using h load hload
  rw [answer, hany]
  rfl

/-! ## What one action does -/

/-- What an action does to a run: the run that it leads to, the loads that it sends out and those
that it ends. -/
inductive Effect (run : Run) : Action → Run → List Waiting → List Ending → Prop
  /-- Nothing, and a load only does nothing when it has no root or is not the first. -/
  | idle {action : Action} :
    (∀ condition, action = .load condition → condition.root.isSome →
      run.session.loading = true ∨ run.session.initialized = true) →
    Effect run action run [] []
  | fetch {condition : Condition} : condition.root.isSome → run.session.loading = false →
    run.session.initialized = false →
    Effect run (.load condition) (run.fetching condition)
      [⟨run.asked.length, run.session.generation⟩] []
  | finish {before behind : List Waiting} {load : Waiting} (reply : Except FetchError Names) :
    run.waiting = before ++ load :: behind →
    Effect run (.answer load.question reply) (run.finishing load reply (before ++ behind)) []
      [⟨load, (run.session.finish load.generation reply).1, run.session.generation⟩]
  | push (push : Push) : Effect run (.push push) (run.push push.apply) [] []

theorem effect_load (run : Run) (condition : Condition) :
    Effect run (.load condition) (run.act (.load condition))
      (run.fetched (.act (.load condition))) [] := by
  rw [act, fetched, load_eq]
  cases hroot : condition.root with
  | none =>
    apply Effect.idle
    intro other hother hsome
    obtain rfl := Action.load.inj hother
    rw [hroot] at hsome
    cases hsome
  | some node =>
    have hsome : condition.root.isSome = true := by rw [hroot]; rfl
    cases hloading : run.session.loading with
    | true => exact .idle fun _ _ _ ↦ .inl hloading
    | false =>
      cases hinitialized : run.session.initialized with
      | true => exact .idle fun _ _ _ ↦ .inr hinitialized
      | false => exact .fetch hsome hloading hinitialized

/-- Loads without an outcome have not ended. -/
theorem ended_none (loads : List Waiting) (generation : UInt64) :
    (loads.zip (loads.map fun _ ↦ none)).filterMap (Ending.ofPair? generation) = [] := by
  induction loads with
  | nil => rfl
  | cons load rest ih => exact ih

theorem ended_answer {run : Run} (h : run.Numbered) {before behind : List Waiting} {load : Waiting}
    (hwaiting : run.waiting = before ++ load :: behind) (reply : Except FetchError Names) :
    run.ended (.act (.answer load.question reply)) =
      [⟨load, (run.session.finish load.generation reply).1, run.session.generation⟩] := by
  have hlength : before.length = (before.map fun _ ↦ (none : Option LoadOutcome)).length :=
    List.length_map _ |>.symm
  rw [ended, answer_eq h hwaiting, hwaiting, Option.getD_some, List.zip_append hlength,
    List.filterMap_append, ended_none, List.zip_cons_cons, List.filterMap_cons, ended_none]
  rfl

theorem effect_answer {run : Run} (h : run.Numbered) (question : Nat)
    (reply : Except FetchError Names) :
    Effect run (.answer question reply) (run.act (.answer question reply)) []
      (run.ended (.act (.answer question reply))) := by
  by_cases hwaits : ∃ load ∈ run.waiting, load.question = question
  · obtain ⟨load, hload, rfl⟩ := hwaits
    obtain ⟨before, behind, hwaiting⟩ := List.append_of_mem hload
    rw [ended_answer h hwaiting, act, answer_eq h hwaiting]
    exact .finish reply hwaiting
  · have hnone := answer_of_not_waiting (fun load hload heq ↦ hwaits ⟨load, hload, heq⟩) reply
    rw [act, ended, hnone, Option.getD_none, List.zip_nil_right]
    exact .idle fun _ hload ↦ by cases hload

theorem Numbered.effect {run : Run} (h : run.Numbered) (action : Action) :
    Effect run action (run.act action) (run.fetched (.act action)) (run.ended (.act action)) := by
  cases action with
  | load condition => exact run.effect_load condition
  | answer question reply => exact effect_answer h question reply
  | push push => exact .push push
  | look lookup => exact .idle fun _ hload ↦ by cases hload

section Preservation

variable {run next : Run} {action : Action} {sent : List Waiting} {gone : List Ending}

theorem Effect.numbered (heffect : Effect run action next sent gone) (h : run.Numbered) :
    next.Numbered := by
  cases heffect with
  | idle => exact h
  | push => exact ⟨h.increasing, h.asked⟩
  | @finish before behind load reply hwaiting =>
    have hsublist := sublist_waiting hwaiting
    exact ⟨h.increasing.sublist hsublist, fun other hother ↦ h.asked other (hsublist.subset hother)⟩
  | @fetch condition =>
    have hlength : (run.fetching condition).asked.length = run.asked.length + 1 :=
      List.length_append
    constructor
    · apply List.pairwise_append.2
      refine ⟨h.increasing, List.pairwise_singleton _ _, ?_⟩
      intro load hload new hnew
      obtain rfl := List.mem_singleton.1 hnew
      exact h.asked load hload
    · intro load hload
      rw [hlength]
      rcases List.mem_append.1 hload with hload | hload
      · exact Nat.lt_succ_of_lt (h.asked load hload)
      · obtain rfl := List.mem_singleton.1 hload
        exact Nat.lt_succ_self _

/-- The loads that wait and those that end are the ones that waited before and those sent out. -/
theorem Effect.perm (heffect : Effect run action next sent gone) :
    (gone.map Ending.load ++ next.waiting).Perm (run.waiting ++ sent) := by
  cases heffect with
  | idle => simp
  | push => simp [Run.push]
  | fetch => simp [fetching]
  | @finish before behind load reply hwaiting =>
    rw [hwaiting, List.append_nil]
    change (load :: (before ++ behind)).Perm _
    exact List.perm_middle.symm

end Preservation

theorem numbered_after (events : List Event) : (after events).Numbered := by
  induction events using events_induction with
  | initial => exact ⟨.nil, fun _ hload ↦ nomatch hload⟩
  | reset events ih =>
    rw [after_append_reset]
    exact ⟨ih.increasing, ih.asked⟩
  | act events action ih =>
    rw [after_append_singleton]
    exact (ih.effect action).numbered ih

/-- One more action has the effect that it has on the run so far. -/
theorem effect_after (events : List Event) (action : Action) :
    Effect (after events) action (after (events ++ [.act action]))
      ((after events).fetched (.act action)) ((after events).ended (.act action)) := by
  rw [after_append_singleton]
  exact (numbered_after events).effect action

end Run

open Run (after)

/-- Every load that was sent out waits or has ended, and never both. -/
theorem perm_fetches (events : List Event) :
    ((endings events).map Ending.load ++ (after events).waiting).Perm (fetches events) := by
  induction events using events_induction with
  | initial => exact .refl _
  | reset events ih =>
    rw [endings_append_reset, fetches_append_reset, after_append_reset]
    exact ih
  | act events action ih =>
    have heffect := (Run.effect_after events action).perm
    rw [endings_append_singleton, fetches_append_singleton, List.map_append, List.append_assoc]
    apply (heffect.append_left _).trans
    rw [← List.append_assoc]
    exact ih.append_right _

theorem mem_fetches_of_waiting {events : List Event} {load : Waiting}
    (h : load ∈ (after events).waiting) : load ∈ fetches events :=
  (perm_fetches events).subset (List.mem_append_right _ h)

end CardFilter
