import CardFilter.Proofs.Session.Invariant
import CardFilter.Proofs.Table
import Mathlib.Logic.Function.Basic

/-!
# The names are the history

What a session knows is told by the events alone.  A chronicle goes through them once and keeps
three things: the names, as finite maps; the number of questions; and how far the question of the
present period is.  It has no generations, no flags and no loads that wait.

Reading it off: a reset forgets everything; the answer to the question that is out replaces all
names, by none if it is an error; a push overwrites one key; and nothing else matters, neither loads
nor answers to older questions nor lookups.  So nothing that was pushed before or while names are on
their way outlives their arrival.

As long as no generation was used twice the names of the session are those of the chronicle, and
every lookup gives what the chronicle has.
-/

namespace CardFilter

open Run (after)

/-! ## Names as finite maps -/

/-- What a table holds under each name. -/
def Table.held {α : Type} (table : Table α) : String → Option α := fun name ↦ table.lookup name

/-- What is held under each identifier. -/
structure Known where
  field : String → Option String
  link : String → Option String
  options : String → Option (List FieldOption)
  card : String → Option CardTitle
  status : String → Option String

namespace Known

def nothing : Known := ⟨fun _ ↦ none, fun _ ↦ none, fun _ ↦ none, fun _ ↦ none, fun _ ↦ none⟩

def ofNames (names : Names) : Known where
  field := names.fields.held
  link := names.links.held
  options := names.options.held
  card := names.cards.held
  status := names.statuses.held

/-- An error leaves no names. -/
def ofReply : Except FetchError Names → Known
  | .ok names => ofNames names
  | .error _ => nothing

def setField (known : Known) (id name : String) : Known :=
  { known with field := Function.update known.field id (some name) }

def setLink (known : Known) (id name : String) : Known :=
  { known with link := Function.update known.link id (some name) }

/-- One key is overwritten; of several pairs the later ones count. -/
def push (known : Known) : Push → Known
  | .field id name => known.setField id name
  | .fields pairs => pairs.foldl (fun known pair ↦ known.setField pair.1 pair.2) known
  | .link id name => known.setLink id name
  | .links pairs => pairs.foldl (fun known pair ↦ known.setLink pair.1 pair.2) known
  | .options fieldId options =>
    { known with options := Function.update known.options fieldId (some options) }
  | .card card => { known with card := Function.update known.card card.id (some card) }
  | .status id name => { known with status := Function.update known.status id (some name) }

/-- What is held under the key, or else the identifier itself; there are no options and no card
then. -/
def find (known : Known) : Lookup → Found
  | .field id => .name ((known.field id).getD id)
  | .link id => .name ((known.link id).getD id)
  | .options fieldId => .options ((known.options fieldId).getD [])
  | .option fieldId optionId =>
    let option := (known.options fieldId).bind fun options ↦ options.find? (·.id == optionId)
    .name ((option.map FieldOption.name).getD optionId)
  | .card id => .card (known.card id)
  | .cardLabel id => .name (((known.card id).map CardTitle.label).getD id)
  | .status id => .name ((known.status id).getD id)

end Known

/-! ## Chronicles -/

/-- How far the question of a period is. -/
inductive Phase
  | unasked
  | out (question : Nat)
  | answered
deriving DecidableEq

structure Chronicle where
  known : Known
  /-- The number of questions so far. -/
  asked : Nat
  phase : Phase

namespace Chronicle

def start : Chronicle := ⟨.nothing, 0, .unasked⟩

def act (chronicle : Chronicle) : Action → Chronicle
  | .load condition =>
    if chronicle.phase = .unasked ∧ condition.root.isSome then
      { chronicle with asked := chronicle.asked + 1, phase := .out chronicle.asked }
    else chronicle
  | .answer question reply =>
    if chronicle.phase = .out question then
      { chronicle with known := .ofReply reply, phase := .answered }
    else chronicle
  | .push push => { chronicle with known := chronicle.known.push push }
  | .look _ => chronicle

def step (chronicle : Chronicle) : Event → Chronicle
  | .act action => chronicle.act action
  | .reset => { chronicle with known := .nothing, phase := .unasked }

end Chronicle

def chronicle (events : List Event) : Chronicle := events.foldl Chronicle.step .start

theorem chronicle_append_singleton (events : List Event) (event : Event) :
    chronicle (events ++ [event]) = (chronicle events).step event := by
  rw [chronicle, List.foldl_append]
  rfl

/-! ## What names hold -/

theorem Table.held_insert {α : Type} (name : String) (value : α) (table : Table α) :
    (table.insert name value).held = Function.update table.held name (some value) := by
  funext key
  rw [Function.update_apply]
  exact Table.lookup_insert name key value table

namespace Known

theorem ofNames_addField (id name : String) (names : Names) :
    ofNames (names.addField id name) = (ofNames names).setField id name := by
  rw [ofNames, Names.addField, Table.held_insert]
  rfl

theorem ofNames_addLink (id name : String) (names : Names) :
    ofNames (names.addLink id name) = (ofNames names).setLink id name := by
  rw [ofNames, Names.addLink, Table.held_insert]
  rfl

theorem ofNames_addFields (pairs : List (String × String)) (names : Names) :
    ofNames (names.addFields pairs) =
      pairs.foldl (fun known pair ↦ known.setField pair.1 pair.2) (ofNames names) := by
  induction pairs generalizing names with
  | nil => rfl
  | cons pair rest ih =>
    calc
      ofNames (names.addFields (pair :: rest)) =
          ofNames ((names.addField pair.1 pair.2).addFields rest) := rfl
      _ = _ := by rw [ih, ofNames_addField, List.foldl_cons]

theorem ofNames_addLinks (pairs : List (String × String)) (names : Names) :
    ofNames (names.addLinks pairs) =
      pairs.foldl (fun known pair ↦ known.setLink pair.1 pair.2) (ofNames names) := by
  induction pairs generalizing names with
  | nil => rfl
  | cons pair rest ih =>
    calc
      ofNames (names.addLinks (pair :: rest)) =
          ofNames ((names.addLink pair.1 pair.2).addLinks rest) := rfl
      _ = _ := by rw [ih, ofNames_addLink, List.foldl_cons]

/-- Tables are pushed to as finite maps are. -/
theorem ofNames_push (push : Push) (names : Names) :
    ofNames (push.apply names) = (ofNames names).push push := by
  cases push with
  | field id name => exact ofNames_addField id name names
  | fields pairs => exact ofNames_addFields pairs names
  | link id name => exact ofNames_addLink id name names
  | links pairs => exact ofNames_addLinks pairs names
  | options fieldId options =>
    rw [Push.apply, ofNames, Names.addOptions, Table.held_insert]
    rfl
  | card card =>
    rw [Push.apply, ofNames, Names.addCard, Table.held_insert]
    rfl
  | status id name =>
    rw [Push.apply, ofNames, Names.addStatus, Table.held_insert]
    rfl

/-- Tables are looked up as finite maps are. -/
theorem find_ofNames (names : Names) (lookup : Lookup) :
    lookup.find names = (ofNames names).find lookup := by
  cases lookup with
  | option fieldId optionId =>
    simp only [Lookup.find, Names.optionName, Names.optionsOf, find, ofNames, Table.held]
    cases names.options.lookup fieldId <;> rfl
  | field | link | options | card | cardLabel | status => rfl

theorem ofNames_finish {session : Session} {generation : UInt64}
    (h : session.generation = generation) (reply : Except FetchError Names) :
    ofNames (session.finish generation reply).2.names = ofReply reply := by
  cases reply with
  | ok names => simp [Session.finish, h, ofReply]
  | error error =>
    simp only [Session.finish, h, ne_eq, not_true_eq_false, if_false]
    rfl

end Known

/-! ## One event -/

/-- How a run stands to its chronicle: they know the same names, and the question that is out is
that of the load of the present generation that waits. -/
structure Run.Follows (run : Run) (chronicle : Chronicle) : Prop where
  known : Known.ofNames run.session.names = chronicle.known
  asked : run.asked.length = chronicle.asked
  initialized : run.session.initialized = true ↔ chronicle.phase ≠ .unasked
  current : ∀ load ∈ run.waiting,
    run.session.generation = load.generation ↔ chronicle.phase = .out load.question
  waits : ∀ question, chronicle.phase = .out question →
    ∃ load ∈ run.waiting, load.question = question

namespace Run.Follows

variable {run : Run} {chronicle : Chronicle}

theorem initial : Run.initial.Follows .start where
  known := rfl
  asked := rfl
  initialized := by simp [Run.initial, Session.initial, Session.fresh, Chronicle.start]
  current load hload := nomatch hload
  waits question hout := nomatch hout

theorem reset (h : run.Follows chronicle)
    (hnew : ∀ load ∈ run.waiting, run.reset.session.generation ≠ load.generation) :
    run.reset.Follows (chronicle.step .reset) where
  known := rfl
  asked := h.asked
  initialized := by simp [Run.reset, Session.reset, Session.fresh, Chronicle.step]
  current load hload := iff_of_false (hnew load hload) (fun hout ↦ nomatch hout)
  waits question hout := nomatch hout

theorem fetch (h : run.Follows chronicle) (hnumbered : run.Numbered) (condition : Condition)
    (hunasked : chronicle.phase = .unasked) :
    (run.fetching condition).Follows
      { chronicle with asked := chronicle.asked + 1, phase := .out chronicle.asked } := by
  constructor
  · exact h.known
  · rw [fetching, List.length_append, h.asked]
    rfl
  · simp [fetching]
  · intro load hload
    rcases List.mem_append.1 hload with hload | hload
    · -- The loads that waited before are old, and their questions have smaller numbers.
      have hquestion : chronicle.asked ≠ load.question := by
        rw [← h.asked]
        exact (hnumbered.asked load hload).ne'
      have hold : run.session.generation ≠ load.generation := by
        intro hown
        have hout := (h.current load hload).1 hown
        rw [hunasked] at hout
        cases hout
      exact iff_of_false hold fun hout ↦ hquestion (Phase.out.inj hout)
    · obtain rfl := List.mem_singleton.1 hload
      exact iff_of_true rfl (congrArg Phase.out h.asked.symm)
  · intro question hout
    refine ⟨_, List.mem_append_right _ List.mem_cons_self, ?_⟩
    exact h.asked.trans (Phase.out.inj hout)

theorem load (h : run.Follows chronicle) (hnumbered : run.Numbered)
    (hloading : run.session.loading = true → run.session.initialized = true)
    (condition : Condition) :
    (run.act (.load condition)).Follows (chronicle.act (.load condition)) := by
  rw [Run.act, Run.load_eq]
  by_cases hasked : run.session.initialized = true
  · have hphase := h.initialized.1 hasked
    have hsame : chronicle.act (.load condition) = chronicle := if_neg fun hboth ↦ hphase hboth.1
    rw [hsame]
    split_ifs <;> exact h
  · have hphase : chronicle.phase = .unasked := not_not.1 fun hne ↦ hasked (h.initialized.2 hne)
    rw [if_neg fun hload ↦ hasked (hloading hload), if_neg hasked]
    cases hroot : condition.root with
    | none => simpa [Chronicle.act, hroot] using h
    | some node =>
      simpa [Chronicle.act, hroot, hphase] using h.fetch hnumbered condition hphase

section Finish

variable {before behind : List Waiting} {load : Waiting}

/-- The answer of the present generation is the one to the question that is out. -/
theorem finish_own (h : run.Follows chronicle) (hnumbered : run.Numbered)
    (hwaiting : run.waiting = before ++ load :: behind)
    (hphase : chronicle.phase = .out load.question)
    (hown : run.session.generation = load.generation) (reply : Except FetchError Names) :
    (run.finishing load reply (before ++ behind)).Follows
      { chronicle with known := .ofReply reply, phase := .answered } := by
  obtain ⟨hsame, hkept⟩ := run.session_finishing load reply (before ++ behind)
  have hasked : chronicle.phase ≠ .unasked := by
    rw [hphase]
    exact fun hout ↦ nomatch hout
  have hold : ∀ other ∈ before ++ behind, run.session.generation ≠ other.generation := by
    intro other hother hcurrent
    have hout := (h.current other ((sublist_waiting hwaiting).subset hother)).1 hcurrent
    rw [hphase] at hout
    exact hnumbered.ne hwaiting other hother (Phase.out.inj hout).symm
  constructor
  · exact Known.ofNames_finish hown reply
  · exact h.asked
  · rw [hkept]
    exact iff_of_true (h.initialized.2 hasked) fun hnone ↦ nomatch hnone
  · intro other hother
    rw [hsame]
    exact iff_of_false (hold other hother) fun hout ↦ nomatch hout
  · exact fun _ hout ↦ nomatch hout

/-- The answer of an older generation is to a question that is no longer out. -/
theorem finish_old (h : run.Follows chronicle)
    (hwaiting : run.waiting = before ++ load :: behind)
    (hphase : chronicle.phase ≠ .out load.question)
    (hold : run.session.generation ≠ load.generation) (reply : Except FetchError Names) :
    (run.finishing load reply (before ++ behind)).Follows chronicle := by
  have hsession := session_finishing_of_ne hold reply (before ++ behind)
  constructor
  · rw [hsession]
    exact h.known
  · exact h.asked
  · rw [hsession]
    exact h.initialized
  · intro other hother
    rw [hsession]
    exact h.current other ((sublist_waiting hwaiting).subset hother)
  · intro question hout
    obtain ⟨own, hwaits, rfl⟩ := h.waits question hout
    refine ⟨own, ?_, rfl⟩
    have hne : own ≠ load := by
      rintro rfl
      exact hphase hout
    exact mem_others_of_ne hwaiting hwaits hne

theorem finish (h : run.Follows chronicle) (hnumbered : run.Numbered)
    (hwaiting : run.waiting = before ++ load :: behind) (reply : Except FetchError Names) :
    (run.finishing load reply (before ++ behind)).Follows
      (chronicle.act (.answer load.question reply)) := by
  have hload : load ∈ run.waiting := by simp [hwaiting]
  have hcurrent := h.current load hload
  rw [Chronicle.act]
  by_cases hphase : chronicle.phase = .out load.question
  · rw [if_pos hphase]
    exact h.finish_own hnumbered hwaiting hphase (hcurrent.2 hphase) reply
  · rw [if_neg hphase]
    exact h.finish_old hwaiting hphase (fun hown ↦ hphase (hcurrent.1 hown)) reply

end Finish

theorem answer (h : run.Follows chronicle) (hnumbered : run.Numbered) (question : Nat)
    (reply : Except FetchError Names) :
    (run.act (.answer question reply)).Follows (chronicle.act (.answer question reply)) := by
  by_cases hwaits : ∃ load ∈ run.waiting, load.question = question
  · obtain ⟨load, hload, rfl⟩ := hwaits
    obtain ⟨before, behind, hwaiting⟩ := List.append_of_mem hload
    rw [Run.act, answer_eq hnumbered hwaiting]
    exact h.finish hnumbered hwaiting reply
  · have hphase : chronicle.phase ≠ .out question := fun hout ↦ hwaits (h.waits question hout)
    have hact : chronicle.act (.answer question reply) = chronicle := if_neg hphase
    have hnone := answer_of_not_waiting (fun load hload heq ↦ hwaits ⟨load, hload, heq⟩) reply
    rw [Run.act, hnone, hact]
    exact h

theorem push (h : run.Follows chronicle) (push : Push) :
    (run.act (.push push)).Follows (chronicle.act (.push push)) where
  known := (Known.ofNames_push push run.session.names).trans (congrArg (Known.push · push) h.known)
  asked := h.asked
  initialized := h.initialized
  current := h.current
  waits := h.waits

theorem act (h : run.Follows chronicle) (hnumbered : run.Numbered)
    (hloading : run.session.loading = true → run.session.initialized = true) (action : Action) :
    (run.act action).Follows (chronicle.act action) := by
  cases action with
  | load condition => exact h.load hnumbered hloading condition
  | answer question reply => exact h.answer hnumbered question reply
  | push push => exact h.push push
  | look => exact h

end Run.Follows

/-! ## Whole runs -/

theorem follows_after (events : List Event) (h : resets events < 2 ^ 64) :
    (after events).Follows (chronicle events) := by
  induction events using events_induction with
  | initial => exact Run.Follows.initial
  | reset events ih =>
    have hsound := sound_after (events ++ [.reset]) h
    rw [resets_append_reset] at h
    rw [after_append_reset] at hsound ⊢
    rw [chronicle_append_singleton]
    apply (ih (Nat.lt_of_succ_lt h)).reset
    intro load hload heq
    have hloading := hsound.loading.2 (List.mem_map.2 ⟨load, hload, heq.symm⟩)
    cases hloading
  | act events action ih =>
    rw [resets_append_act] at h
    rw [Run.after_append_singleton, chronicle_append_singleton]
    exact (ih h).act (Run.numbered_after events) (sound_after events h).initialized action

/-- The names of a session are those of the chronicle of its events, and a lookup gives what the
chronicle has.  The answer that the chronicle takes is the one to the load of the present generation
that waits, if there is one. -/
theorem names_eq_chronicle (events : List Event) (h : resets events < 2 ^ 64) :
    Known.ofNames (after events).session.names = (chronicle events).known ∧
      (∀ lookup, (after events).told (.act (.look lookup)) =
        .found ((chronicle events).known.find lookup)) ∧
      ∀ question, (chronicle events).phase = .out question ↔
        ∃ load ∈ (after events).waiting, load.question = question ∧
          load.generation = (after events).session.generation := by
  have hfollows := follows_after events h
  refine ⟨hfollows.known, ?_, ?_⟩
  · intro lookup
    rw [Run.told, Known.find_ofNames, hfollows.known]
  · intro question
    constructor
    · intro hout
      obtain ⟨load, hload, rfl⟩ := hfollows.waits question hout
      exact ⟨load, hload, rfl, ((hfollows.current load hload).2 hout).symm⟩
    · rintro ⟨load, hload, rfl, hgeneration⟩
      exact (hfollows.current load hload).1 hgeneration.symm

/-- What was pushed before and while names were on their way is gone when they arrive, and what is
pushed afterwards stays. -/
theorem names_eq_chronicle_pushes :
    let condition := Condition.ofNode (.group .and [])
    let names := Names.empty.addField "h" "Name"
    let events := [Event.act (.push (.field "f" "Before")), .act (.load condition),
      .act (.push (.field "g" "Meanwhile")), .act (.answer 0 (.ok names)),
      .act (.push (.fields [("h", "First"), ("h", "Second")]))]
    resets events < 2 ^ 64 ∧
      Known.ofNames (after events).session.names = (chronicle events).known ∧
      (after events).told (.act (.look (.field "f"))) = .found (.name "f") ∧
      (after events).told (.act (.look (.field "g"))) = .found (.name "g") ∧
      (after events).told (.act (.look (.field "h"))) = .found (.name "Second") := by
  intro condition names events
  have hresets : resets events < 2 ^ 64 := by decide
  obtain ⟨hknown, htold, -⟩ := names_eq_chronicle events hresets
  exact ⟨hresets, hknown, (htold (.field "f")).trans rfl, (htold (.field "g")).trans rfl,
    (htold (.field "h")).trans rfl⟩

end CardFilter
