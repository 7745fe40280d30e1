import CardFilter.Proofs.Session.Invariant

/-!
# The answer to a question

A load that is sent out asks one question, and waits until that question is answered.  As long as no
reset comes between, the answer ends the load, whatever it says: as loaded when names came back, and
else as failed.  The session is loading until some answer is taken; from then on, so at the latest
from the answer to the question on, every load with a root is told that the names are there.

None of this needs a bound on resets: a period keeps its generation, and a load is answered in it
by its own number.
-/

namespace CardFilter

open Run (after Effect)

/-! ## Questions that are asked -/

theorem Run.load_of_none {run : Run} {condition : Condition}
    (h : (run.load condition).1 = none) : run.load condition = (none, run.fetching condition) := by
  rw [Run.load_eq] at h ⊢
  split_ifs at h ⊢
  rfl

/-- Whether an action sends out a load, and that nothing else touches questions, generations or
the flag that one was sent. -/
theorem Run.Effect.new_cases {run next : Run} {action : Action} {new : List Waiting}
    {gone : List Ending} (heffect : Effect run action next new gone) :
    next.session.generation = run.session.generation ∧
      (new = [] ∧ next.asked = run.asked ∧
          next.session.initialized = run.session.initialized ∨
        new = [⟨run.asked.length, run.session.generation⟩] ∧
          next.asked.length = run.asked.length + 1) := by
  cases heffect with
  | idle | push => exact ⟨rfl, .inl ⟨rfl, rfl, rfl⟩⟩
  | fetch => exact ⟨rfl, .inr ⟨rfl, List.length_append⟩⟩
  | @finish before behind load reply hwaiting =>
    obtain ⟨hsame, hkept⟩ := run.session_finishing load reply (before ++ behind)
    exact ⟨hsame, .inl ⟨rfl, rfl, hkept⟩⟩

/-- Questions are numbered from zero on, without a gap. -/
theorem questions_fetches (events : List Event) :
    (fetches events).map Waiting.question = List.range (after events).asked.length := by
  induction events using events_induction with
  | initial => rfl
  | reset events ih =>
    rw [fetches_append_reset, after_append_reset]
    exact ih
  | act events action ih =>
    rw [fetches_append_singleton, List.map_append, ih]
    obtain ⟨-, ⟨hnew, hasked, -⟩ | ⟨hnew, hasked⟩⟩ := (Run.effect_after events action).new_cases
    · rw [hnew, hasked]
      exact List.append_nil _
    · rw [hnew, hasked, List.range_succ]
      rfl

theorem Run.Effect.length_asked_le {run next : Run} {action : Action} {new : List Waiting}
    {gone : List Ending} (heffect : Effect run action next new gone) :
    run.asked.length ≤ next.asked.length := by
  obtain ⟨-, ⟨-, hasked, -⟩ | ⟨-, hasked⟩⟩ := heffect.new_cases
  · exact Nat.le_of_eq (congrArg List.length hasked.symm)
  · rw [hasked]
    exact Nat.le_succ _

/-- What a period keeps: its generation, and the questions that were asked. -/
theorem period_after (start : List Event) (later : List Action) :
    (after (start ++ later.map .act)).session.generation = (after start).session.generation ∧
      (after start).asked.length ≤ (after (start ++ later.map .act)).asked.length := by
  induction later using List.reverseRecOn with
  | nil =>
    rw [List.map_nil, List.append_nil]
    exact ⟨rfl, Nat.le_refl _⟩
  | append_singleton later action ih =>
    have heffect := Run.effect_after (start ++ later.map .act) action
    rw [List.map_append, ← List.append_assoc]
    exact ⟨heffect.new_cases.1.trans ih.1, Nat.le_trans ih.2 heffect.length_asked_le⟩

/-! ## Loads that wait -/

theorem Run.Effect.mem_waiting {run next : Run} {action : Action} {new : List Waiting}
    {gone : List Ending} (heffect : Effect run action next new gone) {load : Waiting}
    (h : load ∈ run.waiting) (haction : ∀ reply, action ≠ .answer load.question reply) :
    load ∈ next.waiting := by
  cases heffect with
  | idle | push => exact h
  | fetch => exact List.mem_append_left _ h
  | @finish before behind other reply hwaiting =>
    have hne : load ≠ other := by
      rintro rfl
      exact haction reply rfl
    exact mem_others_of_ne hwaiting h hne

/-- A load waits until it is answered. -/
theorem mem_waiting_of_unanswered {before later : List Event} {load : Waiting}
    (h : load ∈ (after before).waiting)
    (hlater : ∀ reply, Event.act (.answer load.question reply) ∉ later) :
    load ∈ (after (before ++ later)).waiting := by
  induction later using events_induction with
  | initial =>
    rw [List.append_nil]
    exact h
  | reset later ih =>
    rw [← List.append_assoc, after_append_reset]
    exact ih fun reply hmem ↦ hlater reply (List.mem_append_left _ hmem)
  | act later action ih =>
    rw [← List.append_assoc]
    have hbefore := ih fun reply hmem ↦ hlater reply (List.mem_append_left _ hmem)
    apply (Run.effect_after (before ++ later) action).mem_waiting hbefore
    rintro reply rfl
    exact hlater reply (List.mem_append_right _ List.mem_cons_self)

/-- After an answer to a question nobody waits for it. -/
theorem Run.Numbered.question_ne {run : Run} (h : run.Numbered) (question : Nat)
    (reply : Except FetchError Names) :
    ∀ load ∈ (run.act (.answer question reply)).waiting, load.question ≠ question := by
  by_cases hwaits : ∃ load ∈ run.waiting, load.question = question
  · obtain ⟨load, hload, rfl⟩ := hwaits
    obtain ⟨before, behind, hwaiting⟩ := List.append_of_mem hload
    rw [act, answer_eq h hwaiting]
    exact h.ne hwaiting
  · have hnone : ∀ load ∈ run.waiting, load.question ≠ question :=
      fun load hload heq ↦ hwaits ⟨load, hload, heq⟩
    rw [act, answer_of_not_waiting hnone reply]
    exact hnone

/-- A question that was asked is not asked again. -/
theorem Run.Effect.question_ne {run next : Run} {action : Action} {new : List Waiting}
    {gone : List Ending} (heffect : Effect run action next new gone) {question : Nat}
    (hasked : question < run.asked.length)
    (h : ∀ load ∈ run.waiting, load.question ≠ question) :
    ∀ load ∈ next.waiting, load.question ≠ question := by
  intro load hload
  rcases List.mem_append.1 (heffect.perm.subset (List.mem_append_right _ hload)) with hload | hload
  · exact h load hload
  · obtain ⟨-, ⟨rfl, -, -⟩ | ⟨rfl, -⟩⟩ := heffect.new_cases
    · cases hload
    · obtain rfl := List.mem_singleton.1 hload
      exact Nat.ne_of_gt hasked

theorem question_ne_of_answered {start : List Event} {question : Nat}
    (hasked : question < (after start).asked.length) {later : List Action}
    {reply : Except FetchError Names} (h : .answer question reply ∈ later) :
    ∀ load ∈ (after (start ++ later.map .act)).waiting, load.question ≠ question := by
  induction later using List.reverseRecOn with
  | nil => cases h
  | append_singleton later action ih =>
    rw [List.map_append, ← List.append_assoc, List.map_singleton]
    rcases List.mem_append.1 h with h | h
    · have hstill := Nat.lt_of_lt_of_le hasked (period_after start later).2
      exact (Run.effect_after (start ++ later.map .act) action).question_ne hstill (ih h)
    · obtain rfl := List.mem_singleton.1 h
      rw [Run.after_append_singleton]
      exact (Run.numbered_after _).question_ne question reply

/-! ## The answer of the period -/

/-- The endings in a period that goes on with these actions. -/
def endingsIn (run : Run) (actions : List Action) : List Ending :=
  run.collect Run.ended (actions.map .act)

theorem endingsIn_append_singleton (events : List Event) (later : List Action) (action : Action) :
    endingsIn (after events) (later ++ [action]) =
      endingsIn (after events) later ++ (after (events ++ later.map .act)).ended (.act action) := by
  rw [endingsIn, endingsIn, List.map_append, Run.collect_append, ← Run.after_append]
  exact congrArg _ (List.append_nil _)

/-- While a question is out, an action either takes an answer, and then it is no longer out, or the
flags stay as they are. -/
theorem Run.Effect.loading_iff {run next : Run} {action : Action} {new : List Waiting}
    {gone : List Ending} (heffect : Effect run action next new gone)
    (h : run.session.initialized = true) :
    next.session.initialized = true ∧
      (next.session.loading = true ↔
        run.session.loading = true ∧ ∀ ending ∈ gone, ending.isAccepted = false) := by
  cases heffect with
  | idle => exact ⟨h, by simp⟩
  | push push => exact ⟨h, by simp [Run.push, Session.push]⟩
  | fetch _ _ hinitialized =>
    rw [h] at hinitialized
    cases hinitialized
  | @finish before behind load reply hwaiting =>
    have hkept := (run.session_finishing load reply (before ++ behind)).2
    refine ⟨hkept.trans h, ?_⟩
    by_cases hown : run.session.generation = load.generation
    · rw [loading_finishing_own hown]
      apply iff_of_false Bool.false_ne_true
      rintro ⟨-, hgone⟩
      have haccepted := hgone _ List.mem_cons_self
      rcases Session.accepted_of_own hown reply with hloaded | hfailed
      · rw [Ending.isAccepted, hloaded] at haccepted
        cases haccepted
      · rw [Ending.isAccepted, hfailed] at haccepted
        cases haccepted
    · rw [session_finishing_of_ne hown, Session.finish_of_ne hown]
      simp [Ending.isAccepted]

/-- A period that has asked goes on having asked, and does not begin to load again. -/
theorem loading_after {start : List Event} (h : (after start).session.initialized = true)
    (later : List Action) :
    (after (start ++ later.map .act)).session.initialized = true ∧
      ((after (start ++ later.map .act)).session.loading = true ↔
        (after start).session.loading = true ∧
          ∀ ending ∈ endingsIn (after start) later, ending.isAccepted = false) := by
  induction later using List.reverseRecOn with
  | nil =>
    rw [List.map_nil, List.append_nil]
    exact ⟨h, (and_iff_left fun _ hending ↦ nomatch hending).symm⟩
  | append_singleton later action ih =>
    have heffect := Run.effect_after (start ++ later.map .act) action
    obtain ⟨hinitialized, hloading⟩ := heffect.loading_iff ih.1
    rw [List.map_append, ← List.append_assoc]
    refine ⟨hinitialized, ?_⟩
    rw [List.map_singleton, hloading, ih.2, endingsIn_append_singleton, and_assoc]
    simp only [List.forall_mem_append]

/-- A session that has loaded tells every load with a root, and is not changed by it. -/
theorem Run.load_of_loaded {run : Run} (hinitialized : run.session.initialized = true)
    (hloading : run.session.loading = false) {condition : Condition}
    (h : condition.root.isSome = true) :
    run.load condition = (some .alreadyInitialized, run) := by
  rw [Run.load_eq, Option.isNone_eq_false_iff.2 h, hloading, hinitialized]
  rfl

/-- How a load ends whose answer is taken. -/
def LoadOutcome.ofReply : Except FetchError Names → LoadOutcome
  | .ok _ => .loaded
  | .error _ => .failed

theorem Session.outcome_of_own {session : Session} {generation : UInt64}
    (h : session.generation = generation) (reply : Except FetchError Names) :
    (session.finish generation reply).1 = .ofReply reply := by
  cases reply <;> simp [Session.finish, LoadOutcome.ofReply, h]

section Period

variable {asking : List Event} {load : Waiting} {later : List Action}

/-- A load waits in its period until its question is answered. -/
theorem waits_iff_of_waiting (hwaits : load ∈ (after asking).waiting) (later : List Action) :
    load ∈ (after (asking ++ later.map .act)).waiting ↔
      ∀ reply, .answer load.question reply ∉ later := by
  constructor
  · intro hlater reply hmem
    have hasked := (Run.numbered_after asking).asked load hwaits
    exact question_ne_of_answered hasked hmem load hlater rfl
  · intro hlater
    apply mem_waiting_of_unanswered hwaits
    intro reply hmem
    obtain ⟨action, haction, heq⟩ := List.mem_map.1 hmem
    obtain rfl := Event.act.inj heq
    exact hlater reply haction

/-- In its period the load that waits is ended by any answer to its question. -/
theorem ended_of_waiting (hgeneration : (after asking).session.generation = load.generation)
    (hlater : load ∈ (after (asking ++ later.map .act)).waiting)
    (reply : Except FetchError Names) :
    (after (asking ++ later.map .act)).ended (.act (.answer load.question reply)) =
      [⟨load, .ofReply reply, load.generation⟩] := by
  have hown := (period_after asking later).1.trans hgeneration
  obtain ⟨before, behind, hwaiting⟩ := List.append_of_mem hlater
  rw [Run.ended_answer (Run.numbered_after _) hwaiting, Session.outcome_of_own hown, hown]

/-- The first answer to the question is taken. -/
theorem exists_accepted_of_answered (hwaits : load ∈ (after asking).waiting)
    (hgeneration : (after asking).session.generation = load.generation)
    {reply : Except FetchError Names} (h : .answer load.question reply ∈ later) :
    ∃ ending ∈ endingsIn (after asking) later, ending.isAccepted = true := by
  induction later using List.reverseRecOn generalizing reply with
  | nil => cases h
  | append_singleton later action ih =>
    rw [endingsIn_append_singleton]
    by_cases hbefore : ∃ other, .answer load.question other ∈ later
    · obtain ⟨other, hother⟩ := hbefore
      obtain ⟨ending, hending, haccepted⟩ := ih hother
      exact ⟨ending, List.mem_append_left _ hending, haccepted⟩
    · obtain rfl : .answer load.question reply = action := by
        rcases List.mem_append.1 h with h | h
        · exact absurd ⟨reply, h⟩ hbefore
        · exact List.mem_singleton.1 h
      have hlater := (waits_iff_of_waiting hwaits later).2 (not_exists.1 hbefore)
      rw [ended_of_waiting hgeneration hlater]
      exact ⟨_, List.mem_append_right _ List.mem_cons_self, by cases reply <;> rfl⟩

end Period

/-- What becomes of a load that was sent out by the last of the events, as its period goes on. -/
structure Aftermath (asking : List Event) (load : Waiting) (later : List Action) : Prop where
  /-- The session is loading until an answer is taken. -/
  loading_iff : (after (asking ++ later.map .act)).session.loading = true ↔
    ∀ ending ∈ endingsIn (after asking) later, ending.isAccepted = false
  /-- The load waits until its question is answered. -/
  waits_iff : load ∈ (after (asking ++ later.map .act)).waiting ↔
    ∀ reply, .answer load.question reply ∉ later
  /-- An answer to its question then ends the load and no other, and is taken. -/
  ended : load ∈ (after (asking ++ later.map .act)).waiting → ∀ reply,
    (after (asking ++ later.map .act)).ended (.act (.answer load.question reply)) =
      [⟨load, .ofReply reply, load.generation⟩]
  /-- From then on nothing is out, and nothing is asked any more. -/
  already : ∀ reply, .answer load.question reply ∈ later →
    (after (asking ++ later.map .act)).session.loading = false ∧
      ∀ condition : Condition, condition.root.isSome = true →
        (after (asking ++ later.map .act)).load condition =
          (some .alreadyInitialized, after (asking ++ later.map .act))

theorem aftermath_of_fetch {events : List Event} {condition : Condition}
    (h : ((after events).load condition).1 = none) (later : List Action) :
    Aftermath (events ++ [.act (.load condition)])
      ⟨(after events).asked.length, (after events).session.generation⟩ later := by
  have hfirst : after (events ++ [.act (.load condition)]) = (after events).fetching condition := by
    rw [Run.after_append_singleton]
    exact congrArg Prod.snd (Run.load_of_none h)
  generalize hload : Waiting.mk (after events).asked.length (after events).session.generation = load
  generalize events ++ [.act (.load condition)] = asking at hfirst
  have hwaits : load ∈ (after asking).waiting := by
    rw [hfirst, ← hload]
    exact List.mem_append_right _ List.mem_cons_self
  have hgeneration : (after asking).session.generation = load.generation := by
    rw [hfirst, ← hload]
    rfl
  have hinitialized : (after asking).session.initialized = true := by rw [hfirst]; rfl
  have hloading : (after asking).session.loading = true := by rw [hfirst]; rfl
  obtain ⟨hstill, hiff⟩ := loading_after hinitialized later
  refine ⟨hiff.trans (and_iff_right hloading), waits_iff_of_waiting hwaits later,
    ended_of_waiting hgeneration, fun reply hmem ↦ ?_⟩
  have hdone : (after (asking ++ later.map .act)).session.loading = false := by
    obtain ⟨ending, hending, haccepted⟩ := exists_accepted_of_answered hwaits hgeneration hmem
    rw [Bool.eq_false_iff]
    intro hout
    rw [(hiff.1 hout).2 ending hending] at haccepted
    cases haccepted
  exact ⟨hdone, fun _ ↦ Run.load_of_loaded hstill hdone⟩

end CardFilter
