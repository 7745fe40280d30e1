import CardFilter.Proofs.Session.SingleFlight

/-!
# Answers that come too late

A reset does not call back the loads that wait.  Their answers still arrive, at any time and in any
order, also while a load of a later period waits for its own.  Such an answer ends its load as
discarded and changes nothing else, whatever it says.

So nothing that is seen from a reset on depends on what is said to the loads that waited then.  This
is a statement about two runs: with the same events, but for the contents of such answers, the same
is told in return for every event, and the session goes through the same states.

All of it is limited to runs in which no generation was used twice.
-/

namespace CardFilter

open Run (after Effect)

/-! ## Old questions -/

/-- A load whose question was asked by some event before was sent out before. -/
theorem mem_fetches_of_asked {events later : List Event} {load : Waiting}
    (h : load ∈ fetches (events ++ later))
    (hasked : load.question < (after events).asked.length) : load ∈ fetches events := by
  have hsplit : fetches (events ++ later) =
      fetches events ++ (after events).collect Run.fetched later :=
    Run.collect_append Run.fetched Run.initial events later
  rw [hsplit] at h
  rcases List.mem_append.1 h with hbefore | hlater
  · exact hbefore
  · have hquestions := questions_fetches (events ++ later)
    rw [hsplit, List.map_append, questions_fetches events] at hquestions
    have hnodup := List.nodup_range (n := (after (events ++ later)).asked.length)
    rw [← hquestions] at hnodup
    have hdisjoint := List.disjoint_of_nodup_append hnodup
    exact absurd (List.mem_map_of_mem hlater) (hdisjoint (List.mem_range.2 hasked))

/-- A load that was sent out before a reset is not of the present generation. -/
theorem generation_ne_of_late {before later : List Event} {load : Waiting}
    (h : resets (before ++ .reset :: later) < 2 ^ 64)
    (hload : load ∈ (after (before ++ .reset :: later)).waiting)
    (hasked : load.question < (after before).asked.length) :
    (after (before ++ .reset :: later)).session.generation ≠ load.generation := by
  have hresets : resets (before ++ .reset :: later) = resets before + (resets later + 1) := by
    rw [resets, List.countP_append, List.countP_cons_of_pos rfl]
    rfl
  have hsent := mem_fetches_of_asked (mem_fetches_of_waiting hload) hasked
  have hreached := (sound_after before (by omega)).reached load hsent
  have hpresent := (sound_after _ h).generation
  intro heq
  rw [← heq, hpresent] at hreached
  omega

/-! ## What a late answer does -/

namespace Run

/-- What becomes of the loads that wait for a question whose answer is dropped. -/
def dropping (run : Run) (question : Nat) : Option (List (Option LoadOutcome)) × Run :=
  if run.waiting.any (·.question == question) then
    (some (run.waiting.map fun load ↦ if load.question = question then some .discarded else none),
      { run with waiting := run.waiting.filter (·.question ≠ question) })
  else (none, run)

theorem settle_of_late {question : Nat} {session : Session} {loads : List Waiting}
    (h : ∀ load ∈ loads, load.question = question → session.generation ≠ load.generation)
    (reply : Except FetchError Names) :
    settle question reply loads session =
      (loads.map fun load ↦ if load.question = question then some .discarded else none,
        loads.filter (·.question ≠ question), session) := by
  induction loads with
  | nil => rfl
  | cons load rest ih =>
    obtain ⟨hload, hrest⟩ := List.forall_mem_cons.1 h
    by_cases hquestion : load.question = question
    · rw [settle, if_pos hquestion, Session.finish_of_ne (hload hquestion)]
      simp only [ih hrest, hquestion, List.map_cons, if_true, List.filter_cons, ne_eq,
        not_true_eq_false, decide_false, Bool.false_eq_true, if_false]
    · rw [settle, if_neg hquestion]
      simp only [ih hrest, hquestion, List.map_cons, if_false, List.filter_cons, ne_eq,
        not_false_eq_true, decide_true, if_true]

/-- A late answer is dropped, and what it says makes no difference. -/
theorem answer_of_late {run : Run} {question : Nat}
    (h : ∀ load ∈ run.waiting, load.question = question →
      run.session.generation ≠ load.generation)
    (reply : Except FetchError Names) : run.answer question reply = run.dropping question := by
  rw [answer, dropping, settle_of_late h reply]

end Run

/-! ## Two runs -/

/-- What is seen of an event: what is told in return, and the session afterwards. -/
structure Observation where
  told : Told
  session : Session

def Run.observe (run : Run) (event : Event) : List Observation :=
  [⟨run.told event, (run.step event).session⟩]

/-- The same event, up to what is said in answer to one of the first questions. -/
inductive Event.SameButLate (asked : Nat) : Event → Event → Prop
  | same (event : Event) : SameButLate asked event event
  | late {question : Nat} (reply other : Except FetchError Names) : question < asked →
    SameButLate asked (.act (.answer question reply)) (.act (.answer question other))

/-- Two such events are told the same and lead to the same run. -/
theorem Event.SameButLate.step_eq {asked : Nat} {event other : Event}
    (h : event.SameButLate asked other) {run : Run}
    (hlate : ∀ load ∈ run.waiting, load.question < asked →
      run.session.generation ≠ load.generation) :
    run.told event = run.told other ∧ run.step event = run.step other := by
  cases h with
  | same => exact ⟨rfl, rfl⟩
  | @late question reply other hquestion =>
    have hanswer : run.answer question reply = run.answer question other := by
      have hwaiting : ∀ load ∈ run.waiting, load.question = question →
          run.session.generation ≠ load.generation :=
        fun load hload heq ↦ hlate load hload (heq ▸ hquestion)
      rw [Run.answer_of_late hwaiting reply, Run.answer_of_late hwaiting other]
    constructor
    · rw [Run.told, Run.told, hanswer]
    · rw [Run.step, Run.step, Run.act, Run.act, hanswer]

/-- From a reset on, two lists of such events are seen alike and lead to the same run. -/
theorem observe_eq_of_late {before later others : List Event}
    (h : List.Forall₂ (Event.SameButLate (after before).asked.length) later others)
    (middle : List Event) (hresets : resets (before ++ .reset :: middle ++ later) < 2 ^ 64) :
    (after (before ++ .reset :: middle)).collect Run.observe later =
        (after (before ++ .reset :: middle)).collect Run.observe others ∧
      later.foldl Run.step (after (before ++ .reset :: middle)) =
        others.foldl Run.step (after (before ++ .reset :: middle)) := by
  induction h generalizing middle with
  | nil => exact ⟨rfl, rfl⟩
  | @cons event other later others hevent _ ih =>
    have hfew : resets (before ++ .reset :: middle) < 2 ^ 64 := by
      rw [resets, List.countP_append] at hresets
      exact Nat.lt_of_le_of_lt (Nat.le_add_right _ _) hresets
    obtain ⟨htold, hstep⟩ := hevent.step_eq fun load hload ↦ generation_ne_of_late hfew hload
    have hmove : before ++ .reset :: middle ++ event :: later =
        before ++ .reset :: (middle ++ [event]) ++ later := by
      simp
    have hnext : after (before ++ .reset :: (middle ++ [event])) =
        (after (before ++ .reset :: middle)).step event := by
      rw [← List.cons_append, ← List.append_assoc, Run.after_append_singleton]
    rw [hmove] at hresets
    have hrest := ih (middle ++ [event]) hresets
    rw [hnext] at hrest
    constructor
    · rw [Run.collect, Run.collect, hrest.1, Run.observe, Run.observe, htold, hstep]
    · rw [List.foldl_cons, List.foldl_cons, hrest.2, hstep]

/-- The answer to a load that waited at a reset, whenever it comes and whatever it says, ends the
load as discarded and leaves the session as it was.  Runs that differ in such answers only are seen
alike from the reset on. -/
theorem late_answers_discarded (before : List Event) :
    (∀ (later : List Event) (load : Waiting) (reply : Except FetchError Names),
      resets (before ++ .reset :: later) < 2 ^ 64 → load ∈ (after before).waiting →
      (∀ other, Event.act (.answer load.question other) ∉ later) →
        (after (before ++ .reset :: later)).ended (.act (.answer load.question reply)) =
            [⟨load, .discarded, (after (before ++ .reset :: later)).session.generation⟩] ∧
          (after (before ++ .reset :: later ++ [.act (.answer load.question reply)])).session =
            (after (before ++ .reset :: later)).session) ∧
      ∀ later others : List Event, resets (before ++ .reset :: later) < 2 ^ 64 →
        List.Forall₂ (Event.SameButLate (after before).asked.length) later others →
          (after (before ++ [.reset])).collect Run.observe later =
              (after (before ++ [.reset])).collect Run.observe others ∧
            after (before ++ .reset :: later) = after (before ++ .reset :: others) := by
  constructor
  · intro later load reply hresets hload hlater
    have hasked := (Run.numbered_after before).asked load hload
    have hwaits : load ∈ (after (before ++ .reset :: later)).waiting := by
      apply mem_waiting_of_unanswered hload
      intro other hmem
      rcases List.mem_cons.1 hmem with hreset | hmem
      · cases hreset
      · exact hlater other hmem
    have hnumbered := Run.numbered_after (before ++ .reset :: later)
    have hold := generation_ne_of_late hresets hwaits hasked
    obtain ⟨front, behind, hwaiting⟩ := List.append_of_mem hwaits
    constructor
    · rw [Run.ended_answer hnumbered hwaiting, Session.finish_of_ne hold]
    · rw [Run.after_append_singleton, Run.step, Run.act, Run.answer_eq hnumbered hwaiting,
        Run.session_finishing_of_ne hold]
  · intro later others hresets hsame
    rw [List.append_cons before .reset later] at hresets ⊢
    rw [List.append_cons before .reset others]
    obtain ⟨hobserved, hruns⟩ := observe_eq_of_late hsame [] hresets
    refine ⟨hobserved, ?_⟩
    calc
      after (before ++ [.reset] ++ later) =
          later.foldl Run.step (after (before ++ [.reset])) := Run.after_append _ later
      _ = others.foldl Run.step (after (before ++ [.reset])) := hruns
      _ = after (before ++ [.reset] ++ others) := (Run.after_append _ others).symm

/-- A load waits across a reset and is answered after the one that came later, once with names and
once with an error. -/
theorem late_answers_discarded_crossing :
    let condition := Condition.ofNode (.group .and [])
    let before := [Event.act (.load condition)]
    let later := [Event.act (.load condition), .act (.push (.field "f" "Owner")),
      .act (.answer 1 (.ok .empty))]
    let answered := fun reply ↦ later ++ [Event.act (.answer 0 reply), .act (.look (.field "f"))]
    let names := Names.empty.addField "f" "Stale"
    resets (before ++ .reset :: later) < 2 ^ 64 ∧ ⟨0, 0⟩ ∈ (after before).waiting ∧
      (∀ other, Event.act (.answer 0 other) ∉ later) ∧
      (after (before ++ .reset :: later)).ended (.act (.answer 0 (.ok names))) =
        [⟨⟨0, 0⟩, .discarded, 1⟩] ∧
      resets (before ++ .reset :: answered (.ok names)) < 2 ^ 64 ∧
      List.Forall₂ (Event.SameButLate (after before).asked.length) (answered (.ok names))
        (answered (.error (.other "gone"))) ∧
      after (before ++ .reset :: answered (.ok names)) =
        after (before ++ .reset :: answered (.error (.other "gone"))) := by
  intro condition before later answered names
  obtain ⟨hdiscarded, halike⟩ := late_answers_discarded before
  have hresets : resets (before ++ .reset :: later) < 2 ^ 64 := by decide
  have hwaits : ⟨0, 0⟩ ∈ (after before).waiting := List.mem_cons_self
  have hlater : ∀ other, Event.act (.answer 0 other) ∉ later := by
    intro other hmem
    simp [later] at hmem
  have hanswered : resets (before ++ .reset :: answered (.ok names)) < 2 ^ 64 := by decide
  have hsame : List.Forall₂ (Event.SameButLate (after before).asked.length)
      (answered (.ok names)) (answered (.error (.other "gone"))) :=
    .cons (.same _) (.cons (.same _) (.cons (.same _) (.cons (.late _ _ Nat.one_pos)
      (.cons (.same _) .nil))))
  exact ⟨hresets, hwaits, hlater, (hdiscarded later ⟨0, 0⟩ (.ok names) hresets hwaits hlater).1,
    hanswered, hsame, (halike _ _ hanswered hsame).2⟩

end CardFilter
