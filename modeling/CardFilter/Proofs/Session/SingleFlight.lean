import CardFilter.Proofs.Session.Questions

/-!
# One question in a period

Resets cut a run into periods.  In a period names are asked for at most once: by the first load
whose condition has a root, and for that condition.  Every other load ends at once and changes
nothing.  This holds of runs of any length.

While the answer is out such a load is told that another one is in flight, and afterwards that the
names are there already.  The answer is the first one that is taken after the question, again in runs
of any length; and as long as no generation was used twice, it is the answer to that very question.
-/

namespace CardFilter

open Run (after Effect)

/-! ## Periods -/

/-- The conditions that could be asked about: those of loads with a root. -/
def rooted (actions : List Action) : List Condition :=
  actions.filterMap fun
    | .load condition => if condition.root.isSome then some condition else none
    | _ => none

/-- The periods that resets have ended, and the present one. -/
structure Periods where
  past : List (List Action)
  present : List Action

namespace Periods

def step (periods : Periods) : Event → Periods
  | .act action => { periods with present := periods.present ++ [action] }
  | .reset => ⟨periods.past ++ [periods.present], []⟩

def all (periods : Periods) : List (List Action) := periods.past ++ [periods.present]

end Periods

def periods (events : List Event) : Periods := events.foldl Periods.step ⟨[], []⟩

theorem periods_append_singleton (events : List Event) (event : Event) :
    periods (events ++ [event]) = (periods events).step event := by
  rw [periods, List.foldl_append]
  rfl

/-- Nothing is lost by cutting a run into periods. -/
theorem events_eq_periods (events : List Event) :
    events = (periods events).past.flatMap (fun period ↦ period.map .act ++ [.reset]) ++
      (periods events).present.map .act := by
  induction events using events_induction with
  | initial => rfl
  | reset events ih =>
    rw [periods_append_singleton, Periods.step, List.flatMap_append, List.flatMap_singleton,
      List.map_nil, List.append_nil, ← List.append_assoc, ← ih]
  | act events action ih =>
    rw [periods_append_singleton, Periods.step, List.map_append, ← List.append_assoc, ← ih]
    rfl

theorem length_periods (events : List Event) :
    (periods events).all.length = resets events + 1 := by
  induction events using events_induction with
  | initial => rfl
  | reset events ih =>
    rw [periods_append_singleton, resets_append_reset, ← ih, Periods.all, List.length_append]
    rfl
  | act events action ih =>
    rw [periods_append_singleton, resets_append_act, ← ih, Periods.all, Periods.all,
      List.length_append, List.length_append]
    rfl

/-! ## Questions of a run -/

theorem rooted_append_singleton (actions : List Action) (action : Action) :
    rooted (actions ++ [action]) = rooted actions ++ rooted [action] := by
  rw [rooted, List.filterMap_append]
  rfl

/-- What every event keeps: the questions that were asked are the first ones of the periods, and the
present period has asked exactly when the session is initialized. -/
structure Run.Flight (run : Run) (periods : Periods) : Prop where
  asked : run.asked = periods.all.flatMap fun period ↦ (rooted period).take 1
  initialized : run.session.initialized = true ↔ rooted periods.present ≠ []
  loading : run.session.loading = true → run.session.initialized = true

namespace Run.Flight

variable {run next : Run} {periods : Periods}

theorem asked_eq (h : run.Flight periods) :
    run.asked = (periods.past.flatMap fun period ↦ (rooted period).take 1) ++
      (rooted periods.present).take 1 := by
  rw [h.asked, Periods.all, List.flatMap_append, List.flatMap_singleton]

/-- An action that asks nothing keeps the invariant as long as it keeps the flags. -/
theorem keep (h : run.Flight periods) {action : Action}
    (hrooted : rooted [action] = [] ∨ run.session.initialized = true)
    (hasked : next.asked = run.asked)
    (hinitialized : next.session.initialized = run.session.initialized)
    (hloading : next.session.loading = true → run.session.loading = true) :
    next.Flight (periods.step (.act action)) := by
  have hpresent : (rooted (periods.step (.act action)).present).take 1 =
      (rooted periods.present).take 1 ∧
      (rooted (periods.step (.act action)).present ≠ [] ↔ rooted periods.present ≠ []) := by
    rw [Periods.step, rooted_append_singleton]
    rcases hrooted with hnone | hdone
    · rw [hnone, List.append_nil]
      exact ⟨rfl, Iff.rfl⟩
    · have hne := h.initialized.1 hdone
      obtain ⟨first, rest, hfirst⟩ := List.exists_cons_of_ne_nil hne
      rw [hfirst]
      exact ⟨rfl, by simp⟩
  constructor
  · rw [hasked, h.asked_eq, Periods.all, List.flatMap_append, List.flatMap_singleton, hpresent.1]
    rfl
  · rw [hinitialized, hpresent.2]
    exact h.initialized
  · intro hnext
    rw [hinitialized]
    exact h.loading (hloading hnext)

theorem act (h : run.Flight periods) {action : Action} {new : List Waiting} {gone : List Ending}
    (heffect : Effect run action next new gone) : next.Flight (periods.step (.act action)) := by
  cases heffect with
  | idle hidle =>
    have hrooted : rooted [action] = [] ∨ run.session.initialized = true := by
      cases action with
      | load condition =>
        cases hroot : condition.root with
        | none => exact .inl (by simp [rooted, hroot])
        | some node =>
          rcases hidle condition rfl (by rw [hroot]; rfl) with hloading | hinitialized
          · exact .inr (h.loading hloading)
          · exact .inr hinitialized
      | answer | push | look => exact .inl rfl
    exact h.keep hrooted rfl rfl id
  | push push => exact h.keep (.inl rfl) rfl rfl id
  | @finish before behind load reply hwaiting =>
    have hkept := (run.session_finishing load reply (before ++ behind)).2
    refine h.keep (.inl rfl) rfl hkept ?_
    intro hloading
    by_cases hown : run.session.generation = load.generation
    · rw [loading_finishing_own hown] at hloading
      cases hloading
    · rw [session_finishing_of_ne hown] at hloading
      exact hloading
  | @fetch condition hroot hloading hinitialized =>
    have hnone : rooted periods.present = [] := by
      by_contra hne
      rw [h.initialized.2 hne] at hinitialized
      cases hinitialized
    have hpresent : rooted (periods.step (.act (.load condition))).present = [condition] := by
      rw [Periods.step, rooted_append_singleton, hnone]
      simp [rooted, hroot]
    constructor
    · rw [Periods.all, List.flatMap_append, List.flatMap_singleton, hpresent, fetching,
        h.asked_eq, hnone]
      simp [Periods.step]
    · rw [hpresent]
      exact iff_of_true rfl (List.cons_ne_nil _ _)
    · exact fun _ ↦ rfl

theorem reset (h : run.Flight periods) : run.reset.Flight (periods.step .reset) := by
  constructor
  · rw [Periods.step, Periods.all, List.flatMap_append]
    exact h.asked.trans (List.append_nil _).symm
  · exact iff_of_false Bool.false_ne_true (not_not_intro rfl)
  · intro hloading
    cases hloading

end Run.Flight

theorem flight_after (events : List Event) : (after events).Flight (periods events) := by
  induction events using events_induction with
  | initial => exact ⟨rfl, by decide, fun hloading ↦ nomatch hloading⟩
  | reset events ih =>
    rw [periods_append_singleton, after_append_reset]
    exact ih.reset
  | act events action ih =>
    rw [periods_append_singleton]
    exact ih.act (Run.effect_after events action)

theorem length_firsts_le (actions : List (List Action)) :
    (actions.flatMap fun period ↦ (rooted period).take 1).length ≤ actions.length := by
  induction actions with
  | nil => exact Nat.le_refl _
  | cons period rest ih =>
    have hfirst := List.length_take_le 1 (rooted period)
    rw [List.flatMap_cons, List.length_append, List.length_cons]
    omega

theorem length_asked_le (events : List Event) : (after events).asked.length ≤ resets events + 1 := by
  rw [(flight_after events).asked, ← length_periods]
  exact length_firsts_le _

/-- What one more load does: nothing without a root, a question when it is the first one in the
period, and else nothing again. -/
theorem load_after (events : List Event) (condition : Condition) :
    (after events).load condition =
      if condition.root.isNone then (some .noRoot, after events)
      else if rooted (periods events).present = [] then (none, (after events).fetching condition)
      else (some (if (after events).session.loading then .inFlight else .alreadyInitialized),
        after events) := by
  have hflight := flight_after events
  rw [Run.load_eq]
  cases condition.root.isNone with
  | true => rfl
  | false =>
    simp only [Bool.false_eq_true, if_false]
    by_cases hnone : rooted (periods events).present = []
    · have hinitialized : (after events).session.initialized = false :=
        Bool.eq_false_iff.2 fun h ↦ hflight.initialized.1 h hnone
      have hloading : (after events).session.loading = false := by
        apply Bool.eq_false_iff.2
        intro h
        rw [hflight.loading h] at hinitialized
        cases hinitialized
      rw [hinitialized, hloading, if_pos hnone]
      rfl
    · have hinitialized := hflight.initialized.2 hnone
      rw [hinitialized, if_neg hnone]
      cases (after events).session.loading <;> rfl

/-! ## The question of the present period -/

/-- In a period that has asked, the last question is its own. -/
theorem fetched_of_initialized {events : List Event}
    (h : (after events).session.initialized = true) :
    ∃ load ∈ fetches events, load.generation = (after events).session.generation ∧
      load.question + 1 = (after events).asked.length := by
  induction events using events_induction with
  | initial => cases h
  | reset events ih =>
    rw [after_append_reset] at h
    cases h
  | act events action ih =>
    rw [fetches_append_singleton]
    obtain ⟨hsame, ⟨hnew, hasked, hkept⟩ | ⟨hnew, hasked⟩⟩ :=
      (Run.effect_after events action).new_cases
    · rw [hkept] at h
      obtain ⟨load, hload, hgeneration, hquestion⟩ := ih h
      rw [hsame, hasked]
      exact ⟨load, List.mem_append_left _ hload, hgeneration, hquestion⟩
    · rw [hnew, hsame, hasked]
      exact ⟨_, List.mem_append_right _ List.mem_cons_self, rfl, rfl⟩

/-- The load that asked the last question waits, and it is of the present generation. -/
def Run.LastWaits (run : Run) : Prop :=
  ∃ load ∈ run.waiting, load.generation = run.session.generation ∧
    load.question + 1 = run.asked.length

theorem Run.Effect.lastWaits {run next : Run} {action : Action} {new : List Waiting}
    {gone : List Ending} (heffect : Effect run action next new gone)
    (h : run.session.loading = true → run.LastWaits) (hloading : next.session.loading = true) :
    next.LastWaits := by
  cases heffect with
  | idle => exact h hloading
  | push => exact h hloading
  | @fetch condition =>
    have hlength : (run.fetching condition).asked.length = run.asked.length + 1 :=
      List.length_append
    exact ⟨_, List.mem_append_right _ List.mem_cons_self, rfl, hlength.symm⟩
  | @finish before behind load reply hwaiting =>
    by_cases hown : run.session.generation = load.generation
    · rw [loading_finishing_own hown] at hloading
      cases hloading
    · have hsession := session_finishing_of_ne hown reply (before ++ behind)
      rw [hsession] at hloading
      obtain ⟨last, hlast, hgeneration, hquestion⟩ := h hloading
      have hne : last ≠ load := by
        rintro rfl
        exact hown hgeneration.symm
      refine ⟨last, ?_, ?_, hquestion⟩
      · rw [hwaiting] at hlast
        simpa [finishing, hne] using hlast
      · rw [hsession]
        exact hgeneration

theorem lastWaits_of_loading {events : List Event}
    (h : (after events).session.loading = true) : (after events).LastWaits := by
  induction events using events_induction with
  | initial => cases h
  | reset events ih =>
    rw [after_append_reset] at h
    cases h
  | act events action ih => exact (Run.effect_after events action).lastWaits ih h

/-- The present period has asked, and its question, which is the last one, still waits for its
answer. -/
def Unanswered (events : List Event) : Prop :=
  rooted (periods events).present ≠ [] ∧
    ∃ load ∈ (after events).waiting, load.question + 1 = (after events).asked.length

/-- While a session is loading, the answer to the question of the present period is out. -/
theorem unanswered_of_loading {events : List Event}
    (h : (after events).session.loading = true) : Unanswered events := by
  have hflight := flight_after events
  obtain ⟨load, hload, -, hquestion⟩ := lastWaits_of_loading h
  exact ⟨hflight.initialized.1 (hflight.loading h), load, hload, hquestion⟩

/-- As long as no generation was used twice, it is only out while the session is loading. -/
theorem loading_of_unanswered {events : List Event} (h : resets events < 2 ^ 64)
    (hunanswered : Unanswered events) : (after events).session.loading = true := by
  obtain ⟨hrooted, load, hload, hlast⟩ := hunanswered
  obtain ⟨own, hown, hgeneration, hquestion⟩ :=
    fetched_of_initialized ((flight_after events).initialized.2 hrooted)
  have hquestions : ((fetches events).map Waiting.question).Nodup := by
    rw [questions_fetches]
    exact List.nodup_range
  have heq : load = own := List.inj_on_of_nodup_map hquestions
    (mem_fetches_of_waiting hload) hown (by omega)
  exact (sound_after events h).loading.2 (List.mem_map.2 ⟨load, hload, heq ▸ hgeneration⟩)

/-! ## Single flight -/

/-- Names are asked for at most once in a period, by its first load with a root and for the
condition of that load, so at most once more often than there are resets.  Every other load ends at
once, changes nothing and says why: it has no root, or the session is loading, or it was before.  A
session is loading from the load that asked until an answer is taken.  The answer to the question of
that load, whenever it comes in the period, ends the load, and is taken unless one was before; from
then on every load with a root is told that the names are there.  A session is loading no longer
than the question of the period is unanswered, and as long as no generation was used twice exactly
that long. -/
theorem single_flight (events : List Event) :
    (after events).asked =
        ((periods events).all.flatMap fun period ↦ (rooted period).take 1) ∧
      (after events).asked.length ≤ resets events + 1 ∧
      (∀ condition, (after events).load condition =
        if condition.root.isNone then (some .noRoot, after events)
        else if rooted (periods events).present = [] then (none, (after events).fetching condition)
        else (some (if (after events).session.loading then .inFlight else .alreadyInitialized),
          after events)) ∧
      (∀ condition, ((after events).load condition).1 = none → ∀ later,
        Aftermath (events ++ [.act (.load condition)])
          ⟨(after events).asked.length, (after events).session.generation⟩ later) ∧
      ((after events).session.loading = true → Unanswered events) ∧
      (resets events < 2 ^ 64 → Unanswered events → (after events).session.loading = true) :=
  ⟨(flight_after events).asked, length_asked_le events, load_after events,
    fun _ ↦ aftermath_of_fetch, unanswered_of_loading, loading_of_unanswered⟩

/-- Two periods with one question each.  An answer to the first question is not taken in the second
period, and the failed answer to the second one ends the loading. -/
theorem single_flight_across_reset :
    let condition := Condition.ofNode (.group .and [])
    let events := [Event.act (.load condition), .reset]
    let asking := events ++ [.act (.load condition)]
    let late := Action.answer 0 (.ok .empty)
    let own := Action.answer 1 (.error (.other "gone"))
    ((after events).load condition).1 = none ∧
      (∀ ending ∈ endingsIn (after asking) [late], ending.isAccepted = false) ∧
      (after (asking ++ [.act late])).ended (.act own) = [⟨⟨1, 1⟩, .failed, 1⟩] ∧
      ((after (asking ++ [.act late, .act own])).load condition).1 = some .alreadyInitialized ∧
      resets asking < 2 ^ 64 ∧ Unanswered asking ∧ (after asking).session.loading = true := by
  intro condition events asking late own
  have hfetch : ((after events).load condition).1 = none := rfl
  have hresets : resets asking < 2 ^ 64 := by decide
  obtain ⟨-, -, -, haftermath, -, -⟩ := single_flight events
  obtain ⟨-, -, -, -, hout, hloading⟩ := single_flight asking
  have hunanswered := hout rfl
  have hlate := haftermath condition hfetch [late]
  have hwaits := hlate.waits_iff.2 fun _ hmem ↦
    Nat.one_ne_zero (Action.answer.inj (List.mem_singleton.1 hmem)).1
  obtain ⟨-, halready⟩ := (haftermath condition hfetch [late, own]).already _
    (List.mem_cons_of_mem _ List.mem_cons_self)
  exact ⟨hfetch, hlate.loading_iff.1 rfl, hlate.ended hwaits _,
    congrArg Prod.fst (halready condition rfl), hresets, hunanswered, hloading hresets hunanswered⟩

/-! ## When a generation is used twice -/

theorem after_append_resets (events : List Event) (count : Nat) :
    after (events ++ List.replicate (count + 1) .reset) =
      { after events with
        session := .fresh ((after events).session.generation + UInt64.ofNat (count + 1)) } := by
  induction count with
  | zero => exact after_append_reset events
  | succ count ih =>
    rw [List.replicate_succ', ← List.append_assoc, after_append_reset, ih]
    have hnext (generation : UInt64) :
        (Session.fresh (generation + UInt64.ofNat (count + 1))).reset =
          .fresh (generation + UInt64.ofNat (count + 1 + 1)) := by
      rw [Session.reset, UInt64.ofNat_add (count + 1) 1, ← UInt64.add_assoc]
      rfl
    rw [Run.reset, hnext]

theorem resets_append_resets (events : List Event) (count : Nat) :
    resets (events ++ List.replicate count .reset) = resets events + count := by
  rw [resets, List.countP_append, List.countP_replicate]
  rfl

theorem present_append_resets (events : List Event) (count : Nat) :
    (periods (events ++ List.replicate (count + 1) .reset)).present = [] := by
  rw [List.replicate_succ', ← List.append_assoc, periods_append_singleton]
  rfl

/-- When so many resets come after a question that its generation is used again, the answer to it
is taken for the answer to the next question. -/
theorem already_of_used_twice {count : Nat} (h : (0 : UInt64) + UInt64.ofNat (count + 1) = 0) :
    let condition := Condition.ofNode (.group .and [])
    let around := [Event.act (.load condition)] ++ List.replicate (count + 1) .reset
    let events := around ++ [.act (.load condition), .act (.answer 0 (.ok .empty))]
    resets events = count + 1 ∧ Unanswered events ∧
      (after events).load condition = (some .alreadyInitialized, after events) := by
  intro condition around events
  have haround : after around = ⟨.initial, [condition], [⟨0, 0⟩]⟩ := by
    have hgeneration : (after [.act (.load condition)]).session.generation = 0 := rfl
    have hafter := after_append_resets [.act (.load condition)] count
    rw [hgeneration, h] at hafter
    exact hafter
  have hevents : events = around ++ [.act (.load condition)] ++ [.act (.answer 0 (.ok .empty))] :=
    List.append_cons _ _ _
  have hrun : after events =
      ⟨⟨.empty, true, false, none, 0⟩, [condition, condition], [⟨1, 0⟩]⟩ := by
    rw [hevents, Run.after_append_singleton, Run.after_append_singleton, haround]
    rfl
  refine ⟨?_, ⟨?_, ?_⟩, ?_⟩
  · rw [hevents, resets_append_act, resets_append_act]
    exact (resets_append_resets [.act (.load condition)] (count + 1)).trans (Nat.zero_add _)
  · rw [hevents, periods_append_singleton, periods_append_singleton, Periods.step, Periods.step,
      present_append_resets]
    exact List.cons_ne_nil _ _
  · rw [hrun]
    exact ⟨⟨1, 0⟩, List.mem_cons_self, rfl⟩
  · rw [hrun]
    rfl

/-- After 2 ^ 64 resets a load is told that the names are there although the question of its period
is unanswered.  And while a question is unanswered, a load without a root is told just that. -/
theorem unanswered_without_loading :
    let condition := Condition.ofNode (.group .and [])
    let asking := [Event.act (.load condition)]
    let around := asking ++ List.replicate (2 ^ 64) .reset
    let events := around ++ [.act (.load condition), .act (.answer 0 (.ok .empty))]
    (resets events = 2 ^ 64 ∧ Unanswered events ∧
        (after events).load condition = (some .alreadyInitialized, after events)) ∧
      Unanswered asking ∧ (after asking).load .unfiltered = (some .noRoot, after asking) := by
  intro condition asking
  refine ⟨?_, unanswered_of_loading rfl, rfl⟩
  -- The count becomes a variable, so that nothing ever builds the list of resets.
  obtain ⟨count, hcount⟩ : ∃ count, 2 ^ 64 = count + 1 := ⟨2 ^ 64 - 1, by decide⟩
  rw [hcount]
  exact already_of_used_twice (by rw [← hcount]; decide)

end CardFilter
