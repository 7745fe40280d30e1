import CardFilter.Proofs.Session.History
import Mathlib.Algebra.Group.Nat.Defs
import Mathlib.Data.List.Nodup
import Mathlib.Data.List.Perm.Basic

/-!
# What holds between any two events

The flags of a session and the loads that wait belong together: a session is loading exactly while a
load of its own generation waits, and it asks once in a generation.  Loads of older generations may
wait as long as they like.

Generations are numbered by 64 bits and start again after 2 ^ 64 resets.  Up to then no number is
used twice, and this is the only thing asked of a run here.  Beyond that a load that still waits from
the first time around could not be told from one of the second.
-/

namespace CardFilter

open Run (after Effect)

namespace Session

theorem finish_of_ne {session : Session} {generation : UInt64}
    (h : session.generation ≠ generation) (reply : Except FetchError Names) :
    session.finish generation reply = (.discarded, session) := if_pos h

/-- An answer of the own generation ends the loading, whatever it says. -/
theorem finish_own {session : Session} {generation : UInt64} (h : session.generation = generation)
    (reply : Except FetchError Names) :
    (session.finish generation reply).2.loading = false ∧
      (session.finish generation reply).2.initialized = session.initialized ∧
      (session.finish generation reply).2.generation = session.generation := by
  cases reply <;> simp [Session.finish, h]

theorem accepted_of_own {session : Session} {generation : UInt64}
    (h : session.generation = generation) (reply : Except FetchError Names) :
    (session.finish generation reply).1 = .loaded ∨
      (session.finish generation reply).1 = .failed := by
  cases reply <;> simp [Session.finish, h]

end Session

namespace Run

variable {run : Run} {load : Waiting}

theorem session_finishing_of_ne (h : run.session.generation ≠ load.generation)
    (reply : Except FetchError Names) (others : List Waiting) :
    (run.finishing load reply others).session = run.session := by
  rw [finishing, Session.finish_of_ne h]

/-- The end of a load leaves the generation and the flag that one was sent out. -/
theorem session_finishing (run : Run) (load : Waiting) (reply : Except FetchError Names)
    (others : List Waiting) :
    (run.finishing load reply others).session.generation = run.session.generation ∧
      (run.finishing load reply others).session.initialized = run.session.initialized := by
  by_cases hown : run.session.generation = load.generation
  · obtain ⟨-, hkept, hsame⟩ := Session.finish_own hown reply
    exact ⟨hsame, hkept⟩
  · rw [session_finishing_of_ne hown]
    exact ⟨rfl, rfl⟩

theorem loading_finishing_own (h : run.session.generation = load.generation)
    (reply : Except FetchError Names) (others : List Waiting) :
    (run.finishing load reply others).session.loading = false :=
  (Session.finish_own h reply).1

end Run

/-! ## One event -/

/-- What every event keeps: how a run stands to all loads that were sent out and to the number of
resets. -/
structure Run.Sound (run : Run) (sent : List Waiting) (count : Nat) : Prop where
  generation : run.session.generation.toNat = count
  initialized : run.session.loading = true → run.session.initialized = true
  error : run.session.error.isSome = true →
    run.session.initialized = true ∧ run.session.loading = false
  loading : run.session.loading = true ↔
    run.session.generation ∈ run.waiting.map Waiting.generation
  reached : ∀ load ∈ sent, load.generation.toNat ≤ count
  unused : run.session.initialized = false →
    run.session.generation ∉ sent.map Waiting.generation
  distinct : (sent.map Waiting.generation).Nodup

namespace Run.Sound

variable {run next : Run} {sent : List Waiting} {count : Nat}

theorem initial : Run.initial.Sound [] 0 where
  generation := rfl
  initialized h := nomatch h
  error h := nomatch h
  loading := by simp [Run.initial, Session.initial, Session.fresh]
  reached _ h := nomatch h
  unused _ := List.not_mem_nil
  distinct := .nil

theorem reset (h : run.Sound sent count) (hsent : ∀ load ∈ run.waiting, load ∈ sent)
    (hcount : count + 1 < 2 ^ 64) : run.reset.Sound sent (count + 1) := by
  have hgeneration : run.reset.session.generation.toNat = count + 1 := by
    have hnext : run.reset.session.generation = run.session.generation + 1 := rfl
    rw [hnext, UInt64.toNat_add, h.generation]
    exact Nat.mod_eq_of_lt hcount
  have hnew : run.reset.session.generation ∉ sent.map Waiting.generation := by
    intro hmem
    obtain ⟨load, hload, heq⟩ := List.mem_map.1 hmem
    have hle := h.reached load hload
    rw [heq, hgeneration] at hle
    omega
  have hwaiting : run.reset.session.generation ∉ run.reset.waiting.map Waiting.generation := by
    intro hmem
    obtain ⟨load, hload, heq⟩ := List.mem_map.1 hmem
    exact hnew (List.mem_map.2 ⟨load, hsent load hload, heq⟩)
  constructor
  · exact hgeneration
  · intro hloading
    cases hloading
  · intro herror
    cases herror
  · exact iff_of_false Bool.false_ne_true hwaiting
  · exact fun load hload ↦ Nat.le_succ_of_le (h.reached load hload)
  · exact fun _ ↦ hnew
  · exact h.distinct

theorem fetch (h : run.Sound sent count) (condition : Condition)
    (hinitialized : run.session.initialized = false) :
    (run.fetching condition).Sound
      (sent ++ [⟨run.asked.length, run.session.generation⟩]) count := by
  constructor
  · exact h.generation
  · exact fun _ ↦ rfl
  · intro herror
    cases herror
  · have hnew : run.session.generation ∈ (run.fetching condition).waiting.map Waiting.generation :=
      List.mem_map.2 ⟨_, List.mem_append_right _ List.mem_cons_self, rfl⟩
    exact iff_of_true rfl hnew
  · intro load hload
    rcases List.mem_append.1 hload with hload | hload
    · exact h.reached load hload
    · obtain rfl := List.mem_singleton.1 hload
      exact Nat.le_of_eq h.generation
  · intro hfalse
    cases hfalse
  · rw [List.map_append]
    apply h.distinct.append (List.nodup_singleton _)
    intro generation hsent hnew
    obtain rfl := List.mem_singleton.1 hnew
    exact h.unused hinitialized hsent

/-- An answer of the own generation ends the one load of it, and one of an older generation is
dropped. -/
theorem finish (h : run.Sound sent count) {before behind : List Waiting} {load : Waiting}
    (hwaiting : run.waiting = before ++ load :: behind)
    (hdistinct : (run.waiting.map Waiting.generation).Nodup) (reply : Except FetchError Names) :
    (run.finishing load reply (before ++ behind)).Sound sent count := by
  have hperm : (run.waiting.map Waiting.generation).Perm
      (load.generation :: (before ++ behind).map Waiting.generation) := by
    rw [hwaiting]
    exact List.perm_middle.map _
  by_cases hown : run.session.generation = load.generation
  · have hloading : run.session.loading = true :=
      h.loading.2 (hperm.mem_iff.2 (hown ▸ List.mem_cons_self))
    have hothers : run.session.generation ∉ (before ++ behind).map Waiting.generation := by
      rw [hown]
      exact (List.nodup_cons.1 (hperm.nodup_iff.1 hdistinct)).1
    have hended := loading_finishing_own hown reply (before ++ behind)
    obtain ⟨hsame, hinitialized⟩ := run.session_finishing load reply (before ++ behind)
    have hkept := hinitialized.trans (h.initialized hloading)
    constructor
    · rw [hsame]
      exact h.generation
    · exact fun _ ↦ hkept
    · exact fun _ ↦ ⟨hkept, hended⟩
    · rw [hended, hsame]
      exact iff_of_false Bool.false_ne_true hothers
    · exact h.reached
    · intro hfresh
      rw [hkept] at hfresh
      cases hfresh
    · exact h.distinct
  · have hsession := session_finishing_of_ne hown reply (before ++ behind)
    have hmem : run.session.generation ∈ run.waiting.map Waiting.generation ↔
        run.session.generation ∈ (before ++ behind).map Waiting.generation := by
      rw [hperm.mem_iff, List.mem_cons, or_iff_right hown]
    constructor
    · rw [hsession]
      exact h.generation
    · rw [hsession]
      exact h.initialized
    · rw [hsession]
      exact h.error
    · rw [hsession]
      exact h.loading.trans hmem
    · exact h.reached
    · rw [hsession]
      exact h.unused
    · exact h.distinct

theorem act (h : run.Sound sent count) {action : Action} {new : List Waiting}
    {gone : List Ending} (heffect : Effect run action next new gone)
    (hdistinct : (run.waiting.map Waiting.generation).Nodup) : next.Sound (sent ++ new) count := by
  cases heffect with
  | idle =>
    rw [List.append_nil]
    exact h
  | push push =>
    rw [List.append_nil]
    exact ⟨h.generation, h.initialized, h.error, h.loading, h.reached, h.unused, h.distinct⟩
  | fetch _ _ hinitialized => exact h.fetch _ hinitialized
  | finish reply hwaiting =>
    rw [List.append_nil]
    exact h.finish hwaiting hdistinct reply

end Run.Sound

/-! ## Whole runs -/

theorem nodup_of_fetches {events : List Event}
    (h : ((fetches events).map Waiting.generation).Nodup) :
    ((endings events).map fun ending ↦ ending.load.generation).Nodup ∧
      ((after events).waiting.map Waiting.generation).Nodup := by
  have hperm := (perm_fetches events).map Waiting.generation
  rw [List.map_append, List.map_map] at hperm
  have hnodup := hperm.nodup_iff.2 h
  exact ⟨hnodup.of_append_left, hnodup.of_append_right⟩

theorem sound_after (events : List Event) (h : resets events < 2 ^ 64) :
    (after events).Sound (fetches events) (resets events) := by
  induction events using events_induction with
  | initial => exact Run.Sound.initial
  | reset events ih =>
    rw [resets_append_reset] at h ⊢
    have hsound := ih (Nat.lt_of_succ_lt h)
    rw [fetches_append_reset, after_append_reset]
    exact hsound.reset (fun _ ↦ mem_fetches_of_waiting) h
  | act events action ih =>
    rw [resets_append_act] at h ⊢
    have hsound := ih h
    rw [fetches_append_singleton]
    exact hsound.act (Run.effect_after events action) (nodup_of_fetches hsound.distinct).2

theorem Run.Effect.generation_of_accepted {run next : Run} {action : Action} {new : List Waiting}
    {gone : List Ending} (heffect : Effect run action next new gone) {ending : Ending}
    (h : ending ∈ gone) (haccepted : ending.isAccepted = true) :
    ending.load.generation = ending.generation := by
  cases heffect with
  | idle | push | fetch => cases h
  | finish reply hwaiting =>
    obtain rfl := List.mem_singleton.1 h
    by_contra hne
    rw [Session.finish_of_ne (Ne.symm hne)] at haccepted
    cases haccepted

/-- An answer is taken in the generation of the load that it ends. -/
theorem generation_of_accepted {events : List Event} {ending : Ending} (h : ending ∈ endings events)
    (haccepted : ending.isAccepted = true) : ending.load.generation = ending.generation := by
  induction events using events_induction with
  | initial => cases h
  | reset events ih =>
    rw [endings_append_reset] at h
    exact ih h
  | act events action ih =>
    rw [endings_append_singleton] at h
    rcases List.mem_append.1 h with h | h
    · exact ih h
    · exact (Run.effect_after events action).generation_of_accepted h haccepted

theorem nodup_accepted {events : List Event}
    (h : ((fetches events).map Waiting.generation).Nodup) :
    (((endings events).filter Ending.isAccepted).map Ending.generation).Nodup := by
  have hsame : ((endings events).filter Ending.isAccepted).map Ending.generation =
      ((endings events).filter Ending.isAccepted).map fun ending ↦ ending.load.generation := by
    apply List.map_congr_left
    intro ending hending
    obtain ⟨hmem, haccepted⟩ := List.mem_filter.1 hending
    exact (generation_of_accepted hmem haccepted).symm
  rw [hsame]
  exact (nodup_of_fetches h).1.sublist (List.filter_sublist.map _)

theorem Run.outcome_of_load {run : Run} {condition : Condition} {outcome : LoadOutcome}
    (h : (run.load condition).1 = some outcome) :
    outcome = .noRoot ∨ outcome = .inFlight ∨ outcome = .alreadyInitialized := by
  rw [Run.load_eq] at h
  split at h
  · exact .inl (Option.some.inj h).symm
  · split at h
    · exact .inr (.inl (Option.some.inj h).symm)
    · split at h
      · exact .inr (.inr (Option.some.inj h).symm)
      · cases h

/-- What can be relied on between any two events. -/
structure Coherent (events : List Event) : Prop where
  initialized_of_loading : (after events).session.loading = true →
    (after events).session.initialized = true
  loading_iff : (after events).session.loading = true ↔
    (after events).session.generation ∈ (after events).waiting.map Waiting.generation
  /-- No two loads of one generation wait. -/
  nodup_waiting : ((after events).waiting.map Waiting.generation).Nodup
  loaded_of_error : (after events).session.error.isSome = true →
    (after events).session.initialized = true ∧ (after events).session.loading = false
  fresh_of_not_initialized : (after events).session.initialized = false →
    (after events).session.error = none ∧ (after events).session.loading = false
  /-- A generation has one load that was sent out. -/
  nodup_fetches : ((fetches events).map Waiting.generation).Nodup
  /-- A generation has one load whose answer was taken, and it is the one that was sent out. -/
  nodup_accepted : (((endings events).filter Ending.isAccepted).map Ending.generation).Nodup
  fetched_of_accepted : ∀ ending ∈ endings events, ending.isAccepted = true →
    ending.load ∈ fetches events ∧ ending.load.generation = ending.generation
  /-- A load that ends at once has taken no answer. -/
  refused : ∀ (condition : Condition) (outcome : LoadOutcome),
    ((after events).load condition).1 = some outcome → outcome ≠ .loaded ∧ outcome ≠ .failed

/-- Every run with fewer than 2 ^ 64 resets is coherent. -/
theorem coherent_of_resets (events : List Event) (h : resets events < 2 ^ 64) :
    Coherent events := by
  have hsound := sound_after events h
  constructor
  · exact hsound.initialized
  · exact hsound.loading
  · exact (nodup_of_fetches hsound.distinct).2
  · exact hsound.error
  · intro hfresh
    constructor
    · cases herror : (after events).session.error with
      | none => rfl
      | some error =>
        have hinitialized := (hsound.error (by rw [herror]; rfl)).1
        rw [hfresh] at hinitialized
        cases hinitialized
    · apply Bool.eq_false_iff.2
      intro hloading
      rw [hsound.initialized hloading] at hfresh
      cases hfresh
  · exact hsound.distinct
  · exact nodup_accepted hsound.distinct
  · intro ending hending haccepted
    have hload : ending.load ∈ (endings events).map Ending.load := List.mem_map_of_mem hending
    exact ⟨(perm_fetches events).subset (List.mem_append_left _ hload),
      generation_of_accepted hending haccepted⟩
  · intro condition outcome hload
    rcases Run.outcome_of_load hload with rfl | rfl | rfl <;> decide

/-- Two loads of two generations wait, and the answer to the older one is dropped. -/
theorem coherent_across_reset :
    let condition := Condition.ofNode (.group .and [])
    let events := [Event.act (.load condition), .reset, .act (.load condition),
      .act (.answer 0 (.ok .empty)), .act (.load condition)]
    resets events < 2 ^ 64 ∧ Coherent events ∧ (after events).session.loading = true := by
  intro condition events
  have hresets : resets events < 2 ^ 64 := by decide
  have hcoherent := coherent_of_resets events hresets
  have hwaits : (after events).session.generation ∈
      (after events).waiting.map Waiting.generation := List.mem_cons_self
  exact ⟨hresets, hcoherent, hcoherent.loading_iff.2 hwaits⟩

end CardFilter
