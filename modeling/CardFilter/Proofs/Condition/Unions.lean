import CardFilter.Proofs.Condition.Entries
import Mathlib.Data.List.Sort

/-!
# Unions of references

The sets of references are kept in order, so references are known by what they hold: two that hold
the same identifiers are equal.  The union is taken set by set, and entry by entry for the options.
It holds what either side holds, and therefore the references of a condition that carries what two
others carry between them are the union of theirs.
-/

namespace CardFilter

/-! ## Sets in order -/

namespace NameSet

/-- The names are in increasing order, each of them once. -/
def Sorted (set : NameSet) : Prop := List.Pairwise (· < ·) set

theorem sorted_insert (name : String) {set : NameSet} (h : set.Sorted) :
    (NameSet.insert name set).Sorted := by
  induction set with
  | nil => exact List.pairwise_singleton _ _
  | cons other rest ih =>
    obtain ⟨hother, hrest⟩ := List.pairwise_cons.1 h
    simp only [NameSet.insert]
    split
    · rename_i hlt
      refine List.pairwise_cons.2 ⟨fun id hid ↦ ?_, h⟩
      rcases List.mem_cons.1 hid with rfl | hid
      · exact hlt
      · exact lt_trans hlt (hother id hid)
    · rename_i hge
      split
      · exact h
      · rename_i hne
        refine List.pairwise_cons.2 ⟨fun id hid ↦ ?_, ih hrest⟩
        rcases NameSet.mem_insert.1 hid with rfl | hid
        · exact lt_of_le_of_ne (not_lt.1 hge) (Ne.symm hne)
        · exact hother id hid

theorem sorted_insertAll (names : List String) {set : NameSet} (h : set.Sorted) :
    (NameSet.insertAll names set).Sorted := by
  induction names generalizing set with
  | nil => exact h
  | cons name rest ih => exact ih (sorted_insert name h)

theorem Sorted.eq_of_mem_iff {first second : NameSet} (hfirst : first.Sorted)
    (hsecond : second.Sorted) (h : ∀ id, id ∈ first ↔ id ∈ second) : first = second :=
  List.Pairwise.eq_of_mem_iff hfirst hsecond h

end NameSet

/-- Tables in order are known by what is found in them. -/
theorem Table.Sorted.eq_of_lookup {α : Type} {first second : Table α} (hfirst : first.Sorted)
    (hsecond : second.Sorted) (h : ∀ key, first.lookup key = second.lookup key) :
    first = second := by
  have hirrefl : Std.Irrefl fun a b : String × α ↦ a.1 < b.1 := ⟨fun a ↦ lt_irrefl a.1⟩
  have hantisymm : Std.Antisymm fun a b : String × α ↦ a.1 < b.1 :=
    ⟨fun _ _ hlt hgt ↦ absurd hgt (lt_asymm hlt)⟩
  refine List.Pairwise.eq_of_mem_iff hfirst hsecond fun entry ↦ ⟨fun hentry ↦ ?_, fun hentry ↦ ?_⟩
  · exact mem_of_lookup ((h entry.1).symm.trans (hfirst.lookup_of_mem hentry))
  · exact mem_of_lookup ((h entry.1).trans (hsecond.lookup_of_mem hentry))

/-! ## References in order -/

namespace References

variable {references first second : References}

/-- The set of those that stand for the same sort of thing. -/
def ids (references : References) : Referent → NameSet
  | .field => references.fields
  | .link => references.links
  | .option fieldId => (references.options.lookup fieldId).getD []
  | .card => references.cards
  | .status => references.statuses
  | .stream => references.streams
  | .user => references.users

theorem mem_ids_iff {referent : Referent} {id : String} :
    id ∈ references.ids referent ↔ references.Holds referent id := by
  cases referent <;> exact Iff.rfl

/-- Every set is in order, and so are the entries of options. -/
structure Ordered (references : References) : Prop extends references.Tidy where
  ids : ∀ referent, (references.ids referent).Sorted

/-- No entry is empty, so an absent one is told from one that is present. -/
theorem Tidy.lookup_eq (hfirst : first.Tidy) (hsecond : second.Tidy) {fieldId : String}
    (h : first.ids (.option fieldId) = second.ids (.option fieldId)) :
    first.options.lookup fieldId = second.options.lookup fieldId := by
  have hone := hfirst.occupied fieldId
  have htwo := hsecond.occupied fieldId
  rw [ids, ids] at h
  generalize first.options.lookup fieldId = one at *
  generalize second.options.lookup fieldId = two at *
  cases one with
  | none =>
    cases two with
    | none => rfl
    | some others => exact absurd (congrArg some h.symm) htwo
  | some held =>
    cases two with
    | none => exact absurd (congrArg some h) hone
    | some others => exact congrArg some h

/-- References in order are known by what they hold. -/
theorem Ordered.eq_of_holds_iff (hfirst : first.Ordered) (hsecond : second.Ordered)
    (h : ∀ referent id, first.Holds referent id ↔ second.Holds referent id) : first = second := by
  have hids (referent : Referent) : first.ids referent = second.ids referent :=
    (hfirst.ids referent).eq_of_mem_iff (hsecond.ids referent) fun id ↦
      mem_ids_iff.trans ((h referent id).trans mem_ids_iff.symm)
  have hoptions : first.options = second.options :=
    hfirst.sorted.eq_of_lookup hsecond.sorted fun fieldId ↦
      hfirst.lookup_eq hsecond.toTidy (hids (.option fieldId))
  have hfields : first.fields = second.fields := hids .field
  have hlinks : first.links = second.links := hids .link
  have hcards : first.cards = second.cards := hids .card
  have hstatuses : first.statuses = second.statuses := hids .status
  have hstreams : first.streams = second.streams := hids .stream
  have husers : first.users = second.users := hids .user
  cases first
  cases second
  subst hfields hlinks hoptions hcards hstatuses hstreams husers
  rfl

theorem ordered_empty : empty.Ordered :=
  ⟨tidy_empty, fun referent ↦ by cases referent <;> exact List.Pairwise.nil⟩

theorem Ordered.add (h : references.Ordered) (referent : Referent) (names : List String) :
    (add referent names references).Ordered := by
  refine ⟨h.toTidy.add referent names, fun other ↦ ?_⟩
  have hother := h.ids other
  have hnew := NameSet.sorted_insertAll (filled names) (h.ids referent)
  cases referent with
  | option fieldId =>
    cases other with
    | option key =>
      rw [References.add, References.ids, lookup_addOptions]
      split
      · exact hnew
      · exact hother
    | field | link | card | status | stream | user =>
      obtain ⟨options, hoptions⟩ := exists_addOptions fieldId names references
      rw [References.add, hoptions]
      exact hother
  | field | link | card | status | stream | user =>
    cases other <;> first | exact hnew | exact hother

end References

theorem Leaf.ordered_addReferences (leaf : Leaf) {references : References}
    (h : references.Ordered) : (leaf.addReferences references).Ordered := by
  rw [addReferences_eq]
  induction leaf.mentions generalizing references with
  | nil => exact h
  | cons mention rest ih => exact ih (h.add mention.referent mention.ids)

theorem Condition.ordered_references (condition : Condition) : condition.references.Ordered := by
  rw [references_eq]
  suffices hall : ∀ (leaves : List Leaf) {references : References}, references.Ordered →
      (leaves.foldl (fun references leaf ↦ leaf.addReferences references) references).Ordered from
    hall condition.leaves References.ordered_empty
  intro leaves
  induction leaves with
  | nil => exact id
  | cons leaf rest ih => exact fun h ↦ ih (leaf.ordered_addReferences h)

/-! ## Unions -/

namespace Table

/-- The table with a set joined to the one under the same name. -/
def join (name : String) (ids : NameSet) (options : Table NameSet) : Table NameSet :=
  options.insert name (NameSet.insertAll ids ((options.lookup name).getD []))

/-- Joins the entries of one table to those of another. -/
def joinAll (entries options : Table NameSet) : Table NameSet :=
  entries.foldl (fun options entry ↦ join entry.1 entry.2 options) options

/-- A table of sets that are in order, none of them empty. -/
structure Kept (options : Table NameSet) : Prop where
  sorted : options.Sorted
  occupied : ∀ name, options.lookup name ≠ some []
  sets : ∀ name, NameSet.Sorted ((options.lookup name).getD [])

theorem lookup_join (name key : String) (ids : NameSet) (options : Table NameSet) :
    (join name ids options).lookup key =
      if key = name then some (NameSet.insertAll ids ((options.lookup name).getD []))
      else options.lookup key := lookup_insert ..

theorem mem_lookup_join {name key id : String} {ids : NameSet} {options : Table NameSet} :
    id ∈ ((join name ids options).lookup key).getD [] ↔
      (key = name ∧ id ∈ ids) ∨ id ∈ (options.lookup key).getD [] := by
  rw [lookup_join]
  split
  · rename_i hkey
    subst hkey
    simp [NameSet.mem_insertAll]
  · rename_i hkey
    simp [hkey]

theorem mem_lookup_joinAll {entries options : Table NameSet} {key id : String} :
    id ∈ ((joinAll entries options).lookup key).getD [] ↔
      (∃ ids, (key, ids) ∈ entries ∧ id ∈ ids) ∨ id ∈ (options.lookup key).getD [] := by
  induction entries generalizing options with
  | nil => simp [joinAll]
  | cons entry rest ih =>
    have hstep : joinAll (entry :: rest) options = joinAll rest (join entry.1 entry.2 options) := rfl
    rw [hstep, ih, mem_lookup_join, ← or_assoc]
    apply or_congr_left
    constructor
    · rintro (⟨ids, hmem, hid⟩ | ⟨rfl, hid⟩)
      · exact ⟨ids, List.mem_cons_of_mem _ hmem, hid⟩
      · exact ⟨entry.2, List.mem_cons_self, hid⟩
    · rintro ⟨ids, hmem, hid⟩
      rcases List.mem_cons.1 hmem with rfl | hmem
      · exact .inr ⟨rfl, hid⟩
      · exact .inl ⟨ids, hmem, hid⟩

theorem Kept.join {options : Table NameSet} (h : options.Kept) (name : String) {ids : NameSet}
    (hids : ids ≠ []) : (options.join name ids).Kept := by
  obtain ⟨id, hid⟩ := List.exists_mem_of_ne_nil ids hids
  constructor
  · exact sorted_insert _ _ h.sorted
  · intro key hempty
    rw [lookup_join] at hempty
    split at hempty
    · have hmem : id ∈ NameSet.insertAll ids ((options.lookup name).getD []) :=
        NameSet.mem_insertAll.2 (.inl hid)
      rw [Option.some.inj hempty] at hmem
      cases hmem
    · exact h.occupied key hempty
  · intro key
    rw [lookup_join]
    split
    · exact NameSet.sorted_insertAll ids (h.sets name)
    · exact h.sets key

theorem Kept.joinAll {entries options : Table NameSet} (h : options.Kept)
    (hentries : ∀ entry ∈ entries, entry.2 ≠ []) : (joinAll entries options).Kept := by
  induction entries generalizing options with
  | nil => exact h
  | cons entry rest ih =>
    obtain ⟨hentry, hrest⟩ := List.forall_mem_cons.1 hentries
    exact ih (h.join entry.1 hentry) hrest

end Table

namespace References

variable {first second : References}

/-- Everything that either side holds, set by set; options are joined field by field. -/
def union (first second : References) : References where
  fields := first.fields.insertAll second.fields
  links := first.links.insertAll second.links
  options := Table.joinAll second.options first.options
  cards := first.cards.insertAll second.cards
  statuses := first.statuses.insertAll second.statuses
  streams := first.streams.insertAll second.streams
  users := first.users.insertAll second.users

theorem holds_union (hsecond : second.Tidy) {referent : Referent} {id : String} :
    (first.union second).Holds referent id ↔
      first.Holds referent id ∨ second.Holds referent id := by
  cases referent with
  | option fieldId =>
    refine Table.mem_lookup_joinAll.trans (or_comm.trans (or_congr_right ?_))
    constructor
    · rintro ⟨ids, hentry, hid⟩
      exact hsecond.holds_of_entry hentry hid
    · exact exists_entry_of_holds
  | field | link | card | status | stream | user => exact NameSet.mem_insertAll.trans or_comm

theorem Ordered.union (hfirst : first.Ordered) (hsecond : second.Ordered) :
    (first.union second).Ordered := by
  have hheld : first.options.Kept :=
    ⟨hfirst.sorted, hfirst.occupied, fun name ↦ hfirst.ids (.option name)⟩
  have hkept : (first.union second).options.Kept :=
    hheld.joinAll fun _ hentry ↦ hsecond.ne_nil_of_entry hentry
  refine ⟨⟨hkept.sorted, hkept.occupied⟩, fun referent ↦ ?_⟩
  cases referent with
  | option fieldId => exact hkept.sets fieldId
  | field => exact NameSet.sorted_insertAll second.fields (hfirst.ids .field)
  | link => exact NameSet.sorted_insertAll second.links (hfirst.ids .link)
  | card => exact NameSet.sorted_insertAll second.cards (hfirst.ids .card)
  | status => exact NameSet.sorted_insertAll second.statuses (hfirst.ids .status)
  | stream => exact NameSet.sorted_insertAll second.streams (hfirst.ids .stream)
  | user => exact NameSet.sorted_insertAll second.users (hfirst.ids .user)

end References

namespace Condition

/-- A condition that carries what two others carry between them refers to what they refer to. -/
theorem references_eq_union {condition first second : Condition}
    (h : ∀ referent id, condition.Carries referent id ↔
      first.Carries referent id ∨ second.Carries referent id) :
    condition.references = first.references.union second.references := by
  refine condition.ordered_references.eq_of_holds_iff
    (first.ordered_references.union second.ordered_references) fun referent id ↦ ?_
  rw [References.holds_union second.tidy_references, holds_references_iff, holds_references_iff,
    holds_references_iff, h, and_or_left]

end Condition

end CardFilter
