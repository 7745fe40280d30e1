import CardFilter.Text.EditDistance
import Mathlib.Order.Bounds.Defs
import Mathlib.Order.MinMax
import Mathlib.Order.Nat

/-!
# Edits

An edit inserts, deletes or replaces one character somewhere in a text.  The number that is computed
row by row is the least number of edits that lead from one text to another.

Between the rows and the edits stands a recursion on two texts that looks at their first characters
only.  The rows hold its values for prefixes that grow at their ends, and therefore for texts that
are reversed; edits do not mind that.  No run of edits is shorter than the recursion says, because
one edit changes its value by one at most; and the recursion itself names a run of that length.
-/

namespace CardFilter.Text

/-- One character is inserted, deleted or replaced, in front or further behind. -/
inductive Edit : List Char → List Char → Prop
  | insert (c : Char) (text : List Char) : Edit text (c :: text)
  | delete (c : Char) (text : List Char) : Edit (c :: text) text
  | replace (c d : Char) (text : List Char) : Edit (c :: text) (d :: text)
  | behind (c : Char) {source target : List Char} :
    Edit source target → Edit (c :: source) (c :: target)

/-- So many edits, one after the other. -/
inductive Edits (source : List Char) : Nat → List Char → Prop
  | none : Edits source 0 source
  | more {count : Nat} {middle target : List Char} :
    Edits source count middle → Edit middle target → Edits source (count + 1) target

/-! ## Runs of edits -/

namespace Edit

variable {source target : List Char}

theorem append_left (before : List Char) (h : Edit source target) :
    Edit (before ++ source) (before ++ target) := by
  induction before with
  | nil => exact h
  | cons c rest ih => exact .behind c ih

theorem append_right (after : List Char) (h : Edit source target) :
    Edit (source ++ after) (target ++ after) := by
  induction h with
  | insert c text => exact .insert c (text ++ after)
  | delete c text => exact .delete c (text ++ after)
  | replace c d text => exact .replace c d (text ++ after)
  | behind c _ ih => exact .behind c ih

theorem reverse (h : Edit source target) : Edit source.reverse target.reverse := by
  induction h with
  | insert c text => simpa using (Edit.insert c []).append_left text.reverse
  | delete c text => simpa using (Edit.delete c []).append_left text.reverse
  | replace c d text => simpa using (Edit.replace c d []).append_left text.reverse
  | behind c _ ih => simpa using ih.append_right [c]

end Edit

namespace Edits

variable {source middle target : List Char} {count : Nat}

theorem behind (c : Char) (h : Edits source count target) :
    Edits (c :: source) count (c :: target) := by
  induction h with
  | none => exact .none
  | more _ hlast ih => exact .more ih (.behind c hlast)

/-- An edit may come first as well. -/
theorem of_edit (hfirst : Edit source middle) (h : Edits middle count target) :
    Edits source (count + 1) target := by
  induction h with
  | none => exact .more .none hfirst
  | more _ hlast ih => exact .more ih hlast

protected theorem min {other : Nat} (h : Edits source count target)
    (hother : Edits source other target) : Edits source (min count other) target := by
  rcases min_choice count other with hmin | hmin
  · rwa [hmin]
  · rwa [hmin]

theorem reverse (h : Edits source count target) : Edits source.reverse count target.reverse := by
  induction h with
  | none => exact .none
  | more _ hlast ih => exact .more ih hlast.reverse

theorem reverse_iff : Edits source.reverse count target.reverse ↔ Edits source count target := by
  refine ⟨fun h ↦ ?_, Edits.reverse⟩
  simpa using h.reverse

end Edits

/-! ## The recursion -/

/-- The least number of edits, by what happens to the first characters. -/
def leastEdits : List Char → List Char → Nat
  | [], target => target.length
  | source, [] => source.length
  | c :: source, d :: target =>
    min (min (leastEdits (c :: source) target + 1) (leastEdits source (d :: target) + 1))
      (if c = d then leastEdits source target else leastEdits source target + 1)

theorem leastEdits_nil_left (target : List Char) : leastEdits [] target = target.length := by
  rw [leastEdits]

theorem leastEdits_nil_right (source : List Char) : leastEdits source [] = source.length := by
  cases source <;> rw [leastEdits]
  simp

theorem leastEdits_cons (c d : Char) (source target : List Char) :
    leastEdits (c :: source) (d :: target) =
      min (min (leastEdits (c :: source) target + 1) (leastEdits source (d :: target) + 1))
        (if c = d then leastEdits source target else leastEdits source target + 1) := by
  rw [leastEdits]

/-- The recursion names a run of edits. -/
theorem edits_leastEdits (source target : List Char) :
    Edits source (leastEdits source target) target := by
  induction source generalizing target with
  | nil =>
    rw [leastEdits_nil_left]
    induction target with
    | nil => exact .none
    | cons d rest ih => exact .more ih (.insert d rest)
  | cons c source hsource =>
    induction target with
    | nil =>
      have hrest := hsource []
      rw [leastEdits_nil_right] at hrest ⊢
      exact .of_edit (.delete c source) hrest
    | cons d target htarget =>
      have hinsert := htarget.more (.insert d target)
      have hdelete := (hsource (d :: target)).of_edit (.delete c source)
      have hboth := (hsource target).behind c
      rw [leastEdits_cons]
      refine (hinsert.min hdelete).min ?_
      split
      · rename_i hsame
        exact hsame ▸ hboth
      · exact hboth.more (.replace c d target)

/-! ## One edit changes little -/

/-- A character in front of the source costs no more than its deletion. -/
theorem leastEdits_cons_left (c : Char) (source target : List Char) :
    leastEdits (c :: source) target ≤ leastEdits source target + 1 := by
  cases target with
  | nil => simp [leastEdits_nil_right]
  | cons d target =>
    rw [leastEdits_cons]
    omega

theorem leastEdits_le_of_edit {source middle target : List Char} (h : Edit middle target) :
    leastEdits source target ≤ leastEdits source middle + 1 := by
  induction h generalizing source with
  | insert d text =>
    cases source with
    | nil => simp [leastEdits_nil_left]
    | cons c source =>
      rw [leastEdits_cons]
      omega
  | delete d text =>
    induction source with
    | nil =>
      simp only [leastEdits_nil_left, List.length_cons]
      omega
    | cons c source ih =>
      have hdelete := leastEdits_cons_left c source text
      rw [leastEdits_cons c d]
      split <;> omega
  | replace d e text =>
    induction source with
    | nil => simp [leastEdits_nil_left]
    | cons c source ih =>
      rw [leastEdits_cons c d, leastEdits_cons c e]
      split <;> split <;> omega
  | behind d _ hbehind =>
    induction source with
    | nil =>
      have hrest := @hbehind []
      simp only [leastEdits_nil_left, List.length_cons] at hrest ⊢
      omega
    | cons c source ih =>
      have hinsert := @hbehind (c :: source)
      have hboth := @hbehind source
      rw [leastEdits_cons, leastEdits_cons]
      split <;> omega

theorem leastEdits_self (text : List Char) : leastEdits text text = 0 := by
  induction text with
  | nil => rw [leastEdits_nil_left, List.length_nil]
  | cons c text ih =>
    rw [leastEdits_cons, if_pos rfl, ih, Nat.min_zero]

theorem leastEdits_le_of_edits {source target : List Char} {count : Nat}
    (h : Edits source count target) : leastEdits source target ≤ count := by
  induction h with
  | none => rw [leastEdits_self]
  | more _ hlast ih => exact Nat.le_trans (leastEdits_le_of_edit hlast) (Nat.succ_le_succ ih)

theorem isLeast_leastEdits (source target : List Char) :
    IsLeast {count | Edits source count target} (leastEdits source target) :=
  ⟨edits_leastEdits source target, fun _ h ↦ leastEdits_le_of_edits h⟩

/-! ## Rows -/

/-- The row for a source that has been read, from a place in the target on.  What has been read of
either stands there reversed. -/
def entries (source : List Char) : List Char → List Char → List Nat
  | _, [] => []
  | before, d :: target => leastEdits source (d :: before) :: entries source (d :: before) target

def row (source target : List Char) : List Nat := leastEdits source [] :: entries source [] target

theorem entries_nil (before target : List Char) :
    entries [] before target = List.range' (before.length + 1) target.length := by
  induction target generalizing before with
  | nil => rfl
  | cons d target ih =>
    rw [entries, ih, leastEdits_nil_left, List.length_cons, List.length_cons, List.range'_succ]

theorem row_nil (target : List Char) : row [] target = List.range (target.length + 1) := by
  rw [row, entries_nil, leastEdits_nil_left, List.range_eq_range', List.range'_succ]
  rfl

/-- The entries of a row follow from the one on their left, the one above and the one between the
two. -/
theorem nextEntries_entries (c : Char) (source before target : List Char) :
    nextEntries c target (leastEdits (c :: source) before) (leastEdits source before)
      (entries source before target) = entries (c :: source) before target := by
  induction target generalizing before with
  | nil => rfl
  | cons d target ih =>
    simp only [entries, nextEntries]
    rw [← leastEdits_cons, ih]

theorem nextRow_row (target : List Char) (c : Char) (source : List Char) :
    nextRow target (row source target) c = row (c :: source) target := by
  have hfirst : leastEdits source [] + 1 = leastEdits (c :: source) [] := by
    simp [leastEdits_nil_right]
  rw [row, nextRow, hfirst, nextEntries_entries, row]

/-- Each character that is read makes the row of the source one character longer. -/
theorem foldl_nextRow (target before source : List Char) :
    source.foldl (nextRow target) (row before target) = row (source.reverse ++ before) target := by
  induction source generalizing before with
  | nil => rfl
  | cons c source ih =>
    rw [List.foldl_cons, nextRow_row, ih, List.reverse_cons, List.append_assoc,
      List.singleton_append]

theorem lastRow_eq (source target : List Char) :
    lastRow source target = row source.reverse target := by
  rw [lastRow, ← row_nil, foldl_nextRow, List.append_nil]

theorem getLastD_entries (source before target : List Char) :
    (entries source before target).getLastD (leastEdits source before) =
      leastEdits source (target.reverse ++ before) := by
  induction target generalizing before with
  | nil => rfl
  | cons d target ih =>
    rw [entries, List.getLastD_cons, ih, List.reverse_cons, List.append_assoc,
      List.singleton_append]

theorem editDistance_eq (source target : List Char) :
    editDistance source target = leastEdits source.reverse target.reverse := by
  rw [editDistance, lastRow_eq, row, List.getLastD_cons, getLastD_entries, List.append_nil]

/-- The distance is the least number of edits. -/
theorem isLeast_editDistance (source target : List Char) :
    IsLeast {count | Edits source count target} (editDistance source target) := by
  have hleast := isLeast_leastEdits source.reverse target.reverse
  simpa only [editDistance_eq, Edits.reverse_iff] using hleast

end CardFilter.Text
