import CardFilter.Text.Ordered
import Mathlib.Data.String.Basic

/-!
# Tables as finite maps

A table is looked at through `lookup`, and equal tables are lists with the same entries in the same
order.  Putting a value under a name changes the lookup of that name alone and keeps the order of
the names, so the last of several pairs with one name is the one that a table built from pairs
holds.  A table that is in order already is not changed by being built again.
-/

namespace CardFilter.Table

variable {α β : Type}

/-- The names are in increasing order, each of them once. -/
def Sorted (table : Table α) : Prop := List.Pairwise (fun a b ↦ a.1 < b.1) table

/-- The table with every value replaced. -/
def mapValues (f : α → β) (table : Table α) : Table β := table.map fun entry ↦ (entry.1, f entry.2)

/-! ## Lookup -/

theorem lookup_cons_of_ne {key other : String} (h : key ≠ other) (held : α) (rest : Table α) :
    List.lookup key ((other, held) :: rest) = rest.lookup key := by
  have hne : (key == other) = false := by simpa using h
  simp [List.lookup_cons, hne]

theorem mem_of_lookup {table : Table α} {name : String} {value : α}
    (h : table.lookup name = some value) : (name, value) ∈ table := by
  obtain ⟨before, behind, htable, -⟩ := List.lookup_eq_some_iff.1 h
  rw [htable]
  exact List.mem_append_right before List.mem_cons_self

theorem lookup_insert (name key : String) (value : α) (table : Table α) :
    (insert name value table).lookup key = if key = name then some value else table.lookup key := by
  induction table with
  | nil => by_cases h : key = name <;> simp [insert, lookup_cons_of_ne, h]
  | cons entry rest ih =>
    rcases entry with ⟨other, held⟩
    by_cases hlt : name < other
    · by_cases h : key = name <;> simp [insert, hlt, lookup_cons_of_ne, h]
    · by_cases heq : name = other
      · subst heq
        by_cases h : key = name <;> simp [insert, lookup_cons_of_ne, h]
      · simp only [insert, hlt, heq, if_false]
        by_cases h : key = other
        · subst h
          simp [Ne.symm heq]
        · rw [lookup_cons_of_ne h, lookup_cons_of_ne h, ih]

theorem lookup_insertAll (pairs : List (String × α)) (table : Table α) (key : String) :
    (insertAll pairs table).lookup key = (pairs.reverse.lookup key).or (table.lookup key) := by
  induction pairs generalizing table with
  | nil => simp [insertAll]
  | cons pair rest ih =>
    rcases pair with ⟨name, value⟩
    have hstep : insertAll ((name, value) :: rest) table = insertAll rest (insert name value table) :=
      rfl
    rw [hstep, ih, lookup_insert, List.reverse_cons, List.lookup_append, Option.or_assoc]
    by_cases h : key = name
    · simp [h]
    · simp [h, lookup_cons_of_ne]

/-- Of several pairs with one name the last one is held. -/
theorem lookup_ofPairs (pairs : List (String × α)) (key : String) :
    (ofPairs pairs).lookup key = pairs.reverse.lookup key := by
  simp [ofPairs, lookup_insertAll]

/-! ## Order -/

theorem mem_insert {entry : String × α} {name : String} {value : α} {table : Table α}
    (h : entry ∈ insert name value table) : entry = (name, value) ∨ entry ∈ table := by
  induction table with
  | nil => simpa [insert] using h
  | cons first rest ih =>
    rcases first with ⟨other, held⟩
    simp only [insert] at h
    split at h
    · simpa using h
    · split at h
      · rcases List.mem_cons.1 h with h | h
        · exact .inl h
        · exact .inr (List.mem_cons_of_mem _ h)
      · rcases List.mem_cons.1 h with h | h
        · exact .inr (h ▸ List.mem_cons_self)
        · exact (ih h).imp_right (List.mem_cons_of_mem _)

theorem mem_of_mem_ofPairs {entry : String × α} {pairs : List (String × α)}
    (h : entry ∈ ofPairs pairs) : entry ∈ pairs := by
  suffices hall : ∀ table : Table α, entry ∈ insertAll pairs table → entry ∈ pairs ∨ entry ∈ table from
    (hall [] h).resolve_right List.not_mem_nil
  clear h
  induction pairs with
  | nil => exact fun _ htable ↦ .inr htable
  | cons pair rest ih =>
    intro table htable
    rcases ih _ htable with hrest | hinserted
    · exact .inl (List.mem_cons_of_mem _ hrest)
    · rcases mem_insert hinserted with rfl | htable
      · exact .inl List.mem_cons_self
      · exact .inr htable

theorem sorted_insert (name : String) (value : α) {table : Table α} (h : table.Sorted) :
    (insert name value table).Sorted := by
  induction table with
  | nil => exact List.pairwise_singleton _ _
  | cons first rest ih =>
    rcases first with ⟨other, held⟩
    obtain ⟨hfirst, hrest⟩ := List.pairwise_cons.1 h
    simp only [insert]
    split
    · rename_i hlt
      refine List.pairwise_cons.2 ⟨fun entry hentry ↦ ?_, h⟩
      rcases List.mem_cons.1 hentry with rfl | hentry
      · exact hlt
      · exact lt_trans hlt (hfirst entry hentry)
    · rename_i hge
      split
      · rename_i heq
        subst heq
        exact List.pairwise_cons.2 ⟨hfirst, hrest⟩
      · rename_i hne
        refine List.pairwise_cons.2 ⟨fun entry hentry ↦ ?_, ih hrest⟩
        rcases mem_insert hentry with rfl | hentry
        · exact lt_of_le_of_ne (not_lt.1 hge) (Ne.symm hne)
        · exact hfirst entry hentry

theorem sorted_insertAll (pairs : List (String × α)) {table : Table α} (h : table.Sorted) :
    (insertAll pairs table).Sorted := by
  induction pairs generalizing table with
  | nil => exact h
  | cons pair rest ih => exact ih (sorted_insert pair.1 pair.2 h)

theorem sorted_ofPairs (pairs : List (String × α)) : (ofPairs pairs).Sorted :=
  sorted_insertAll pairs List.Pairwise.nil

theorem Sorted.filter {table : Table α} (h : table.Sorted) (keep : String × α → Bool) :
    Sorted (List.filter keep table) :=
  List.Pairwise.filter keep h

theorem insert_of_lt_all {name : String} {table : Table α} (value : α)
    (h : ∀ entry ∈ table, entry.1 < name) : insert name value table = table ++ [(name, value)] := by
  induction table with
  | nil => rfl
  | cons first rest ih =>
    rcases first with ⟨other, held⟩
    have hlt : other < name := h (other, held) List.mem_cons_self
    simp only [insert, lt_asymm hlt, hlt.ne', if_false, List.cons_append]
    rw [ih fun entry hentry ↦ h entry (List.mem_cons_of_mem _ hentry)]

theorem insertAll_of_sorted {pairs table : Table α} (h : Sorted (table ++ pairs)) :
    insertAll pairs table = table ++ pairs := by
  induction pairs generalizing table with
  | nil => simp [insertAll]
  | cons pair rest ih =>
    have hlast : ∀ entry ∈ table, entry.1 < pair.1 := fun entry hentry ↦
      (List.pairwise_append.1 h).2.2 entry hentry pair List.mem_cons_self
    have hmoved : Sorted ((table ++ [pair]) ++ rest) := by simpa using h
    calc
      insertAll (pair :: rest) table = insertAll rest (insert pair.1 pair.2 table) := rfl
      _ = insertAll rest (table ++ [pair]) := by rw [insert_of_lt_all pair.2 hlast]
      _ = (table ++ [pair]) ++ rest := ih hmoved
      _ = table ++ pair :: rest := by simp

/-- A table in order is the table of its own entries. -/
theorem ofPairs_of_sorted {table : Table α} (h : table.Sorted) : ofPairs table = table := by
  have hempty : Sorted ([] ++ table) := h
  exact insertAll_of_sorted hempty

/-! ## Values -/

theorem mapValues_cons (f : α → β) (entry : String × α) (rest : Table α) :
    mapValues f (entry :: rest) = (entry.1, f entry.2) :: mapValues f rest := rfl

theorem lookup_mapValues (f : α → β) (table : Table α) (key : String) :
    (mapValues f table).lookup key = (table.lookup key).map f := by
  induction table with
  | nil => rfl
  | cons entry rest ih =>
    rcases entry with ⟨other, held⟩
    by_cases h : key = other
    · simp [h, mapValues_cons]
    · rw [mapValues_cons, lookup_cons_of_ne h, lookup_cons_of_ne h, ih]

theorem mapValues_insert (f : α → β) (name : String) (value : α) (table : Table α) :
    mapValues f (insert name value table) = insert name (f value) (mapValues f table) := by
  induction table with
  | nil => rfl
  | cons first rest ih =>
    rcases first with ⟨other, held⟩
    by_cases hlt : name < other
    · simp [insert, hlt, mapValues_cons]
    · by_cases heq : name = other
      · simp [insert, heq, mapValues_cons]
      · simp [insert, hlt, heq, ih, mapValues_cons]

theorem mapValues_insertAll (f : α → β) (pairs : List (String × α)) (table : Table α) :
    mapValues f (insertAll pairs table) = insertAll (mapValues f pairs) (mapValues f table) := by
  induction pairs generalizing table with
  | nil => rfl
  | cons pair rest ih => exact (ih _).trans (by rw [mapValues_insert]; rfl)

theorem mapValues_ofPairs (f : α → β) (pairs : List (String × α)) :
    mapValues f (ofPairs pairs) = ofPairs (mapValues f pairs) :=
  mapValues_insertAll f pairs []

/-! ## Parts of a table -/

/-- A part chosen by name answers for the names it keeps, as the whole does. -/
theorem lookup_filter (keep : String → Bool) (table : Table α) (key : String) :
    List.lookup key (table.filter fun entry ↦ keep entry.1) =
      if keep key then table.lookup key else none := by
  induction table with
  | nil => simp
  | cons first rest ih =>
    rcases first with ⟨other, held⟩
    by_cases heq : key = other
    · subst heq
      cases hkeep : keep key <;> simp [hkeep, ih]
    · cases hother : keep other <;> simp [hother, ih, lookup_cons_of_ne heq]

theorem filter_ne_of_lt_all {name : String} {table : Table α}
    (h : ∀ entry ∈ table, name < entry.1) : table.filter (fun entry ↦ entry.1 == name) = [] :=
  List.filter_eq_nil_iff.2 fun entry hentry ↦ by simpa using (h entry hentry).ne'

/-- In a table in order a name has at most one entry. -/
theorem Sorted.filter_name {table : Table α} (h : table.Sorted) (name : String) :
    table.filter (fun entry ↦ entry.1 == name) = (table.lookup name).toList.map (name, ·) := by
  induction table with
  | nil => rfl
  | cons first rest ih =>
    rcases first with ⟨other, held⟩
    obtain ⟨hfirst, hrest⟩ := List.pairwise_cons.1 h
    by_cases heq : name = other
    · subst heq
      simp [filter_ne_of_lt_all hfirst]
    · have hne : (other == name) = false := by simpa using Ne.symm heq
      rw [lookup_cons_of_ne heq, List.filter_cons]
      simp only [hne, Bool.false_eq_true, if_false, ih hrest]

theorem Sorted.lookup_of_mem {table : Table α} (h : table.Sorted) {name : String} {value : α}
    (hentry : (name, value) ∈ table) : table.lookup name = some value := by
  have hmem : (name, value) ∈ table.filter fun other ↦ other.1 == name :=
    List.mem_filter.2 ⟨hentry, beq_self_eq_true _⟩
  rw [h.filter_name] at hmem
  obtain ⟨held, hheld, hvalue⟩ := List.mem_map.1 hmem
  rw [← (Prod.mk.inj hvalue).2]
  exact Option.mem_toList.1 hheld

end CardFilter.Table
