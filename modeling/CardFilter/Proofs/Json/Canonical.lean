import CardFilter.Json.Record
import CardFilter.Proofs.Table
import Mathlib.Data.List.Nodup

/-!
# Canonical values

Making a value canonical a second time changes nothing.  What a record, a tag or a field of a
canonical object is follows from the lookups in its members alone, because no name stands there
twice.  A value that fits into memory has integers of 64 bits and finite reals, so every real that
is read out of it is finite.
-/

namespace CardFilter.Json

/-! ## Canonical form -/

theorem canonicalItems_eq_map (items : List Json) : canonicalItems items = items.map canonical := by
  induction items with
  | nil => rfl
  | cons item rest ih => rw [canonicalItems, ih, List.map_cons]

theorem canonicalMembers_eq_mapValues (members : List (String × Json)) :
    canonicalMembers members = Table.mapValues canonical members := by
  induction members with
  | nil => rfl
  | cons member rest ih => rw [canonicalMembers, ih, Table.mapValues_cons]

/-- The members of a canonical object. -/
def table (members : List (String × Json)) : Table Json :=
  Table.ofPairs (Table.mapValues canonical members)

theorem sorted_table (members : List (String × Json)) : (table members).Sorted :=
  Table.sorted_ofPairs _

theorem canonical_object (members : List (String × Json)) :
    (object members).canonical = object (table members) := by
  rw [canonical, canonicalMembers_eq_mapValues, table]

mutual

/-- One pass is enough. -/
theorem canonical_canonical : (value : Json) → value.canonical.canonical = value.canonical
  | .null => rfl
  | .bool _ => rfl
  | .string _ => rfl
  | .number (.integer _) => rfl
  | .number (.real value) => by cases h : value.isFinite <;> simp [canonical, h]
  | .array items => by
    simp only [canonical, canonicalItems_canonicalItems items]
  | .object members => by
    have hmembers := canonicalMembers_canonicalMembers members
    simp only [canonicalMembers_eq_mapValues] at hmembers
    simp only [canonical_object, table, Table.mapValues_ofPairs, hmembers]
    rw [Table.ofPairs_of_sorted (Table.sorted_ofPairs _)]

theorem canonicalItems_canonicalItems : (items : List Json) →
    canonicalItems (canonicalItems items) = canonicalItems items
  | [] => rfl
  | item :: rest => by
    simp only [canonicalItems, canonical_canonical item, canonicalItems_canonicalItems rest]

theorem canonicalMembers_canonicalMembers : (members : List (String × Json)) →
    canonicalMembers (canonicalMembers members) = canonicalMembers members
  | [] => rfl
  | (_, value) :: rest => by
    simp only [canonicalMembers, canonical_canonical value, canonicalMembers_canonicalMembers rest]

end

theorem table_eq_self {members : List (String × Json)}
    (h : (object members).canonical = object members) : table members = members := by
  rw [canonical_object] at h
  exact object.inj h

theorem sorted_of_canonical {members : List (String × Json)}
    (h : (object members).canonical = object members) : Table.Sorted members := by
  rw [← table_eq_self h]
  exact sorted_table members

/-- The members of a canonical object are canonical. -/
theorem canonical_of_lookup {members : List (String × Json)}
    (h : (object members).canonical = object members) {name : String} {value : Json}
    (hvalue : members.lookup name = some value) : value.canonical = value := by
  have hmember : (name, value) ∈ table members := by
    rw [table_eq_self h]
    exact Table.mem_of_lookup hvalue
  obtain ⟨⟨_, raw⟩, -, heq⟩ := List.mem_map.1 (Table.mem_of_mem_ofPairs hmember)
  obtain ⟨-, rfl⟩ := Prod.mk.inj heq
  exact canonical_canonical raw

/-- The items of a canonical array are canonical. -/
theorem canonical_of_mem {items : List Json} (h : (array items).canonical = array items)
    {item : Json} (hitem : item ∈ items) : item.canonical = item := by
  have hitems : items.map canonical = items.map id := by
    rw [← canonicalItems_eq_map, List.map_id]
    exact array.inj h
  exact List.map_inj_left.1 hitems item hitem

/-! ## Objects in order -/

theorem tagged?_object {members : Table Json} (h : members.Sorted) (name : String) :
    (object members).tagged? name =
      (members.lookup name).map fun tag ↦
        (tag, object (members.filter fun member ↦ member.1 != name)) := by
  rw [tagged?, h.filter_name]
  cases members.lookup name <;> rfl

theorem isRecord_object {members : Table Json} (h : members.Sorted) (names : List String) :
    (object members).isRecord names = true := by
  apply List.all_eq_true.2
  intro name _
  rw [h.filter_name]
  cases members.lookup name <;> simp

theorem record?_object {members : Table Json} (h : members.Sorted) (names : List String) :
    (object members).record? names =
      some (members.filter fun member ↦ names.contains member.1) := by
  rw [record?, isRecord_object h, if_pos rfl, fields]

/-- An object of the members of a record, each given once, has them for its fields. -/
theorem record?_of_nodup {names : List String} {members : List (String × Json)}
    (hnames : members.map Prod.fst ⊆ names) (hnodup : (members.map Prod.fst).Nodup) :
    (object members).record? names = some members := by
  have hfields : (object members).fields names = members := by
    apply List.filter_eq_self.2
    intro member hmember
    exact List.contains_iff_mem.2 (hnames (List.mem_map_of_mem hmember))
  have hrecord : (object members).isRecord names = true := by
    apply List.all_eq_true.2
    intro name _
    have hcount := List.nodup_iff_count_le_one.1 hnodup name
    rw [List.count, List.countP_map, List.countP_eq_length_filter] at hcount
    exact decide_eq_true hcount
  rw [record?, if_pos hrecord, hfields]

/-- A field of a record is a member of the whole object. -/
theorem fieldOr_record {α : Type} {names : List String} {name : String} (h : name ∈ names)
    (members : List (String × Json)) (absent : α) (read : Json → Option α) :
    fieldOr (members.filter fun member ↦ names.contains member.1) name absent read =
      fieldOr members name absent read := by
  have hlookup := Table.lookup_filter (fun other ↦ names.contains other) members name
  rw [List.contains_iff_mem.2 h, if_pos rfl] at hlookup
  rw [fieldOr, hlookup, fieldOr]

/-- Taking the tag off leaves the other members. -/
theorem fieldOr_untagged {α : Type} {tag name : String} (h : name ≠ tag)
    (members : List (String × Json)) (absent : α) (read : Json → Option α) :
    fieldOr (members.filter fun member ↦ member.1 != tag) name absent read =
      fieldOr members name absent read := by
  have hlookup := Table.lookup_filter (fun other ↦ other != tag) members name
  rw [bne_iff_ne.2 h, if_pos rfl] at hlookup
  rw [fieldOr, hlookup, fieldOr]

/-- Taking the tag off a record and then a field out of it is taking the member itself. -/
theorem fieldOr_tagged {α : Type} {names : List String} {tag name : String} (h : name ∈ names)
    (hne : name ≠ tag) (members : List (String × Json)) (absent : α) (read : Json → Option α) :
    fieldOr ((members.filter fun member ↦ member.1 != tag).filter fun member ↦
        names.contains member.1) name absent read =
      fieldOr members name absent read := by
  rw [fieldOr_record h, fieldOr_untagged hne]

/-! ## Lookups in canonical objects -/

@[simp] theorem lookup_table_nil (name : String) : (table []).lookup name = none := rfl

@[simp] theorem lookup_table_append (members others : List (String × Json)) (name : String) :
    (table (members ++ others)).lookup name =
      ((table others).lookup name).or ((table members).lookup name) := by
  simp only [table, ← Table.mapValues_ofPairs, Table.lookup_mapValues, Table.lookup_ofPairs,
    List.reverse_append, List.lookup_append, Option.map_or]

/-- The last member of a name counts. -/
@[simp] theorem lookup_table_cons (key name : String) (value : Json)
    (rest : List (String × Json)) :
    (table ((key, value) :: rest)).lookup name =
      ((table rest).lookup name).or (if name = key then some value.canonical else none) := by
  rw [← List.singleton_append, lookup_table_append]
  congr 1
  by_cases h : name = key
  · simp [h, table, Table.mapValues, Table.ofPairs, Table.insertAll, Table.insert]
  · simp [h, table, Table.mapValues, Table.ofPairs, Table.insertAll, Table.insert,
      Table.lookup_cons_of_ne]

end CardFilter.Json
