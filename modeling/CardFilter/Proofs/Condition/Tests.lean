import CardFilter.Proofs.Condition.Canonical
import Mathlib.Data.List.Nodup

/-!
# Tests read back

A test is written as one object, tagged by its form, in which the comparison value
takes its own members.  Values in it carry tags of their own.  For every slot the comparison value is
read back as its canonical form from the members that it was written into, whatever else stands
beside them, and since within a kind a tag stands for one form the whole test is read back.

What a value is depends on the lookups in its object alone, so each reader is first brought into that
form; that is where the order of members and repeated names are dealt with.
-/

namespace CardFilter

open Json (ofStrings)

namespace Json

@[simp] theorem canonical_string (text : String) : (string text).canonical = string text := rfl

@[simp] theorem canonical_ofStrings (values : List String) :
    (ofStrings values).canonical = ofStrings values := by
  rw [ofStrings, canonical, canonicalItems_eq_map, List.map_map]
  rfl

@[simp] theorem string?_string (text : String) : (string text).string? = some text := rfl

@[simp] theorem strings?_ofStrings (values : List String) :
    (ofStrings values).strings? = some values := by
  simp only [ofStrings, strings?, listOf?, items?, Option.bind_some]
  induction values with
  | nil => rfl
  | cons value rest ih => simp [string?, ih]

@[simp] theorem tag?_string (held : Bool) (text : String) :
    (string text).tag? held = some (.name text) := rfl

@[simp] theorem choose?_name {α : Type} (alternatives : List (String × α)) (name : String) :
    (Tag.name name).choose? alternatives = alternatives.lookup name := rfl

/-! ## Members that may be left out -/

@[simp] theorem lookup_table_optional {α : Type} (name key : String) (encode : α → Json)
    (value : Option α) :
    (table (optional name encode value)).lookup key =
      if key = name then value.map fun inner ↦ (encode inner).canonical else none := by
  by_cases h : key = name <;> cases value <;> simp [optional, h]

/-- A value that is left out when missing is read back as it was. -/
theorem fieldOr_optional {α : Type} {encode : α → Json} {read : Json → Option α} {f : α → α}
    (hobject : ∀ value, ∃ members, encode value = object members)
    (hread : ∀ value, read (encode value).canonical = some (f value))
    {members : List (String × Json)} {name : String} {value : Option α}
    (h : members.lookup name = value.map fun inner ↦ (encode inner).canonical) :
    fieldOr members name none (nullable? read) = some (value.map f) := by
  rw [fieldOr, h]
  cases value with
  | none => rfl
  | some value =>
    obtain ⟨inner, hinner⟩ := hobject value
    have hcanonical := hread value
    rw [hinner, canonical_object] at hcanonical
    simp only [Option.map_some, hinner, canonical_object, nullable?, hcanonical]

end Json

/-- What a number value is follows from the members of its object. -/
theorem NumberValue.read?_object (held : Bool) {members : Table Json} (h : members.Sorted) :
    NumberValue.read? held (.object members) =
      (members.lookup "type").bind fun tag ↦ (tag.tag? held).bind fun tag ↦
        (tag.choose? NumberForm.named).bind fun
          | .literal => (Json.fieldOr members "value" none (Json.nullable? Json.real?)).map .literal
          | .reference => (Json.fieldOr members "value" "" Json.string?).map .reference := by
  have hrest := h.filter fun member ↦ member.1 != "type"
  simp only [read?, Json.tagged?_object h, Option.bind_eq_bind, Option.bind_map]
  congr 1
  funext tag
  simp only [Function.comp, Json.record?_object hrest, Option.bind_some]
  congr 1
  funext tag
  rcases tag.choose? NumberForm.named with _ | _ | _
  · rfl
  · simp only [Option.bind_some,
      Json.fieldOr_tagged (List.mem_singleton.2 rfl) (show "value" ≠ "type" by decide)]
  · simp only [Option.bind_some,
      Json.fieldOr_tagged (List.mem_singleton.2 rfl) (show "value" ≠ "type" by decide)]

theorem NumberValue.read?_toJson (number : NumberValue) :
    NumberValue.read? true number.toJson.canonical = some number.canonical := by
  cases number with
  | literal value =>
    rw [toJson, Json.canonical_object, read?_object true (Json.sorted_table _)]
    cases value with
    | none => simp [Json.fieldOr, NumberForm.named, canonical]
    | some real =>
      cases hfinite : real.isFinite <;>
        simp [Json.fieldOr, NumberForm.named, canonical, hfinite, Json.canonical, Json.nullable?,
          Json.real?, Option.filter_some]
  | reference fieldId =>
    rw [toJson, Json.canonical_object, read?_object true (Json.sorted_table _)]
    simp [Json.fieldOr, NumberForm.named, canonical, List.lookup_cons]

/-- What a date value is follows from the members of its object. -/
theorem DateValue.read?_object (held : Bool) {members : Table Json} (h : members.Sorted) :
    DateValue.read? held (.object members) =
      (members.lookup "type").bind fun tag ↦ (tag.tag? held).bind fun tag ↦
        (tag.choose? DateForm.named).bind fun
          | .keyDate => (Json.fieldOr members "keyDate" "" Json.string?).map .keyDate
          | .specific => (Json.fieldOr members "value" "" Json.string?).map .specific := by
  have hrest := h.filter fun member ↦ member.1 != "type"
  simp only [read?, Json.tagged?_object h, Option.bind_eq_bind, Option.bind_map]
  congr 1
  funext tag
  simp only [Function.comp, Json.record?_object hrest, Option.bind_some]
  congr 1
  funext tag
  rcases tag.choose? DateForm.named with _ | _ | _
  · rfl
  · simp only [Option.bind_some,
      Json.fieldOr_tagged (List.mem_singleton.2 rfl) (show "keyDate" ≠ "type" by decide)]
  · simp only [Option.bind_some,
      Json.fieldOr_tagged (List.mem_singleton.2 rfl) (show "value" ≠ "type" by decide)]

theorem DateValue.read?_toJson (date : DateValue) :
    DateValue.read? true date.toJson.canonical = some date := by
  cases date <;> rw [toJson, Json.canonical_object, read?_object true (Json.sorted_table _)] <;>
    simp [Json.fieldOr, DateForm.named, List.lookup_cons]

theorem readCards?_object (held : Bool) {members : Table Json} (h : members.Sorted) :
    readCards? held (.object members) =
      (members.lookup "type").bind fun tag ↦ (tag.tag? held).bind fun tag ↦
        (tag.choose? cardFormNamed).bind fun _ ↦
          Json.fieldOr members "cardIds" [] Json.strings? := by
  have hrest := h.filter fun member ↦ member.1 != "type"
  simp only [readCards?, Json.tagged?_object h, Option.bind_eq_bind, Option.bind_map]
  congr 1
  funext tag
  simp only [Function.comp, Json.record?_object hrest, Option.bind_some,
    Json.fieldOr_tagged (List.mem_singleton.2 rfl) (show "cardIds" ≠ "type" by decide)]

theorem readCards?_cardsToJson (ids : List String) :
    readCards? true (cardsToJson ids).canonical = some ids := by
  rw [cardsToJson, Json.canonical_object, readCards?_object true (Json.sorted_table _)]
  simp [Json.fieldOr, cardFormNamed]

theorem Cycle.choose_toJson (cycle : Cycle) :
    cycle.toJson.canonical.choice? true Cycle.named = some cycle := by
  cases cycle <;> rfl

/-! ## Tests -/

theorem IdSort.oneMember_ne_tag (sort : IdSort) : sort.oneMember ≠ "type" := by
  cases sort <;> decide

theorem IdSort.manyMember_ne_tag (sort : IdSort) : sort.manyMember ≠ "type" := by
  cases sort <;> decide

theorem NumberValue.exists_object (number : NumberValue) :
    ∃ members, number.toJson = .object members := by
  cases number <;> exact ⟨_, rfl⟩

theorem DateValue.exists_object (date : DateValue) :
    ∃ members, date.toJson = .object members := by
  cases date <;> exact ⟨_, rfl⟩

theorem Json.cycles?_toJson (values : List Cycle) :
    (Json.array (values.map Cycle.toJson)).canonical.listOf? (Json.choice? true Cycle.named) =
      some values := by
  rw [canonical, canonicalItems_eq_map, listOf?, items?, Option.bind_some]
  induction values with
  | nil => rfl
  | cons value rest ih => 
    simp only [List.map_cons, List.mapM_cons, Cycle.choose_toJson, ih]
    rfl

theorem Operand.fieldOr_number {members : Table Json} {name : String}
    (value : Option NumberValue)
    (h : members.lookup name = value.map fun number ↦ number.toJson.canonical) :
    Json.fieldOr members name none (Json.nullable? (NumberValue.read? true)) =
      some (value.map NumberValue.canonical) :=
  Json.fieldOr_optional NumberValue.exists_object NumberValue.read?_toJson h

theorem Operand.fieldOr_date {members : Table Json} {name : String} (value : Option DateValue)
    (h : members.lookup name = value.map fun date ↦ date.toJson.canonical) :
    Json.fieldOr members name none (Json.nullable? (DateValue.read? true)) = some value := by
  rw [Json.fieldOr_optional DateValue.exists_object DateValue.read?_toJson h, Option.map_id']

theorem Operand.fieldOr_cards {members : Table Json} {name : String}
    (ids : Option (List String))
    (h : members.lookup name = ids.map fun ids ↦ (cardsToJson ids).canonical) :
    Json.fieldOr members name none (Json.nullable? (readCards? true)) = some ids := by
  rw [Json.fieldOr_optional (fun ids ↦ ⟨_, rfl⟩) readCards?_cardsToJson h, Option.map_id']

/-- A comparison value is read back from what stands beside the relation. -/
theorem Operand.read?_of_lookup (operand : Operand) {members : Table Json} (h : members.Sorted)
    (hmembers : ∀ name, name ≠ "type" →
      members.lookup name = (Json.table operand.members).lookup name)
    {slot : Slot} (hslot : operand.slot = slot) :
    Operand.read? (.object members) slot =
      some ⟨operand.canonical, operand.slot_canonical.trans hslot⟩ := by
  subst hslot
  have hrecord := Json.record?_object h
  cases operand with
  | nothing => rfl
  | text value =>
    have hvalue : Json.fieldOr members "value" "" Json.string? = some value := by
      rw [Json.fieldOr, hmembers "value" (by decide)]
      simp [Operand.members]
    simp only [slot, read?, hrecord, Option.bind_some,
      Json.fieldOr_record (List.mem_singleton.2 rfl), hvalue]
    rfl
  | number value =>
    have hvalue := fieldOr_number value
      ((hmembers "value" (by decide)).trans (by simp [Operand.members]))
    simp only [slot, read?, hrecord, Option.bind_some,
      Json.fieldOr_record (List.mem_singleton.2 rfl), hvalue]
    rfl
  | numberRange lower upper =>
    have hlower := fieldOr_number lower
      ((hmembers "start" (by decide)).trans (by simp [Operand.members]))
    have hupper := fieldOr_number upper
      ((hmembers "end" (by decide)).trans (by simp [Operand.members]))
    simp only [slot, read?, hrecord, Option.bind_some, hlower, hupper,
      Json.fieldOr_record (show "start" ∈ ["start", "end"] by decide),
      Json.fieldOr_record (show "end" ∈ ["start", "end"] by decide)]
    rfl
  | date value =>
    have hvalue := fieldOr_date value
      ((hmembers "value" (by decide)).trans (by simp [Operand.members]))
    simp only [slot, read?, hrecord, Option.bind_some,
      Json.fieldOr_record (List.mem_singleton.2 rfl), hvalue]
    rfl
  | dateRange lower upper =>
    have hlower := fieldOr_date lower
      ((hmembers "start" (by decide)).trans (by simp [Operand.members]))
    have hupper := fieldOr_date upper
      ((hmembers "end" (by decide)).trans (by simp [Operand.members]))
    simp only [slot, read?, hrecord, Option.bind_some, hlower, hupper,
      Json.fieldOr_record (show "start" ∈ ["start", "end"] by decide),
      Json.fieldOr_record (show "end" ∈ ["start", "end"] by decide)]
    rfl
  | one sort id =>
    have hid : Json.fieldOr members sort.oneMember "" Json.string? = some id := by
      rw [Json.fieldOr, hmembers _ sort.oneMember_ne_tag]
      simp [Operand.members]
    simp only [slot, read?, hrecord, Option.bind_some,
      Json.fieldOr_record (List.mem_singleton.2 rfl), hid]
    rfl
  | many sort ids =>
    have hids : Json.fieldOr members sort.manyMember [] Json.strings? = some ids := by
      rw [Json.fieldOr, hmembers _ sort.manyMember_ne_tag]
      simp [Operand.members]
    simp only [slot, read?, hrecord, Option.bind_some,
      Json.fieldOr_record (List.mem_singleton.2 rfl), hids]
    rfl
  | cards ids =>
    have hids := fieldOr_cards ids
      ((hmembers "value" (by decide)).trans (by simp [Operand.members]))
    simp only [slot, read?, hrecord, Option.bind_some,
      Json.fieldOr_record (List.mem_singleton.2 rfl), hids]
    rfl
  | cycles values =>
    have hvalues : Json.fieldOr members "values" [] (Json.listOf? (Json.choice? true Cycle.named)) =
        some values := by
      rw [Json.fieldOr, hmembers "values" (by decide)]
      simp [Operand.members, Json.cycles?_toJson]
    simp only [slot, read?, hrecord, Option.bind_some,
      Json.fieldOr_record (List.mem_singleton.2 rfl), hvalues]
    rfl

/-- Within a kind a tag stands for one form. -/
theorem Kind.nodup_tags (kind : Kind) : (kind.forms.map TestForm.tag).Nodup := by
  cases kind <;> decide

theorem Kind.form?_of_mem {kind : Kind} {form : TestForm} (h : form ∈ kind.forms) :
    kind.form? form.tag = some ⟨form, h⟩ := by
  have hmem : (⟨form, h⟩ : { form // form ∈ kind.forms }) ∈ kind.forms.attach :=
    List.mem_attach _ _
  cases hfound : kind.form? form.tag with
  | none => exact absurd (List.find?_eq_none.1 hfound _ hmem) (by simp)
  | some found =>
    have htag : found.1.tag = form.tag := by simpa using List.find?_some hfound
    exact congrArg some (Subtype.ext (List.inj_on_of_nodup_map kind.nodup_tags found.2 h htag))

theorem Test.toJson_canonical {kind : Kind} (test : Test kind) :
    test.toJson.canonical =
      .object (Json.table (("type", .string test.form.tag) :: test.operand.members)) := by
  rw [toJson, Json.canonical_object]

theorem Operand.lookup_tag_members (operand : Operand) :
    (Json.table operand.members).lookup "type" = none := by
  cases operand with
  | one sort id => simp [members, sort.oneMember_ne_tag.symm]
  | many sort ids => simp [members, sort.manyMember_ne_tag.symm]
  | nothing | text | number | numberRange | date | dateRange | cards | cycles => simp [members]

theorem Test.read?_toJson {kind : Kind} (test : Test kind) :
    Test.read? kind test.toJson.canonical = some test.canonical := by
  have hsorted := Json.sorted_table (("type", .string test.form.tag) :: test.operand.members)
  have htag : (Json.table (("type", .string test.form.tag) :: test.operand.members)).lookup
      "type" = some (.string test.form.tag) := by
    simp [Operand.lookup_tag_members]
  have hoperand : Operand.read? (.object ((Json.table (("type", .string test.form.tag) ::
      test.operand.members)).filter fun member ↦ member.1 != "type")) test.form.slot =
      some ⟨test.operand.canonical, test.operand.slot_canonical.trans test.fits⟩ := by
    refine test.operand.read?_of_lookup (hsorted.filter _) (fun name hname ↦ ?_) test.fits
    rw [Table.lookup_filter (fun other ↦ other != "type"), bne_iff_ne.2 hname, if_pos rfl]
    simp [hname]
  rw [toJson_canonical, read?, Json.tagged?_object hsorted, htag]
  simp only [Option.map_some, Kind.form?_of_mem test.listed, hoperand]
  rfl

end CardFilter
