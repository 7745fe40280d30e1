import CardFilter.Proofs.Condition.Tests
import Mathlib.Data.List.TakeWhile

/-!
# Subjects read back

A subject is one object that holds what identifies it and the path, if there is one.  It is read back
with the same identity and with the path in its normal form, and nothing of it is set aside.  A
built-in date needs care: it is read leniently, member by member, and reading stops at a path that
cannot be read.  As soon as the path can be read, though, the date is the one that is looked up.
-/

namespace CardFilter

theorem Path.read?_toJson (path : Path) : Path.read? path.toJson.canonical = some path := by
  rw [toJson, Json.canonical_object, read?, Json.record?_object (Json.sorted_table _),
    Option.bind_some, Json.fieldOr_record (List.mem_singleton.2 rfl)]
  simp [Json.fieldOr]

theorem readPath?_of_lookup {fields : List (String × Json)} (path : Option Path)
    (h : fields.lookup "path" = path.map fun path ↦ path.toJson.canonical) :
    readPath? fields = some (normalPath path) := by
  rw [readPath?, Json.fieldOr_optional (fun path ↦ ⟨_, rfl⟩) Path.read?_toJson h, Option.map_id']
  rfl

theorem readPath?_record {names : List String} (h : "path" ∈ names)
    (members : List (String × Json)) :
    readPath? (members.filter fun member ↦ names.contains member.1) = readPath? members := by
  rw [readPath?, Json.fieldOr_record h, readPath?]

theorem readSystemDate_optional (date : Option SystemDate) :
    readSystemDate (date.map fun date ↦ date.toJson.canonical) = ⟨date, []⟩ := by
  match date with
  | none | some .createdAt | some .updatedAt | some .discardedAt | some .archivedAt => rfl

/-- With a path that can be read the date of a subject is looked up as it stands. -/
theorem readSystemFields_object {members : Table Json} (h : members.Sorted) {path : Option Path}
    (hpath : readPath? members = some path) :
    readSystemFields (.object members) =
      ⟨some ((readSystemDate (members.lookup "systemField")).value, path),
        (readSystemDate (members.lookup "systemField")).discarded⟩ := by
  have hmem : "path" ∈ ["systemField", "path"] := by decide
  have hall : (members.filter fun member ↦ ["systemField", "path"].contains member.1).takeWhile
      (fun field ↦ field.1 != "path" || (Json.nullable? Path.read? field.2).isSome) =
      members.filter fun member ↦ ["systemField", "path"].contains member.1 := by
    rw [List.takeWhile_eq_self_iff]
    rintro ⟨name, value⟩ hfield
    by_cases hname : name = "path"
    · subst hname
      have hlookup := h.lookup_of_mem (List.mem_filter.1 hfield).1
      obtain ⟨raw, hraw, -⟩ := Option.map_eq_some_iff.1 hpath
      rw [Json.fieldOr, hlookup] at hraw
      simp [hraw]
    · simp [hname]
  have hfield := Table.lookup_filter (fun other ↦ ["systemField", "path"].contains other) members
    "systemField"
  rw [readSystemFields, Json.isRecord_object h, Json.fields]
  simp only [if_true, hall, readPath?_record hmem, hpath, hfield]
  rfl

/-- The members of a subject: what identifies it, and the path. -/
def SubjectForm.members (form : SubjectForm) (identity : Identity) (path : Option Path) :
    List (String × Json) :=
  identity.members form ++ Json.optional "path" Path.toJson path

theorem Identity.lookup_path_members {form : SubjectForm} (identity : Identity)
    (hform : ∀ member, form = .keyed member → member ≠ "path") :
    (Json.table (identity.members form)).lookup "path" = none := by
  cases identity with
  | implied => rfl
  | named id =>
    cases form with
    | keyed member => simp [members, (hform member rfl).symm]
    | implied | date => simp [members]
  | system field => simp [members]

/-- The identity and the path of a subject are read back. -/
theorem SubjectForm.read_of_lookup {form : SubjectForm} {identity : Identity}
    (hadmits : form.admits identity = true) (path : Option Path)
    (hform : ∀ member, form = .keyed member → member ≠ "path")
    {members : Table Json} (h : members.Sorted)
    (hmembers : ∀ name, members.lookup name =
      (Json.table (form.members identity path)).lookup name) :
    form.read (.object members) = ⟨some (⟨identity, hadmits⟩, normalPath path), []⟩ := by
  have hlookup : members.lookup "path" = path.map fun path ↦ path.toJson.canonical := by
    rw [hmembers, SubjectForm.members]
    simp [identity.lookup_path_members hform]
  have hpath := readPath?_of_lookup path hlookup
  cases form with
  | implied =>
    cases identity with
    | named | system => cases hadmits
    | implied =>
      simp only [read, Json.record?_object h, Option.bind_some,
        readPath?_record (List.mem_singleton.2 rfl), hpath, Option.map_some]
  | keyed member =>
    cases identity with
    | implied | system => cases hadmits
    | named id =>
      have hid : Json.fieldOr members member "" Json.string? = some id := by
        rw [Json.fieldOr, hmembers]
        simp [SubjectForm.members, Identity.members, hform member rfl]
      simp only [read, Json.record?_object h, Option.bind_some,
        readPath?_record (show "path" ∈ [member, "path"] by simp),
        Json.fieldOr_record (show member ∈ [member, "path"] by simp), hid, hpath, Option.map_some]
  | date =>
    have hrest := h.filter fun member ↦ member.1 != "type"
    have hpathRest : readPath? (members.filter fun member ↦ member.1 != "type") =
        some (normalPath path) := by
      rw [readPath?, Json.fieldOr_untagged (by decide), ← readPath?, hpath]
    cases identity with
    | implied => cases hadmits
    | named id =>
      have htag : members.lookup "type" = some (.string "FIELD") := by
        rw [hmembers]
        simp [SubjectForm.members, Identity.members]
      have hid : Json.fieldOr members "fieldId" "" Json.string? = some id := by
        rw [Json.fieldOr, hmembers]
        simp [SubjectForm.members, Identity.members]
      have hform : DateSubjectForm.named.lookup "FIELD" = some .field := rfl
      simp only [read, Json.tagged?_object h, htag, Option.map_some, hform,
        Json.record?_object hrest, Option.bind_some,
        readPath?_record (show "path" ∈ ["fieldId", "path"] by decide), hpathRest,
        Json.fieldOr_record (show "fieldId" ∈ ["fieldId", "path"] by decide),
        Json.fieldOr_untagged (show "fieldId" ≠ "type" by decide), hid]
    | system field =>
      have htag : members.lookup "type" = some (.string "SYSTEM") := by
        rw [hmembers]
        simp [SubjectForm.members, Identity.members]
      have hfield : (members.filter fun member ↦ member.1 != "type").lookup "systemField" =
          field.map fun date ↦ date.toJson.canonical := by
        rw [Table.lookup_filter (fun other ↦ other != "type"), if_pos (by decide), hmembers]
        simp [SubjectForm.members, Identity.members]
      have hform : DateSubjectForm.named.lookup "SYSTEM" = some .system := rfl
      simp only [read, Json.tagged?_object h, htag, Option.map_some, hform,
        readSystemFields_object hrest hpathRest, hfield, readSystemDate_optional]

theorem Kind.member_ne_path {kind : Kind} {member : String}
    (h : kind.subjectForm = .keyed member) : member ≠ "path" := by
  cases kind <;> cases h <;> decide

theorem Subject.read_toJson {kind : Kind} (subject : Subject kind) :
    Subject.read kind subject.toJson.canonical = ⟨some subject.canonical, []⟩ := by
  have hread := SubjectForm.read_of_lookup subject.admitted subject.path
    (fun _ ↦ Kind.member_ne_path) (Json.sorted_table _) fun _ ↦ rfl
  rw [Subject.read, toJson, Json.canonical_object, ← SubjectForm.members, hread]
  rfl

end CardFilter
