import CardFilter.Condition.Completeness
import CardFilter.Condition.References
import CardFilter.Proofs.Condition.Places

/-!
# What leaves carry

Which identifiers a leaf carries, and what each of them stands for, is said by a relation that lists
the places of a leaf one by one: the hops of its path, its subject and its comparison value.  The
places can be gone through in order as well, as is done when identifiers are gathered.

An option belongs to the field of its leaf, whatever the identifier of that field is; blank
identifiers are carried like any other.  A complete condition carries none that is blank.
-/

namespace CardFilter

/-! ## Places -/

/-- What an identifier in a condition stands for. -/
inductive Referent
  | field
  | link
  /-- One of the options of a field. -/
  | option (fieldId : String)
  | card
  | status
  | stream
  | user
deriving DecidableEq

namespace Operand

/-- Whether a number is compared with the value, which may be an end of a range. -/
def Compares (operand : Operand) (value : NumberValue) : Prop :=
  operand = .number (some value) ∨ (∃ upper, operand = .numberRange (some value) upper) ∨
    ∃ lower, operand = .numberRange lower (some value)

/-- Whether the identifier is the one, or one of several, that are compared with. -/
def Lists (operand : Operand) (sort : IdSort) (id : String) : Prop :=
  operand = .one sort id ∨ ∃ ids, operand = .many sort ids ∧ id ∈ ids

end Operand

/-- The identifiers in a leaf, blank ones too, by the places in which they stand. -/
inductive Leaf.Carries (leaf : Leaf) : Referent → String → Prop
  | hop {path : Path} {id : String} :
    leaf.path = some path → id ∈ path.hops → Carries leaf .link id
  | field {id : String} : leaf.kind ∈ [.text, .number, .enum, .webUrl, .date] →
    leaf.subject.identity = .named id → Carries leaf .field id
  | link {id : String} : leaf.kind = .link → leaf.subject.identity = .named id →
    Carries leaf .link id
  | stream {id : String} : leaf.kind = .status → leaf.subject.identity = .named id →
    Carries leaf .stream id
  | number {test : Test leaf.kind} {id : String} : leaf.kind = .number → leaf.test = some test →
    test.operand.Compares (.reference id) → Carries leaf .field id
  | option {test : Test leaf.kind} {fieldId id : String} : leaf.kind = .enum →
    leaf.subject.identity = .named fieldId → leaf.test = some test →
    test.relation ∈ [.eq, .ne, .oneOf, .notOneOf] → test.operand.Lists .option id →
    Carries leaf (.option fieldId) id
  | card {test : Test leaf.kind} {ids : List String} {id : String} : leaf.kind = .link →
    leaf.test = some test → test.relation ∈ [.oneOf, .notOneOf] →
    test.operand = .cards (some ids) → id ∈ ids → Carries leaf .card id
  | status {test : Test leaf.kind} {id : String} : leaf.kind = .status → leaf.test = some test →
    test.operand.Lists .status id → Carries leaf .status id
  | user {test : Test leaf.kind} {id : String} : leaf.kind ∈ [.createdBy, .updatedBy] →
    leaf.test = some test → test.operand.Lists .user id → Carries leaf .user id

/-- Whether a leaf at some place of a condition carries an identifier. -/
def Condition.Carries (condition : Condition) (referent : Referent) (id : String) : Prop :=
  ∃ place leaf, condition.at? place = some (.leaf leaf) ∧ leaf.Carries referent id

/-! ## Places in order -/

/-- The identifiers in one place of a leaf, and what they stand for. -/
structure Mention where
  referent : Referent
  ids : List String

/-- What the identifier of a subject stands for. -/
def Kind.referent : Kind → Referent
  | .status => .stream
  | .link => .link
  | _ => .field

def IdSort.referent (owner : String) : IdSort → Referent
  | .option => .option owner
  | .status => .status
  | .user => .user

/-- The identifiers in a comparison value; options belong to the owner. -/
def Operand.mention (owner : String) : Operand → Mention
  | .number value => ⟨.field, optionalFields value⟩
  | .numberRange lower upper => ⟨.field, optionalFields lower ++ optionalFields upper⟩
  | .one sort id => ⟨sort.referent owner, [id]⟩
  | .many sort ids => ⟨sort.referent owner, ids⟩
  | .cards ids => ⟨.card, ids.getD []⟩
  | .nothing | .text _ | .date _ | .dateRange .. | .cycles _ => ⟨.field, []⟩

/-- The places of a leaf in the order in which they are gathered. -/
def Leaf.mentions (leaf : Leaf) : List Mention :=
  ⟨.link, (leaf.path.map Path.hops).getD []⟩ ::
    ((leaf.id?.map fun id ↦ ⟨leaf.kind.referent, [id]⟩).toList ++
      (leaf.test.map fun test ↦ test.operand.mention (leaf.id?.getD "")).toList)

/-! ## Where a place can be -/

namespace Kind

theorem eq_number_of_slot (kind : Kind) : ∀ form ∈ kind.forms,
    form.slot ∈ [Slot.number, .numberRange] → kind = .number := by
  cases kind <;> decide

theorem eq_enum_of_slot (kind : Kind) : ∀ form ∈ kind.forms,
    form.slot ∈ [Slot.one .option, .many .option] →
      kind = .enum ∧ form.relation ∈ [.eq, .ne, .oneOf, .notOneOf] := by
  cases kind <;> decide

theorem eq_status_of_slot (kind : Kind) : ∀ form ∈ kind.forms,
    form.slot ∈ [Slot.one .status, .many .status] → kind = .status := by
  cases kind <;> decide

theorem eq_user_of_slot (kind : Kind) : ∀ form ∈ kind.forms,
    form.slot ∈ [Slot.one .user, .many .user] → kind ∈ [.createdBy, .updatedBy] := by
  cases kind <;> decide

theorem eq_link_of_slot (kind : Kind) : ∀ form ∈ kind.forms,
    form.slot = .cards → kind = .link ∧ form.relation ∈ [.oneOf, .notOneOf] := by
  cases kind <;> decide

theorem referent_of_field {kind : Kind} (h : kind ∈ [.text, .number, .enum, .webUrl, .date]) :
    kind.referent = .field := by
  revert h
  cases kind <;> decide

end Kind

/-- A subject with an identifier is that of one of seven kinds. -/
theorem Subject.kind_of_named {kind : Kind} {subject : Subject kind} {id : String}
    (h : subject.identity = .named id) :
    kind ∈ [.text, .number, .enum, .webUrl, .date] ∨ kind = .status ∨ kind = .link := by
  have hadmitted := subject.admitted
  rw [h] at hadmitted
  cases kind with
  | title | code | cardCycle | createdBy | updatedBy => cases hadmitted
  | text | number | date | enum | status | webUrl | link => decide

theorem Subject.exists_named (subject : Subject .enum) :
    ∃ id, subject.identity = .named id := by
  obtain ⟨identity, path, hadmitted⟩ := subject
  cases identity with
  | named id => exact ⟨id, rfl⟩
  | implied | system => cases hadmitted

theorem mem_optionalFields {value : Option NumberValue} {id : String} :
    id ∈ optionalFields value ↔ value = some (.reference id) := by
  match value with
  | none => simp [optionalFields]
  | some (.literal _) => simp [optionalFields, NumberValue.fields]
  | some (.reference _) => simp [optionalFields, NumberValue.fields, eq_comm]

namespace Operand

variable {operand : Operand} {id : String}

theorem slot_of_lists {sort : IdSort} (h : operand.Lists sort id) :
    operand.slot ∈ [Slot.one sort, .many sort] := by
  rcases h with rfl | ⟨ids, rfl, -⟩ <;> simp [slot]

theorem slot_of_compares {value : NumberValue} (h : operand.Compares value) :
    operand.slot ∈ [Slot.number, .numberRange] := by
  rcases h with rfl | ⟨upper, rfl⟩ | ⟨lower, rfl⟩ <;> simp [slot]

theorem mention_of_lists {sort : IdSort} (h : operand.Lists sort id) (owner : String) :
    (operand.mention owner).referent = sort.referent owner ∧ id ∈ (operand.mention owner).ids := by
  rcases h with rfl | ⟨ids, rfl, hid⟩
  · exact ⟨rfl, List.mem_singleton.2 rfl⟩
  · exact ⟨rfl, hid⟩

theorem mention_of_compares (h : operand.Compares (.reference id)) (owner : String) :
    (operand.mention owner).referent = .field ∧ id ∈ (operand.mention owner).ids := by
  have hself : id ∈ optionalFields (some (.reference id)) := mem_optionalFields.2 rfl
  rcases h with rfl | ⟨upper, rfl⟩ | ⟨lower, rfl⟩
  · exact ⟨rfl, hself⟩
  · exact ⟨rfl, List.mem_append_left _ hself⟩
  · exact ⟨rfl, List.mem_append_right _ hself⟩

end Operand

namespace Leaf

variable {leaf : Leaf} {referent : Referent} {id : String}

theorem carries_of_identity (h : leaf.subject.identity = .named id) :
    leaf.Carries leaf.kind.referent id := by
  rcases Subject.kind_of_named h with hkind | hkind | hkind
  · rw [Kind.referent_of_field hkind]
    exact .field hkind h
  · have hstream := Carries.stream hkind h
    rwa [hkind]
  · have hlink := Carries.link hkind h
    rwa [hkind]

theorem id?_eq_some_iff : leaf.id? = some id ↔ leaf.subject.identity = .named id := by
  rw [id?]
  cases leaf.subject.identity <;> simp [Identity.id?]

theorem exists_named_of_enum (h : leaf.kind = .enum) :
    ∃ id, leaf.subject.identity = .named id := by
  obtain ⟨kind, subject, test⟩ := leaf
  obtain rfl : kind = .enum := h
  exact subject.exists_named

theorem carries_of_lists {test : Test leaf.kind} {sort : IdSort} (htest : leaf.test = some test)
    (h : test.operand.Lists sort id) : leaf.Carries (sort.referent (leaf.id?.getD "")) id := by
  have hslot := Operand.slot_of_lists h
  rw [test.fits] at hslot
  cases sort with
  | option =>
    obtain ⟨hkind, hrelation⟩ := Kind.eq_enum_of_slot _ _ test.listed hslot
    obtain ⟨fieldId, hnamed⟩ := exists_named_of_enum hkind
    rw [id?_eq_some_iff.2 hnamed]
    exact .option hkind hnamed htest hrelation h
  | status => exact .status (Kind.eq_status_of_slot _ _ test.listed hslot) htest h
  | user => exact .user (Kind.eq_user_of_slot _ _ test.listed hslot) htest h

theorem carries_of_compares {test : Test leaf.kind} (htest : leaf.test = some test)
    (h : test.operand.Compares (.reference id)) : leaf.Carries .field id := by
  have hslot := Operand.slot_of_compares h
  rw [test.fits] at hslot
  exact .number (Kind.eq_number_of_slot _ _ test.listed hslot) htest h

theorem carries_of_operand {test : Test leaf.kind} (htest : leaf.test = some test)
    (h : id ∈ (test.operand.mention (leaf.id?.getD "")).ids) :
    leaf.Carries (test.operand.mention (leaf.id?.getD "")).referent id := by
  cases hoperand : test.operand with
  | nothing | text | date | dateRange | cycles =>
    rw [hoperand] at h
    cases h
  | number value =>
    rw [hoperand] at h
    rw [mem_optionalFields.1 h] at hoperand
    exact carries_of_compares htest (.inl hoperand)
  | numberRange lower upper =>
    rw [hoperand] at h
    rcases List.mem_append.1 h with h | h
    · rw [mem_optionalFields.1 h] at hoperand
      exact carries_of_compares htest (.inr (.inl ⟨upper, hoperand⟩))
    · rw [mem_optionalFields.1 h] at hoperand
      exact carries_of_compares htest (.inr (.inr ⟨lower, hoperand⟩))
  | one sort other =>
    rw [hoperand] at h
    obtain rfl := List.mem_singleton.1 h
    exact carries_of_lists htest (.inl hoperand)
  | many sort ids =>
    rw [hoperand] at h
    exact carries_of_lists htest (.inr ⟨ids, hoperand, h⟩)
  | cards ids =>
    have hslot : test.form.slot = .cards := by rw [← test.fits, hoperand]; rfl
    obtain ⟨hkind, hrelation⟩ := Kind.eq_link_of_slot _ _ test.listed hslot
    rw [hoperand] at h
    cases ids with
    | none => cases h
    | some ids => exact .card hkind htest hrelation hoperand h

theorem mem_mentions_iff {mention : Mention} :
    mention ∈ leaf.mentions ↔
      mention = ⟨.link, (leaf.path.map Path.hops).getD []⟩ ∨
        (∃ id, leaf.id? = some id ∧ ⟨leaf.kind.referent, [id]⟩ = mention) ∨
          ∃ test, leaf.test = some test ∧ test.operand.mention (leaf.id?.getD "") = mention := by
  rw [mentions, List.mem_cons, List.mem_append, Option.mem_toList, Option.mem_toList,
    Option.map_eq_some_iff, Option.map_eq_some_iff]

theorem exists_mention_of_carries (h : leaf.Carries referent id) :
    ∃ mention ∈ leaf.mentions, mention.referent = referent ∧ id ∈ mention.ids := by
  have hsubject {name : String} (hnamed : leaf.subject.identity = .named name) :
      (⟨leaf.kind.referent, [name]⟩ : Mention) ∈ leaf.mentions :=
    mem_mentions_iff.2 (.inr (.inl ⟨name, id?_eq_some_iff.2 hnamed, rfl⟩))
  have hoperand {test : Test leaf.kind} (htest : leaf.test = some test) :
      test.operand.mention (leaf.id?.getD "") ∈ leaf.mentions :=
    mem_mentions_iff.2 (.inr (.inr ⟨test, htest, rfl⟩))
  cases h with
  | hop hpath hhop => exact ⟨_, mem_mentions_iff.2 (.inl rfl), rfl, by simpa [hpath]⟩
  | field hkind hnamed =>
    exact ⟨_, hsubject hnamed, Kind.referent_of_field hkind, List.mem_singleton.2 rfl⟩
  | link hkind hnamed =>
    exact ⟨_, hsubject hnamed, congrArg Kind.referent hkind, List.mem_singleton.2 rfl⟩
  | stream hkind hnamed =>
    exact ⟨_, hsubject hnamed, congrArg Kind.referent hkind, List.mem_singleton.2 rfl⟩
  | number hkind htest hcompares =>
    exact ⟨_, hoperand htest, Operand.mention_of_compares hcompares _⟩
  | option hkind hnamed htest hrelation hlists =>
    have hmention := Operand.mention_of_lists hlists (leaf.id?.getD "")
    refine ⟨_, hoperand htest, hmention.1.trans ?_, hmention.2⟩
    rw [id?_eq_some_iff.2 hnamed]
    rfl
  | card hkind htest hrelation hcards hid =>
    refine ⟨_, hoperand htest, ?_⟩
    rw [hcards]
    exact ⟨rfl, hid⟩
  | status hkind htest hlists => exact ⟨_, hoperand htest, Operand.mention_of_lists hlists _⟩
  | user hkind htest hlists => exact ⟨_, hoperand htest, Operand.mention_of_lists hlists _⟩

/-- The places of a leaf are those that are gathered. -/
theorem carries_iff :
    leaf.Carries referent id ↔
      ∃ mention ∈ leaf.mentions, mention.referent = referent ∧ id ∈ mention.ids := by
  refine ⟨exists_mention_of_carries, ?_⟩
  rintro ⟨mention, hmention, rfl, hid⟩
  rcases mem_mentions_iff.1 hmention with rfl | ⟨other, hother, rfl⟩ | ⟨test, htest, rfl⟩
  · cases hpath : leaf.path with
    | none => simp [hpath] at hid
    | some path => exact .hop hpath (by simpa [hpath] using hid)
  · obtain rfl := List.mem_singleton.1 hid
    exact carries_of_identity (id?_eq_some_iff.1 hother)
  · exact carries_of_operand htest hid

end Leaf

theorem Condition.carries_iff (condition : Condition) (referent : Referent) (id : String) :
    condition.Carries referent id ↔ ∃ leaf ∈ condition.leaves, leaf.Carries referent id := by
  constructor
  · rintro ⟨place, leaf, hplace, hcarries⟩
    exact ⟨leaf, (condition.mem_leaves_iff leaf).2 ⟨place, hplace⟩, hcarries⟩
  · rintro ⟨leaf, hleaf, hcarries⟩
    obtain ⟨place, hplace⟩ := (condition.mem_leaves_iff leaf).1 hleaf
    exact ⟨place, leaf, hplace, hcarries⟩

/-! ## Complete conditions -/

theorem isFilled_of_mem {ids : List String} {id : String} (hfilled : allFilled ids = true)
    (h : id ∈ ids) : Text.isFilled id = true :=
  List.all_eq_true.1 (Bool.and_eq_true_iff.1 hfilled).2 id h

namespace Operand

variable {operand : Operand} {id : String}

theorem isFilled_of_compares (hfilled : operand.isFilled = true)
    (h : operand.Compares (.reference id)) : Text.isFilled id = true := by
  rcases h with rfl | ⟨upper, rfl⟩ | ⟨lower, rfl⟩
  · exact hfilled
  · exact (Bool.and_eq_true_iff.1 hfilled).1
  · exact (Bool.and_eq_true_iff.1 hfilled).2

theorem isFilled_of_lists {sort : IdSort} (hfilled : operand.isFilled = true)
    (h : operand.Lists sort id) : Text.isFilled id = true := by
  rcases h with rfl | ⟨ids, rfl, hid⟩
  · exact hfilled
  · exact isFilled_of_mem hfilled hid

end Operand

/-- What a complete leaf carries is not blank. -/
theorem Leaf.isFilled_of_carries {leaf : Leaf} {referent : Referent} {id : String}
    (hcomplete : leaf.isComplete = true) (h : leaf.Carries referent id) :
    Text.isFilled id = true := by
  obtain ⟨hsubject, htested⟩ := Bool.and_eq_true_iff.1 hcomplete
  obtain ⟨hidentity, hpath⟩ := Bool.and_eq_true_iff.1 hsubject
  have hnamed (h : leaf.subject.identity = .named id) : Text.isFilled id = true := by
    rwa [h] at hidentity
  have hoperand {test : Test leaf.kind} (h : leaf.test = some test) :
      test.operand.isFilled = true := by
    rwa [h] at htested
  cases h with
  | hop hsome hhop =>
    rw [show leaf.subject.path = some _ from hsome] at hpath
    exact List.all_eq_true.1 hpath id hhop
  | field hkind h | link hkind h | stream hkind h => exact hnamed h
  | number hkind htest h => exact Operand.isFilled_of_compares (hoperand htest) h
  | option hkind hfield htest hrelation h => exact Operand.isFilled_of_lists (hoperand htest) h
  | status hkind htest h | user hkind htest h => exact Operand.isFilled_of_lists (hoperand htest) h
  | card hkind htest hrelation hcards hid =>
    have hfilled := hoperand htest
    rw [hcards] at hfilled
    exact isFilled_of_mem hfilled hid

namespace Node

mutual

theorem isComplete_of_mem_leaves {leaf : Leaf} : (node : Node) → node.isComplete = true →
    leaf ∈ node.leaves → leaf.isComplete = true
  | .leaf item, hcomplete, hleaf => by
    obtain rfl := List.mem_singleton.1 hleaf
    exact hcomplete
  | .group connective children, hcomplete, hleaf =>
    isComplete_of_mem_allLeaves children (Bool.and_eq_true_iff.1 hcomplete).2 hleaf

theorem isComplete_of_mem_allLeaves {leaf : Leaf} : (nodes : List Node) →
    allComplete nodes = true → leaf ∈ allLeaves nodes → leaf.isComplete = true
  | node :: rest, hcomplete, hleaf => by
    obtain ⟨hnode, hrest⟩ := Bool.and_eq_true_iff.1 hcomplete
    rcases List.mem_append.1 hleaf with hleaf | hleaf
    · exact isComplete_of_mem_leaves node hnode hleaf
    · exact isComplete_of_mem_allLeaves rest hrest hleaf

end

end Node

/-- What a complete condition carries is not blank. -/
theorem Condition.isFilled_of_carries {condition : Condition} {referent : Referent} {id : String}
    (hcomplete : condition.isComplete = true) (h : condition.Carries referent id) :
    Text.isFilled id = true := by
  obtain ⟨leaf, hleaf, hcarries⟩ := (condition.carries_iff referent id).1 h
  obtain ⟨_ | root⟩ := condition
  · cases hleaf
  · exact Leaf.isFilled_of_carries (root.isComplete_of_mem_leaves hcomplete hleaf) hcarries

end CardFilter
