import CardFilter.Proofs.Condition.Walks
import Mathlib.Data.List.Lex
import Mathlib.Order.Bounds.Basic

/-!
# Where the first fault stands

The rules for a value that is to be a node are about that value alone: it is an object, it names a
kind, and a group has a known connective and a list of children.  The reader with diagnosis blames
the first value that breaks one of them, in the order in which a document is read: a value comes
before the values below it, and everything below a child comes before the next child.  That is the
order of places as lists, so the blamed place is the least one at which a rule is broken.

The place is told as a path through the document, and no two places are told alike.  A path is empty
if the document itself is at fault, which has no place.
-/

namespace CardFilter

/-! ## Paths -/

namespace Fault

/-- The way from a value to a place below it. -/
def pathBelow : List Nat → String
  | [] => ""
  | index :: rest => ".children[" ++ toString index ++ "]" ++ pathBelow rest

def pathTo (place : List Nat) : String := "root" ++ pathBelow place

theorem foldl_path (start : String) (place : List Nat) :
    place.foldl (fun path index ↦ s!"{path}.children[{index}]") start =
      start ++ pathBelow place := by
  induction place generalizing start with
  | nil => exact (String.append_empty).symm
  | cons index rest ih =>
    rw [List.foldl_cons, ih, pathBelow]
    simp only [toString, String.append_assoc]

theorem path_eq_pathTo {fault : Fault} {place : List Nat} (h : fault.place = some place) :
    fault.path = pathTo place := by
  rw [path, h]
  exact foldl_path "root" place

theorem pathTo_ne_empty (place : List Nat) : pathTo place ≠ "" := by
  intro h
  have hroot := (String.append_eq_empty_iff.1 h).1
  exact absurd hroot (by decide)

theorem path_eq_empty_iff {fault : Fault} : fault.path = "" ↔ fault.place = none := by
  constructor
  · intro h
    cases hplace : fault.place with
    | none => rfl
    | some place => exact absurd ((path_eq_pathTo hplace).symm.trans h) (pathTo_ne_empty place)
  · intro h
    rw [path, h]

/-- A mark that the words before it do not hold tells where they end. -/
theorem append_cons_inj {word other rest behind : List Char} {mark : Char} (hword : mark ∉ word)
    (hother : mark ∉ other) (h : word ++ mark :: rest = other ++ mark :: behind) :
    word = other ∧ rest = behind := by
  induction word generalizing other with
  | nil =>
    cases other with
    | nil => exact ⟨rfl, (List.cons.inj h).2⟩
    | cons first others => exact absurd (by simp [(List.cons.inj h).1]) hother
  | cons first word ih =>
    cases other with
    | nil => exact absurd (by simp [(List.cons.inj h).1]) hword
    | cons second other =>
      obtain ⟨rfl, hrest⟩ := List.cons.inj h
      obtain ⟨rfl, hbehind⟩ := ih (fun hmem ↦ hword (List.mem_cons_of_mem _ hmem))
        (fun hmem ↦ hother (List.mem_cons_of_mem _ hmem)) hrest
      exact ⟨rfl, hbehind⟩

theorem repr_injective : Function.Injective Nat.repr := by
  intro index other h
  have hdigits := congrArg String.toList h
  rw [Nat.toList_repr, Nat.toList_repr] at hdigits
  calc index = Nat.ofDigitChars 10 (Nat.toDigits 10 index) 0 := Nat.ofDigitChars_ten_toDigits.symm
    _ = Nat.ofDigitChars 10 (Nat.toDigits 10 other) 0 := by rw [hdigits]
    _ = other := Nat.ofDigitChars_ten_toDigits

theorem bracket_notMem_repr (index : Nat) : ']' ∉ index.repr.toList := by
  intro h
  rw [Nat.toList_repr] at h
  exact absurd (Nat.isDigit_of_mem_toDigits (by decide) (by decide) h) (by decide)

theorem pathBelow_cons_ne_empty (index : Nat) (rest : List Nat) :
    pathBelow (index :: rest) ≠ "" := by
  rw [pathBelow, String.append_assoc, String.append_assoc]
  intro h
  exact absurd (String.append_eq_empty_iff.1 h).1 (by decide)

theorem pathBelow_injective : Function.Injective pathBelow := by
  intro place other h
  induction place generalizing other with
  | nil =>
    cases other with
    | nil => rfl
    | cons first others => exact absurd h.symm (pathBelow_cons_ne_empty first others)
  | cons index rest ih =>
    cases other with
    | nil => exact absurd h (pathBelow_cons_ne_empty index rest)
    | cons first others =>
      have hchars := congrArg String.toList h
      simp only [pathBelow, String.append_assoc, String.toList_append, List.append_cancel_left_eq]
        at hchars
      obtain ⟨hindex, hrest⟩ := append_cons_inj (bracket_notMem_repr index)
        (bracket_notMem_repr first) hchars
      rw [repr_injective (String.toList_inj.1 hindex), ih (String.toList_inj.1 hrest)]

/-- A path leads to one place only. -/
theorem pathTo_injective : Function.Injective pathTo := fun _ _ h ↦
  pathBelow_injective ((String.append_right_inj _).1 h)

end Fault

/-! ## Rules -/

/-- The ways in which a value breaks the rules for nodes. -/
inductive Json.Breaks : Json → Fault.Cause → Prop
  | notNode {value : Json} : value.shape ≠ .object → Breaks value (.notNode value.shape)
  | kindMissing {members : List (String × Json)} :
    members.lookup "nodeType" = none → Breaks (.object members) .kindMissing
  | kindNotString {members : List (String × Json)} {kind : Json} :
    members.lookup "nodeType" = some kind → kind.shape ≠ .string →
    Breaks (.object members) .kindNotString
  | kindUnknown {members : List (String × Json)} {name : String} :
    members.lookup "nodeType" = some (.string name) → name ≠ Node.groupName →
    (∀ kind : Kind, name ≠ kind.name) → Breaks (.object members) (.kindUnknown name)
  | connectiveUnknown {members : List (String × Json)} {value : Json} :
    members.lookup "nodeType" = some (.string Node.groupName) →
    members.lookup "operator" = some value → (∀ connective, ¬ Connective.Written value connective) →
    Breaks (.object members) (.connectiveUnknown value)
  | childrenNotArray {members : List (String × Json)} {value : Json} :
    members.lookup "nodeType" = some (.string Node.groupName) →
    members.lookup "children" = some value → value.shape ≠ .null → value.shape ≠ .array →
    Breaks (.object members) (.childrenNotArray value.shape)

/-- Whether a value is a node as far as it can be told without looking at its children. -/
def Json.KeepsRules (value : Json) : Prop := ∀ cause, ¬ value.Breaks cause

namespace Json

/-- The rules that a value with a name for its kind can break still. -/
theorem breaks_of_named {members : List (String × Json)} {name : String} {cause : Fault.Cause}
    (h : members.lookup "nodeType" = some (.string name))
    (hbreaks : (object members).Breaks cause) :
    (name ≠ Node.groupName ∧ ∀ kind : Kind, name ≠ kind.name) ∨
      name = Node.groupName ∧
        ((∃ value, members.lookup "operator" = some value ∧
            ∀ connective, ¬ Connective.Written value connective) ∨
          ∃ value, members.lookup "children" = some value ∧ value.shape ≠ .null ∧
            value.shape ≠ .array) := by
  cases hbreaks with
  | notNode hshape => exact absurd rfl hshape
  | kindMissing hkind =>
    rw [h] at hkind
    cases hkind
  | kindNotString hkind hshape =>
    obtain rfl := Option.some.inj (h.symm.trans hkind)
    exact absurd rfl hshape
  | kindUnknown hkind hgroup hunknown =>
    obtain rfl := Json.string.inj (Option.some.inj (h.symm.trans hkind))
    exact .inl ⟨hgroup, hunknown⟩
  | connectiveUnknown hgroup hvalue hunknown =>
    have hname := Json.string.inj (Option.some.inj (h.symm.trans hgroup))
    exact .inr ⟨hname, .inl ⟨_, hvalue, hunknown⟩⟩
  | childrenNotArray hgroup hvalue hnull harray =>
    have hname := Json.string.inj (Option.some.inj (h.symm.trans hgroup))
    exact .inr ⟨hname, .inr ⟨_, hvalue, hnull, harray⟩⟩

theorem keepsRules_leaf {members : List (String × Json)} {kind : Kind}
    (h : members.lookup "nodeType" = some (.string kind.name)) : (object members).KeepsRules := by
  intro cause hbreaks
  rcases breaks_of_named h hbreaks with ⟨-, hunknown⟩ | ⟨hgroup, -⟩
  · exact hunknown kind rfl
  · exact kind.name_ne_groupName hgroup

theorem keepsRules_group {members : List (String × Json)} {connective : Connective}
    {items : List Json} (h : members.lookup "nodeType" = some (.string Node.groupName))
    (hgiven : Connective.Given members connective) (hitems : childItems? members = some items) :
    (object members).KeepsRules := by
  intro cause hbreaks
  rcases breaks_of_named h hbreaks with
    ⟨hne, -⟩ | ⟨-, ⟨value, hvalue, hunknown⟩ | ⟨value, hvalue, hnull, harray⟩⟩
  · exact hne rfl
  · cases hgiven with
    | absent habsent =>
      rw [habsent] at hvalue
      cases hvalue
    | written hwritten hknown =>
      obtain rfl := Option.some.inj (hvalue.symm.trans hwritten)
      exact hunknown _ hknown
  · rcases childItems?_eq_some.1 hitems with ⟨hchildren | hchildren, -⟩ | hchildren
    · rw [hchildren] at hvalue
      cases hvalue
    · obtain rfl := Option.some.inj (hchildren.symm.trans hvalue)
      exact hnull rfl
    · obtain rfl := Option.some.inj (hchildren.symm.trans hvalue)
      exact harray rfl

theorem Spells.keepsRules {value : Json} {node : Node} (h : value.Spells node) :
    value.KeepsRules := by
  cases h with
  | leaf hkind => exact keepsRules_leaf hkind
  | group hgroup hgiven hitems => exact keepsRules_group hgroup hgiven hitems

/-- Everything at a place below a value that is read keeps the rules. -/
theorem Spells.keepsRules_at {value item : Json} {node : Node} (h : value.Spells node)
    {place : List Nat} (hitem : value.nodeAt? place = some item) : item.KeepsRules := by
  obtain ⟨child, -, hchild⟩ := h.exists_at? hitem
  exact hchild.keepsRules

/-- The places below a value at which a rule is broken. -/
def brokenPlaces (value : Json) : Set (List Nat) :=
  {place | ∃ item cause, value.nodeAt? place = some item ∧ item.Breaks cause}

end Json

/-! ## What the reader blames -/

namespace Node

theorem map_eq_error {ε α β : Type} {f : α → β} {result : Except ε α} {error : ε}
    (h : result.map f = .error error) : result = .error error := by
  cases result with
  | error => exact congrArg Except.error (Except.error.inj h)
  | ok => cases h

theorem kindName_eq_error {place : List Nat} {members : List (String × Json)} {fault : Fault}
    (h : kindName place members = .error fault) :
    ∃ cause, fault = ⟨some place, cause⟩ ∧ (Json.object members).Breaks cause := by
  unfold kindName at h
  split at h
  · rename_i hkind
    exact ⟨_, (Except.error.inj h).symm, .kindMissing hkind⟩
  · cases h
  · rename_i kind hstring hkind
    refine ⟨_, (Except.error.inj h).symm, .kindNotString hkind ?_⟩
    cases kind with
    | string name => exact absurd rfl (hstring name)
    | null | bool | number | array | object => nofun

theorem parseConnective_eq_error {place : List Nat} {members : List (String × Json)}
    {fault : Fault} (hgroup : members.lookup "nodeType" = some (.string groupName))
    (h : parseConnective place members = .error fault) :
    ∃ cause, fault = ⟨some place, cause⟩ ∧ (Json.object members).Breaks cause := by
  unfold parseConnective at h
  split at h
  · cases h
  · rename_i value hvalue
    split at h
    · cases h
    · rename_i hchoice
      refine ⟨_, (Except.error.inj h).symm, .connectiveUnknown hgroup hvalue ?_⟩
      intro connective hwritten
      rw [Connective.choice?_eq_some.2 hwritten] at hchoice
      cases hchoice

theorem parseLeaf_eq_error {place : List Nat} {name : String} {members : List (String × Json)}
    {fault : Fault} (hkind : members.lookup "nodeType" = some (.string name))
    (hgroup : name ≠ groupName) (h : (parseLeaf place name members).value = .error fault) :
    ∃ cause, fault = ⟨some place, cause⟩ ∧ (Json.object members).Breaks cause := by
  unfold parseLeaf at h
  split at h
  · rename_i hname
    refine ⟨_, (Except.error.inj h).symm, .kindUnknown hkind hgroup ?_⟩
    rintro kind rfl
    rw [Kind.ofName?_name] at hname
    cases hname
  · cases h

theorem parseItems_eq_error {place : List Nat} {value : Json} {fault : Fault}
    (h : (parseItems place value).value = .error fault) :
    fault = ⟨some place, .childrenNotArray value.shape⟩ ∧ value.shape ≠ .null ∧
        value.shape ≠ .array ∨
      ∃ items, value = .array items ∧ (parseAll place 0 items).value = .error fault := by
  cases value with
  | null => cases h
  | array items => exact .inr ⟨items, rfl, h⟩
  | bool | number | string | object => exact .inl ⟨(Except.error.inj h).symm, nofun, nofun⟩

/-- A refused value breaks a rule itself and is blamed for it, or it is a group that breaks none and
one of its children is refused. -/
theorem parse_eq_error {place : List Nat} {value : Json} {fault : Fault}
    (h : (parse place value).value = .error fault) :
    (∃ cause, fault = ⟨some place, cause⟩ ∧ value.Breaks cause) ∨
      ∃ items, value.KeepsRules ∧ value.listed? = some items ∧
        (parseAll place 0 items).value = .error fault := by
  cases value with
  | null | bool | number | string | array =>
    exact .inl ⟨_, (Except.error.inj h).symm, .notNode nofun⟩
  | object members =>
    unfold parse at h
    split at h
    · rename_i hname
      obtain rfl := Except.error.inj h
      exact .inl (kindName_eq_error hname)
    · rename_i name hname
      have hkind := kindName_eq_ok hname
      split at h
      · rename_i hgroup
        subst hgroup
        split at h
        · rename_i hconnective
          obtain rfl := Except.error.inj h
          exact .inl (parseConnective_eq_error hkind hconnective)
        · rename_i connective hconnective
          have hgiven := Connective.readField?_eq_some.1 (parseConnective_eq_ok_iff.1 hconnective)
          have hchildren := map_eq_error h
          rw [parseChildren_eq] at hchildren
          split at hchildren
          · cases hchildren
          · rename_i children hlookup
            rcases parseItems_eq_error hchildren with ⟨rfl, hnull, harray⟩ | ⟨items, rfl, hitems⟩
            · exact .inl ⟨_, rfl, .childrenNotArray hkind hlookup hnull harray⟩
            · have hlisted := Json.childItems?_eq_some.2 (.inr hlookup)
              exact .inr ⟨items, Json.keepsRules_group hkind hgiven hlisted,
                Json.listed?_eq_some_iff.2 ⟨members, rfl, hkind, hlookup⟩, hitems⟩
      · rename_i hgroup
        exact .inl (parseLeaf_eq_error hkind hgroup h)

/-- Of several children the first that is refused is blamed; those before it are nodes. -/
theorem parseAll_eq_error {place : List Nat} {index : Nat} {items : List Json} {fault : Fault}
    (h : (parseAll place index items).value = .error fault) :
    ∃ offset item, items[offset]? = some item ∧
      (parse (place ++ [index + offset]) item).value = .error fault ∧
      ∀ earlier < offset, ∀ other, items[earlier]? = some other → ∃ node, other.Spells node := by
  induction items generalizing index with
  | nil => cases h
  | cons first rest ih =>
    unfold parseAll andThen at h
    split at h
    · rename_i hfirst
      obtain rfl := Except.error.inj h
      exact ⟨0, first, rfl, hfirst, nofun⟩
    · rename_i node hfirst
      obtain ⟨offset, item, hitem, hrefused, hearlier⟩ := ih (map_eq_error h)
      refine ⟨offset + 1, item, hitem, by rwa [Nat.add_right_comm, Nat.add_assoc] at hrefused, ?_⟩
      intro earlier hlt other hother
      cases earlier with
      | zero =>
        obtain rfl := Option.some.inj hother
        exact ⟨node, parse_eq_ok_iff.1 hfirst⟩
      | succ earlier => exact hearlier earlier (Nat.lt_of_succ_lt_succ hlt) other hother

/-- The blamed value breaks a rule, and everything before it keeps them all. -/
theorem parse_blames_first {place : List Nat} {value : Json} {fault : Fault}
    (h : (parse place value).value = .error fault) :
    ∃ below item, fault.place = some (place ++ below) ∧ value.nodeAt? below = some item ∧
      item.Breaks fault.cause ∧
      ∀ earlier < below, ∀ other, value.nodeAt? earlier = some other → other.KeepsRules := by
  induction value using Json.node_induction generalizing place with
  | step value ih =>
    rcases parse_eq_error h with ⟨cause, rfl, hbreaks⟩ | ⟨items, hkeeps, hlisted, hitems⟩
    · exact ⟨[], value, by rw [List.append_nil], rfl, hbreaks,
        fun earlier hlt ↦ absurd hlt (List.not_lt_nil earlier)⟩
    · obtain ⟨offset, inner, hinner, hrefused, hbefore⟩ := parseAll_eq_error hitems
      obtain ⟨members, rfl, -, hchildren⟩ := Json.listed?_eq_some_iff.1 hlisted
      have hgiven := Json.childItems?_eq_some.2 (.inr hchildren)
      obtain ⟨below, item, hplace, hitem, hbreaks, hearlier⟩ :=
        ih members items rfl hgiven inner (List.mem_of_getElem? hinner) hrefused
      refine ⟨offset :: below, item, ?_, ?_, hbreaks, ?_⟩
      · rw [hplace, Nat.zero_add, List.append_assoc]
        rfl
      · rw [Json.nodeAt?, hlisted, Option.bind_some, hinner]
        exact hitem
      -- A place before the blamed one is the group itself, lies below a child that was read, or
      -- lies below the refused child and before the blamed place there.
      · intro earlier hlt other hother
        cases earlier with
        | nil =>
          obtain rfl := Option.some.inj hother
          exact hkeeps
        | cons index rest =>
          rw [Json.nodeAt?, hlisted, Option.bind_some] at hother
          obtain ⟨child, hchild, hrest⟩ := Option.bind_eq_some_iff.1 hother
          rcases List.cons_lt_cons_iff.1 hlt with hindex | ⟨rfl, hbelow⟩
          · obtain ⟨node, hspells⟩ := hbefore index hindex child hchild
            exact hspells.keepsRules_at hrest
          · obtain rfl := Option.some.inj (hinner.symm.trans hchild)
            exact hearlier rest hbelow other hrest

/-- A value is refused at a place exactly if that is the first place at which a rule is broken. -/
theorem parse_error_iff_isLeast {value : Json} {place : List Nat} :
    (∃ fault, (parse [] value).value = .error fault ∧ fault.place = some place) ↔
      IsLeast value.brokenPlaces place := by
  have hleast {fault : Fault} (h : (parse [] value).value = .error fault) :
      ∃ below, fault.place = some below ∧ IsLeast value.brokenPlaces below := by
    obtain ⟨below, item, hplace, hitem, hbreaks, hearlier⟩ := parse_blames_first h
    refine ⟨below, hplace, ⟨item, fault.cause, hitem, hbreaks⟩, ?_⟩
    rintro other ⟨inner, cause, hinner, hbroken⟩
    exact le_of_not_gt fun hlt ↦ hearlier other hlt inner hinner cause hbroken
  constructor
  · rintro ⟨fault, hfault, hplace⟩
    obtain ⟨below, hbelow, h⟩ := hleast hfault
    rwa [Option.some.inj (hplace.symm.trans hbelow)]
  · intro h
    cases hread : (parse [] value).value with
    | ok node =>
      obtain ⟨item, cause, hitem, hbreaks⟩ := h.1
      exact absurd hbreaks ((parse_eq_ok_iff.1 hread).keepsRules_at hitem cause)
    | error fault =>
      obtain ⟨below, hbelow, hother⟩ := hleast hread
      exact ⟨fault, rfl, hother.unique h ▸ hbelow⟩

end Node

/-! ## Documents -/

/-- A value that cannot be a document, whatever its root may be: neither null nor an object, or an
object that says something but has neither a root nor a kind. -/
def Json.IsForeign (value : Json) : Prop :=
  value.shape ≠ .null ∧ value.shape ≠ .object ∨
    ∃ members, value = .object members ∧ members ≠ [] ∧ members.lookup "root" = none ∧
      members.lookup "nodeType" = none

namespace Condition

theorem parseRoot_eq_error {value : Json} {fault : Fault}
    (h : (parseRoot value).value = .error fault) : (Node.parse [] value).value = .error fault := by
  unfold parseRoot at h
  split at h
  · cases h
  · exact Node.map_eq_error h

/-- A refused document has no place to blame, or its root is refused. -/
theorem parseValue_eq_error {value : Json} {fault : Fault}
    (h : (parseValue value).value = .error fault) :
    fault.place = none ∧ value.IsForeign ∨ (Node.parse [] value.root).value = .error fault := by
  cases value with
  | null => cases h
  | bool | number | string | array =>
    rw [← Except.error.inj h]
    exact .inl ⟨rfl, .inl ⟨nofun, nofun⟩⟩
  | object members =>
    rw [Json.root]
    cases hroot : members.lookup "root" with
    | some root =>
      rw [parseValue_of_root hroot] at h
      exact .inr (parseRoot_eq_error h)
    | none =>
      by_cases hkind : (members.lookup "nodeType").isSome = true
      · rw [parseValue_of_bare hroot hkind] at h
        exact .inr (parseRoot_eq_error h)
      · cases members with
        | nil => cases h
        | cons member rest =>
          rw [parseValue, hroot] at h
          simp only [hkind] at h
          rw [← Except.error.inj h]
          have hnone := Option.not_isSome_iff_eq_none.1 hkind
          exact .inl ⟨rfl, .inr ⟨_, rfl, List.cons_ne_nil _ _, hroot, hnone⟩⟩

theorem exists_fault_of_isForeign {value : Json} (h : value.IsForeign) :
    ∃ fault, (parseValue value).value = .error fault ∧ fault.place = none := by
  rcases h with ⟨hnull, hobject⟩ | ⟨members, rfl, hmembers, hroot, hkind⟩
  · cases value with
    | null => exact absurd rfl hnull
    | object => exact absurd rfl hobject
    | bool | number | string | array => exact ⟨_, rfl, rfl⟩
  · cases members with
    | nil => exact absurd rfl hmembers
    | cons member rest =>
      rw [parseValue, hroot, hkind]
      exact ⟨_, rfl, rfl⟩

/-- The path of a fault is empty exactly for what cannot be a document.  Any other path leads from
the root through listed children to a value that breaks the rule it is blamed for, it leads to no
other place, and whatever comes before that place keeps the rules. -/
theorem fault_first (value : Json) :
    ((∃ fault, (parseValue value).value = .error fault ∧ fault.path = "") ↔ value.IsForeign) ∧
      ∀ fault, (parseValue value).value = .error fault → fault.path ≠ "" →
        ∃ place item, (∀ other, fault.path = Fault.pathTo other ↔ other = place) ∧
          value.root.nodeAt? place = some item ∧ item.Breaks fault.cause ∧
          ∀ earlier < place, ∀ before, value.root.nodeAt? earlier = some before →
            before.KeepsRules := by
  constructor
  · constructor
    · rintro ⟨fault, hfault, hpath⟩
      rcases parseValue_eq_error hfault with ⟨-, hforeign⟩ | hroot
      · exact hforeign
      · obtain ⟨below, -, hplace, -⟩ := Node.parse_blames_first hroot
        rw [Fault.path_eq_empty_iff.1 hpath] at hplace
        cases hplace
    · intro h
      obtain ⟨fault, hfault, hplace⟩ := exists_fault_of_isForeign h
      exact ⟨fault, hfault, Fault.path_eq_empty_iff.2 hplace⟩
  · intro fault hfault hpath
    rcases parseValue_eq_error hfault with ⟨hplace, -⟩ | hroot
    · exact absurd (Fault.path_eq_empty_iff.2 hplace) hpath
    · obtain ⟨place, item, hplace, hitem⟩ := Node.parse_blames_first hroot
      refine ⟨place, item, fun other ↦ ?_, hitem⟩
      rw [Fault.path_eq_pathTo hplace, List.nil_append, Fault.pathTo_injective.eq_iff, eq_comm]

/-- A group inside a group with a connective that there is not, before a number that is no node. -/
theorem fault_first_nested :
    let inner := Json.object [("nodeType", .string "GROUP"), ("operator", .string "XOR")]
    let middle := Json.object [("nodeType", .string "GROUP"),
      ("children", .array [inner, .number (.integer 17)])]
    let outer := Json.object [("nodeType", .string "GROUP"), ("children", .array [
      .object [("nodeType", .string "TEXT"), ("operator", .array [])], middle])]
    let fault : Fault := ⟨some [1, 0], .connectiveUnknown (.string "XOR")⟩
    (parseValue (.object [("root", outer)])).value = .error fault ∧
      fault.path = "root.children[1].children[0]" ∧ outer.nodeAt? [1, 0] = some inner ∧
      inner.Breaks fault.cause ∧
      ∀ earlier < [1, 0], ∀ before, outer.nodeAt? earlier = some before → before.KeepsRules := by
  intro inner middle outer fault
  have hfault : (parseValue (.object [("root", outer)])).value = .error fault := rfl
  have hpath : fault.path = "root.children[1].children[0]" := by decide
  obtain ⟨place, item, hplace, hitem, hbreaks, hearlier⟩ :=
    (fault_first (.object [("root", outer)])).2 fault hfault (by rw [hpath]; decide)
  obtain rfl := (hplace [1, 0]).1 (Fault.path_eq_pathTo rfl)
  obtain rfl : inner = item := Option.some.inj hitem
  exact ⟨hfault, hpath, hitem, hbreaks, hearlier⟩

end Condition

end CardFilter
