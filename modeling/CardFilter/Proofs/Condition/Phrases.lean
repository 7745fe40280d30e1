import CardFilter.Proofs.Condition.Leaves
import CardFilter.Proofs.Condition.Nodes
import CardFilter.Proofs.Text.Tokens

/-!
# Leaves on the line

A leaf is put on the line as a phrase: the way, the kind, the identity, the relation and what is
compared with.  Each part is told from what follows it when identifiers and dates are words.  What
is compared with is told only among values of one form; the kind and the relation say which.

A date that is given by a token and a date that is given by its text look the same when the texts
are the same, and this is all that a leaf does not show.
-/

namespace CardFilter

open Text (IsWord Ends ends_cons)

/-! ## Names -/

theorem Kind.isWord_name (kind : Kind) : IsWord kind.name.toList := by
  cases kind <;> decide

theorem Relation.isWord_name (relation : Relation) : IsWord relation.name.toList := by
  cases relation <;> decide

theorem Connective.isWord_name (connective : Connective) : IsWord connective.name.toList := by
  cases connective <;> decide

theorem Cycle.isWord_name (cycle : Cycle) : IsWord cycle.name.toList := by
  cases cycle <;> decide

theorem Relation.name_injective : Function.Injective Relation.name := by
  have hnames : (all.map name).Nodup := by decide
  have hall (relation : Relation) : relation ∈ all := by cases relation <;> decide
  exact fun relation other ↦ List.inj_on_of_nodup_map hnames (hall relation) (hall other)

theorem Connective.name_injective : Function.Injective Connective.name := by
  intro connective other h
  cases connective <;> cases other <;> first | rfl | exact absurd h (by decide)

theorem Cycle.name_injective : Function.Injective Cycle.name := by
  intro cycle other h
  cases cycle <;> cases other <;> first | rfl | exact absurd h (by decide)

theorem SystemDate.name_injective : Function.Injective SystemDate.name := by
  intro date other h
  cases date <;> cases other <;> first | rfl | exact absurd h (by decide)

/-! ## Lists of names -/

/-- Whether separators and the end of a list are told from names and from one another. -/
structure Divides (separator : String) (close : Char) : Prop where
  marked : ∃ first more, separator.toList = first :: more ∧ Text.isWordChar first = false ∧
    first ≠ close
  closed : Text.isWordChar close = false

theorem divides_items : Divides ", " ']' := ⟨⟨',', [' '], by decide⟩, by decide⟩

theorem divides_hops : Divides " > " ')' := ⟨⟨' ', ['>', ' '], by decide⟩, by decide⟩

/-- What stands behind the first name of a list. -/
def separated (separator : String) (names : List String) : List Char :=
  names.flatMap fun name ↦ separator.toList ++ name.toList

theorem separated_cons (separator name : String) (names : List String) :
    separated separator (name :: names) =
      separator.toList ++ (name.toList ++ separated separator names) := by
  rw [separated, List.flatMap_cons, List.append_assoc, separated]

theorem joinedNames_cons (separator name : String) (names : List String) :
    joinedNames separator (name :: names) = name.toList ++ separated separator names := by
  induction names generalizing name with
  | nil => simp [joinedNames, joined, separated]
  | cons other names ih =>
    have hstep : joinedNames separator (name :: other :: names) =
        name.toList ++ separator.toList ++ joinedNames separator (other :: names) :=
      List.intercalate_cons_cons
    rw [hstep, ih, separated_cons, List.append_assoc]

section Names

variable {separator : String} {close : Char} {names others : List String}
  {rest behind : List Char}

theorem Divides.ends_separated (h : Divides separator close) (names : List String)
    (rest : List Char) : Ends (separated separator names ++ close :: rest) := by
  obtain ⟨first, more, hseparator, hfirst, -⟩ := h.marked
  cases names with
  | nil => exact ends_cons h.closed rest
  | cons name names =>
    rw [separated_cons, hseparator]
    exact ends_cons hfirst _

theorem Divides.cons_ne (h : Divides separator close) (name : String) :
    close :: rest ≠ separated separator (name :: names) ++ behind := by
  obtain ⟨first, more, hseparator, -, hne⟩ := h.marked
  rw [separated_cons, hseparator]
  exact fun heq ↦ hne (List.cons.inj heq).1.symm

theorem separated_append_inj (hdivides : Divides separator close)
    (hnames : ∀ name ∈ names, IsWord name.toList) (hothers : ∀ name ∈ others, IsWord name.toList)
    (h : separated separator names ++ close :: rest =
      separated separator others ++ close :: behind) : names = others ∧ rest = behind := by
  induction names generalizing others with
  | nil =>
    cases others with
    | nil => exact ⟨rfl, (List.cons.inj h).2⟩
    | cons other others => exact absurd h (hdivides.cons_ne other)
  | cons name names ih =>
    cases others with
    | nil => exact absurd h.symm (hdivides.cons_ne name)
    | cons other others =>
      rw [List.forall_mem_cons] at hnames hothers
      simp only [separated_cons, List.append_assoc, List.append_cancel_left_eq] at h
      obtain ⟨hname, hnext⟩ := hnames.1.append_inj hothers.1
        (hdivides.ends_separated names rest) (hdivides.ends_separated others behind) h
      obtain ⟨rfl, hrest⟩ := ih hnames.2 hothers.2 hnext
      exact ⟨by rw [String.toList_inj.1 hname], hrest⟩

theorem joinedNames_append_inj (hdivides : Divides separator close)
    (hnames : ∀ name ∈ names, IsWord name.toList) (hothers : ∀ name ∈ others, IsWord name.toList)
    (h : joinedNames separator names ++ close :: rest =
      joinedNames separator others ++ close :: behind) : names = others ∧ rest = behind := by
  cases names with
  | nil =>
    cases others with
    | nil => exact ⟨rfl, (List.cons.inj h).2⟩
    | cons other others =>
      rw [joinedNames_cons, List.append_assoc] at h
      exact absurd h ((hothers other List.mem_cons_self).cons_ne_append hdivides.closed)
  | cons name names =>
    cases others with
    | nil =>
      rw [joinedNames_cons, List.append_assoc] at h
      exact absurd h.symm ((hnames name List.mem_cons_self).cons_ne_append hdivides.closed)
    | cons other others =>
      rw [List.forall_mem_cons] at hnames hothers
      rw [joinedNames_cons, joinedNames_cons, List.append_assoc, List.append_assoc] at h
      obtain ⟨hname, hnext⟩ := hnames.1.append_inj hothers.1
        (hdivides.ends_separated names rest) (hdivides.ends_separated others behind) h
      obtain ⟨rfl, hrest⟩ := separated_append_inj hdivides hnames.2 hothers.2 hnext
      exact ⟨by rw [String.toList_inj.1 hname], hrest⟩

theorem bracketed_append_inj (hnames : ∀ name ∈ names, IsWord name.toList)
    (hothers : ∀ name ∈ others, IsWord name.toList)
    (h : bracketed names ++ rest = bracketed others ++ behind) :
    names = others ∧ rest = behind := by
  simp only [bracketed, List.cons_append, List.append_assoc, List.cons.injEq, true_and] at h
  exact joinedNames_append_inj divides_items hnames hothers h

end Names

/-! ## Paths -/

/-- A way may be missing, and then the name of a kind stands in its place. -/
def pathChars (path : Option Path) : List Char := (path.map Path.chars).getD []

theorem Path.chars_append (way : Path) (rest : List Char) :
    way.chars ++ rest = "via(".toList ++ (joinedNames " > " way.hops ++ ')' :: ' ' :: rest) := by
  have hopened := List.append_assoc ("via(".toList ++ joinedNames " > " way.hops) [')', ' '] rest
  exact hopened.trans (List.append_assoc _ _ _)

theorem pathChars_append_inj {path other : Option Path} {kind otherKind : Kind}
    {rest behind : List Char} (hpath : ∀ way ∈ path, ∀ hop ∈ way.hops, IsWord hop.toList)
    (hother : ∀ way ∈ other, ∀ hop ∈ way.hops, IsWord hop.toList)
    (h : pathChars path ++ (kind.name.toList ++ rest) =
      pathChars other ++ (otherKind.name.toList ++ behind)) :
    path = other ∧ kind.name.toList ++ rest = otherKind.name.toList ++ behind := by
  -- Names of kinds are in capital letters, and ways begin with a small one.
  have hkind (kind : Kind) (way : Path) (rest behind : List Char) :
      kind.name.toList ++ rest ≠ way.chars ++ behind := by
    cases kind <;> exact fun heq ↦ absurd (List.cons.inj heq).1 (by decide)
  match path, other with
  | none, none => exact ⟨rfl, h⟩
  | none, some way => exact absurd h (hkind kind way rest _)
  | some way, none => exact absurd h.symm (hkind otherKind way behind _)
  | some way, some another =>
    have hways := (way.chars_append _).symm.trans (h.trans (another.chars_append _))
    obtain ⟨hsame, hrest⟩ := joinedNames_append_inj divides_hops (hpath way rfl)
      (hother another rfl) (List.append_cancel_left hways)
    refine ⟨?_, (List.cons.inj hrest).2⟩
    cases way
    cases another
    exact congrArg (fun hops ↦ some (Path.mk hops)) hsame

/-! ## Identities -/

/-- Whether an identity is a word in brackets that is no other identity of its kind. -/
inductive Identity.IsLegible (kind : Kind) : Identity → Prop
  | implied : IsLegible kind .implied
  | named {id : String} : IsWord id.toList → (kind = .date → ':' ∉ id.toList) →
    IsLegible kind (.named id)
  | system (field : SystemDate) : kind = .date → IsLegible kind (.system (some field))

namespace Identity

/-- What stands in brackets. -/
def word : Identity → List Char
  | .implied => []
  | .named id => id.toList
  | .system field => "SYSTEM:".toList ++ orUnknown SystemDate.chars field

variable {kind : Kind} {identity other : Identity} {rest behind : List Char}

theorem chars_append (h : identity ≠ .implied) (rest : List Char) :
    identity.chars ++ rest = '[' :: (identity.word ++ ']' :: rest) := by
  cases identity with
  | implied => exact absurd rfl h
  | named id => exact congrArg (List.cons '[') (List.append_assoc id.toList [']'] rest)
  | system field => rcases field with _ | _ | _ | _ | _ <;> rfl

theorem IsLegible.isWord (h : identity.IsLegible kind) (hsome : identity ≠ .implied) :
    IsWord identity.word := by
  cases h with
  | implied => exact absurd rfl hsome
  | named hid => exact hid
  | system field => cases field <;> decide

theorem IsLegible.eq_of_word (h : identity.IsLegible kind) (hother : other.IsLegible kind)
    (hsome : identity ≠ .implied) (hothers : other ≠ .implied)
    (hword : identity.word = other.word) : identity = other := by
  -- A colon tells a date of the card from a field of the user.
  have hcolon {field : SystemDate} {chars : List Char}
      (h : chars = (Identity.system (some field)).word) : ':' ∈ chars := by
    rw [h]
    cases field <;> decide
  cases h with
  | implied => exact absurd rfl hsome
  | named _ hplain =>
    cases hother with
    | implied => exact absurd rfl hothers
    | named => exact congrArg Identity.named (String.toList_inj.1 hword)
    | system field hkind => exact absurd (hcolon hword) (hplain hkind)
  | system field hkind =>
    cases hother with
    | implied => exact absurd rfl hothers
    | named _ hplain => exact absurd (hcolon hword.symm) (hplain hkind)
    | system another =>
      have hname := List.append_cancel_left hword
      rw [SystemDate.name_injective (String.toList_inj.1 hname)]

theorem chars_append_inj (hidentity : identity.IsLegible kind) (hother : other.IsLegible kind)
    (h : identity.chars ++ ' ' :: rest = other.chars ++ ' ' :: behind) :
    identity = other ∧ ' ' :: rest = ' ' :: behind := by
  by_cases hsome : identity = .implied <;> by_cases hothers : other = .implied
  · subst hsome hothers
    exact ⟨rfl, h⟩
  · rw [hsome, chars_append hothers] at h
    exact absurd (List.cons.inj h).1 (by decide)
  · rw [hothers, chars_append hsome] at h
    exact absurd (List.cons.inj h).1 (by decide)
  · rw [chars_append hsome, chars_append hothers] at h
    obtain ⟨hword, hrest⟩ := (hidentity.isWord hsome).append_inj (hother.isWord hothers)
      (ends_cons (by decide) _) (ends_cons (by decide) _) (List.cons.inj h).2
    exact ⟨hidentity.eq_of_word hother hsome hothers hword, (List.cons.inj hrest).2⟩

end Identity

/-! ## Comparison values -/

/-- A date that is known by its text alone. -/
def DateValue.visible (value : DateValue) : DateValue := .specific value.content

theorem DateValue.chars_eq (value : DateValue) : value.chars = value.content.toList := by
  cases value <;> rfl

theorem DateValue.visible_eq {value other : DateValue}
    (h : value.content.toList = other.content.toList) : value.visible = other.visible :=
  congrArg DateValue.specific (String.toList_inj.1 h)

namespace Operand

/-- What shows of a comparison value. -/
def visible : Operand → Operand
  | .date value => .date (value.map DateValue.visible)
  | .dateRange lower upper => .dateRange (lower.map DateValue.visible) (upper.map DateValue.visible)
  | operand => operand

theorem slot_visible (operand : Operand) : operand.visible.slot = operand.slot := by
  cases operand <;> rfl

theorem chars_visible (operand : Operand) : operand.visible.chars = operand.chars := by
  cases operand with
  | date value => rcases value with _ | _ | _ <;> rfl
  | dateRange lower upper =>
    rcases lower with _ | _ | _ <;> rcases upper with _ | _ | _ <;> rfl
  | _ => rfl

/-- Whether a value is there and is made of words, except for texts, which are quoted. -/
inductive IsLegible : Operand → Prop
  | nothing : IsLegible .nothing
  | text (value : String) : IsLegible (.text value)
  | number {id : String} : IsWord id.toList → IsLegible (.number (some (.reference id)))
  | numberRange {lower upper : String} : IsWord lower.toList → IsWord upper.toList →
    IsLegible (.numberRange (some (.reference lower)) (some (.reference upper)))
  | date {value : DateValue} : IsWord value.content.toList → IsLegible (.date (some value))
  | dateRange {lower upper : DateValue} : IsWord lower.content.toList →
    IsWord upper.content.toList → IsLegible (.dateRange (some lower) (some upper))
  | one {sort : IdSort} {id : String} : IsWord id.toList → IsLegible (.one sort id)
  | many {sort : IdSort} {ids : List String} : (∀ id ∈ ids, IsWord id.toList) →
    IsLegible (.many sort ids)
  | cards {ids : List String} : (∀ id ∈ ids, IsWord id.toList) → IsLegible (.cards (some ids))
  | cycles (values : List Cycle) : IsLegible (.cycles values)

theorem ends_chars (operand : Operand) {rest : List Char} (h : Ends rest) :
    Ends (operand.chars ++ rest) := by
  cases operand with
  | nothing => exact h
  | _ => exact ends_cons (by decide) _

theorem chars_append_inj {operand other : Operand} {rest behind : List Char}
    (hoperand : operand.IsLegible) (hother : other.IsLegible) (hslot : operand.slot = other.slot)
    (hrest : Ends rest) (hbehind : Ends behind)
    (h : operand.chars ++ rest = other.chars ++ behind) :
    operand.visible = other.visible ∧ rest = behind := by
  cases hoperand with
  | nothing =>
    cases hother with
    | nothing => exact ⟨rfl, h⟩
    | _ => cases hslot
  | text value =>
    cases hother with
    | text another =>
      obtain ⟨rfl, hsame⟩ := Text.quoted_append_inj (List.cons.inj h).2
      exact ⟨rfl, hsame⟩
    | _ => cases hslot
  | number hid =>
    cases hother with
    | number hanother =>
      obtain ⟨hsame, hnext⟩ := hid.append_inj hanother hrest hbehind
        (List.cons.inj (List.cons.inj h).2).2
      exact ⟨by rw [String.toList_inj.1 hsame], hnext⟩
    | _ => cases hslot
  | numberRange hlower hupper =>
    cases hother with
    | numberRange hlower' hupper' =>
      simp only [chars, orUnknown, Option.map_some, Option.getD_some, NumberValue.chars,
        List.cons_append, List.append_assoc, List.cons.injEq, true_and] at h
      obtain ⟨hlowers, huppers, hsame⟩ :=
        hlower.range_append_inj hlower' hupper hupper' hrest hbehind ['$'] h
      exact ⟨by rw [String.toList_inj.1 hlowers, String.toList_inj.1 huppers], hsame⟩
    | _ => cases hslot
  | date hvalue =>
    cases hother with
    | date hanother =>
      simp only [chars, orUnknown, Option.map_some, Option.getD_some, DateValue.chars_eq,
        List.cons_append, List.cons.injEq, true_and] at h
      obtain ⟨hcontent, hsame⟩ := hvalue.append_inj hanother hrest hbehind h
      exact ⟨by simp only [visible, Option.map_some, DateValue.visible_eq hcontent], hsame⟩
    | _ => cases hslot
  | dateRange hlower hupper =>
    cases hother with
    | dateRange hlower' hupper' =>
      simp only [chars, orUnknown, Option.map_some, Option.getD_some, DateValue.chars_eq,
        List.cons_append, List.append_assoc, List.cons.injEq, true_and] at h
      obtain ⟨hlowers, huppers, hsame⟩ :=
        hlower.range_append_inj hlower' hupper hupper' hrest hbehind [] h
      refine ⟨?_, hsame⟩
      simp only [visible, Option.map_some, DateValue.visible_eq hlowers,
        DateValue.visible_eq huppers]
    | _ => cases hslot
  | one hid =>
    cases hother with
    | one hanother =>
      cases hslot
      obtain ⟨hsame, hnext⟩ := hid.append_inj hanother hrest hbehind (List.cons.inj h).2
      exact ⟨by rw [String.toList_inj.1 hsame], hnext⟩
    | _ => cases hslot
  | many hids =>
    cases hother with
    | many hothers =>
      cases hslot
      obtain ⟨rfl, hnext⟩ := bracketed_append_inj hids hothers (List.cons.inj h).2
      exact ⟨rfl, hnext⟩
    | _ => cases hslot
  | cards hids =>
    cases hother with
    | cards hothers =>
      obtain ⟨rfl, hnext⟩ := bracketed_append_inj hids hothers (List.cons.inj h).2
      exact ⟨rfl, hnext⟩
    | _ => cases hslot
  | cycles values =>
    cases hother with
    | cycles others =>
      have hwords (values : List Cycle) : ∀ name ∈ values.map Cycle.name, IsWord name.toList :=
        List.forall_mem_map.2 fun value _ ↦ value.isWord_name
      obtain ⟨hnames, hsame⟩ := bracketed_append_inj (hwords values) (hwords others)
        (List.cons.inj h).2
      exact ⟨by rw [Cycle.name_injective.list_map hnames], hsame⟩
    | _ => cases hslot

end Operand

/-! ## Leaves -/

theorem Kind.form_unique (kind : Kind) : ∀ form ∈ kind.forms, ∀ other ∈ kind.forms,
    form.relation = other.relation → form = other := by
  cases kind <;> decide

/-- What shows of a test. -/
def Test.visible {kind : Kind} (test : Test kind) : Test kind where
  form := test.form
  operand := test.operand.visible
  listed := test.listed
  fits := test.operand.slot_visible.trans test.fits

theorem Test.chars_visible {kind : Kind} (test : Test kind) : test.visible.chars = test.chars := by
  have hrelation : test.visible.relation = test.relation := rfl
  rw [chars, chars, hrelation, visible, test.operand.chars_visible]

/-- The relation is read first, and says of which form the comparison value is. -/
theorem Test.chars_append_inj {kind : Kind} {test other : Test kind} {rest behind : List Char}
    (htest : test.operand.IsLegible) (hother : other.operand.IsLegible) (hrest : Ends rest)
    (hbehind : Ends behind) (h : test.chars ++ rest = other.chars ++ behind) :
    test.visible = other.visible ∧ rest = behind := by
  simp only [chars, List.cons_append, List.append_assoc, List.cons.injEq, true_and] at h
  obtain ⟨hname, hnext⟩ := test.relation.isWord_name.append_inj other.relation.isWord_name
    (test.operand.ends_chars hrest) (other.operand.ends_chars hbehind) h
  have hrelation := Relation.name_injective (String.toList_inj.1 hname)
  have hform := kind.form_unique _ test.listed _ other.listed hrelation
  have hslot : test.operand.slot = other.operand.slot := by rw [test.fits, other.fits, hform]
  obtain ⟨hoperand, hsame⟩ := Operand.chars_append_inj htest hother hslot hrest hbehind hnext
  refine ⟨?_, hsame⟩
  unfold visible
  congr

theorem Identity.ends_chars (identity : Identity) (rest : List Char) :
    Ends (identity.chars ++ ' ' :: rest) := by
  cases identity <;> exact ends_cons (by decide) _

namespace Leaf

/-- What shows of a leaf. -/
def visible (leaf : Leaf) : Leaf := { leaf with test := leaf.test.map Test.visible }

/-- Whether every part of a leaf is there and is told from what follows. -/
inductive IsLegible : Leaf → Prop
  | mk {kind : Kind} {subject : Subject kind} {test : Test kind} :
    (∀ way ∈ subject.path, ∀ hop ∈ way.hops, IsWord hop.toList) →
    subject.identity.IsLegible kind → test.operand.IsLegible →
    IsLegible ⟨kind, subject, some test⟩

variable {leaf other : Leaf} {rest behind : List Char}

theorem chars_visible (leaf : Leaf) : leaf.visible.chars = leaf.chars := by
  obtain ⟨kind, subject, _ | test⟩ := leaf
  · rfl
  · simp only [chars, visible, Option.map_some, test.chars_visible, Leaf.path]

theorem chars_append {kind : Kind} (subject : Subject kind) (test : Test kind) (rest : List Char) :
    chars ⟨kind, subject, some test⟩ ++ rest = pathChars subject.path ++
      (kind.name.toList ++ (subject.identity.chars ++ (test.chars ++ rest))) := by
  simp only [chars, Option.map_some, Option.getD_some, List.append_assoc, pathChars, Leaf.path]

theorem chars_append_inj (hleaf : leaf.IsLegible) (hother : other.IsLegible) (hrest : Ends rest)
    (hbehind : Ends behind) (h : leaf.chars ++ rest = other.chars ++ behind) :
    leaf.visible = other.visible ∧ rest = behind := by
  obtain @⟨kind, subject, test, hhops, hidentity, htest⟩ := hleaf
  obtain @⟨otherKind, another, otherTest, hothers, hidentities, htests⟩ := hother
  rw [chars_append, chars_append] at h
  obtain ⟨hpath, hkinds⟩ := pathChars_append_inj hhops hothers h
  obtain ⟨hname, hnext⟩ := kind.isWord_name.append_inj otherKind.isWord_name
    (subject.identity.ends_chars _) (another.identity.ends_chars _) hkinds
  obtain rfl := Kind.name_injective (String.toList_inj.1 hname)
  obtain ⟨hsame, hlast⟩ := Identity.chars_append_inj hidentity hidentities hnext
  have hsubject : subject = another := by
    cases subject
    cases another
    congr
  obtain ⟨hvisible, hbehind⟩ := Test.chars_append_inj htest htests hrest hbehind hlast
  refine ⟨?_, hbehind⟩
  simp only [visible, Option.map_some, hvisible, hsubject]

/-- A leaf begins with a letter. -/
theorem cons_ne_chars {c : Char} (hc : Text.isWordChar c = false) (leaf : Leaf) :
    c :: rest ≠ leaf.chars ++ behind := by
  obtain ⟨kind, ⟨identity, _ | path, _⟩, test⟩ := leaf
  · have hname := kind.isWord_name
    simp only [chars, Leaf.path, Option.map_none, Option.getD_none, List.nil_append,
      List.append_assoc]
    exact hname.cons_ne_append hc
  · intro h
    rw [(List.cons.inj h).1] at hc
    exact absurd hc (by decide)

end Leaf

end CardFilter
