import CardFilter.Condition.Kind
import CardFilter.Number.Binary64

/-!
# Conditions

A condition is an optional tree: groups combine their children, leaves test one property each.  An
unfinished leaf is a value like any other: its identifier may be blank, its test may be missing, and
a test may lack what it compares with.  What a leaf cannot hold is a subject or a test that does not
belong to its kind.

Whether a condition is finished is judged elsewhere, and so is what a card answers to it.
-/

namespace CardFilter

/-- The link fields that lead from a card to the one looked at. -/
structure Path where
  hops : List String
deriving DecidableEq, Repr

/-- The dates that every card has. -/
inductive SystemDate
  | createdAt
  | updatedAt
  | discardedAt
  | archivedAt
deriving DecidableEq, Repr

/-- The stages in the life of a card. -/
inductive Cycle
  | active
  | discarded
  | archived
deriving DecidableEq, Repr

/-- What a number is compared with: a literal, or another number field of the card. -/
inductive NumberValue
  | literal (value : Option Binary64)
  | reference (fieldId : String)
deriving DecidableEq, Repr

/-- What a date is compared with: a token such as `TODAY`, or the text of a date. -/
inductive DateValue
  | keyDate (token : String)
  | specific (text : String)
deriving DecidableEq, Repr

/-- The comparison value of a test. -/
inductive Operand
  | nothing
  | text (value : String)
  | number (value : Option NumberValue)
  | numberRange (lower upper : Option NumberValue)
  | date (value : Option DateValue)
  | dateRange (lower upper : Option DateValue)
  | one (sort : IdSort) (id : String)
  | many (sort : IdSort) (ids : List String)
  | cards (ids : Option (List String))
  | cycles (values : List Cycle)
deriving DecidableEq, Repr

def Operand.slot : Operand → Slot
  | .nothing => .nothing
  | .text _ => .text
  | .number _ => .number
  | .numberRange .. => .numberRange
  | .date _ => .date
  | .dateRange .. => .dateRange
  | .one sort _ => .one sort
  | .many sort _ => .many sort
  | .cards _ => .cards
  | .cycles _ => .cycles

@[simp] theorem Operand.slot_nothing : nothing.slot = .nothing := rfl

@[simp] theorem Operand.slot_text (value : String) : (text value).slot = .text := rfl

@[simp] theorem Operand.slot_cards (ids : Option (List String)) : (cards ids).slot = .cards := rfl

/-- A form of test of the kind, with a comparison value of the sort that it takes. -/
structure Test (kind : Kind) where
  form : TestForm
  operand : Operand
  listed : form ∈ kind.forms
  fits : operand.slot = form.slot
deriving DecidableEq

def Test.relation {kind : Kind} (test : Test kind) : Relation := test.form.relation

/-- Which thing is looked at. -/
inductive Identity
  | implied
  | named (id : String)
  | system (field : Option SystemDate)
deriving DecidableEq, Repr

def SubjectForm.admits : SubjectForm → Identity → Bool
  | .implied, .implied => true
  | .keyed _, .named _ => true
  | .date, .named _ => true
  | .date, .system _ => true
  | _, _ => false

@[simp] theorem SubjectForm.keyed_admits_named (member id : String) :
    (keyed member).admits (.named id) = true := rfl

@[simp] theorem SubjectForm.date_admits_named (id : String) : date.admits (.named id) = true := rfl

/-- The thing looked at and the way to it. -/
structure Subject (kind : Kind) where
  identity : Identity
  path : Option Path
  admitted : kind.subjectForm.admits identity = true
deriving DecidableEq

/-- The test of one property. -/
structure Leaf where
  kind : Kind
  subject : Subject kind
  test : Option (Test kind)
deriving DecidableEq

/-- How the children of a group are combined. -/
inductive Connective
  | and
  | or
deriving DecidableEq, Repr, Inhabited

inductive Node
  | group (connective : Connective) (children : List Node)
  | leaf (leaf : Leaf)

/-- A filter; without a root it admits every card. -/
structure Condition where
  root : Option Node

namespace SystemDate

def all : List SystemDate := [.createdAt, .updatedAt, .discardedAt, .archivedAt]

def name : SystemDate → String
  | .createdAt => "CREATED_AT"
  | .updatedAt => "UPDATED_AT"
  | .discardedAt => "DISCARDED_AT"
  | .archivedAt => "ARCHIVED_AT"

def named : List (String × SystemDate) := all.map fun date ↦ (date.name, date)

end SystemDate

namespace Cycle

def all : List Cycle := [.active, .discarded, .archived]

def name : Cycle → String
  | .active => "ACTIVE"
  | .discarded => "DISCARDED"
  | .archived => "ARCHIVED"

def named : List (String × Cycle) := all.map fun cycle ↦ (cycle.name, cycle)

end Cycle

namespace Connective

def all : List Connective := [.and, .or]

def name : Connective → String
  | .and => "AND"
  | .or => "OR"

def named : List (String × Connective) := all.map fun connective ↦ (connective.name, connective)

/-- The connective meant by a word as people type it; "all" and "any" are other words for the
two. -/
def ofTyped? (text : String) : Option Connective :=
  let word := String.ofList (Text.upperTrimmed text)
  if word = "AND" ∨ word = "ALL" then some .and
  else if word = "OR" ∨ word = "ANY" then some .or
  else none

end Connective

namespace Subject

variable {kind : Kind}

/-- The subject of a kind before anything is chosen: no identifier, and for a date the field
form. -/
def unset (kind : Kind) : Subject kind :=
  match h : kind.subjectForm with
  | .implied => ⟨.implied, none, by rw [h]; rfl⟩
  | .keyed _ => ⟨.named "", none, by rw [h]; rfl⟩
  | .date => ⟨.named "", none, by rw [h]; rfl⟩

def withPath (subject : Subject kind) (path : Option Path) : Subject kind :=
  { subject with path := path }

/-- The same subject looking at a field, where the kind can: the field's identifier is put in, and a
date becomes a field without a path.  A status is not a field, though it has an identifier. -/
def withField : {kind : Kind} → Subject kind → (fieldId : String) → Subject kind
  | .text, subject, fieldId | .number, subject, fieldId | .enum, subject, fieldId
  | .webUrl, subject, fieldId | .link, subject, fieldId =>
    ⟨.named fieldId, subject.path, SubjectForm.keyed_admits_named _ fieldId⟩
  | .date, _, fieldId => ⟨.named fieldId, none, SubjectForm.date_admits_named fieldId⟩
  | .title, subject, _ | .code, subject, _ | .status, subject, _ | .cardCycle, subject, _
  | .createdBy, subject, _ | .updatedBy, subject, _ => subject

end Subject

/-- A path without hops stays on the card, as no path does. -/
def normalPath : Option Path → Option Path
  | some ⟨[]⟩ => none
  | path => path

namespace Leaf

def path (leaf : Leaf) : Option Path := leaf.subject.path

def relation? (leaf : Leaf) : Option Relation := leaf.test.map (·.relation)

def withPath (path : Option Path) (leaf : Leaf) : Leaf :=
  { leaf with subject := leaf.subject.withPath path }

/-- A path without hops is dropped. -/
def normalize (leaf : Leaf) : Leaf := leaf.withPath (normalPath leaf.path)

end Leaf

namespace Node

def isGroup : Node → Bool
  | .group .. => true
  | .leaf _ => false

mutual

/-- Drops every path without hops below the node. -/
def normalize : Node → Node
  | .group connective children => .group connective (normalizeAll children)
  | .leaf item => .leaf item.normalize

def normalizeAll : List Node → List Node
  | [] => []
  | child :: rest => normalize child :: normalizeAll rest

end

mutual

def decEq : (a b : Node) → Decidable (a = b)
  | .leaf a, .leaf b =>
    if h : a = b then isTrue (congrArg Node.leaf h) else isFalse fun same ↦ h (Node.leaf.inj same)
  | .group c children, .group d others =>
    if h : c = d then
      match decEqAll children others with
      | isTrue same => isTrue (h ▸ same ▸ rfl)
      | isFalse differ => isFalse fun same ↦ differ (Node.group.inj same).2
    else isFalse fun same ↦ h (Node.group.inj same).1
  | .leaf _, .group .. => isFalse nofun
  | .group .., .leaf _ => isFalse nofun

def decEqAll : (a b : List Node) → Decidable (a = b)
  | [], [] => isTrue rfl
  | [], _ :: _ => isFalse nofun
  | _ :: _, [] => isFalse nofun
  | a :: as, b :: bs =>
    match decEq a b, decEqAll as bs with
    | isTrue first, isTrue others => isTrue (first ▸ others ▸ rfl)
    | isFalse differ, _ => isFalse fun same ↦ differ (List.cons.inj same).1
    | _, isFalse differ => isFalse fun same ↦ differ (List.cons.inj same).2

end

instance : DecidableEq Node := decEq

end Node

namespace Condition

instance : DecidableEq Condition := fun a b ↦
  if h : a.root = b.root then isTrue (by cases a; cases b; simpa using h)
  else isFalse fun same ↦ h (congrArg root same)

/-- The condition that admits every card. -/
def unfiltered : Condition := ⟨none⟩

def ofNode (node : Node) : Condition := ⟨some node⟩

def normalize (condition : Condition) : Condition := ⟨condition.root.map Node.normalize⟩

end Condition

end CardFilter
