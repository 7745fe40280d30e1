import CardFilter.Text.Blank
import CardFilter.Text.EditDistance

/-!
# Kinds of leaves and their tests

A leaf of a condition looks at one property of a card.  Its kind says which sort of property that
is, and with it which relations may be tested and what each of them is compared with.

There are two tables of that.  `Kind.relations` is what may be chosen: an editor offers these
relations, and legality is judged by them.  `Kind.forms` is what a test can be: it says how a test
is written and read, and what it is compared with.  Neither is made from the other.
-/

namespace CardFilter

/-- What a leaf looks at. -/
inductive Kind
  | text
  | title
  | code
  | number
  | date
  | enum
  | status
  | webUrl
  | link
  | cardCycle
  | createdBy
  | updatedBy
deriving DecidableEq, Repr

/-- How a property is compared. -/
inductive Relation
  | contains
  | notContains
  | startsWith
  | endsWith
  | eq
  | ne
  | gt
  | ge
  | lt
  | le
  | between
  | before
  | after
  | oneOf
  | notOneOf
  | reached
  | notReached
  | passed
  | hasAny
  | isEmpty
  | isNotEmpty
  | isCurrentUser
  | isNotCurrentUser
deriving DecidableEq, Repr

/-- What an identifier inside a comparison value stands for. -/
inductive IdSort
  | option
  | status
  | user
deriving DecidableEq, Repr

/-- What a property is compared with. -/
inductive Slot
  | nothing
  | text
  | number
  | numberRange
  | date
  | dateRange
  | one (sort : IdSort)
  | many (sort : IdSort)
  | cards
  | cycles
deriving DecidableEq, Repr

/-- A form of test: the tag that it has in JSON, the relation that it tests, and what it compares
with. -/
structure TestForm where
  tag : String
  relation : Relation
  slot : Slot
deriving DecidableEq, Repr

/-- How the thing looked at is named. -/
inductive SubjectForm
  /-- Not at all: the kind says it. -/
  | implied
  /-- By an identifier under this member. -/
  | keyed (member : String)
  /-- By a built-in date of the card, or by the identifier of a date field. -/
  | date
deriving DecidableEq, Repr

namespace Relation

def all : List Relation := [
  .contains, .notContains, .startsWith, .endsWith, .eq, .ne, .gt, .ge, .lt, .le, .between, .before,
  .after, .oneOf, .notOneOf, .reached, .notReached, .passed, .hasAny, .isEmpty, .isNotEmpty,
  .isCurrentUser, .isNotCurrentUser]

def name : Relation → String
  | .contains => "CONTAINS"
  | .notContains => "NOT_CONTAINS"
  | .startsWith => "STARTS_WITH"
  | .endsWith => "ENDS_WITH"
  | .eq => "EQ"
  | .ne => "NE"
  | .gt => "GT"
  | .ge => "GE"
  | .lt => "LT"
  | .le => "LE"
  | .between => "BETWEEN"
  | .before => "BEFORE"
  | .after => "AFTER"
  | .oneOf => "IN"
  | .notOneOf => "NOT_IN"
  | .reached => "REACHED"
  | .notReached => "NOT_REACHED"
  | .passed => "PASSED"
  | .hasAny => "HAS_ANY"
  | .isEmpty => "IS_EMPTY"
  | .isNotEmpty => "IS_NOT_EMPTY"
  | .isCurrentUser => "IS_CURRENT_USER"
  | .isNotCurrentUser => "IS_NOT_CURRENT_USER"

/-- Presence and the current user are tested without a comparison value. -/
def needsValue : Relation → Bool
  | .isEmpty | .isNotEmpty | .hasAny | .isCurrentUser | .isNotCurrentUser => false
  | _ => true

end Relation

namespace Kind

def all : List Kind := [
  .text, .title, .code, .number, .date, .enum, .status, .webUrl, .link, .cardCycle, .createdBy,
  .updatedBy]

def name : Kind → String
  | .text => "TEXT"
  | .title => "TITLE"
  | .code => "CODE"
  | .number => "NUMBER"
  | .date => "DATE"
  | .enum => "ENUM"
  | .status => "STATUS"
  | .webUrl => "WEB_URL"
  | .link => "LINK"
  | .cardCycle => "CARD_CYCLE"
  | .createdBy => "CREATED_BY"
  | .updatedBy => "UPDATED_BY"

/-- The kind of exactly this name. -/
def ofName? (name : String) : Option Kind := all.find? fun kind ↦ kind.name == name

/-- The kind meant by a name as people type it: in any case, with spaces around it, with hyphens for
underscores. -/
def ofTyped? (text : String) : Option Kind :=
  let name := (Text.upperTrimmed text).map fun c ↦ if c = '-' then '_' else c
  all.find? fun kind ↦ kind.name.toList == name

/-- How far a typed name is from the name of a kind. -/
def distance (typed : List Char) (kind : Kind) : Nat := Text.editDistance typed kind.name.toList

/-- The names at most `limit` edits away from a typed name: nearest first, equally near ones by
name. -/
def suggestions (text : String) (limit : Nat) : List String :=
  let typed := Text.upperTrimmed text
  let near := (all.map fun kind ↦ (kind.distance typed, kind.name)).filter (·.1 ≤ limit)
  (near.mergeSort fun a b ↦ a.1 < b.1 || (a.1 == b.1 && !decide (b.2 < a.2))).map (·.2)

/-- The relations that a kind admits, in order. -/
def relations : Kind → List Relation
  | .text | .title | .code => [
    .contains, .notContains, .startsWith, .endsWith, .eq, .ne, .isEmpty, .isNotEmpty]
  | .number => [.eq, .ne, .gt, .ge, .lt, .le, .between, .isEmpty, .isNotEmpty]
  | .date => [.before, .after, .eq, .between, .isEmpty, .isNotEmpty]
  | .enum => [.eq, .ne, .oneOf, .notOneOf, .isEmpty, .isNotEmpty]
  | .status => [.eq, .reached, .notReached, .passed, .oneOf, .notOneOf]
  | .webUrl => [.isEmpty, .isNotEmpty]
  | .link => [.hasAny, .isEmpty, .oneOf, .notOneOf]
  | .cardCycle => [.oneOf]
  | .createdBy | .updatedBy => [.isCurrentUser, .isNotCurrentUser, .eq, .ne, .oneOf, .notOneOf]

def allows (kind : Kind) (relation : Relation) : Bool := kind.relations.contains relation

def subjectForm : Kind → SubjectForm
  | .text | .number | .enum | .webUrl => .keyed "fieldId"
  | .status => .keyed "streamId"
  | .link => .keyed "linkFieldId"
  | .date => .date
  | .title | .code | .cardCycle | .createdBy | .updatedBy => .implied

end Kind

namespace TestForm

def texts : List TestForm := [
  ⟨"CONTAINS", .contains, .text⟩,
  ⟨"NOT_CONTAINS", .notContains, .text⟩,
  ⟨"STARTS_WITH", .startsWith, .text⟩,
  ⟨"ENDS_WITH", .endsWith, .text⟩,
  ⟨"EQ", .eq, .text⟩,
  ⟨"NE", .ne, .text⟩,
  ⟨"IS_EMPTY", .isEmpty, .nothing⟩,
  ⟨"IS_NOT_EMPTY", .isNotEmpty, .nothing⟩]

def numbers : List TestForm := [
  ⟨"EQ", .eq, .number⟩,
  ⟨"NE", .ne, .number⟩,
  ⟨"GT", .gt, .number⟩,
  ⟨"GE", .ge, .number⟩,
  ⟨"LT", .lt, .number⟩,
  ⟨"LE", .le, .number⟩,
  ⟨"BETWEEN", .between, .numberRange⟩,
  ⟨"IS_EMPTY", .isEmpty, .nothing⟩,
  ⟨"IS_NOT_EMPTY", .isNotEmpty, .nothing⟩]

def dates : List TestForm := [
  ⟨"BEFORE", .before, .date⟩,
  ⟨"AFTER", .after, .date⟩,
  ⟨"EQ", .eq, .date⟩,
  ⟨"BETWEEN", .between, .dateRange⟩,
  ⟨"IS_EMPTY", .isEmpty, .nothing⟩,
  ⟨"IS_NOT_EMPTY", .isNotEmpty, .nothing⟩]

def enums : List TestForm := [
  ⟨"EQ", .eq, .one .option⟩,
  ⟨"NE", .ne, .one .option⟩,
  ⟨"IN", .oneOf, .many .option⟩,
  ⟨"NOT_IN", .notOneOf, .many .option⟩,
  ⟨"IS_EMPTY", .isEmpty, .nothing⟩,
  ⟨"IS_NOT_EMPTY", .isNotEmpty, .nothing⟩]

def statuses : List TestForm := [
  ⟨"EQ", .eq, .one .status⟩,
  ⟨"REACHED", .reached, .one .status⟩,
  ⟨"NOT_REACHED", .notReached, .one .status⟩,
  ⟨"PASSED", .passed, .one .status⟩,
  ⟨"IN", .oneOf, .many .status⟩,
  ⟨"NOT_IN", .notOneOf, .many .status⟩]

def webUrls : List TestForm := [
  ⟨"IS_EMPTY", .isEmpty, .nothing⟩,
  ⟨"IS_NOT_EMPTY", .isNotEmpty, .nothing⟩]

def links : List TestForm := [
  ⟨"HAS_ANY", .hasAny, .nothing⟩,
  ⟨"IS_EMPTY", .isEmpty, .nothing⟩,
  ⟨"IN", .oneOf, .cards⟩,
  ⟨"NOT_IN", .notOneOf, .cards⟩]

def cardCycles : List TestForm := [⟨"IN", .oneOf, .cycles⟩]

def users : List TestForm := [
  ⟨"IS_CURRENT_USER", .isCurrentUser, .nothing⟩,
  ⟨"IS_NOT_CURRENT_USER", .isNotCurrentUser, .nothing⟩,
  ⟨"EQ", .eq, .one .user⟩,
  ⟨"NE", .ne, .one .user⟩,
  ⟨"IN", .oneOf, .many .user⟩,
  ⟨"NOT_IN", .notOneOf, .many .user⟩]

end TestForm

/-- The forms that a test of the kind can have. -/
def Kind.forms : Kind → List TestForm
  | .text | .title | .code => TestForm.texts
  | .number => TestForm.numbers
  | .date => TestForm.dates
  | .enum => TestForm.enums
  | .status => TestForm.statuses
  | .webUrl => TestForm.webUrls
  | .link => TestForm.links
  | .cardCycle => TestForm.cardCycles
  | .createdBy | .updatedBy => TestForm.users

end CardFilter
