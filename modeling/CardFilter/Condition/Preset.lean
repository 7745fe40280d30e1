import CardFilter.Calendar.Date
import CardFilter.Condition.Basic

/-!
# Presets

The leaves that an editor starts from.  Each kind has one preset; most of them still lack an
identifier or a comparison value.  A field of the database has a kind of its own, which decides the
kind of leaf that looks at it.
-/

namespace CardFilter

def DateValue.today : DateValue := .keyDate "TODAY"

def DateValue.ofDate (date : Date) : DateValue := .specific date.text

def NumberValue.ofBinary64 (value : Binary64) : NumberValue := .literal (some value)

namespace Test

open Operand (slot_nothing slot_text slot_cards)

def isToday : Test .date := ⟨⟨"EQ", .eq, .date⟩, .date (some .today), by decide, rfl⟩

def isBefore (value : DateValue) : Test .date :=
  ⟨⟨"BEFORE", .before, .date⟩, .date (some value), by decide, rfl⟩

def isAfter (value : DateValue) : Test .date :=
  ⟨⟨"AFTER", .after, .date⟩, .date (some value), by decide, rfl⟩

def isGreater (value : NumberValue) : Test .number :=
  ⟨⟨"GT", .gt, .number⟩, .number (some value), by decide, rfl⟩

def titleIs (value : String) : Test .title :=
  ⟨⟨"EQ", .eq, .text⟩, .text value, by decide, slot_text value⟩

def hasAny : Test .link := ⟨⟨"HAS_ANY", .hasAny, .nothing⟩, .nothing, by decide, slot_nothing⟩

def hasNone : Test .link := ⟨⟨"IS_EMPTY", .isEmpty, .nothing⟩, .nothing, by decide, slot_nothing⟩

def linksTo (ids : Option (List String)) : Test .link :=
  ⟨⟨"IN", .oneOf, .cards⟩, .cards ids, by decide, slot_cards ids⟩

def linksToNone (ids : Option (List String)) : Test .link :=
  ⟨⟨"NOT_IN", .notOneOf, .cards⟩, .cards ids, by decide, slot_cards ids⟩

/-- The test that a new leaf of the kind starts with. -/
def preset : (kind : Kind) → Test kind
  | .text => ⟨⟨"CONTAINS", .contains, .text⟩, .text "", by decide, rfl⟩
  | .title => ⟨⟨"CONTAINS", .contains, .text⟩, .text "", by decide, rfl⟩
  | .code => ⟨⟨"CONTAINS", .contains, .text⟩, .text "", by decide, rfl⟩
  | .number => ⟨⟨"EQ", .eq, .number⟩, .number none, by decide, rfl⟩
  | .date => isToday
  | .enum => ⟨⟨"IN", .oneOf, .many .option⟩, .many .option [], by decide, rfl⟩
  | .status => ⟨⟨"EQ", .eq, .one .status⟩, .one .status "", by decide, rfl⟩
  | .webUrl => ⟨⟨"IS_NOT_EMPTY", .isNotEmpty, .nothing⟩, .nothing, by decide, slot_nothing⟩
  | .link => hasAny
  | .cardCycle => ⟨⟨"IN", .oneOf, .cycles⟩, .cycles [.active], by decide, rfl⟩
  | .createdBy => ⟨⟨"IS_CURRENT_USER", .isCurrentUser, .nothing⟩, .nothing, by decide, slot_nothing⟩
  | .updatedBy => ⟨⟨"IS_CURRENT_USER", .isCurrentUser, .nothing⟩, .nothing, by decide, slot_nothing⟩

end Test

namespace Leaf

def preset (kind : Kind) : Leaf := ⟨kind, .unset kind, some (.preset kind)⟩

end Leaf

namespace Kind

/-- The kinds of fields that leaves can look at. -/
def fieldKinds : List (String × Kind) := [
  ("TEXT_FIELD", .text),
  ("MULTILINE_TEXT_FIELD", .text),
  ("NUMBER_FIELD", .number),
  ("DATE_FIELD", .date),
  ("SINGLE_SELECT_FIELD", .enum),
  ("MULTI_SELECT_FIELD", .enum),
  ("LINK_FIELD", .link),
  ("WEB_URL_FIELD", .webUrl)]

def ofField? (fieldKind : String) : Option Kind := fieldKinds.lookup fieldKind

/-- The kind of leaf for a kind of field; fields of an unknown kind are looked at as text. -/
def ofField (fieldKind : String) : Kind := (ofField? fieldKind).getD .text

/-- What is reported of a kind of field that is not known. -/
def unknownField (fieldKind : String) : String :=
  "no condition kind for field kind '" ++ fieldKind ++ "', falling back to TEXT"

end Kind

namespace Leaf

/-- The preset for a field, looking at that field. -/
def forField (fieldKind fieldId : String) : Leaf :=
  let kind := Kind.ofField fieldKind
  ⟨kind, (Subject.unset kind).withField fieldId, some (.preset kind)⟩

/-- A leaf on links; a path without hops is dropped. -/
def onLink (linkFieldId : String) (path : Option Path) (test : Test .link) : Leaf :=
  ⟨.link, ⟨.named linkFieldId, normalPath path, rfl⟩, some test⟩

def onNumber (fieldId : String) (test : Test .number) : Leaf :=
  ⟨.number, ⟨.named fieldId, none, rfl⟩, some test⟩

def onTitle (test : Test .title) : Leaf := ⟨.title, ⟨.implied, none, rfl⟩, some test⟩

def onSystemDate (field : SystemDate) (test : Test .date) : Leaf :=
  ⟨.date, ⟨.system (some field), none, rfl⟩, some test⟩

def onFieldDate (fieldId : String) (test : Test .date) : Leaf :=
  ⟨.date, ⟨.named fieldId, none, rfl⟩, some test⟩

end Leaf

namespace Condition

/-- A root group that waits for children. -/
def emptyGroup (connective : Connective) : Condition := .ofNode (.group connective [])

end Condition

end CardFilter
