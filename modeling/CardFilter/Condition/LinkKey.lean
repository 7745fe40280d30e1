import CardFilter.Text.Blank

/-!
# Keys of link fields

A link joins two cards, and a card sees it from one of its two ends.  The field for one end is named
by the identifier of the link's type and the end, with a colon between them.  The identifier may
hold colons itself: the last one separates.
-/

namespace CardFilter

/-- The ends of a link. -/
inductive LinkEnd
  | source
  | target
deriving DecidableEq, Repr

namespace LinkEnd

def all : List LinkEnd := [.source, .target]

def name : LinkEnd → String
  | .source => "SOURCE"
  | .target => "TARGET"

def named : List (String × LinkEnd) := all.map fun linkEnd ↦ (linkEnd.name, linkEnd)

def ofName? (name : String) : Option LinkEnd := named.lookup name

end LinkEnd

structure LinkKey where
  linkType : String
  linkEnd : LinkEnd
deriving DecidableEq, Repr

namespace LinkKey

def separator : Char := ':'

def text (key : LinkKey) : String :=
  String.ofList (key.linkType.toList ++ separator :: key.linkEnd.name.toList)

/-- Why a text is no key. -/
inductive Error
  | missingSeparator
  | emptyLinkType
  | unknownEnd (name : String)
deriving DecidableEq, Repr

/-- What is said about the text that is no key. -/
def Error.message (text : String) : Error → String
  | .missingSeparator => "link field id '" ++ text ++ "' has no ':' separator"
  | .emptyLinkType => "link field id '" ++ text ++ "' has an empty link type id"
  | .unknownEnd name =>
    "link field id '" ++ text ++ "' has unknown position '" ++ name ++
      "' (expected SOURCE or TARGET)"

/-- Splits at the last separator. -/
def splitLast? : List Char → Option (List Char × List Char)
  | [] => none
  | c :: rest =>
    match splitLast? rest with
    | some (before, after) => some (c :: before, after)
    | none => if c = separator then some ([], rest) else none

def parse (text : String) : Except Error LinkKey :=
  match splitLast? text.toList with
  | none => .error .missingSeparator
  | some (before, after) =>
    let linkType := String.ofList before
    if Text.isBlank linkType then .error .emptyLinkType
    else
      match LinkEnd.ofName? (String.ofList after) with
      | some linkEnd => .ok ⟨linkType, linkEnd⟩
      | none => .error (.unknownEnd (String.ofList after))

end LinkKey

end CardFilter
