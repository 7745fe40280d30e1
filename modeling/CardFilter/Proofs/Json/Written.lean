import CardFilter.Proofs.Json.Scanning

/-!
# The tokens of a written value

Both layouts of a value consist of the same tokens, in the same order.  So whether a written text
can be scanned does not depend on the layout: it can exactly if the value is unbroken, that is, if
no string and no name in it holds a separator.
-/

namespace CardFilter.Json

mutual

/-- The tokens of a written value. -/
def tokens : Json → List Token
  | .string value => [.string (piecesOf value)]
  | .array items => .beginArray :: itemTokens items ++ [.endArray]
  | .object members => .beginObject :: memberTokens members ++ [.endObject]
  | scalar => [.atom (scalarText scalar)]

def itemTokens : List Json → List Token
  | [] => []
  | [item] => tokens item
  | item :: rest => tokens item ++ .comma :: itemTokens rest

def memberTokens : List (String × Json) → List Token
  | [] => []
  | [(name, value)] => .string (piecesOf name) :: .colon :: tokens value
  | (name, value) :: rest =>
    .string (piecesOf name) :: .colon :: tokens value ++ .comma :: memberTokens rest

end

mutual

theorem layout_compact : (value : Json) → ∀ {text : List Char} {after : List Token},
    endsWord text = true → Layout text after →
    Layout (compactChars value ++ text) (tokens value ++ after)
  | .null, _, _, hends, h => .word (by decide) (by decide) hends h
  | .bool true, _, _, hends, h => .word (by decide) (by decide) hends h
  | .bool false, _, _, hends, h => .word (by decide) (by decide) hends h
  | .number value, _, _, hends, h =>
    .word (numberText_ne_nil value) (numberText_subset value) hends h
  | .string value, _, _, _, h => .string value h
  | .array items, text, after, _, h => by
    have hclosed := Layout.mark (c := ']') rfl h
    have hitems := layout_compactItems items rfl hclosed
    simpa [compactChars, tokens] using Layout.mark (c := '[') rfl hitems
  | .object members, text, after, _, h => by
    have hclosed := Layout.mark (c := '\x7d') rfl h
    have hmembers := layout_compactMembers members rfl hclosed
    simpa [compactChars, tokens] using Layout.mark (c := '\x7b') rfl hmembers

theorem layout_compactItems : (items : List Json) → ∀ {text : List Char} {after : List Token},
    endsWord text = true → Layout text after →
    Layout (compactItems items ++ text) (itemTokens items ++ after)
  | [], _, _, _, h => h
  | [item], _, _, hends, h => layout_compact item hends h
  | item :: next :: rest, text, after, hends, h => by
    have hrest := layout_compactItems (next :: rest) hends h
    have hcomma := Layout.mark (c := ',') rfl hrest
    have hitem := layout_compact item rfl hcomma
    simpa [compactItems, itemTokens] using hitem

theorem layout_compactMembers : (members : List (String × Json)) →
    ∀ {text : List Char} {after : List Token}, endsWord text = true → Layout text after →
    Layout (compactMembers members ++ text) (memberTokens members ++ after)
  | [], _, _, _, h => h
  | [(name, value)], text, after, hends, h => by
    have hvalue := layout_compact value hends h
    have hmember := Layout.string name (Layout.mark (c := ':') rfl hvalue)
    simpa [compactMembers, memberTokens] using hmember
  | (name, value) :: next :: rest, text, after, hends, h => by
    have hrest := layout_compactMembers (next :: rest) hends h
    have hcomma := Layout.mark (c := ',') rfl hrest
    have hvalue := layout_compact value rfl hcomma
    have hmember := Layout.string name (Layout.mark (c := ':') rfl hvalue)
    simpa [compactMembers, memberTokens] using hmember

end

theorem itemTokens_cons_cons (item next : Json) (items : List Json) :
    itemTokens (item :: next :: items) = tokens item ++ .comma :: itemTokens (next :: items) := rfl

theorem memberTokens_cons_cons (name : String) (value : Json) (next : String × Json)
    (members : List (String × Json)) :
    memberTokens ((name, value) :: next :: members) =
      .string (piecesOf name) :: .colon :: tokens value ++
        .comma :: memberTokens (next :: members) := rfl

theorem layout_newLine (level : Nat) {text : List Char} {after : List Token}
    (h : Layout text after) : Layout (newLine level ++ text) after := by
  have hblanks (count : Nat) : Layout (List.replicate count ' ' ++ text) after := by
    induction count with
    | zero => exact h
    | succ count ih => exact .space (.inl rfl) ih
  exact .space (.inr rfl) (hblanks _)

mutual

theorem layout_pretty (level : Nat) : (value : Json) → ∀ {text : List Char} {after : List Token},
    endsWord text = true → Layout text after →
    Layout (prettyChars level value ++ text) (tokens value ++ after)
  | .null, _, _, hends, h => layout_compact .null hends h
  | .bool value, _, _, hends, h => layout_compact (.bool value) hends h
  | .number value, _, _, hends, h => layout_compact (.number value) hends h
  | .string value, _, _, _, h => .string value h
  | .array [], _, _, _, h => .mark rfl (.mark rfl h)
  | .object [], _, _, _, h => .mark rfl (.mark rfl h)
  | .array (item :: rest), text, after, _, h => by
    have hclosed := layout_newLine level (Layout.mark (c := ']') rfl h)
    have hitems := layout_prettyItems level (item :: rest) rfl hclosed
    have hopened := Layout.mark (c := '[') rfl (layout_newLine (level + 1) hitems)
    simpa [prettyChars, tokens] using hopened
  | .object (member :: rest), text, after, _, h => by
    have hclosed := layout_newLine level (Layout.mark (c := '\x7d') rfl h)
    have hmembers := layout_prettyMembers level (member :: rest) rfl hclosed
    have hopened := Layout.mark (c := '\x7b') rfl (layout_newLine (level + 1) hmembers)
    simpa [prettyChars, tokens] using hopened

theorem layout_prettyItems (level : Nat) : (items : List Json) →
    ∀ {text : List Char} {after : List Token}, endsWord text = true → Layout text after →
    Layout (prettyItems level items ++ text) (itemTokens items ++ after)
  | [], _, _, _, h => h
  | [item], _, _, hends, h => layout_pretty (level + 1) item hends h
  | item :: next :: rest, text, after, hends, h => by
    have hrest := layout_prettyItems level (next :: rest) hends h
    have hcomma := Layout.mark (c := ',') rfl (layout_newLine (level + 1) hrest)
    have hitem := layout_pretty (level + 1) item rfl hcomma
    simpa [prettyItems, itemTokens] using hitem

theorem layout_prettyMembers (level : Nat) : (members : List (String × Json)) →
    ∀ {text : List Char} {after : List Token}, endsWord text = true → Layout text after →
    Layout (prettyMembers level members ++ text) (memberTokens members ++ after)
  | [], _, _, _, h => h
  | [(name, value)], text, after, hends, h => by
    have hvalue := layout_pretty (level + 1) value hends h
    have hmember := Layout.string name (Layout.mark (c := ':') rfl (.space (.inl rfl) hvalue))
    simpa [prettyMembers, memberTokens] using hmember
  | (name, value) :: next :: rest, text, after, hends, h => by
    have hrest := layout_prettyMembers level (next :: rest) hends h
    have hcomma := Layout.mark (c := ',') rfl (layout_newLine (level + 1) hrest)
    have hvalue := layout_pretty (level + 1) value rfl hcomma
    have hmember := Layout.string name (Layout.mark (c := ':') rfl (.space (.inl rfl) hvalue))
    simpa [prettyMembers, memberTokens] using hmember

end

/-- A value as text, on one line or over several, with the line ended or not. -/
inductive Writing (value : Json) : String → Prop
  | compact : Writing value value.compact
  | pretty : Writing value value.pretty
  | line {text : String} : Writing value text → Writing value (text ++ "\n")

theorem Layout.append_newLine {text : List Char} {tokens : List Token} (h : Layout text tokens) :
    Layout (text ++ ['\n']) tokens := by
  induction h with
  | done => exact .space (.inr rfl) .done
  | space hspace _ ih => exact .space hspace ih
  | mark hmark _ ih => exact .mark hmark ih
  | string value _ ih =>
    rw [List.append_assoc]
    exact .string value ih
  | @word _ text _ hword hchars hends _ ih =>
    have hends' : endsWord (text ++ ['\n']) = true := by
      cases text with
      | nil => rfl
      | cons => exact hends
    rw [List.append_assoc]
    exact .word hword hchars hends' ih

theorem Writing.layout {value : Json} {text : String} (h : Writing value text) :
    Layout text.toList value.tokens := by
  induction h with
  | compact => simpa [Json.compact] using layout_compact value rfl .done
  | pretty => simpa [Json.pretty] using layout_pretty 0 value rfl .done
  | line _ ih => simpa using ih.append_newLine

/-! ## Unbroken values -/

mutual

/-- Whether no string of a value holds a separator, and no name of a member. -/
def isUnbroken : Json → Bool
  | .string value => Text.isUnbroken value
  | .array items => allUnbroken items
  | .object members => allMembersUnbroken members
  | _ => true

def allUnbroken : List Json → Bool
  | [] => true
  | item :: rest => isUnbroken item && allUnbroken rest

def allMembersUnbroken : List (String × Json) → Bool
  | [] => true
  | (name, value) :: rest =>
    Text.isUnbroken name && isUnbroken value && allMembersUnbroken rest

end

theorem allUnbroken_eq_all (items : List Json) : allUnbroken items = items.all isUnbroken := by
  induction items with
  | nil => rfl
  | cons item rest ih => rw [allUnbroken, ih, List.all_cons]

theorem allMembersUnbroken_eq_all (members : List (String × Json)) :
    allMembersUnbroken members =
      members.all fun member ↦ Text.isUnbroken member.1 && member.2.isUnbroken := by
  induction members with
  | nil => rfl
  | cons member rest ih => rw [allMembersUnbroken, ih, List.all_cons]

@[simp] theorem isUnbroken_string (value : String) :
    (string value).isUnbroken = Text.isUnbroken value := rfl

@[simp] theorem isUnbroken_array (items : List Json) :
    (array items).isUnbroken = items.all isUnbroken := by
  rw [isUnbroken, allUnbroken_eq_all]

@[simp] theorem isUnbroken_object (members : List (String × Json)) :
    (object members).isUnbroken =
      members.all fun member ↦ Text.isUnbroken member.1 && member.2.isUnbroken := by
  rw [isUnbroken, allMembersUnbroken_eq_all]

@[simp] theorem isUnbroken_ofStrings (values : List String) :
    (ofStrings values).isUnbroken = values.all Text.isUnbroken := by
  simp [ofStrings, Function.comp_def]

mutual

theorem all_isUnbroken_tokens : (value : Json) →
    value.tokens.all Token.isUnbroken = value.isUnbroken
  | .null => rfl
  | .bool _ => rfl
  | .number _ => rfl
  | .string value => by
    unfold tokens isUnbroken
    rw [List.all_cons, Token.isUnbroken_string]
    simp
  | .array items => by
    have hitems := all_isUnbroken_itemTokens items
    unfold tokens isUnbroken
    simpa [Token.isUnbroken, Token.avoids] using hitems
  | .object members => by
    have hmembers := all_isUnbroken_memberTokens members
    unfold tokens isUnbroken
    simpa [Token.isUnbroken, Token.avoids] using hmembers

theorem all_isUnbroken_itemTokens : (items : List Json) →
    (itemTokens items).all Token.isUnbroken = allUnbroken items
  | [] => rfl
  | [item] => by
    have hitem := all_isUnbroken_tokens item
    simpa [itemTokens, allUnbroken] using hitem
  | item :: next :: rest => by
    have hitem := all_isUnbroken_tokens item
    have hrest := all_isUnbroken_itemTokens (next :: rest)
    have hcomma : Token.comma.isUnbroken = true := rfl
    rw [itemTokens_cons_cons, List.all_append, List.all_cons, hitem, hrest, hcomma, Bool.true_and]
    rfl

theorem all_isUnbroken_memberTokens : (members : List (String × Json)) →
    (memberTokens members).all Token.isUnbroken = allMembersUnbroken members
  | [] => rfl
  | [(name, value)] => by
    have hvalue := all_isUnbroken_tokens value
    have hcolon : Token.colon.isUnbroken = true := rfl
    rw [memberTokens, List.all_cons, List.all_cons, Token.isUnbroken_string, hvalue, hcolon]
    simp [allMembersUnbroken]
  | (name, value) :: next :: rest => by
    have hvalue := all_isUnbroken_tokens value
    have hrest := all_isUnbroken_memberTokens (next :: rest)
    have hcolon : Token.colon.isUnbroken = true := rfl
    have hcomma : Token.comma.isUnbroken = true := rfl
    rw [memberTokens_cons_cons, List.all_append, List.all_cons, List.all_cons, List.all_cons,
      Token.isUnbroken_string, hvalue, hrest, hcolon, hcomma, Bool.true_and, Bool.true_and]
    rfl

end

end CardFilter.Json
