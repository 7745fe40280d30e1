import CardFilter.Proofs.Json.Written

/-!
# Written values read back

The reader puts tokens together on a stack of open containers; what comes out for the tokens of a
written value is said here by recursion over the value.  Under a schema that looks at everything the
value comes back as it was if no number stands in it.  Numbers are left to those who know which
ones they write.
-/

namespace CardFilter.Json

namespace Grammar

section Seen

variable (grammar : Grammar)

mutual

/-- What a grammar makes of a written value under a schema. -/
def seen? (schema : Schema) : Json → Option Json
  | .string value => some (if schema.isSkipped then .null else .string value)
  | .array items =>
    (seenItems? schema 0 items).map fun items ↦ .array (grammar.kept schema items)
  | .object members =>
    (seenMembers? schema members).map fun members ↦ .object (grammar.keptMembers schema members)
  | scalar => grammar.atomValue? schema (scalarText scalar)

def seenItems? (schema : Schema) (index : Nat) : List Json → Option (List Json)
  | [] => some []
  | item :: rest =>
    (seen? (schema.element index) item).bind fun item ↦
      (seenItems? schema (index + 1) rest).map (item :: ·)

/-- Under a skipped object names are not looked at. -/
def seenMembers? (schema : Schema) : List (String × Json) → Option (List (String × Json))
  | [] => some []
  | (name, value) :: rest =>
    let name := if schema.isSkipped then "" else name
    (seen? (schema.member grammar.unnamed name) value).bind fun value ↦
      (seenMembers? schema rest).map ((name, value) :: ·)

end

end Seen

variable {grammar : Grammar} {whole : Schema}

theorem assemble_cons {assembly next : Assembly} {token : Token}
    (h : grammar.step whole assembly token = some next) (rest : List Token) :
    grammar.assemble whole assembly (token :: rest) = grammar.assemble whole next rest := by
  rw [assemble, h]

/-- A finished value goes on with the text behind it. -/
def resume (grammar : Grammar) (whole : Schema) (frames : List Frame) (rest : List Token)
    (value : Json) : Option Json :=
  grammar.assemble whole (Assembly.put value ⟨frames, .value, none⟩) rest

theorem step_scalar {assembly : Assembly} (h : assembly.acceptsValue = true) {token : Token}
    {value : Option Json}
    (hstep : grammar.step whole assembly token = scalar value assembly) (rest : List Token) :
    grammar.assemble whole assembly (token :: rest) =
      value.bind (grammar.resume whole assembly.frames rest) := by
  rw [assemble, hstep, scalar, if_pos h]
  cases value with
  | none => rfl
  | some value =>
    obtain ⟨_ | ⟨_ | _, _⟩, _, _⟩ := assembly <;> rfl

theorem not_expectsName {assembly : Assembly} (h : assembly.acceptsValue = true) :
    expectsName assembly = false := by
  obtain ⟨frames, due, result⟩ := assembly
  cases due <;> simp [Assembly.acceptsValue, expectsName] at h ⊢

theorem assemble_atom {assembly : Assembly} (h : assembly.acceptsValue = true)
    (text : List Char) (rest : List Token) :
    grammar.assemble whole assembly (.atom text :: rest) =
      (grammar.atomValue? (assembly.schema grammar.unnamed whole) text).bind
        (grammar.resume whole assembly.frames rest) := by
  apply step_scalar h
  rw [step, not_expectsName h]
  rfl

theorem assemble_string {assembly : Assembly} (h : assembly.acceptsValue = true)
    (value : String) (rest : List Token) :
    grammar.assemble whole assembly (.string (piecesOf value) :: rest) =
      (grammar.seen? (assembly.schema grammar.unnamed whole) (.string value)).bind
        (grammar.resume whole assembly.frames rest) := by
  have hseen : grammar.seen? (assembly.schema grammar.unnamed whole) (.string value) =
      stringValue? (assembly.schema grammar.unnamed whole) (piecesOf value) := by
    unfold seen? stringValue?
    rw [textOfPieces_piecesOf]
    split <;> rfl
  rw [hseen]
  apply step_scalar h
  rw [step, not_expectsName h]
  rfl

theorem enter_eq (hdepth : grammar.depthLimit = none) {assembly : Assembly}
    (h : assembly.acceptsValue = true) (frame : Schema → Frame) (due : Due) :
    grammar.enter whole frame due assembly =
      some ⟨frame (assembly.schema grammar.unnamed whole) :: assembly.frames, due, none⟩ := by
  simp [enter, hdepth, h]

theorem assemble_beginArray (hdepth : grammar.depthLimit = none) {assembly : Assembly}
    (h : assembly.acceptsValue = true) (rest : List Token) :
    grammar.assemble whole assembly (.beginArray :: rest) =
      grammar.assemble whole
        ⟨.array (assembly.schema grammar.unnamed whole) [] :: assembly.frames, .element, none⟩
        rest := by
  apply assemble_cons
  exact enter_eq hdepth h (fun schema ↦ .array schema []) .element

theorem assemble_beginObject (hdepth : grammar.depthLimit = none) {assembly : Assembly}
    (h : assembly.acceptsValue = true) (rest : List Token) :
    grammar.assemble whole assembly (.beginObject :: rest) =
      grammar.assemble whole
        ⟨.object (assembly.schema grammar.unnamed whole) [] "" :: assembly.frames, .member, none⟩
        rest := by
  apply assemble_cons
  exact enter_eq hdepth h (fun schema ↦ .object schema [] "") .member

/-! ### Containers -/

section Containers

variable (grammar whole) (schema : Schema) (outer : List Frame)

theorem assemble_endArray (taken : List Json) (rest : List Token) :
    grammar.assemble whole ⟨.array schema taken :: outer, .separator, none⟩ (.endArray :: rest) =
      grammar.resume whole outer rest (.array (grammar.kept schema taken.reverse)) := by
  apply assemble_cons
  rfl

theorem assemble_endObject (taken : List (String × Json)) (name : String) (rest : List Token) :
    grammar.assemble whole ⟨.object schema taken name :: outer, .separator, none⟩
        (.endObject :: rest) =
      grammar.resume whole outer rest (.object (grammar.keptMembers schema taken.reverse)) := by
  apply assemble_cons
  rfl

theorem assemble_colon {frames : List Frame} (rest : List Token) :
    grammar.assemble whole ⟨frames, .colon, none⟩ (.colon :: rest) =
      grammar.assemble whole ⟨frames, .value, none⟩ rest := by
  apply assemble_cons
  rfl

/-- What may come behind a comma in an array starts a value. -/
theorem assemble_comma_array (taken : List Json) (rest : List Token) :
    ∃ due, Assembly.acceptsValue ⟨.array schema taken :: outer, due, none⟩ = true ∧
      grammar.assemble whole ⟨.array schema taken :: outer, .separator, none⟩ (.comma :: rest) =
        grammar.assemble whole ⟨.array schema taken :: outer, due, none⟩ rest := by
  refine ⟨if grammar.trailingComma then .element else .value, ?_, assemble_cons rfl rest⟩
  cases grammar.trailingComma <;> rfl

theorem assemble_comma_object (taken : List (String × Json)) (name : String)
    (rest : List Token) :
    ∃ due, expectsName ⟨.object schema taken name :: outer, due, none⟩ = true ∧
      grammar.assemble whole ⟨.object schema taken name :: outer, .separator, none⟩
          (.comma :: rest) =
        grammar.assemble whole ⟨.object schema taken name :: outer, due, none⟩ rest := by
  refine ⟨if grammar.trailingComma then .member else .name, ?_, assemble_cons rfl rest⟩
  cases grammar.trailingComma <;> rfl

variable {grammar whole schema outer}

theorem assemble_name {taken : List (String × Json)} {before : String} {due : Due}
    (h : expectsName ⟨.object schema taken before :: outer, due, none⟩ = true) (name : String)
    (rest : List Token) :
    grammar.assemble whole ⟨.object schema taken before :: outer, due, none⟩
        (.string (piecesOf name) :: .colon :: rest) =
      grammar.assemble whole
        ⟨.object schema taken (if schema.isSkipped then "" else name) :: outer, .value, none⟩
        rest := by
  have hname : named (if schema.isSkipped then some "" else textOfPieces (piecesOf name))
      ⟨.object schema taken before :: outer, due, none⟩ =
        some ⟨.object schema taken (if schema.isSkipped then "" else name) :: outer, .colon,
          none⟩ := by
    rw [textOfPieces_piecesOf]
    split <;> rfl
  rw [← assemble_colon]
  apply assemble_cons
  rw [step, if_pos h]
  exact hname

end Containers

mutual

/-- The tokens of a value are put together to what the grammar makes of it. -/
theorem assemble_tokens (hdepth : grammar.depthLimit = none) (whole : Schema) : (value : Json) →
    ∀ {assembly : Assembly}, assembly.acceptsValue = true → ∀ rest : List Token,
    grammar.assemble whole assembly (value.tokens ++ rest) =
      (grammar.seen? (assembly.schema grammar.unnamed whole) value).bind
        (grammar.resume whole assembly.frames rest)
  | .null, _, h, rest => assemble_atom h _ rest
  | .bool _, _, h, rest => assemble_atom h _ rest
  | .number _, _, h, rest => assemble_atom h _ rest
  | .string value, _, h, rest => assemble_string h value rest
  | .array [], assembly, h, rest => by
    rw [tokens, List.append_assoc, List.cons_append, assemble_beginArray hdepth h]
    exact assemble_cons rfl rest
  | .array (item :: items), assembly, h, rest => by
    have hopened : Assembly.acceptsValue ⟨.array (assembly.schema grammar.unnamed whole) [] ::
        assembly.frames, .element, none⟩ = true := rfl
    have hitems := assemble_itemTokens hdepth whole (item :: items) (List.cons_ne_nil _ _) hopened
      rest
    rw [tokens, List.append_assoc, List.cons_append, assemble_beginArray hdepth h]
    simpa [seen?, Option.bind_map, Function.comp_def] using hitems
  | .object [], assembly, h, rest => by
    rw [tokens, List.append_assoc, List.cons_append, assemble_beginObject hdepth h]
    exact assemble_cons rfl rest
  | .object (member :: members), assembly, h, rest => by
    have hopened : expectsName ⟨.object (assembly.schema grammar.unnamed whole) [] "" ::
        assembly.frames, .member, none⟩ = true := rfl
    have hmembers := assemble_memberTokens hdepth whole (member :: members) (List.cons_ne_nil _ _)
      hopened rest
    rw [tokens, List.append_assoc, List.cons_append, assemble_beginObject hdepth h]
    simpa [seen?, Option.bind_map, Function.comp_def] using hmembers

theorem assemble_itemTokens (hdepth : grammar.depthLimit = none) (whole : Schema) :
    (items : List Json) →
    items ≠ [] →
    ∀ {schema : Schema} {taken : List Json} {outer : List Frame} {due : Due},
    Assembly.acceptsValue ⟨.array schema taken :: outer, due, none⟩ = true →
    ∀ rest : List Token,
    grammar.assemble whole ⟨.array schema taken :: outer, due, none⟩
        (itemTokens items ++ .endArray :: rest) =
      (grammar.seenItems? schema taken.length items).bind fun seen ↦
        grammar.resume whole outer rest (.array (grammar.kept schema (taken.reverse ++ seen)))
  | [], hitems, _, _, _, _, _, _ => absurd rfl hitems
  | [item], _, schema, taken, outer, due, h, rest => by
    calc
      _ = (grammar.seen? (schema.element taken.length) item).bind
          (grammar.resume whole (.array schema taken :: outer) (.endArray :: rest)) :=
        assemble_tokens hdepth whole item h _
      _ = _ := by
        unfold seenItems?
        cases grammar.seen? (schema.element taken.length) item with
        | none => rfl
        | some seen =>
          have hend := assemble_endArray grammar whole schema outer (seen :: taken) rest
          rw [List.reverse_cons] at hend
          exact hend
  | item :: next :: items, _, schema, taken, outer, due, h, rest => by
    calc
      _ = (grammar.seen? (schema.element taken.length) item).bind
          (grammar.resume whole (.array schema taken :: outer)
            (.comma :: (itemTokens (next :: items) ++ .endArray :: rest))) := by
        rw [itemTokens_cons_cons, List.append_assoc]
        exact assemble_tokens hdepth whole item h _
      _ = _ := by
        rw [seenItems?]
        cases grammar.seen? (schema.element taken.length) item with
        | none => rfl
        | some seen =>
          obtain ⟨due, hdue, hcomma⟩ := assemble_comma_array grammar whole schema outer
            (seen :: taken) (itemTokens (next :: items) ++ .endArray :: rest)
          have hitems := assemble_itemTokens hdepth whole (next :: items) (List.cons_ne_nil _ _)
            hdue rest
          rw [List.reverse_cons, List.length_cons] at hitems
          refine (hcomma.trans hitems).trans ?_
          simp only [Option.bind_some, Option.bind_map, Function.comp_def, List.append_assoc,
            List.singleton_append]

theorem assemble_memberTokens (hdepth : grammar.depthLimit = none) (whole : Schema) :
    (members : List (String × Json)) → members ≠ [] →
    ∀ {schema : Schema} {taken : List (String × Json)} {before : String} {outer : List Frame}
      {due : Due},
    expectsName ⟨.object schema taken before :: outer, due, none⟩ = true →
    ∀ rest : List Token,
    grammar.assemble whole ⟨.object schema taken before :: outer, due, none⟩
        (memberTokens members ++ .endObject :: rest) =
      (grammar.seenMembers? schema members).bind fun seen ↦
        grammar.resume whole outer rest
          (.object (grammar.keptMembers schema (taken.reverse ++ seen)))
  | [], hmembers, _, _, _, _, _, _, _ => absurd rfl hmembers
  | [(name, value)], _, schema, taken, before, outer, due, h, rest => by
    calc
      _ = (grammar.seen? (schema.member grammar.unnamed (if schema.isSkipped then "" else name))
            value).bind
          (grammar.resume whole
            (.object schema taken (if schema.isSkipped then "" else name) :: outer)
            (.endObject :: rest)) := by
        rw [memberTokens, List.cons_append, List.cons_append, assemble_name h]
        exact assemble_tokens hdepth whole value rfl _
      _ = _ := by
        unfold seenMembers?
        simp only
        generalize (if schema.isSkipped then "" else name) = name
        cases grammar.seen? (schema.member grammar.unnamed name) value with
        | none => rfl
        | some seen =>
          have hend := assemble_endObject grammar whole schema outer ((name, seen) :: taken) name
            rest
          rw [List.reverse_cons] at hend
          exact hend
  | (name, value) :: next :: members, _, schema, taken, before, outer, due, h, rest => by
    calc
      _ = (grammar.seen? (schema.member grammar.unnamed (if schema.isSkipped then "" else name))
            value).bind
          (grammar.resume whole
            (.object schema taken (if schema.isSkipped then "" else name) :: outer)
            (.comma :: (memberTokens (next :: members) ++ .endObject :: rest))) := by
        rw [memberTokens_cons_cons, List.append_assoc, List.cons_append, List.cons_append,
          assemble_name h]
        exact assemble_tokens hdepth whole value rfl _
      _ = _ := by
        rw [seenMembers?]
        generalize (if schema.isSkipped then "" else name) = name
        cases grammar.seen? (schema.member grammar.unnamed name) value with
        | none => rfl
        | some seen =>
          obtain ⟨due, hdue, hcomma⟩ := assemble_comma_object grammar whole schema outer
            ((name, seen) :: taken) name (memberTokens (next :: members) ++ .endObject :: rest)
          have hmembers := assemble_memberTokens hdepth whole (next :: members)
            (List.cons_ne_nil _ _) hdue rest
          rw [List.reverse_cons] at hmembers
          refine (hcomma.trans hmembers).trans ?_
          simp only [Option.bind_some, Option.bind_map, Function.comp_def, List.append_assoc,
            List.singleton_append]

end

end Grammar

/-! ## Values without numbers -/

mutual

/-- Whether no number stands in a value. -/
def isNumberless : Json → Bool
  | .number _ => false
  | .array items => allNumberless items
  | .object members => allMembersNumberless members
  | _ => true

def allNumberless : List Json → Bool
  | [] => true
  | item :: rest => isNumberless item && allNumberless rest

def allMembersNumberless : List (String × Json) → Bool
  | [] => true
  | (_, value) :: rest => isNumberless value && allMembersNumberless rest

end

theorem allNumberless_eq_all (items : List Json) :
    allNumberless items = items.all isNumberless := by
  induction items with
  | nil => rfl
  | cons item rest ih => rw [allNumberless, ih, List.all_cons]

theorem allMembersNumberless_eq_all (members : List (String × Json)) :
    allMembersNumberless members = members.all fun member ↦ member.2.isNumberless := by
  induction members with
  | nil => rfl
  | cons member rest ih => rw [allMembersNumberless, ih, List.all_cons]

@[simp] theorem isNumberless_string (value : String) : (string value).isNumberless = true := rfl

@[simp] theorem isNumberless_array (items : List Json) :
    (array items).isNumberless = items.all isNumberless := by
  rw [isNumberless, allNumberless_eq_all]

@[simp] theorem isNumberless_object (members : List (String × Json)) :
    (object members).isNumberless = members.all fun member ↦ member.2.isNumberless := by
  rw [isNumberless, allMembersNumberless_eq_all]

@[simp] theorem isNumberless_ofStrings (values : List String) :
    (ofStrings values).isNumberless = true := by
  simp [ofStrings]

namespace Grammar

variable {grammar : Grammar}

mutual

/-- Looked at as a whole, a value without numbers is seen as it is. -/
theorem seen?_value : (value : Json) → value.isNumberless = true →
    grammar.seen? .value value = some value
  | .null, _ => rfl
  | .bool true, _ => rfl
  | .bool false, _ => rfl
  | .string _, _ => rfl
  | .array items, h => by
    rw [seen?, seenItems?_value items h]
    rfl
  | .object members, h => by
    rw [seen?, seenMembers?_value members h]
    rfl

theorem seenItems?_value {index : Nat} : (items : List Json) → allNumberless items = true →
    grammar.seenItems? .value index items = some items
  | [], _ => rfl
  | item :: rest, h => by
    obtain ⟨hitem, hrest⟩ := Bool.and_eq_true_iff.1 h
    rw [seenItems?, Schema.element, seen?_value item hitem, Option.bind_some,
      seenItems?_value rest hrest]
    rfl

theorem seenMembers?_value : (members : List (String × Json)) →
    allMembersNumberless members = true → grammar.seenMembers? .value members = some members
  | [], _ => rfl
  | (name, value) :: rest, h => by
    obtain ⟨hvalue, hrest⟩ := Bool.and_eq_true_iff.1 h
    rw [seenMembers?]
    simp only [Schema.member, Schema.isSkipped, seen?_value value hvalue,
      seenMembers?_value rest hrest]
    rfl

end

end Grammar

/-! ## Whole texts -/

/-- A written value is read as what the grammar makes of it, unless a string in it holds a character
that is refused: then it is not read at all. -/
theorem Grammar.read?_of_writing {grammar : Grammar} {refused : Char → Bool}
    (hdepth : grammar.depthLimit = none) (hlexicon : grammar.lexicon.Admits refused)
    {value : Json} {text : String} (h : Writing value text) (schema : Schema) :
    grammar.read? schema text =
      if value.tokens.all (Token.avoids refused) then grammar.seen? schema value else none := by
  have hstart : Assembly.start.acceptsValue = true := rfl
  have hwhole := assemble_tokens hdepth schema value hstart []
  have hdone : grammar.resume schema Assembly.start.frames [] = some := rfl
  rw [List.append_nil, hdone, Option.bind_fun_some] at hwhole
  unfold read?
  rw [h.layout.tokens? hlexicon]
  cases value.tokens.all (Token.avoids refused) with
  | true => exact hwhole
  | false => rfl

namespace Relaxed

theorem read?_of_writing {value : Json} {text : String} (h : Writing value text)
    (schema : Schema) :
    read? schema text = if value.isUnbroken then grammar.seen? schema value else none := by
  rw [← all_isUnbroken_tokens]
  exact Grammar.read?_of_writing rfl admits h schema

theorem read?_value_of_writing {value : Json} {text : String} (h : Writing value text)
    (hnumbers : value.isNumberless = true) :
    read? .value text = if value.isUnbroken then some value else none := by
  rw [read?_of_writing h, Grammar.seen?_value value hnumbers]

end Relaxed

end CardFilter.Json
