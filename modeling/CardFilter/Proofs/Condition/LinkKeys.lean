import CardFilter.Condition.LinkKey

/-!
# Keys of link fields

A key is written as the identifier of the link's type, a separator and the name of an end.  No end
has a separator in its name, so the last separator of a key is the one that was put there, whatever
the identifier looks like.  Reading therefore inverts writing: it accepts the keys whose identifier
is not blank, and nothing else.

What is said of any other text depends on its last separator: that there is none, that only white
space stands before it, or that the name behind it is not that of an end.  The first of the three
that holds is reported.
-/

namespace CardFilter

namespace LinkEnd

theorem ofName?_eq_some_iff {name : String} {linkEnd : LinkEnd} :
    ofName? name = some linkEnd ↔ linkEnd.name = name := by
  constructor
  · intro h
    obtain ⟨before, behind, hnamed, -⟩ := List.lookup_eq_some_iff.1 h
    have hmem : (name, linkEnd) ∈ named := hnamed ▸ List.mem_append_right before List.mem_cons_self
    obtain ⟨other, -, hother⟩ := List.mem_map.1 hmem
    obtain ⟨hname, rfl⟩ := Prod.mk.inj hother
    exact hname
  · rintro rfl
    cases linkEnd <;> rfl

theorem ofName?_eq_none_iff {name : String} :
    ofName? name = none ↔ ∀ linkEnd : LinkEnd, linkEnd.name ≠ name := by
  rw [Option.eq_none_iff_forall_ne_some]
  exact forall_congr' fun linkEnd ↦ not_congr ofName?_eq_some_iff

end LinkEnd

namespace LinkKey

/-- The two parts of a text before and behind its last separator. -/
structure SplitsAt (text before after : List Char) : Prop where
  joined : text = before ++ separator :: after
  last : separator ∉ after

theorem splitLast?_eq_none_iff {text : List Char} :
    splitLast? text = none ↔ separator ∉ text := by
  induction text with
  | nil => simp [splitLast?]
  | cons c rest ih =>
    rw [List.mem_cons, not_or, ← ih, splitLast?]
    cases splitLast? rest with
    | some parts => simp
    | none =>
      by_cases hc : c = separator
      · simp [hc]
      · simp [hc, Ne.symm hc]

theorem splitLast?_append {before after : List Char} (h : separator ∉ after) :
    splitLast? (before ++ separator :: after) = some (before, after) := by
  induction before with
  | nil => simp [splitLast?, splitLast?_eq_none_iff.2 h]
  | cons c rest ih => simp [splitLast?, ih]

theorem splitsAt_of_splitLast? {text before after : List Char}
    (h : splitLast? text = some (before, after)) : SplitsAt text before after := by
  induction text generalizing before with
  | nil => cases h
  | cons c rest ih =>
    rw [splitLast?] at h
    split at h
    · rename_i parts hparts
      obtain ⟨rfl, rfl⟩ := Prod.mk.inj (Option.some.inj h)
      obtain ⟨rfl, hlast⟩ := ih hparts
      exact ⟨rfl, hlast⟩
    · rename_i hnone
      split at h
      · rename_i hc
        obtain ⟨rfl, rfl⟩ := Prod.mk.inj (Option.some.inj h)
        exact ⟨congrArg (· :: rest) hc, splitLast?_eq_none_iff.1 hnone⟩
      · cases h

theorem splitLast?_eq_some_iff {text before after : List Char} :
    splitLast? text = some (before, after) ↔ SplitsAt text before after := by
  refine ⟨splitsAt_of_splitLast?, ?_⟩
  rintro ⟨rfl, hlast⟩
  exact splitLast?_append hlast

theorem separator_notMem_name (linkEnd : LinkEnd) : separator ∉ linkEnd.name.toList := by
  cases linkEnd <;> decide

theorem splitsAt_text (key : LinkKey) :
    SplitsAt key.text.toList key.linkType.toList key.linkEnd.name.toList :=
  ⟨String.toList_ofList, separator_notMem_name key.linkEnd⟩

/-- A text is that of a key exactly if its two parts are the identifier and the name of the end. -/
theorem text_eq_iff {key : LinkKey} {written : String} :
    key.text = written ↔
      SplitsAt written.toList key.linkType.toList key.linkEnd.name.toList := by
  constructor
  · rintro rfl
    exact key.splitsAt_text
  · rintro ⟨hjoined, -⟩
    rw [text, ← hjoined, String.ofList_toList]

/-! ## Outcomes -/

theorem parse_of_splitsAt {text : String} {before after : List Char}
    (h : SplitsAt text.toList before after) :
    parse text =
      if Text.isBlank (String.ofList before) then .error .emptyLinkType
      else
        match LinkEnd.ofName? (String.ofList after) with
        | some linkEnd => .ok ⟨String.ofList before, linkEnd⟩
        | none => .error (.unknownEnd (String.ofList after)) := by
  -- What is left on both sides is the same match, but only after unfolding.
  rewrite [parse, splitLast?_eq_some_iff.2 h]
  rfl

/-- What is read from a text, by its two parts. -/
inductive Outcome (text : String) : Except Error LinkKey → Prop
  | unsplit : separator ∉ text.toList → Outcome text (.error .missingSeparator)
  | blank {before after : List Char} : SplitsAt text.toList before after →
    Text.isBlank (String.ofList before) = true → Outcome text (.error .emptyLinkType)
  | unknown {before : List Char} {name : String} : SplitsAt text.toList before name.toList →
    Text.isBlank (String.ofList before) = false → (∀ linkEnd : LinkEnd, linkEnd.name ≠ name) →
    Outcome text (.error (.unknownEnd name))
  | key {key : LinkKey} : key.text = text → Text.isBlank key.linkType = false →
    Outcome text (.ok key)

theorem outcome_parse (text : String) : Outcome text (parse text) := by
  cases hsplit : splitLast? text.toList with
  | none =>
    rw [parse, hsplit]
    exact .unsplit (splitLast?_eq_none_iff.1 hsplit)
  | some parts =>
    obtain ⟨before, after⟩ := parts
    have hparts := splitsAt_of_splitLast? hsplit
    rw [parse_of_splitsAt hparts]
    split
    · rename_i hblank
      exact .blank hparts hblank
    · rename_i hfilled
      have hfilled := Bool.eq_false_iff.2 hfilled
      split
      · rename_i linkEnd hend
        refine .key (text_eq_iff.2 ?_) hfilled
        rwa [String.toList_ofList, LinkEnd.ofName?_eq_some_iff.1 hend, String.toList_ofList]
      · rename_i hend
        exact .unknown (String.toList_ofList ▸ hparts) hfilled (LinkEnd.ofName?_eq_none_iff.1 hend)

/-- Nothing else can be read. -/
theorem Outcome.eq_parse {text : String} {outcome : Except Error LinkKey}
    (h : Outcome text outcome) : parse text = outcome := by
  cases h with
  | unsplit hnone => rw [parse, splitLast?_eq_none_iff.2 hnone]
  | blank hparts hblank => rw [parse_of_splitsAt hparts, if_pos hblank]
  | unknown hparts hfilled hend =>
    rw [parse_of_splitsAt hparts, if_neg (by simpa using hfilled), String.ofList_toList,
      LinkEnd.ofName?_eq_none_iff.2 hend]
  | key htext hfilled =>
    rw [parse_of_splitsAt (text_eq_iff.1 htext), String.ofList_toList,
      if_neg (by simpa using hfilled), String.ofList_toList, LinkEnd.ofName?_eq_some_iff.2 rfl]

theorem parse_eq_iff {text : String} {outcome : Except Error LinkKey} :
    parse text = outcome ↔ Outcome text outcome := by
  refine ⟨?_, Outcome.eq_parse⟩
  rintro rfl
  exact outcome_parse text

/-- Reading inverts writing for all keys whose identifier is not blank, and accepts no other text.
Of the others it reports the first thing that is wrong with them. -/
theorem parse_inverts_text (text : String) :
    (∀ key : LinkKey,
      parse text = .ok key ↔ key.text = text ∧ Text.isBlank key.linkType = false) ∧
    (parse text = .error .missingSeparator ↔ separator ∉ text.toList) ∧
    (parse text = .error .emptyLinkType ↔ ∃ before after,
      SplitsAt text.toList before after ∧ Text.isBlank (String.ofList before) = true) ∧
    ∀ name, parse text = .error (.unknownEnd name) ↔ ∃ before,
      SplitsAt text.toList before name.toList ∧ Text.isBlank (String.ofList before) = false ∧
        ∀ linkEnd : LinkEnd, linkEnd.name ≠ name := by
  simp only [parse_eq_iff]
  refine ⟨fun key ↦ ⟨?_, ?_⟩, ⟨?_, .unsplit⟩, ⟨?_, ?_⟩, fun name ↦ ⟨?_, ?_⟩⟩
  · rintro (_ | _ | _ | ⟨htext, hfilled⟩)
    exact ⟨htext, hfilled⟩
  · rintro ⟨htext, hfilled⟩
    exact .key htext hfilled
  · rintro ⟨hnone⟩
    exact hnone
  · rintro (_ | ⟨hparts, hblank⟩)
    exact ⟨_, _, hparts, hblank⟩
  · rintro ⟨before, after, hparts, hblank⟩
    exact .blank hparts hblank
  · rintro (_ | _ | ⟨hparts, hfilled, hend⟩)
    exact ⟨_, hparts, hfilled, hend⟩
  · rintro ⟨before, hparts, hfilled, hend⟩
    exact .unknown hparts hfilled hend

/-- The identifier of a type may look like a key itself. -/
example : parse "ns:SOURCE:TARGET" = .ok ⟨"ns:SOURCE", .target⟩ := rfl

end LinkKey

end CardFilter
