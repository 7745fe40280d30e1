import CardFilter.Proofs.Condition.RoundTrip
import CardFilter.Proofs.Json.Counts
import CardFilter.Settings.File
import CardFilter.Settings.Key

/-!
# Stored settings

What is stored is read back with two differences.  Counts go through binary64 on the way, so a count
with more digits than fit there comes back as another one.  And a text that holds a separator of
lines or paragraphs makes the whole file unreadable.  All other settings come back as they were, and
these are the only ones that are not *storable*.
-/

namespace CardFilter

open Json (Grammar Relaxed.grammar)

/-! ## What is kept -/

namespace SourceSettings

def texts (settings : SourceSettings) : List String :=
  settings.baseUrl :: settings.userAgent :: settings.token.toList

/-- The settings with their count as binary64 holds it. -/
def rounded (settings : SourceSettings) : SourceSettings :=
  { settings with timeout := Binary64.roundedWord settings.timeout }

end SourceSettings

/-- The settings with their count as binary64 holds it. -/
def EditorSettings.rounded (settings : EditorSettings) : EditorSettings :=
  { settings with maxDepth := Binary64.roundedWord settings.maxDepth }

namespace Settings

/-- Whether no text of the settings holds a separator. -/
def isUnbroken (settings : Settings) : Bool := settings.source.texts.all Text.isUnbroken

def rounded (settings : Settings) : Settings := ⟨settings.source.rounded, settings.editor.rounded⟩

/-- Whether the settings come back from their file. -/
def isStorable (settings : Settings) : Bool :=
  settings.isUnbroken && Binary64.isExact settings.source.timeout.toNat &&
    Binary64.isExact settings.editor.maxDepth.toNat

theorem rounded_eq_self_iff (settings : Settings) :
    settings.rounded = settings ↔
      Binary64.isExact settings.source.timeout.toNat = true ∧
        Binary64.isExact settings.editor.maxDepth.toNat = true := by
  obtain ⟨⟨baseUrl, timeout, userAgent, token⟩, ⟨maxDepth, connective⟩⟩ := settings
  simp [rounded, SourceSettings.rounded, EditorSettings.rounded, Binary64.roundedWord_eq_self_iff]

end Settings

/-! ## Values -/

theorem Json.word?_ofNat (value : UInt64) : Json.word? (.ofNat value.toNat) = some value := by
  have hcount : (Json.ofNat value.toNat).count? = some value.toNat := by
    have hword := value.toNat_lt
    have hfits : (0 : Int) ≤ value.toNat ∧ (value.toNat : Int) < UInt64.size := by
      unfold UInt64.size
      omega
    simp only [ofNat, count?, if_pos hfits, Int.toNat_natCast]
  rw [Json.word?, hcount, Option.map_some, UInt64.ofNat_toNat]

theorem Json.seen?_word (value : UInt64) :
    Relaxed.grammar.seen? .count (.ofNat value.toNat) =
      some (.ofNat (Binary64.roundedWord value).toNat) := by
  rw [Relaxed.seen?_count value.toNat_lt, Binary64.toNat_roundedWord]

namespace SourceSettings

def members (settings : SourceSettings) : List (String × Json) :=
  [("base_url", .string settings.baseUrl), ("timeout_secs", .ofNat settings.timeout.toNat),
    ("user_agent", .string settings.userAgent)] ++
    Json.optional "auth_token" .string settings.token

theorem record?_members (settings : SourceSettings) :
    settings.toJson.record? (fields.map (·.1)) = some settings.members := by
  have hshort : ["base_url", "timeout_secs", "user_agent"].Sublist (fields.map (·.1)) := by decide
  have hnames : (settings.members.map Prod.fst).Sublist (fields.map (·.1)) := by
    unfold members
    cases settings.token with
    | none => exact hshort
    | some => exact List.Sublist.refl _
  have hnodup : (fields.map (·.1)).Nodup := by decide
  exact Json.record?_of_nodup hnames.subset (hnodup.sublist hnames)

theorem field_token (settings : SourceSettings) :
    Json.fieldOr settings.members "auth_token" none (Json.nullable? Json.string?) =
      some settings.token := by
  obtain ⟨_, _, _, _ | token⟩ := settings <;> rfl

theorem read?_toJson (settings : SourceSettings) : read? settings.toJson = some settings := by
  have hbaseUrl : Json.fieldOr settings.members "base_url" standard.baseUrl Json.string? =
      some settings.baseUrl := rfl
  have htimeout : Json.fieldOr settings.members "timeout_secs" standard.timeout Json.word? =
      some settings.timeout := Json.word?_ofNat settings.timeout
  have huserAgent : Json.fieldOr settings.members "user_agent" standard.userAgent Json.string? =
      some settings.userAgent := rfl
  unfold read?
  rw [settings.record?_members, Option.bind_eq_bind, Option.bind_some, hbaseUrl,
    Option.bind_eq_bind, Option.bind_some, htimeout, Option.bind_eq_bind, Option.bind_some,
    huserAgent, Option.bind_eq_bind, Option.bind_some, settings.field_token]
  rfl

theorem seen?_toJson (settings : SourceSettings) :
    Relaxed.grammar.seen? (.record fields) settings.toJson = some settings.rounded.toJson := by
  obtain ⟨_, _, _, _ | token⟩ := settings <;>
    simp [toJson, rounded, fields, Json.optional, Json.seen?_word, Grammar.seen?,
      Grammar.seenMembers?, Grammar.keptMembers, Json.Schema.isSkipped, Json.Schema.member,
      List.lookup_cons]

theorem isUnbroken_toJson (settings : SourceSettings) :
    settings.toJson.isUnbroken = settings.texts.all Text.isUnbroken := by
  have hnames : Text.isUnbroken "base_url" = true ∧ Text.isUnbroken "timeout_secs" = true ∧
      Text.isUnbroken "user_agent" = true ∧ Text.isUnbroken "auth_token" = true := by decide
  obtain ⟨_, _, _, _ | token⟩ := settings <;>
    simp [toJson, texts, Json.optional, hnames, Json.isUnbroken, Json.ofNat]

end SourceSettings

namespace EditorSettings

def members (settings : EditorSettings) : List (String × Json) :=
  [("max_group_depth", .ofNat settings.maxDepth.toNat),
    ("default_group_operator", settings.connective.toJson)]

theorem record?_members (settings : EditorSettings) :
    settings.toJson.record? (fields.map (·.1)) = some settings.members := by
  have hnodup : (fields.map (·.1)).Nodup := by decide
  exact Json.record?_of_nodup (List.Subset.refl _) hnodup

theorem read?_toJson (settings : EditorSettings) : read? settings.toJson = some settings := by
  have hmaxDepth : Json.fieldOr settings.members "max_group_depth" standard.maxDepth Json.word? =
      some settings.maxDepth := Json.word?_ofNat settings.maxDepth
  have hconnective : Json.fieldOr settings.members "default_group_operator" standard.connective
      (Json.choice? false Connective.named) = some settings.connective :=
    settings.connective.choose_toJson
  unfold read?
  rw [settings.record?_members, Option.bind_eq_bind, Option.bind_some, hmaxDepth,
    Option.bind_eq_bind, Option.bind_some, hconnective]
  rfl

theorem seen?_toJson (settings : EditorSettings) :
    Relaxed.grammar.seen? (.record fields) settings.toJson = some settings.rounded.toJson := by
  simp [toJson, rounded, fields, Connective.toJson, Json.seen?_word, Grammar.seen?,
    Grammar.seenMembers?, Grammar.keptMembers, Json.Schema.isSkipped, Json.Schema.member,
    List.lookup_cons]

theorem isUnbroken_toJson (settings : EditorSettings) : settings.toJson.isUnbroken = true := by
  have hnames : Text.isUnbroken "max_group_depth" = true ∧
      Text.isUnbroken "default_group_operator" = true := by decide
  have hconnective : settings.connective.toJson.isUnbroken = true := by
    cases settings.connective <;> decide
  simp [toJson, hnames, hconnective, Json.isUnbroken, Json.ofNat]

end EditorSettings

namespace Settings

theorem read?_toJson (settings : Settings) : read? settings.toJson = some settings := by
  have hrecord : settings.toJson.record? ["resolver", "editor"] =
      some [("resolver", settings.source.toJson), ("editor", settings.editor.toJson)] :=
    Json.record?_of_nodup (by simp) (by simp)
  unfold read?
  rw [hrecord]
  simp [Json.fieldOr, List.lookup_cons, settings.source.read?_toJson, settings.editor.read?_toJson]

theorem seen?_toJson (settings : Settings) :
    Relaxed.grammar.seen? schema settings.toJson = some settings.rounded.toJson := by
  simp [toJson, rounded, schema, settings.source.seen?_toJson, settings.editor.seen?_toJson,
    Grammar.seen?, Grammar.seenMembers?, Grammar.keptMembers, Json.Schema.isSkipped,
    Json.Schema.member, List.lookup_cons]

theorem isUnbroken_toJson (settings : Settings) :
    settings.toJson.isUnbroken = settings.isUnbroken := by
  have hnames : Text.isUnbroken "resolver" = true ∧ Text.isUnbroken "editor" = true := by decide
  simp [toJson, isUnbroken, hnames, settings.source.isUnbroken_toJson,
    settings.editor.isUnbroken_toJson]

/-! ## Files -/

/-- Stored settings are read with their counts as binary64 holds them, or, if a text is broken, not
at all. -/
theorem parse_text (settings : Settings) :
    parse settings.text =
      if settings.isUnbroken then .ok settings.rounded
      else .error (Json.Relaxed.grammar.diagnose schema settings.text).text := by
  have hwriting : Json.Writing settings.toJson settings.text := .pretty
  have hread := Json.Relaxed.read?_of_writing hwriting schema
  rw [isUnbroken_toJson, seen?_toJson] at hread
  unfold parse Json.Relaxed.read Json.Grammar.read
  rw [show Json.Relaxed.grammar.read? schema settings.text = _ from hread]
  cases settings.isUnbroken with
  | true => simp [read?_toJson]
  | false => rfl

theorem load_text (path : String) (settings : Settings) :
    load path (.ok settings.text) none =
      if settings.isUnbroken then .ok settings.rounded
      else .error (.malformed path
        (Json.Relaxed.grammar.diagnose schema settings.text).text) := by
  unfold load
  simp only [parse_text]
  cases settings.isUnbroken <;> rfl

theorem load_text_eq_self_iff (path : String) (settings : Settings) :
    load path (.ok settings.text) none = .ok settings ↔ settings.isStorable = true := by
  rw [load_text, isStorable, Bool.and_eq_true_iff, Bool.and_eq_true_iff, and_assoc,
    ← rounded_eq_self_iff]
  cases settings.isUnbroken <;> simp

end Settings

/-! ## Changes -/

/-- Whether a value that is accepted under a key can be stored. -/
def SettingsKey.keeps (key : SettingsKey) (value : String) : Bool :=
  match key with
  | .baseUrl | .userAgent | .token => Text.isUnbroken value
  | .timeout | .maxDepth =>
    (Count.ofText value).toOption.all fun count ↦ Binary64.isExact count.toNat
  | .connective => true

namespace Settings

/-- Changes one after the other, up to the first that is refused. -/
def setAll (changes : List (String × String)) (settings : Settings) : Except SetError Settings :=
  changes.foldlM (fun settings change ↦ settings.set change.1 change.2) settings

def keeps (key value : String) : Bool := (SettingsKey.ofName? key).all (·.keeps value)

theorem exists_of_map_eq_ok {α : Type} {result : Except SetError α} {f : α → Settings}
    {changed : Settings} (h : result.map f = .ok changed) :
    ∃ value, result = .ok value ∧ changed = f value := by
  cases result with
  | error => cases h
  | ok value => exact ⟨value, rfl, (Except.ok.inj h).symm⟩

theorem ofText_of_countFor {value : String} {count : UInt64} (h : countFor value = .ok count) :
    Count.ofText value = .ok count := by
  unfold countFor at h
  cases hcount : Count.ofText value with
  | error =>
    rw [hcount] at h
    cases h
  | ok other =>
    rw [hcount] at h
    rw [Except.ok.inj h]

theorem set_eq (key value : String) (settings : Settings) :
    settings.set key value =
      match SettingsKey.ofName? key with
      | some key => settings.setKey key value
      | none => .error (.unknownKey key) := by
  unfold set setKey assign
  cases SettingsKey.ofName? key <;> rfl

theorem setKey_eq (key : SettingsKey) (value : String) (settings : Settings) :
    settings.setKey key value =
      let source := settings.source
      let editor := settings.editor
      match key with
      | .baseUrl => .ok { settings with source := { source with baseUrl := value } }
      | .timeout =>
        (countFor value).map fun count ↦ { settings with source := { source with timeout := count } }
      | .userAgent => .ok { settings with source := { source with userAgent := value } }
      | .token =>
        .ok { settings with
          source := { source with token := if value.isEmpty then none else some value } }
      | .maxDepth =>
        (countFor value).map fun count ↦ { settings with editor := { editor with maxDepth := count } }
      | .connective =>
        (connectiveFor value).map fun connective ↦
          { settings with editor := { editor with connective := connective } } := by
  cases key with
  | baseUrl | userAgent | token => rfl
  | timeout | maxDepth =>
    unfold setKey assignKey
    cases countFor value <;> rfl
  | connective =>
    unfold setKey assignKey
    cases connectiveFor value <;> rfl

/-- A change of storable settings can be stored exactly if its value can. -/
theorem isStorable_setKey_iff {key : SettingsKey} {value : String} {settings changed : Settings}
    (h : settings.isStorable = true) (hset : settings.setKey key value = .ok changed) :
    changed.isStorable = true ↔ key.keeps value = true := by
  simp only [isStorable, isUnbroken, SourceSettings.texts, List.all_cons, Bool.and_eq_true] at h
  obtain ⟨⟨⟨hbaseUrl, huserAgent, htoken⟩, htimeout⟩, hmaxDepth⟩ := h
  rw [setKey_eq] at hset
  cases key with
  | baseUrl | userAgent =>
    obtain rfl := Except.ok.inj hset
    simp [isStorable, isUnbroken, SourceSettings.texts, SettingsKey.keeps, *]
  | token =>
    obtain rfl := Except.ok.inj hset
    by_cases hempty : value = ""
    · subst hempty
      simp [isStorable, isUnbroken, SourceSettings.texts, SettingsKey.keeps, *]
      decide
    · simp [isStorable, isUnbroken, SourceSettings.texts, SettingsKey.keeps, *]
  | timeout | maxDepth =>
    obtain ⟨count, hfor, rfl⟩ := exists_of_map_eq_ok hset
    have hcount := ofText_of_countFor hfor
    simp [isStorable, isUnbroken, SourceSettings.texts, SettingsKey.keeps, Except.toOption, *]
  | connective =>
    obtain ⟨connective, -, rfl⟩ := exists_of_map_eq_ok hset
    simp [isStorable, isUnbroken, SourceSettings.texts, SettingsKey.keeps, *]

theorem isStorable_set_iff {key value : String} {settings changed : Settings}
    (h : settings.isStorable = true) (hset : settings.set key value = .ok changed) :
    changed.isStorable = true ↔ keeps key value = true := by
  rw [set_eq] at hset
  unfold keeps
  cases hkey : SettingsKey.ofName? key with
  | none =>
    rw [hkey] at hset
    cases hset
  | some key =>
    rw [hkey] at hset
    exact isStorable_setKey_iff h hset

/-- Changes whose values can be stored lead from storable settings to storable ones. -/
theorem isStorable_of_setAll {changes : List (String × String)} {settings changed : Settings}
    (h : settings.isStorable = true)
    (hkeeps : ∀ change ∈ changes, keeps change.1 change.2 = true)
    (hset : settings.setAll changes = .ok changed) : changed.isStorable = true := by
  induction changes generalizing settings with
  | nil =>
    obtain rfl := Except.ok.inj hset
    exact h
  | cons change rest ih =>
    obtain ⟨hchange, hrest⟩ := List.forall_mem_cons.1 hkeeps
    unfold setAll at hset
    rw [List.foldlM_cons] at hset
    cases hfirst : settings.set change.1 change.2 with
    | error =>
      rw [hfirst] at hset
      cases hset
    | ok next =>
      rw [hfirst] at hset
      exact ih ((isStorable_set_iff h hfirst).2 hchange) hrest hset

/-! ## What is stored is loaded -/

theorem isStorable_standard : standard.isStorable = true := by decide

/-- Whatever settings are stored, they are loaded again as they were exactly if they are storable;
and storable they stay under all changes to values that can be stored. -/
theorem stored_loads_iff (path : String) :
    (∀ settings : Settings,
      load path (.ok settings.text) none = .ok settings ↔ settings.isStorable = true) ∧
    ∀ (changes : List (String × String)) (settings changed : Settings),
      settings.isStorable = true → (∀ change ∈ changes, keeps change.1 change.2 = true) →
      settings.setAll changes = .ok changed →
      load path (.ok changed.text) none = .ok changed := by
  refine ⟨load_text_eq_self_iff path, ?_⟩
  intro changes settings changed hstorable hkeeps hset
  exact (load_text_eq_self_iff path changed).2 (isStorable_of_setAll hstorable hkeeps hset)

/-- The largest word, a number with many zeros at its end, and texts that need escapes. -/
theorem stored_loads_changes :
    let changes := [("resolver.timeout_secs", "18446744073709551615"),
      ("editor.max_group_depth", "+9223372036854775808"), ("resolver.user_agent", "\"\\\n\u00e9"),
      ("resolver.auth_token", ""), ("editor.default_group_operator", " any ")]
    let changed := Settings.mk
      ⟨"http://localhost:8080/api", 18446744073709551615, "\"\\\n\u00e9", none⟩
      ⟨9223372036854775808, .or⟩
    standard.setAll changes = .ok changed ∧
      load "config.json" (.ok changed.text) none = .ok changed := by
  intro changes changed
  have hset : standard.setAll changes = .ok changed := by rfl
  have hkeeps : ∀ change ∈ changes, keeps change.1 change.2 = true := by decide
  exact ⟨hset, (stored_loads_iff "config.json").2 changes standard changed isStorable_standard
    hkeeps hset⟩

/-- A number of 54 binary digits comes back as its neighbour, and a separator in a text makes the
file unreadable. -/
theorem stored_does_not_load :
    let counted (timeout : UInt64) := { standard with source := { SourceSettings.standard with
      timeout := timeout } }
    let broken := { standard with source := { SourceSettings.standard with
      userAgent := "a\u2028b" } }
    standard.set "resolver.timeout_secs" "9007199254740993" = .ok (counted 9007199254740993) ∧
      load "config.json" (.ok (counted 9007199254740993).text) none =
        .ok (counted 9007199254740992) ∧
      counted 9007199254740992 ≠ counted 9007199254740993 ∧
      standard.set "resolver.user_agent" "a\u2028b" = .ok broken ∧
      ∀ settings, load "config.json" (.ok broken.text) none ≠ .ok settings := by
  intro counted broken
  have htimeout : Binary64.roundedWord 9007199254740993 = 9007199254740992 := by
    rw [← UInt64.toNat_inj, Binary64.toNat_roundedWord, Binary64.rounded_eq (by decide)]
    decide
  have hmaxDepth : Binary64.roundedWord 3 = 3 :=
    (Binary64.roundedWord_eq_self_iff 3).2 (by decide)
  have hrounded : (counted 9007199254740993).rounded = counted 9007199254740992 := by
    simp only [counted, rounded, SourceSettings.rounded, EditorSettings.rounded, standard,
      EditorSettings.standard, htimeout, hmaxDepth]
  have hcounted : (counted 9007199254740993).isUnbroken = true := by decide
  have hbroken : broken.isUnbroken = false := by decide
  refine ⟨by rfl, ?_, by decide, by rfl, fun settings ↦ ?_⟩
  · rw [load_text, hcounted, hrounded]
    rfl
  · rw [load_text, hbroken]
    exact nofun

end Settings

end CardFilter
