import CardFilter.Proofs.Number.Typed
import CardFilter.Proofs.Settings.Override

/-!
# Changes of settings

Every key has one field of the settings, and the settings are known by their fields.  What a text
means for a field is said by a relation between keys, texts and contents in which no settings occur.
A change goes through exactly when its text means something for the key, and then this is what the
field holds afterwards, while the other fields are as they were.

From this follows what calls do one after the other, whether they are refused or not: each field
holds what the last accepted call under its key meant, and what it held at first if there is none.
-/

namespace CardFilter

/-! ## Fields -/

/-- What a field of the settings holds. -/
inductive Setting
  | text (value : String)
  | count (value : UInt64)
  | token (value : Option String)
  | connective (value : Connective)
deriving DecidableEq

/-- The words for a connective. -/
def Connective.words : Connective → List String
  | .and => ["AND", "ALL"]
  | .or => ["OR", "ANY"]

theorem Connective.ofTyped?_eq_some_iff {text : String} {connective : Connective} :
    ofTyped? text = some connective ↔
      String.ofList (Text.upperTrimmed text) ∈ connective.words := by
  unfold ofTyped?
  dsimp only
  generalize String.ofList (Text.upperTrimmed text) = word
  split
  · rename_i hand
    cases connective with
    | and => simpa [words] using hand
    | or => rcases hand with rfl | rfl <;> simp [words]
  · split
    · rename_i hand hor
      cases connective with
      | and => rcases hor with rfl | rfl <;> simp [words]
      | or => simpa [words] using hor
    · rename_i hand hor
      cases connective with
      | and => simpa [words] using hand
      | or => simpa [words] using hor

namespace SettingsKey

def field : SettingsKey → Settings → Setting
  | .baseUrl, settings => .text settings.source.baseUrl
  | .timeout, settings => .count settings.source.timeout
  | .userAgent, settings => .text settings.source.userAgent
  | .token, settings => .token settings.source.token
  | .maxDepth, settings => .count settings.editor.maxDepth
  | .connective, settings => .connective settings.editor.connective

/-- What a text means for the field of a key. -/
inductive Means : SettingsKey → String → Setting → Prop
  | baseUrl (text : String) : Means .baseUrl text (.text text)
  | timeout {text : String} {count : UInt64} : Count.Spells text count →
    Means .timeout text (.count count)
  | userAgent (text : String) : Means .userAgent text (.text text)
  | noToken : Means .token "" (.token none)
  | token {text : String} : text ≠ "" → Means .token text (.token (some text))
  | maxDepth {text : String} {count : UInt64} : Count.Spells text count →
    Means .maxDepth text (.count count)
  | connective {text : String} {connective : Connective} :
    String.ofList (Text.upperTrimmed text) ∈ connective.words →
    Means .connective text (.connective connective)

theorem name_injective : Function.Injective name := by
  intro key other h
  have hfound := ofName?_eq_some_iff.2 h
  rw [ofName?_eq_some_iff.2 rfl] at hfound
  exact (Option.some.inj hfound)

end SettingsKey

namespace Settings

theorem ext_field {settings others : Settings}
    (h : ∀ key : SettingsKey, key.field settings = key.field others) : settings = others := by
  obtain ⟨⟨baseUrl, timeout, userAgent, token⟩, ⟨maxDepth, connective⟩⟩ := settings
  obtain ⟨⟨baseUrl', timeout', userAgent', token'⟩, ⟨maxDepth', connective'⟩⟩ := others
  obtain rfl := Setting.text.inj (h .baseUrl)
  obtain rfl := Setting.count.inj (h .timeout)
  obtain rfl := Setting.text.inj (h .userAgent)
  obtain rfl := Setting.token.inj (h .token)
  obtain rfl := Setting.count.inj (h .maxDepth)
  obtain rfl := Setting.connective.inj (h .connective)
  rfl

/-- The field of a key holds something, and all others are as before. -/
structure ChangedAt (key : SettingsKey) (held : Setting) (before after : Settings) : Prop where
  now : key.field after = held
  others : ∀ other, other ≠ key → other.field after = other.field before

variable {key : SettingsKey} {held : Setting} {name value : String}
  {settings changed before first second : Settings}

theorem ChangedAt.of_or {after : Settings} (hnow : key.field after = held)
    (hothers : ∀ other, other = key ∨ other.field after = other.field before) :
    ChangedAt key held before after :=
  ⟨hnow, fun other hother ↦ (hothers other).resolve_left hother⟩

theorem ChangedAt.unique (hfirst : ChangedAt key held before first)
    (hsecond : ChangedAt key held before second) : first = second := by
  refine ext_field fun other ↦ ?_
  by_cases hother : other = key
  · rw [hother, hfirst.now, hsecond.now]
  · rw [hfirst.others other hother, hsecond.others other hother]

/-! ## One change -/

theorem exists_setKey_of_means (h : key.Means value held) (settings : Settings) :
    ∃ changed, settings.setKey key value = .ok changed ∧ ChangedAt key held settings changed := by
  cases h with
  | baseUrl | userAgent | noToken =>
    exact ⟨_, rfl, .of_or rfl fun other ↦ by cases other <;> simp [SettingsKey.field]⟩
  | token hsome =>
    refine ⟨_, rfl, .of_or ?_ fun other ↦ by cases other <;> simp [SettingsKey.field]⟩
    simp [SettingsKey.field, hsome]
  | timeout hspells | maxDepth hspells =>
    simp only [setKey_eq, countFor, Count.ofText_eq_ok_iff.2 hspells]
    exact ⟨_, rfl, .of_or rfl fun other ↦ by cases other <;> simp [SettingsKey.field]⟩
  | connective hword =>
    simp only [setKey_eq, connectiveFor, Connective.ofTyped?_eq_some_iff.2 hword]
    exact ⟨_, rfl, .of_or rfl fun other ↦ by cases other <;> simp [SettingsKey.field]⟩

theorem exists_means_of_setKey (h : settings.setKey key value = .ok changed) :
    ∃ held, key.Means value held := by
  rw [setKey_eq] at h
  cases key with
  | baseUrl => exact ⟨_, .baseUrl value⟩
  | userAgent => exact ⟨_, .userAgent value⟩
  | token =>
    by_cases hempty : value = ""
    · subst hempty
      exact ⟨_, .noToken⟩
    · exact ⟨_, .token hempty⟩
  | timeout =>
    obtain ⟨count, hcount, -⟩ := exists_of_map_eq_ok h
    exact ⟨_, .timeout (Count.ofText_eq_ok_iff.1 (ofText_of_countFor hcount))⟩
  | maxDepth =>
    obtain ⟨count, hcount, -⟩ := exists_of_map_eq_ok h
    exact ⟨_, .maxDepth (Count.ofText_eq_ok_iff.1 (ofText_of_countFor hcount))⟩
  | connective =>
    obtain ⟨connective, hconnective, -⟩ := exists_of_map_eq_ok h
    unfold connectiveFor at hconnective
    split at hconnective
    · rename_i hword
      exact ⟨_, .connective (Connective.ofTyped?_eq_some_iff.1 hword)⟩
    · cases hconnective

theorem set_eq_ok_iff :
    settings.set name value = .ok changed ↔
      ∃ key held, SettingsKey.name key = name ∧ key.Means value held ∧
        ChangedAt key held settings changed := by
  have hset (key : SettingsKey) : settings.set key.name value = settings.setKey key value := by
    rw [set_eq, SettingsKey.ofName?_eq_some_iff.2 rfl]
  constructor
  · intro h
    cases hkey : SettingsKey.ofName? name with
    | none =>
      rw [set_eq, hkey] at h
      cases h
    | some key =>
      obtain rfl := SettingsKey.ofName?_eq_some_iff.1 hkey
      rw [hset] at h
      obtain ⟨held, hmeans⟩ := exists_means_of_setKey h
      obtain ⟨same, hsame, hchanged⟩ := exists_setKey_of_means hmeans settings
      obtain rfl := Except.ok.inj (h.symm.trans hsame)
      exact ⟨key, held, rfl, hmeans, hchanged⟩
  · rintro ⟨key, held, rfl, hmeans, hchanged⟩
    obtain ⟨same, hsame, hsameChanged⟩ := exists_setKey_of_means hmeans settings
    rw [hset, hsame, hsameChanged.unique hchanged]

/-- Whether a change is refused, and why, has nothing to do with the settings. -/
theorem set_eq_error_congr {error : SetError} (settings others : Settings) :
    settings.set name value = .error error ↔ others.set name value = .error error := by
  rw [set_eq, set_eq]
  cases SettingsKey.ofName? name with
  | none => rfl
  | some key =>
    simp only [setKey_eq]
    -- Only counts and connectives are ever refused, and this is seen from the text.
    cases key with
    | baseUrl | userAgent | token => exact ⟨nofun, nofun⟩
    | timeout | maxDepth =>
      simp only
      cases countFor value <;> simp [Except.map]
    | connective =>
      simp only
      cases connectiveFor value <;> simp [Except.map]

/-- What is left in place: the changed settings, or the settings as they were. -/
theorem apply_assign (name value : String) (settings : Settings) :
    (assign name value).apply settings =
      match settings.set name value with
      | .ok changed => (.ok (), changed)
      | .error error => (.error error, settings) := by
  unfold set assign
  cases SettingsKey.ofName? name with
  | none => rfl
  | some key =>
    -- A text is read before anything is written, so a refusal comes too early to leave a trace.
    cases key with
    | baseUrl | userAgent | token => rfl
    | timeout | maxDepth =>
      simp only [assignKey]
      cases countFor value <;> rfl
    | connective =>
      simp only [assignKey]
      cases connectiveFor value <;> rfl

theorem apply_assign_eq_ok_iff :
    (assign name value).apply settings = (.ok (), changed) ↔
      settings.set name value = .ok changed := by
  rw [apply_assign]
  cases settings.set name value <;> simp

theorem apply_assign_of_error {error : SetError} {left : Settings}
    (h : (assign name value).apply settings = (.error error, left)) : left = settings := by
  rw [apply_assign] at h
  split at h
  · cases h
  · exact (Prod.mk.inj h).2.symm

/-! ## Calls one after the other -/

/-- What a change under a name to a text leaves behind, whether it is refused or not. -/
def afterSet (settings : Settings) (call : String × String) : Settings :=
  ((assign call.1 call.2).apply settings).2

def afterAll (settings : Settings) (calls : List (String × String)) : Settings :=
  calls.foldl afterSet settings

end Settings

namespace SettingsKey

/-- Whether a call changes the field of a key, and what it then holds. -/
def Accepts (key : SettingsKey) (call : String × String) (held : Setting) : Prop :=
  call.1 = key.name ∧ key.Means call.2 held

def Ignores (key : SettingsKey) (call : String × String) : Prop := ∀ held, ¬ key.Accepts call held

/-- What the last call that changes the field of a key makes it hold. -/
def Last (key : SettingsKey) (calls : List (String × String)) (held : Setting) : Prop :=
  ∃ before call after, calls = before ++ call :: after ∧ key.Accepts call held ∧
    ∀ later ∈ after, key.Ignores later

variable {key : SettingsKey} {call : String × String} {calls : List (String × String)}
  {value : String} {held other : Setting}

theorem Means.unique (h : key.Means value held) (hother : key.Means value other) :
    held = other := by
  obtain ⟨changed, hset, hchanged⟩ := Settings.exists_setKey_of_means h .standard
  obtain ⟨same, hsame, hsameChanged⟩ := Settings.exists_setKey_of_means hother .standard
  obtain rfl := Except.ok.inj (hset.symm.trans hsame)
  exact hchanged.now.symm.trans hsameChanged.now

theorem last_cons_iff :
    key.Last (call :: calls) held ↔
      key.Last calls held ∨ (∀ later ∈ calls, key.Ignores later) ∧ key.Accepts call held := by
  constructor
  · rintro ⟨before, found, after, hcalls, haccepts, hignores⟩
    rcases List.cons_eq_append_iff.1 hcalls with ⟨rfl, h⟩ | ⟨before, rfl, rfl⟩
    · obtain ⟨rfl, rfl⟩ := List.cons.inj h
      exact .inr ⟨hignores, haccepts⟩
    · exact .inl ⟨before, found, after, rfl, haccepts, hignores⟩
  · rintro (⟨before, found, after, rfl, h⟩ | ⟨hignores, haccepts⟩)
    · exact ⟨call :: before, found, after, rfl, h⟩
    · exact ⟨[], call, calls, rfl, haccepts, hignores⟩

end SettingsKey

namespace Settings

variable {key : SettingsKey} {held : Setting} {settings : Settings} {call : String × String}

theorem afterSet_of_ok {changed : Settings} (h : settings.set call.1 call.2 = .ok changed) :
    settings.afterSet call = changed := by
  rw [afterSet, apply_assign, h]

theorem afterSet_of_error {error : SetError} (h : settings.set call.1 call.2 = .error error) :
    settings.afterSet call = settings := by
  rw [afterSet, apply_assign, h]

theorem field_afterSet_of_accepts (h : key.Accepts call held) :
    key.field (settings.afterSet call) = held := by
  obtain ⟨name, value⟩ := call
  obtain ⟨rfl, hmeans⟩ := h
  obtain ⟨changed, hset, hchanged⟩ := exists_setKey_of_means hmeans settings
  have hcall : settings.set key.name value = .ok changed :=
    set_eq_ok_iff.2 ⟨key, held, rfl, hmeans, hchanged⟩
  rw [afterSet_of_ok hcall]
  exact hchanged.now

theorem field_afterSet_of_ignores (h : key.Ignores call) :
    key.field (settings.afterSet call) = key.field settings := by
  cases hset : settings.set call.1 call.2 with
  | error error => rw [afterSet_of_error hset]
  | ok changed =>
    rw [afterSet_of_ok hset]
    obtain ⟨other, held, hname, hmeans, hchanged⟩ := set_eq_ok_iff.1 hset
    refine hchanged.others key ?_
    rintro rfl
    exact h held ⟨hname.symm, hmeans⟩

theorem field_afterSet_iff :
    key.field (settings.afterSet call) = held ↔
      key.Accepts call held ∨ key.Ignores call ∧ key.field settings = held := by
  constructor
  · rintro rfl
    by_cases hignores : key.Ignores call
    · exact .inr ⟨hignores, (field_afterSet_of_ignores hignores).symm⟩
    · obtain ⟨held, haccepts⟩ := not_forall_not.1 hignores
      left
      rwa [field_afterSet_of_accepts haccepts]
  · rintro (haccepts | ⟨hignores, rfl⟩)
    · exact field_afterSet_of_accepts haccepts
    · exact field_afterSet_of_ignores hignores

theorem field_afterAll_iff (calls : List (String × String)) (settings : Settings) :
    key.field (settings.afterAll calls) = held ↔
      key.Last calls held ∨ (∀ call ∈ calls, key.Ignores call) ∧ key.field settings = held := by
  induction calls generalizing settings with
  | nil => simp [afterAll, SettingsKey.Last]
  | cons call rest ih =>
    have hstep : settings.afterAll (call :: rest) = (settings.afterSet call).afterAll rest := rfl
    -- Either a later call counts, or none of them does and the first call decides.
    rw [hstep, ih, field_afterSet_iff, SettingsKey.last_cons_iff, List.forall_mem_cons]
    tauto

theorem afterSet_comm {first second : String × String} (h : first.1 ≠ second.1) :
    (settings.afterSet first).afterSet second = (settings.afterSet second).afterSet first := by
  have hignores {key : SettingsKey} {call other : String × String} {held : Setting}
      (hne : call.1 ≠ other.1) (hkey : key.Accepts call held) : key.Ignores other :=
    fun _ hother ↦ hne (hkey.1.trans hother.1.symm)
  refine ext_field fun key ↦ ?_
  by_cases hfirst : key.Ignores first
  · rw [field_afterSet_iff]
    by_cases hsecond : key.Ignores second
    · right
      simp only [field_afterSet_of_ignores, hfirst, hsecond, true_and]
    · obtain ⟨held, haccepts⟩ := not_forall_not.1 hsecond
      left
      rwa [field_afterSet_of_ignores hfirst, field_afterSet_of_accepts haccepts]
  · obtain ⟨held, haccepts⟩ := not_forall_not.1 hfirst
    rw [field_afterSet_of_ignores (hignores h haccepts), field_afterSet_of_accepts haccepts,
      field_afterSet_of_accepts haccepts]

theorem set_afterSet (settings : Settings) (name first second : String) :
    (settings.afterSet (name, first)).set name second = settings.set name second := by
  cases hset : settings.set name second with
  | error error => exact (set_eq_error_congr _ settings).2 hset
  | ok changed =>
    obtain ⟨key, held, rfl, hmeans, hchanged⟩ := set_eq_ok_iff.1 hset
    refine set_eq_ok_iff.2 ⟨key, held, rfl, hmeans, hchanged.now, fun other hother ↦ ?_⟩
    have hignores : other.Ignores (key.name, first) :=
      fun _ haccepts ↦ hother (SettingsKey.name_injective haccepts.1).symm
    rw [hchanged.others other hother, field_afterSet_of_ignores hignores]

/-- A refused change leaves behind the settings that it found.  A change goes through exactly when
its text means something for a key, and then the field of that key, and no other, holds what the
text means, whatever the settings were.  So a second change under a name is as good as both, changes
under two names may change places, and after any calls a field holds what the last one that was not
refused gave it, and what it held before if there is none. -/
theorem set_changes_one_field (settings : Settings) :
    (∀ name value error left,
      (assign name value).apply settings = (.error error, left) → left = settings) ∧
    (∀ name value changed, (assign name value).apply settings = (.ok (), changed) ↔
      ∃ key held, SettingsKey.name key = name ∧ key.Means value held ∧
        ChangedAt key held settings changed) ∧
    (∀ (key : SettingsKey) value held other,
      key.Means value held → key.Means value other → held = other) ∧
    (∀ name first second,
      (settings.afterSet (name, first)).set name second = settings.set name second) ∧
    (∀ first second : String × String, first.1 ≠ second.1 →
      (settings.afterSet first).afterSet second = (settings.afterSet second).afterSet first) ∧
    ∀ calls (key : SettingsKey) held, key.field (settings.afterAll calls) = held ↔
      key.Last calls held ∨ (∀ call ∈ calls, key.Ignores call) ∧ key.field settings = held := by
  refine ⟨fun _ _ _ _ ↦ apply_assign_of_error, fun _ _ _ ↦ ?_,
    fun _ _ _ _ ↦ SettingsKey.Means.unique, set_afterSet settings, fun _ _ ↦ afterSet_comm,
    fun calls _ _ ↦ field_afterAll_iff calls settings⟩
  rw [apply_assign_eq_ok_iff, set_eq_ok_iff]

/-- A limit with a plus sign, a time that is none, a connective in small letters with white space
around it, and a token that is taken back. -/
theorem set_changes_one_field_mixed :
    let calls := [("editor.max_group_depth", "+5"), ("resolver.auth_token", "secret"),
      ("resolver.timeout_secs", "soon"), ("editor.default_group_operator", " any "),
      ("resolver.auth_token", ""), ("editor.colour", "red")]
    SettingsKey.field .maxDepth (standard.afterAll calls) = .count 5 ∧
      SettingsKey.field .token (standard.afterAll calls) = .token none ∧
      SettingsKey.field .connective (standard.afterAll calls) = .connective .or ∧
      (∃ error, (assign "resolver.timeout_secs" "soon").apply standard = (.error error, standard)) ∧
      (standard.afterSet ("editor.max_group_depth", "+5")).afterSet ("resolver.base_url", "soon") =
        (standard.afterSet ("resolver.base_url", "soon")).afterSet
          ("editor.max_group_depth", "+5") := by
  intro calls
  obtain ⟨hrefused, -, -, -, hcomm, hlast⟩ := set_changes_one_field standard
  have hfive : Count.Spells "+5" 5 :=
    ⟨['5'], .inr rfl, List.cons_ne_nil _ _, List.forall_mem_singleton.2 rfl, rfl⟩
  have hany : SettingsKey.Means .connective " any " (.connective .or) := .connective (by decide)
  have hignores {key : SettingsKey} {call : String × String} (h : call.1 ≠ key.name) :
      key.Ignores call := fun _ haccepts ↦ h haccepts.1
  obtain ⟨error, left, hsoon⟩ : ∃ error left,
      (assign "resolver.timeout_secs" "soon").apply standard = (.error error, left) := ⟨_, _, rfl⟩
  obtain rfl := hrefused _ _ _ _ hsoon
  refine ⟨(hlast calls .maxDepth _).2 (.inl ?_), (hlast calls .token _).2 (.inl ?_),
    (hlast calls .connective _).2 (.inl ?_), ⟨error, hsoon⟩, hcomm _ _ (by decide)⟩
  · refine ⟨[], _, _, rfl, ⟨rfl, .maxDepth hfive⟩, ?_⟩
    simp only [List.forall_mem_cons]
    exact ⟨hignores (by decide), hignores (by decide), hignores (by decide), hignores (by decide),
      hignores (by decide), nofun⟩
  · refine ⟨calls.take 4, _, _, rfl, ⟨rfl, .noToken⟩, ?_⟩
    simp only [List.forall_mem_cons]
    exact ⟨hignores (by decide), nofun⟩
  · refine ⟨calls.take 3, _, _, rfl, ⟨rfl, hany⟩, ?_⟩
    simp only [List.forall_mem_cons]
    exact ⟨hignores (by decide), hignores (by decide), nofun⟩

end Settings

/-- The command stores nothing when the change is refused. -/
theorem Invocation.run_set_of_refused {outside : Outside} {environment : Environment}
    {invocation : Invocation} {path name value : String} {settings : Settings} {error : SetError}
    (hpath : invocation.path? environment = some path)
    (hsettings : Settings.load path (outside.load path) environment.baseUrl = .ok settings)
    (hset : settings.set name value = .error error) :
    (invocation.perform environment (.set name value)).run outside =
      (.error (.setting error), .none) := by
  have hrunPath : (invocation.path environment).runAfter outside .none = (.ok path, .none) := by
    rw [Invocation.path, hpath]
    rfl
  have hrunSettings : (invocation.settings environment).runAfter outside .none =
      (.ok settings, .none) := by
    rw [Invocation.settings, hpath, Program.runAfter, Program.runAfter_ofExcept, hsettings]
    rfl
  have hrunSet : (Program.ofExcept Failure.setting (settings.set name value)).runAfter outside
      .none = (.error (.setting error), .none) := by
    rw [Program.runAfter_ofExcept, hset]
    rfl
  unfold Program.run perform
  rw [Program.runAfter_bind_of_ok hrunPath, Program.runAfter_bind_of_ok hrunSettings,
    Program.runAfter_bind_of_error hrunSet]

end CardFilter
