import CardFilter.Proofs.Command.Runs
import CardFilter.Proofs.Settings.Stored

/-!
# Changing the settings file under an override

The address from the environment comes before the stored one when settings are loaded.  The command
that changes one setting loads them so, and stores what it has loaded: the address from the
environment goes into the file, unless the address is what is changed.

Nothing else happens to the settings on the way, and no other file is touched.
-/

namespace CardFilter

/-! ## Overrides -/

theorem SettingsKey.ofName?_eq_some_iff {name : String} {key : SettingsKey} :
    ofName? name = some key ↔ name = key.name := by
  constructor
  · intro h
    have hname := List.find?_some h
    exact (beq_iff_eq.1 hname).symm
  · rintro rfl
    cases key <;> rfl

namespace Settings

theorem withBaseUrl_eq_self_iff (url : String) (settings : Settings) :
    settings.withBaseUrl url = settings ↔ url = settings.source.baseUrl := by
  obtain ⟨⟨baseUrl, timeout, userAgent, token⟩, editor⟩ := settings
  simp [withBaseUrl]

theorem overridden_eq (url : Option String) (settings : Settings) :
    settings.overridden url =
      settings.withBaseUrl ((url.filter Text.isFilled).getD settings.source.baseUrl) := by
  cases url with
  | none => rfl
  | some url =>
    rw [overridden, Option.filter_some]
    split <;> rfl

/-- Whether an override changes settings depends on their address alone. -/
theorem overridden_eq_self_congr {settings others : Settings}
    (h : settings.source.baseUrl = others.source.baseUrl) (url : Option String) :
    settings.overridden url = settings ↔ others.overridden url = others := by
  rw [overridden_eq, overridden_eq, withBaseUrl_eq_self_iff, withBaseUrl_eq_self_iff, h]

theorem exists_of_load {path : String} {found : Except ReadError String} {url : Option String}
    {settings : Settings} (h : load path found url = .ok settings) :
    ∃ stored, load path found none = .ok stored ∧ settings = stored.overridden url := by
  unfold load at h ⊢
  split at h
  · exact ⟨_, rfl, (Except.ok.inj h).symm⟩
  · cases h
  · rename_i text
    cases hparse : parse text with
    | error =>
      rw [hparse] at h
      cases h
    | ok stored =>
      rw [hparse] at h
      exact ⟨stored, rfl, (Except.ok.inj h).symm⟩

/-- The address can be set before a change or after it, unless the change is of the address. -/
theorem set_withBaseUrl (url key value : String) (settings : Settings) :
    (settings.withBaseUrl url).set key value = (settings.set key value).map fun changed ↦
      if key = SettingsKey.baseUrl.name then changed else changed.withBaseUrl url := by
  rw [set_eq, set_eq]
  cases hkey : SettingsKey.ofName? key with
  | none => rfl
  | some other =>
    obtain rfl := SettingsKey.ofName?_eq_some_iff.1 hkey
    simp only [setKey_eq]
    cases other with
    | baseUrl | userAgent | token => rfl
    | timeout | maxDepth =>
      simp only
      cases countFor value <;> rfl
    | connective =>
      simp only
      cases connectiveFor value <;> rfl

/-- Reading back does not change an address. -/
theorem baseUrl_of_load_text {path : String} {settings loaded : Settings}
    (h : load path (.ok settings.text) none = .ok loaded) :
    loaded.source.baseUrl = settings.source.baseUrl := by
  rw [load_text] at h
  split at h
  · obtain rfl := Except.ok.inj h
    rfl
  · cases h

section Change

variable {key value : String} {stored changed : Settings}

/-- A change under another key leaves the address. -/
theorem baseUrl_of_set (hset : stored.set key value = .ok changed)
    (hkey : key ≠ SettingsKey.baseUrl.name) :
    changed.source.baseUrl = stored.source.baseUrl := by
  have hsame := set_withBaseUrl stored.source.baseUrl key value stored
  rw [(withBaseUrl_eq_self_iff _ _).2 rfl, hset, Except.map, if_neg hkey] at hsame
  exact ((withBaseUrl_eq_self_iff _ _).1 (Except.ok.inj hsame).symm).symm

/-- What the command stores in place of the change. -/
def storedInstead (url : Option String) (key : String) (changed : Settings) : Settings :=
  if key = SettingsKey.baseUrl.name then changed else changed.overridden url

theorem set_overridden (url : Option String) (key value : String) (stored : Settings) :
    (stored.overridden url).set key value =
      (stored.set key value).map (storedInstead url key) := by
  rw [overridden_eq, set_withBaseUrl]
  cases hset : stored.set key value with
  | error => rfl
  | ok changed =>
    simp only [Except.map, storedInstead]
    split
    · rfl
    · rename_i hkey
      rw [overridden_eq, baseUrl_of_set hset hkey]

/-- The change itself is loaded from the file exactly if it is storable and the override changes
nothing that was stored, or is what is changed. -/
theorem load_storedInstead_iff (hset : stored.set key value = .ok changed) (path : String)
    (url : Option String) :
    load path (.ok (storedInstead url key changed).text) none = .ok changed ↔
      changed.isStorable = true ∧
        (key = SettingsKey.baseUrl.name ∨ stored.overridden url = stored) := by
  unfold storedInstead
  by_cases hkey : key = SettingsKey.baseUrl.name
  · rw [if_pos hkey, load_text_eq_self_iff]
    exact (and_iff_left (.inl hkey)).symm
  · have hbaseUrl := baseUrl_of_set hset hkey
    rw [if_neg hkey, ← overridden_eq_self_congr hbaseUrl]
    constructor
    · intro hload
      have hsame : changed.overridden url = changed := by
        have hloaded := baseUrl_of_load_text hload
        rw [overridden_eq] at hloaded ⊢
        exact (withBaseUrl_eq_self_iff _ _).2 hloaded.symm
      rw [hsame] at hload
      exact ⟨(load_text_eq_self_iff path changed).1 hload, .inr hsame⟩
    · rintro ⟨hstorable, h | hsame⟩
      · exact absurd h hkey
      · rw [hsame]
        exact (load_text_eq_self_iff path changed).2 hstorable

end Change

end Settings

/-! ## The command -/

theorem Invocation.exists_of_run_set {outside : Outside} {environment : Environment}
    {invocation : Invocation} {key value : String} {output : Output} {effects : Effects}
    (h : (invocation.perform environment (.set key value)).run outside =
      (.ok (.success, output), effects)) :
    ∃ path stored changed, invocation.path? environment = some path ∧
      Settings.load path (outside.load path) none = .ok stored ∧
      stored.set key value = .ok changed ∧
      effects =
        ⟨[(path, (Settings.storedInstead environment.baseUrl key changed).text)], []⟩ := by
  unfold Program.run perform at h
  obtain ⟨path, _, hrunPath, h⟩ := Program.exists_of_runAfter_bind h
  obtain ⟨hpath, rfl⟩ := eq_of_runAfter_path hrunPath
  obtain ⟨loaded, _, hrunSettings, h⟩ := Program.exists_of_runAfter_bind h
  obtain ⟨hloaded, rfl⟩ := eq_of_runAfter_settings hrunSettings hpath
  obtain ⟨stored, hstored, rfl⟩ := Settings.exists_of_load hloaded
  obtain ⟨written, _, hrunSet, h⟩ := Program.exists_of_runAfter_bind h
  obtain ⟨hwritten, rfl⟩ := Program.eq_of_runAfter_ofExcept hrunSet
  obtain ⟨_, _, hrunStore, h⟩ := Program.exists_of_runAfter_bind h
  obtain ⟨-, rfl⟩ := eq_of_runAfter_store hrunStore
  obtain ⟨-, rfl⟩ := Prod.mk.inj h
  rw [Settings.set_overridden] at hwritten
  obtain ⟨changed, hset, rfl⟩ := Settings.exists_of_map_eq_ok hwritten
  exact ⟨path, stored, changed, hpath, hstored, hset, rfl⟩

/-- A change that ends well writes one file and nothing else.  What is loaded from it is the change
of what was stored, exactly if that is storable and the address from the environment makes no
difference: because it is blank, missing or the stored one, or because the address is changed. -/
theorem Call.set_stores_iff (outside : Outside) (call : Call) (invocation : Invocation)
    (key value : String) (hcall : Invocation.ofArguments call.arguments = .ok invocation)
    (hcommand : invocation.command = .settings (.set key value))
    (hexit : (call.run outside).1.exit = .success) :
    ∃ path stored changed content, invocation.path? call.environment = some path ∧
      Settings.load path (outside.load path) none = .ok stored ∧
      stored.set key value = .ok changed ∧
      (call.run outside).2 = ⟨[(path, content)], []⟩ ∧
      (Settings.load path (.ok content) none = .ok changed ↔
        changed.isStorable = true ∧
          (key = "resolver.base_url" ∨
            stored.overridden call.environment.baseUrl = stored)) := by
  obtain ⟨output, hrun⟩ := Call.exists_of_success hcall hexit
  unfold Invocation.answer at hrun
  simp only [hcommand] at hrun
  obtain ⟨path, stored, changed, hpath, hstored, hset, heffects⟩ :=
    Invocation.exists_of_run_set hrun
  exact ⟨path, stored, changed, _, hpath, hstored, hset, heffects,
    Settings.load_storedInstead_iff hset path call.environment.baseUrl⟩

/-- Where there is no file and everything else succeeds. -/
def Outside.withoutFile : Outside where
  load _ := .error (.absent "")
  input := .ok ""
  save _ _ := .ok ()
  send _ := .error ""

/-- A call that changes the limit of nesting, under an override or not. -/
def Call.deepen (url : Option String) : Call :=
  ⟨⟨none, none, url, false⟩, ["--config", "c.json", "config", "set", "editor.max_group_depth", "5"]⟩

/-- Without an override the file holds the change. -/
theorem Call.set_stores_change :
    (Call.run .withoutFile (.deepen none)).1.exit = .success ∧
      ∃ content, (Call.run .withoutFile (.deepen none)).2 = ⟨[("c.json", content)], []⟩ ∧
        Settings.load "c.json" (.ok content) none =
          .ok { Settings.standard with editor := ⟨5, .and⟩ } := by
  have hexit : (Call.run .withoutFile (.deepen none)).1.exit = .success := by rfl
  refine ⟨hexit, ?_⟩
  obtain ⟨path, stored, changed, content, hpath, hstored, hset, heffects, hload⟩ :=
    Call.set_stores_iff .withoutFile (.deepen none) ⟨some "c.json", false, false, false, _⟩
      "editor.max_group_depth" "5" rfl rfl hexit
  obtain rfl := Option.some.inj hpath
  obtain rfl := Except.ok.inj hstored
  obtain rfl := Except.ok.inj hset
  exact ⟨content, heffects, hload.2 ⟨by decide, .inr rfl⟩⟩

/-- Under an override the file holds the address from the environment too. -/
theorem Call.set_stores_override :
    let changed := { Settings.standard with editor := ⟨5, .and⟩ }
    let content := (changed.withBaseUrl "https://api.example.com").text
    (Call.run .withoutFile (.deepen (some "https://api.example.com"))).1.exit = .success ∧
      Settings.standard.set "editor.max_group_depth" "5" = .ok changed ∧
      (Call.run .withoutFile (.deepen (some "https://api.example.com"))).2 =
        ⟨[("c.json", content)], []⟩ ∧
      Settings.load "c.json" (.ok content) none =
        .ok (changed.withBaseUrl "https://api.example.com") ∧
      changed.withBaseUrl "https://api.example.com" ≠ changed := by
  intro changed content
  refine ⟨by rfl, by rfl, by rfl, ?_, by decide⟩
  exact (Settings.load_text_eq_self_iff _ _).2 (by decide)

end CardFilter
