import CardFilter.Proofs.Command.Runs
import CardFilter.Proofs.Condition.Missing
import CardFilter.Proofs.Condition.Nesting
import CardFilter.Proofs.Condition.Texts
import CardFilter.Proofs.Json.Exact

/-!
# Verdicts

The exit code of the command that judges a condition tells a script the most serious matter only:
settings that cannot be loaded, then a text that is no condition, then a condition that lacks
something or nests too deep.  A condition whose root is an empty group filters nothing; the group
counts as missing, but it does not keep the condition from being saved.

The input itself is taken to be readable here.
-/

namespace CardFilter

/-- The text behind an input: the standard input behind a dash, or else a file. -/
def Outside.Gives (outside : Outside) (input text : String) : Prop :=
  if input = "-" then outside.input = .ok text else outside.load input = .ok text

/-- The settings that an invocation loads. -/
def Invocation.Loads (outside : Outside) (environment : Environment) (invocation : Invocation)
    (settings : Settings) : Prop :=
  ∃ path, invocation.path? environment = some path ∧
    Settings.load path (outside.load path) environment.baseUrl = .ok settings

/-! ## Conditions -/

namespace Condition

/-- Whether something is missing, other than the children of the root. -/
def Lacks (condition : Condition) : Prop :=
  condition.openPlaces.Nonempty ∧ ¬ ∃ connective, condition.root = some (.group connective [])

/-- Whether more groups lie inside one another than a limit allows. -/
def Nests (condition : Condition) (limit : Nat) : Prop :=
  ∃ groups, Node.IsDescent condition.root groups ∧ limit < groups.length

theorem nonempty_openPlaces_iff (condition : Condition) :
    condition.openPlaces.Nonempty ↔ condition.isComplete = false := by
  rw [← Bool.not_eq_true, isComplete_iff, ← Set.encard_ne_zero, encard_openPlaces]
  exact not_congr Nat.cast_eq_zero

/-- What is saved although it is not complete has an empty group for its root. -/
theorem lacks_iff (condition : Condition) :
    condition.Lacks ↔ condition.isSubmittable = false := by
  rw [Lacks, nonempty_openPlaces_iff, isSubmittable, Bool.or_eq_false_iff, ← Bool.not_eq_true,
    ← Bool.not_eq_true, isEmpty_iff, and_comm]
  constructor
  · rintro ⟨hroot, hcomplete⟩
    refine ⟨?_, hcomplete⟩
    rintro (hnone | hempty)
    -- Without a root nothing is missing, so only the empty group has to be ruled out.
    · exact hcomplete (by rw [isComplete, hnone]; rfl)
    · exact hroot hempty
  · rintro ⟨hempty, hcomplete⟩
    exact ⟨fun hroot ↦ hempty (.inr hroot), hcomplete⟩

end Condition

namespace Verdict

theorem exit_eq_incomplete_iff (limit : Nat) (condition : Condition) :
    (ofCondition limit condition).exit = .incomplete ↔
      condition.Lacks ∨ condition.Nests limit := by
  rw [condition.lacks_iff, Condition.Nests, ← condition.exceeds_iff]
  unfold exit ofCondition
  cases condition.isSubmittable <;> cases condition.exceeds limit <;> simp

theorem exit_eq_success_iff (limit : Nat) (condition : Condition) :
    (ofCondition limit condition).exit = .success ↔
      ¬ (condition.Lacks ∨ condition.Nests limit) := by
  rw [← exit_eq_incomplete_iff]
  unfold exit
  split <;> simp

end Verdict

/-! ## Parts of the command -/

section Parts

variable {outside : Outside} {environment : Environment} {invocation : Invocation}

theorem Condition.runAfter_load {input text : String} (h : outside.Gives input text)
    (effects : Effects) :
    (load input).runAfter outside effects =
      ((parse text).value.mapError Failure.malformed, effects) := by
  have hread : (if input = "-" then .input (Program.ofExcept Failure.noInput)
      else .load input (Program.ofExcept (Failure.unreadable input)) :
        Program String).runAfter outside effects = (.ok text, effects) := by
    unfold Outside.Gives at h
    split at h
    · rename_i hdash
      rw [if_pos hdash, Program.runAfter, h]
      rfl
    · rename_i hdash
      rw [if_neg hdash, Program.runAfter, h]
      rfl
  rw [load, Program.runAfter_bind_of_ok hread, Program.runAfter_ofExcept]

namespace Invocation

theorem runAfter_settings {settings : Settings}
    (h : invocation.Loads outside environment settings) (effects : Effects) :
    (invocation.settings environment).runAfter outside effects = (.ok settings, effects) := by
  obtain ⟨path, hpath, hload⟩ := h
  unfold Invocation.settings
  rw [hpath]
  simp only [Program.runAfter, hload]
  rfl

theorem exists_failure_of_settings
    (h : ¬ ∃ settings, invocation.Loads outside environment settings) (effects : Effects) :
    ∃ failure, (invocation.settings environment).runAfter outside effects =
      (.error failure, effects) ∧ failure.exit = .badSettings := by
  unfold Invocation.settings
  cases hpath : invocation.path? environment with
  | none => exact ⟨.noSettings, rfl, rfl⟩
  | some path =>
    cases hload : Settings.load path (outside.load path) environment.baseUrl with
    | error error =>
      refine ⟨.settings error, ?_, rfl⟩
      simp only [Program.runAfter, hload]
      rfl
    | ok settings => exact absurd ⟨settings, path, hpath, hload⟩ h

end Invocation

end Parts

/-! ## The command -/

/-- A call that judges a condition reports what the judging comes to. -/
theorem Call.report_of_check {call : Call} {invocation : Invocation} {input : String}
    {maxDepth : Option UInt64} (outside : Outside)
    (hcall : Invocation.ofArguments call.arguments = .ok invocation)
    (hcommand : invocation.command = .check input maxDepth) :
    (call.run outside).1 = invocation.report call.environment
      ((Invocation.check (invocation.settings call.environment) input maxDepth).run outside).1 := by
  have hanswer : invocation.answer call.environment =
      Invocation.check (invocation.settings call.environment) input maxDepth := by
    unfold Invocation.answer
    simp only [hcommand]
  unfold Call.run
  rw [hcall, ← hanswer]

section Check

variable {outside : Outside} {call : Call} {invocation : Invocation} {input text : String}
  {maxDepth : Option UInt64} {settings : Settings}

theorem Call.exit_of_no_settings
    (hcall : Invocation.ofArguments call.arguments = .ok invocation)
    (hcommand : invocation.command = .check input maxDepth)
    (h : ¬ ∃ settings, invocation.Loads outside call.environment settings) :
    (call.run outside).1.exit = .badSettings := by
  obtain ⟨failure, hfailure, hexit⟩ := Invocation.exists_failure_of_settings h .none
  rw [report_of_check outside hcall hcommand, Invocation.check, Program.run,
    Program.runAfter_bind_of_error hfailure, Invocation.report, failure.exit_report, hexit]

theorem Call.exit_of_no_condition
    (hcall : Invocation.ofArguments call.arguments = .ok invocation)
    (hcommand : invocation.command = .check input maxDepth) (hinput : outside.Gives input text)
    (hsettings : invocation.Loads outside call.environment settings) {error : Condition.Error}
    (h : (Condition.parse text).value = .error error) :
    (call.run outside).1.exit = .unparsable := by
  have hload := Condition.runAfter_load hinput .none
  rw [h] at hload
  rw [report_of_check outside hcall hcommand, Invocation.check, Program.run,
    Program.runAfter_bind_of_ok (Invocation.runAfter_settings hsettings .none),
    Program.runAfter_bind_of_error hload, Invocation.report, Failure.exit_report]
  rfl

/-- Whatever can be judged is judged. -/
theorem Call.report_of_condition
    (hcall : Invocation.ofArguments call.arguments = .ok invocation)
    (hcommand : invocation.command = .check input maxDepth) (hinput : outside.Gives input text)
    (hsettings : invocation.Loads outside call.environment settings) {condition : Condition}
    (h : (Condition.parse text).value = .ok condition) :
    let verdict := Verdict.ofCondition (maxDepth.getD settings.editor.maxDepth).toNat condition
    (call.run outside).1 = .ofOutput (invocation.mode call.environment) verdict.exit
      (.value verdict.toJson verdict.text) := by
  have hload := Condition.runAfter_load hinput .none
  rw [h] at hload
  rw [report_of_check outside hcall hcommand, Invocation.check, Program.run,
    Program.runAfter_bind_of_ok (Invocation.runAfter_settings hsettings .none),
    Program.runAfter_bind_of_ok hload]
  rfl

end Check

/-- The exit code is 5 if no settings can be loaded, or else 3 if the text is no condition, or else
2 if the condition lacks something or nests deeper than the limit, or else 0.  Programs read from
the standard output at how many places something is missing and how long the longest descent of
groups is. -/
theorem Call.check_verdict (outside : Outside) (call : Call) (invocation : Invocation)
    (input text : String) (maxDepth : Option UInt64)
    (hcall : Invocation.ofArguments call.arguments = .ok invocation)
    (hcommand : invocation.command = .check input maxDepth) (hinput : outside.Gives input text) :
    let report := (call.run outside).1
    ((¬ ∃ settings, invocation.Loads outside call.environment settings) →
      report.exit.value = 5) ∧
    ∀ settings, invocation.Loads outside call.environment settings →
      (∀ error, (Condition.parse text).value = .error error → report.exit.value = 3) ∧
      ∀ condition, (Condition.parse text).value = .ok condition →
        let limit := (maxDepth.getD settings.editor.maxDepth).toNat
        (condition.Lacks ∨ condition.Nests limit → report.exit.value = 2) ∧
        (¬ (condition.Lacks ∨ condition.Nests limit) → report.exit.value = 0) ∧
        (invocation.mode call.environment = .json →
          ∃ (answer verdict : Json) (missing depth : Nat),
            Json.Exact.read? report.stdout = some answer ∧
            answer.member? "result" = some verdict ∧
            verdict.member? "incompleteCount" = some (.ofNat missing) ∧
            verdict.member? "depth" = some (.ofNat depth) ∧
            condition.openPlaces.encard = missing ∧
            IsGreatest {length | ∃ groups, Node.IsDescent condition.root groups ∧
              groups.length = length} depth) := by
  intro report
  constructor
  · intro hnone
    rw [exit_of_no_settings hcall hcommand hnone]
    rfl
  intro settings hsettings
  constructor
  · intro error herror
    rw [exit_of_no_condition hcall hcommand hinput hsettings herror]
    rfl
  intro condition hcondition limit
  have hreport : report = _ := report_of_condition hcall hcommand hinput hsettings hcondition
  have hexit : report.exit = (Verdict.ofCondition limit condition).exit := by rw [hreport]; rfl
  rw [hexit]
  refine ⟨?_, ?_, ?_⟩
  · intro hstopped
    rw [(Verdict.exit_eq_incomplete_iff limit condition).2 hstopped]
    rfl
  · intro hfine
    rw [(Verdict.exit_eq_success_iff limit condition).2 hfine]
    rfl
  · intro hmode
    have hwriting : Json.Writing (Envelope.result (Verdict.ofCondition limit condition).toJson)
        report.stdout := by
      rw [hreport, hmode]
      exact .line .compact
    exact ⟨_, (Verdict.ofCondition limit condition).toJson, condition.missing, condition.depth,
      Json.Exact.read?_of_writing hwriting, rfl, rfl, rfl, condition.encard_openPlaces,
      condition.isGreatest_depth⟩

/-- Two groups inside one another, of which the inner one is empty, under a limit of one; and the
same input where there is no place for settings. -/
theorem Call.check_verdict_nested :
    let inner := Node.group .or []
    let outer := Node.group .and [inner]
    let outside : Outside := ⟨fun _ ↦ .error (.absent ""), .ok (Condition.ofNode outer).jsonText,
      fun _ _ ↦ .ok (), fun _ ↦ .error ""⟩
    let environment : Environment := ⟨none, none, none, false⟩
    let call := Call.mk environment ["--config", "c.json", "--json", "check", "--max-depth", "1"]
    (Call.run outside ⟨environment, ["check"]⟩).1.exit.value = 5 ∧
      (call.run outside).1.exit.value = 2 ∧
      ∃ answer verdict : Json,
        Json.Exact.read? (call.run outside).1.stdout = some answer ∧
        answer.member? "result" = some verdict ∧
        verdict.member? "incompleteCount" = some (.ofNat 1) ∧
        verdict.member? "depth" = some (.ofNat 2) := by
  intro inner outer outside environment call
  let invocation : Invocation := ⟨some "c.json", true, false, false, .check "-" (some 1)⟩
  have hparse : (Condition.parse (Condition.ofNode outer).jsonText).value =
      .ok (Condition.ofNode outer) := by
    have hunbroken : (Condition.ofNode outer).isUnbroken = true := by decide
    have hself := (Condition.parse_eq_self_iff rfl rfl .compact).2 hunbroken
    exact congrArg Reading.value hself
  have hsettings : invocation.Loads outside environment .standard := ⟨"c.json", rfl, rfl⟩
  have hinner : Node.IsDescent (some inner) [inner] :=
    Node.isDescent_cons_iff.2 ⟨rfl, rfl, .inl rfl⟩
  have houter : Node.IsDescent (some outer) [outer, inner] :=
    Node.isDescent_cons_iff.2 ⟨rfl, rfl, .inr ⟨inner, List.mem_singleton_self inner, hinner⟩⟩
  have hnests : (Condition.ofNode outer).Nests 1 := ⟨[outer, inner], houter, by decide⟩
  obtain ⟨hhomeless, -⟩ := Call.check_verdict outside ⟨environment, ["check"]⟩
    ⟨none, false, false, false, .check "-" none⟩ "-" _ none rfl rfl rfl
  obtain ⟨-, hloaded⟩ := Call.check_verdict outside call invocation "-" _ (some 1) rfl rfl rfl
  obtain ⟨-, hjudged⟩ := hloaded .standard hsettings
  obtain ⟨hstopped, -, hjson⟩ := hjudged _ hparse
  obtain ⟨answer, verdict, missing, depth, hread, hverdict, hmissing, hdepth, hcount, hgreatest⟩ :=
    hjson rfl
  refine ⟨hhomeless ?_, hstopped (.inr hnests), answer, verdict, hread, hverdict, ?_, ?_⟩
  · rintro ⟨settings, path, hpath, -⟩
    cases hpath
  · rw [Condition.encard_openPlaces] at hcount
    rw [hmissing, ← Nat.cast_injective hcount]
    rfl
  · rw [hdepth, hgreatest.unique (Condition.isGreatest_depth _)]
    rfl

end CardFilter
