import CardFilter.Command.Call

/-!
# Runs of commands

A command that ends well has come through all of its parts: each of them gave a value, and what was
done is what the parts have done in turn.  A failure never ends with the exit code of success, so an
exit code of success says that there was none; the help that is asked for ends so too, but then
there is no command.
-/

namespace CardFilter

namespace Program

variable {α β : Type} {outside : Outside}

theorem runAfter_bind (outside : Outside) (program : Program α) (rest : α → Program β)
    (effects : Effects) :
    (program.bind rest).runAfter outside effects =
      match program.runAfter outside effects with
      | (.ok value, effects) => (rest value).runAfter outside effects
      | (.error failure, effects) => (.error failure, effects) := by
  induction program generalizing effects with
  | done | fail => rfl
  | load path next ih => exact ih (outside.load path) effects
  | input next ih => exact ih outside.input effects
  | save path content next ih =>
    cases hsave : outside.save path content with
    | ok =>
      simp only [bind, runAfter, hsave]
      exact ih (.ok ()) _
    | error error =>
      simp only [bind, runAfter, hsave]
      exact ih (.error error) effects
  | send request next ih => exact ih (outside.send request) _

theorem runAfter_bind_of_ok {program : Program α} {effects after : Effects} {value : α}
    (h : program.runAfter outside effects = (.ok value, after)) (rest : α → Program β) :
    (program >>= rest).runAfter outside effects = (rest value).runAfter outside after := by
  have hbind := runAfter_bind outside program rest effects
  rw [h] at hbind
  exact hbind

theorem runAfter_bind_of_error {program : Program α} {effects after : Effects} {failure : Failure}
    (h : program.runAfter outside effects = (.error failure, after)) (rest : α → Program β) :
    (program >>= rest).runAfter outside effects = (.error failure, after) := by
  have hbind := runAfter_bind outside program rest effects
  rw [h] at hbind
  exact hbind

theorem runAfter_ofExcept {ε : Type} (failure : ε → Failure) (found : Except ε α)
    (effects : Effects) :
    (ofExcept failure found).runAfter outside effects = (found.mapError failure, effects) := by
  cases found <;> rfl

/-- What ends well has a first part that ends well. -/
theorem exists_of_runAfter_bind {program : Program α} {rest : α → Program β}
    {effects after : Effects} {result : β}
    (h : (program >>= rest).runAfter outside effects = (.ok result, after)) :
    ∃ value between, program.runAfter outside effects = (.ok value, between) ∧
      (rest value).runAfter outside between = (.ok result, after) := by
  have hbind := runAfter_bind outside program rest effects
  rw [show program.bind rest = program >>= rest from rfl, h] at hbind
  split at hbind
  · rename_i value between hfirst
    exact ⟨value, between, hfirst, hbind.symm⟩
  · cases hbind

theorem eq_of_runAfter_ofExcept {ε : Type} {failure : ε → Failure} {found : Except ε α}
    {effects after : Effects} {value : α}
    (h : (ofExcept failure found).runAfter outside effects = (.ok value, after)) :
    found = .ok value ∧ after = effects := by
  cases found with
  | error => cases h
  | ok =>
    obtain ⟨hvalue, rfl⟩ := Prod.mk.inj h
    obtain rfl := Except.ok.inj hvalue
    exact ⟨rfl, rfl⟩

end Program

namespace Invocation

variable {outside : Outside} {environment : Environment} {invocation : Invocation}
  {effects after : Effects}

theorem eq_of_runAfter_path {path : String}
    (h : (invocation.path environment).runAfter outside effects = (.ok path, after)) :
    invocation.path? environment = some path ∧ after = effects := by
  unfold Invocation.path at h
  cases hpath : invocation.path? environment with
  | none =>
    rw [hpath] at h
    cases h
  | some =>
    rw [hpath] at h
    obtain ⟨hvalue, rfl⟩ := Prod.mk.inj h
    obtain rfl := Except.ok.inj hvalue
    exact ⟨rfl, rfl⟩

theorem eq_of_runAfter_settings {settings : Settings}
    (h : (invocation.settings environment).runAfter outside effects = (.ok settings, after))
    {path : String} (hpath : invocation.path? environment = some path) :
    Settings.load path (outside.load path) environment.baseUrl = .ok settings ∧
      after = effects := by
  unfold Invocation.settings at h
  rw [hpath] at h
  exact Program.eq_of_runAfter_ofExcept h

theorem eq_of_runAfter_store {path : String} {settings : Settings}
    (h : (store path settings).runAfter outside effects = (.ok (), after)) :
    outside.save path settings.text = .ok () ∧
      after = { effects with written := effects.written ++ [(path, settings.text)] } := by
  unfold store Program.runAfter at h
  cases hsave : outside.save path settings.text with
  | error =>
    rw [hsave] at h
    cases h
  | ok =>
    rw [hsave] at h
    exact ⟨rfl, (Prod.mk.inj h).2.symm⟩

end Invocation

/-! ## Exit codes -/

theorem Failure.exit_ne_success (failure : Failure) : failure.exit ≠ .success := by
  cases failure <;> exact nofun

theorem Failure.exit_report (mode : Mode) (failure : Failure) :
    (failure.report mode).exit = failure.exit := by
  unfold report Report.ofError
  split <;> rfl

theorem Invocation.exists_of_success {environment : Environment} {invocation : Invocation}
    {result : Except Failure (ExitCode × Output)}
    (h : (invocation.report environment result).exit = .success) :
    ∃ output, result = .ok (.success, output) := by
  cases result with
  | error failure =>
    rw [Invocation.report, failure.exit_report] at h
    exact absurd h failure.exit_ne_success
  | ok value =>
    obtain ⟨exit, output⟩ := value
    obtain rfl : exit = .success := h
    exact ⟨output, rfl⟩

/-- A call that makes a command and ends well is a run of that command to a value. -/
theorem Call.exists_of_success {outside : Outside} {call : Call} {invocation : Invocation}
    (hcall : Invocation.ofArguments call.arguments = .ok invocation)
    (h : (call.run outside).1.exit = .success) :
    ∃ output, (invocation.answer call.environment).run outside =
      (.ok (.success, output), (call.run outside).2) := by
  unfold Call.run at h ⊢
  rw [hcall] at h ⊢
  obtain ⟨output, houtput⟩ := Invocation.exists_of_success h
  exact ⟨output, Prod.ext houtput rfl⟩

end CardFilter
