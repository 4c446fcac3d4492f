/-!
Results that are handed on: a failure ends what follows, and a change of failures leaves a success
as it is.
-/

namespace ChartManifests

variable {fault other α β : Type}

theorem bind_eq_ok {first : Except fault α} {next : α → Except fault β} {result : β} :
    (first >>= next) = .ok result ↔ ∃ value, first = .ok value ∧ next value = .ok result := by
  cases first with
  | error raised => simp [bind, Except.bind]
  | ok value => simp [bind, Except.bind]

theorem mapError_ok (change : fault → other) (value : α) :
    (Except.ok value).mapError change = .ok value := rfl

theorem mapError_error (change : fault → other) (raised : fault) :
    (Except.error raised : Except fault α).mapError change = .error (change raised) := rfl

def failure? : Except fault α → Option fault
  | .error raised => some raised
  | .ok _ => none

theorem eq_error_of_failure? {result : Except fault α} {raised : fault}
    (failed : failure? result = some raised) : result = .error raised := by
  cases result with
  | error other => exact congrArg Except.error (Option.some.inj failed)
  | ok value => cases failed

theorem eq_ok_of_toOption {result : Except fault α} {value : α}
    (given : result.toOption = some value) : result = .ok value := by
  cases result with
  | error raised => cases given
  | ok other => exact congrArg Except.ok (Option.some.inj given)

def FailsOnly (ways : fault → Prop) (result : Except fault α) : Prop :=
  ∀ raised, result = .error raised → ways raised

namespace FailsOnly

variable {ways : fault → Prop}

theorem ok (value : α) : FailsOnly ways (.ok value) := nofun

theorem error {raised : fault} (allowed : ways raised) :
    FailsOnly ways (.error raised : Except fault α) := by
  rintro _ ⟨⟩
  exact allowed

theorem bind {first : Except fault α} {next : α → Except fault β} (begun : FailsOnly ways first)
    (later : ∀ value, first = .ok value → FailsOnly ways (next value)) :
    FailsOnly ways (first >>= next) := by
  intro raised failed
  cases ended : first with
  | error other =>
    rw [ended] at failed
    cases failed
    exact begun _ ended
  | ok value =>
    rw [ended] at failed
    exact later value ended raised failed

theorem map {change : α → β} {result : Except fault α} (only : FailsOnly ways result) :
    FailsOnly ways (result.map change) := by
  cases result with
  | ok value => exact ok _
  | error raised => exact error (only raised rfl)

end FailsOnly

def Gives (meant : α → Prop) (result : Except fault α) : Prop :=
  ∀ value, result = .ok value → meant value

namespace Gives

variable {meant : α → Prop}

theorem ok {value : α} (right : meant value) : Gives meant (.ok value : Except fault α) := by
  rintro _ ⟨⟩
  exact right

theorem error (raised : fault) : Gives meant (.error raised) := by
  rintro _ ⟨⟩

theorem of (result : Except fault α) : Gives (fun _ => True) result := fun _ _ => trivial

theorem ite {condition : Prop} [Decidable condition] {first second : Except fault α}
    (holds : condition → Gives meant first) (fails : ¬ condition → Gives meant second) :
    Gives meant (if condition then first else second) := by
  split
  next met => exact holds met
  next unmet => exact fails unmet

theorem bind {early : β → Prop} {first : Except fault β} {next : β → Except fault α}
    (begun : Gives early first) (later : ∀ value, early value → Gives meant (next value)) :
    Gives meant (first >>= next) := by
  intro result given
  obtain ⟨value, started, ended⟩ := bind_eq_ok.mp given
  exact later value (begun value started) result ended

end Gives

end ChartManifests
