import ComplianceTriage.Failure
import ComplianceTriage.Text.Blank
import ComplianceTriage.Triage.Settings

/-!
# Configuration

A configuration tunes the triage and names the cluster to connect to. It is accepted only if it
makes sense: at least one fetch may be in flight, and the server of the suggested tools has a name.
-/

namespace ComplianceTriage

/-- A configuration. -/
structure Config where
  triage : Settings := {}
  /-- The context that names the hub cluster. -/
  context? : Option String := none
deriving DecidableEq, Repr, Inhabited

/-- Accepts a configuration that makes sense; of two faults the number of fetches is told first. -/
def Config.check (config : Config) : Except ConfigError Config :=
  if config.triage.fetchLimit = 0 then
    .error (.invalidValue "diagnosis.max_concurrent_fetches" "must be at least 1")
  else if (Text.trim config.triage.server.toList).isEmpty then
    .error (.invalidValue "diagnosis.suggestion_server" "must not be empty")
  else .ok config

/-- A configuration is accepted as it is. -/
theorem Config.check_eq_ok_iff {config accepted : Config} :
    config.check = .ok accepted ↔
      config = accepted ∧ accepted.triage.fetchLimit ≠ 0 ∧
        Text.trim accepted.triage.server.toList ≠ [] := by
  unfold check
  constructor
  · intro h
    split at h
    · cases h
    · split at h
      · cases h
      · cases h
        simp_all
  · rintro ⟨rfl, hlimit, hserver⟩
    simp [hlimit, hserver]

end ComplianceTriage
