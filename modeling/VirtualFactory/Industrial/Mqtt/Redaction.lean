import VirtualFactory.Foundation.Replacement
import VirtualFactory.Industrial.Mqtt.Adapter

/-!
# Passwords in fault reasons

A fault keeps its reason with the password replaced by a marker.  The marker and the text
around it can make up the password again.
-/

namespace VirtualFactory

open Foundation

namespace MqttIndustrialAdapter

def redacted : String := "[redacted]"

/-- A reason is kept without the password, and as it is when it does not hold it. -/
structure Hidden (password reason lastError : String) : Prop where
  ends : Replace.LoopEnds password.toList redacted.toList reason.toList 0 lastError.toList
  free : ¬ password.toList <:+: lastError.toList
  same : ¬ password.toList <:+: reason.toList -> lastError = reason

theorem lastError_enterFault (paho : Paho) (reason : String) (a : MqttIndustrialAdapter)
    (ids : ClientIds) :
    (a.enterFault paho reason ids).1.core.link.lastError = redact a.config reason := rfl

theorem redact_eq {config : MqttAdapterConfig} (h : config.password ≠ "")
    (reason : String) :
    redact config reason = Replace.replaceAll config.password redacted reason := by
  unfold redact
  rw [if_neg h]
  rfl

theorem loopEnds_redact {config : MqttAdapterConfig} (h : config.password ≠ "")
    (reason : String) :
    Replace.LoopEnds config.password.toList redacted.toList reason.toList 0
      (redact config reason).toList := by
  rw [redact_eq h]
  exact (Replace.replaceAll_spec h redacted reason).2

theorem redact_of_free {config : MqttAdapterConfig} (h : config.password ≠ "")
    {reason : String} (hfree : ¬ config.password.toList <:+: reason.toList) :
    redact config reason = reason := by
  rw [redact_eq h]
  exact String.toList_inj.mp ((Replace.replaceAll_spec h redacted reason).1.unchanged hfree)

theorem hidden_of_free_or_inert {config : MqttAdapterConfig} (h : config.password ≠ "")
    {reason : String}
    (hfree : ¬ config.password.toList <:+: reason.toList ∨
      Replace.Inert config.password.toList redacted.toList) :
    Hidden config.password reason (redact config reason) := by
  constructor
  case ends => exact loopEnds_redact h reason
  case free =>
    rcases hfree with hfree | hinert
    · rw [redact_of_free h hfree]
      exact hfree
    · rw [redact_eq h]
      exact (Replace.replaceAll_spec h redacted reason).1.free hinert
  case same => exact redact_of_free h

/-- A marker that hides the password in every reason is inert: its first character comes
once in it. -/
theorem inert_of_hidden {config : MqttAdapterConfig} (h : config.password ≠ "")
    (hhidden : forall reason, Hidden config.password reason (redact config reason)) :
    Replace.Inert config.password.toList redacted.toList := by
  have hne : config.password.toList ≠ [] :=
    fun hnil => h (String.toList_eq_nil_iff.mp hnil)
  have hmarker : redacted.toList = '[' :: "redacted]".toList := by decide
  have honce : '[' ∉ "redacted]".toList := by decide
  rw [hmarker]
  apply Replace.inert_of_forall_free honce hne
  intro text result hrewrites
  have hkept := hhidden (String.ofList text)
  rw [redact_eq h] at hkept
  have hspec := (Replace.replaceAll_spec h redacted (String.ofList text)).1
  rw [String.toList_ofList, hmarker] at hspec
  rw [← hrewrites.unique hne hspec]
  exact hkept.free

/-- A fault hides the password of the adapter in every reason exactly when the marker is
inert for it.  For one reason it is enough that the password is not in it; and for every
password and reason the loop ends, and keeps a reason that is free of the password. -/
theorem enterFault_hides_iff (paho : Paho) (a : MqttIndustrialAdapter) (ids : ClientIds)
    (h : a.config.password ≠ "") :
    ((forall reason, Hidden a.config.password reason
          (a.enterFault paho reason ids).1.core.link.lastError) <->
        Replace.Inert a.config.password.toList redacted.toList) ∧
      forall reason,
        let lastError := (a.enterFault paho reason ids).1.core.link.lastError
        Replace.LoopEnds a.config.password.toList redacted.toList reason.toList 0
            lastError.toList ∧
          (¬ a.config.password.toList <:+: reason.toList -> lastError = reason) ∧
          (¬ a.config.password.toList <:+: reason.toList ∨
              Replace.Inert a.config.password.toList redacted.toList ->
            Hidden a.config.password reason lastError) := by
  simp only [lastError_enterFault]
  constructor
  · constructor
    · exact inert_of_hidden h
    · exact fun hinert reason => hidden_of_free_or_inert h (Or.inr hinert)
  · exact fun reason => ⟨loopEnds_redact h reason, redact_of_free h, hidden_of_free_or_inert h⟩

def guarded (password : String) : MqttIndustrialAdapter :=
  new "mqtt-1" { password := password }

theorem enterFault_hides_iff_secret :
    "mqtt-lab-secret" ≠ "" ∧
      ((forall reason, Hidden "mqtt-lab-secret" reason
          ((guarded "mqtt-lab-secret").enterFault default reason {}).1.core.link.lastError) <->
        Replace.Inert "mqtt-lab-secret".toList redacted.toList) ∧
      Hidden "mqtt-lab-secret" "timeout"
        ((guarded "mqtt-lab-secret").enterFault default "timeout" {}).1.core.link.lastError := by
  have h := enterFault_hides_iff default (guarded "mqtt-lab-secret") {} (by decide)
  exact ⟨by decide, h.1, (h.2 "timeout").2.2 (Or.inl (by decide))⟩

/-- A password that is a part of the marker is kept by the marker. -/
theorem not_hidden_marker :
    "redacted" ≠ "" ∧
      ((guarded "redacted").enterFault default "redacted" {}).1.core.link.lastError =
        "[redacted]" ∧
      ¬ forall reason, Hidden "redacted" reason
          ((guarded "redacted").enterFault default reason {}).1.core.link.lastError := by
  have hreason : ((guarded "redacted").enterFault default "redacted" {}).1.core.link.lastError =
      "[redacted]" := by decide
  refine ⟨by decide, hreason, fun hhidden => ?_⟩
  have hfree := (hhidden "redacted").free
  rw [hreason] at hfree
  exact hfree (by decide)

example : Replace.Inert "mqtt-lab-secret".toList redacted.toList := by decide

end MqttIndustrialAdapter

end VirtualFactory
