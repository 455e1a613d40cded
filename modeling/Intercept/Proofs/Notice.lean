import Intercept.Notice

/-!
What is read off a document of the service. A failure always carries a status other than that of
success, since under success there is a packet or nothing that makes sense.
-/

namespace Intercept

namespace Notice

theorem ofBody_packet {b : Body} {n : Notice} (h : ofBody b = .ok n) : ∃ p, n = .packet p := by
  unfold ofBody at h
  split at h
  · cases hp : Packet.record.ofTree b.data with
    | ok p =>
      rw [hp] at h
      cases h
      exact ⟨p, rfl⟩
    | error f =>
      rw [hp] at h
      cases h
  · split at h <;> cases h

theorem status_ofEnvelope {e : Envelope} {status : Int64} {payload : Json.Value}
    (h : ofEnvelope e = .ok (.failure status payload)) : status ≠ Envelope.success := by
  unfold ofEnvelope at h
  split at h
  · rename_i hs
    cases h
    exact hs
  · cases hb : (Body.record.ofTree e.data).mapError Violation.body with
    | ok b =>
      rw [hb] at h
      obtain ⟨p, hp⟩ := ofBody_packet h
      cases hp
    | error v =>
      rw [hb] at h
      cases h

/-- A failure that the service reports is never under the status of success. -/
theorem status_decode {s : String} {status : Int64} {payload : Json.Value}
    (h : decode s = .ok (.failure status payload)) : status ≠ Envelope.success := by
  unfold decode at h
  cases he : (Envelope.record.decode s).mapError Violation.frame with
  | ok e =>
    rw [he] at h
    exact status_ofEnvelope h
  | error v =>
    rw [he] at h
    cases h

end Notice

end Intercept
