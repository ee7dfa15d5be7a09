import EndpointWatch.Proofs.Json.Shape
import EndpointWatch.Record.CheckResult
import EndpointWatch.Record.Endpoint

/-!
# Records are read back

Endpoints, alert rules and results are read back from what is written of them. Results need an instant that RFC 3339 has
a text for that is read back too.
-/

namespace EndpointWatch

open Json

theorem Endpoint.read_write (e : Endpoint) : Endpoint.read e.write = .ok e := by
  have hwritten : Endpoint.shape.members.Written
      (e.id, e.userId, e.url, e.checkInterval, e.timeout, e.headers, e.isActive, ()) _ :=
    ⟨_, _, rfl, reads_int64 e.id, _, _, rfl, reads_int64 e.userId, _, _, rfl, reads_string e.url, _, _, rfl,
      reads_uint32 e.checkInterval, _, _, rfl, reads_uint64 e.timeout, _, _, rfl,
      reads_optional fun s _ => ⟨reads_string s, notNull_writeString s⟩, _, _, rfl, reads_boolean e.isActive, rfl⟩
  exact Shape.document_writeObject hwritten (by decide)

theorem Alert.read_write (a : Alert) : Alert.read a.write = .ok a := by
  have hwritten : Alert.shape.members.Written (a.id, a.userId, a.endpointId, a.kind, a.threshold, a.isActive, ()) _ :=
    ⟨_, _, rfl, reads_int64 a.id, _, _, rfl, reads_int64 a.userId, _, _, rfl, reads_int64 a.endpointId, _, _, rfl,
      reads_string a.kind, _, _, rfl, reads_string a.threshold, _, _, rfl, reads_boolean a.isActive, rfl⟩
  exact Shape.document_writeObject hwritten (by decide)

theorem CheckResult.read_write {r : CheckResult} (h : r.checkedAt.IsOrdinary) : CheckResult.read r.write = .ok r := by
  have hwritten : CheckResult.shape.members.Written
      (r.endpointId, r.responseTime, r.status?, r.error?, r.checkedAt, ()) _ :=
    ⟨_, _, rfl, reads_int64 r.endpointId, _, _, rfl, reads_uint64 r.responseTime, _, _, rfl,
      reads_optional fun s _ => ⟨reads_uint16 s, notNull_ofNat s.toNat⟩, _, _, rfl,
      reads_optional fun s _ => ⟨reads_string s, notNull_writeString s⟩, _, _, rfl, reads_instant h, rfl⟩
  exact Shape.document_writeObject hwritten (by decide)

end EndpointWatch
