import EndpointWatch.Monitor.Deployment
import EndpointWatch.Proofs.Dict
import EndpointWatch.Proofs.Instant.Rfc3339
import Mathlib.Data.List.Basic

/-!
# What the result stream tells of a result

No two results have the same fields (`streamFields_injective`): the numbers are read back from their digits, the instant
from its text, and status and error are there only if the result has them. So a consumer that skips the fields it has
seen skips no result but those it has (`identified_by_streamFields`).
-/

namespace EndpointWatch

open Storage Text

/-! ### Skipping what was seen -/

section Firsts

variable {α β γ δ : Type} [DecidableEq β] [DecidableEq γ] {key : α → β} {seen : List β} {as : List α}

/-- What is left of a list without the elements whose key was seen, before or in the list. -/
def firsts (key : α → β) (seen : List β) : List α → List α
  | [] => []
  | a :: as => if key a ∈ seen then firsts key seen as else a :: firsts key (key a :: seen) as

theorem firsts_sublist : (firsts key seen as).Sublist as := by
  induction as generalizing seen with
  | nil => exact .refl _
  | cons a as ih =>
    rw [firsts]
    split
    · exact ih.cons a
    · exact ih.cons_cons a

theorem mem_or_mem_firsts {a : α} (ha : a ∈ as) : key a ∈ seen ∨ key a ∈ (firsts key seen as).map key := by
  induction as generalizing seen with
  | nil => cases ha
  | cons b as ih =>
    rw [firsts]
    split
    · next hb =>
      rcases List.mem_cons.mp ha with rfl | ha
      · exact .inl hb
      · exact ih ha
    · rw [List.map_cons, List.mem_cons]
      rcases List.mem_cons.mp ha with rfl | ha
      · exact .inr (.inl rfl)
      · rcases ih ha with h | h
        · exact (List.mem_cons.mp h).elim (.inr ∘ .inl) .inl
        · exact .inr (.inr h)

theorem nodup_map_firsts : (seen ++ (firsts key seen as).map key).Nodup ↔ seen.Nodup := by
  induction as generalizing seen with
  | nil => rw [firsts, List.map_nil, List.append_nil]
  | cons a as ih =>
    rw [firsts]
    split
    · exact ih
    · next ha =>
      rw [List.map_cons, List.perm_middle.nodup_iff, ← List.cons_append, ih, List.nodup_cons, and_iff_right ha]

/-- It makes no difference if elements are known by something else that is different whenever their keys are. -/
theorem firsts_map {f : α → δ} {key' : δ → γ} {g : β → γ} (hg : Function.Injective g)
    (hkey : ∀ a, key' (f a) = g (key a)) : firsts key' (seen.map g) (as.map f) = (firsts key seen as).map f := by
  induction as generalizing seen with
  | nil => rfl
  | cons a as ih =>
    rw [List.map_cons, firsts, firsts, hkey]
    by_cases ha : key a ∈ seen
    · rw [if_pos ha, if_pos ((List.mem_map_of_injective hg).mpr ha), ih]
    · rw [if_neg ha, if_neg (ha ∘ (List.mem_map_of_injective hg).mp), ← List.map_cons, ih, List.map_cons]

end Firsts

namespace CheckResult

/-! ### Fields -/

theorem get?_streamFields (r : CheckResult) (k : String) :
    r.streamFields.get? k =
      if k = "error_message" then r.error?
      else if k = "status_code" then r.status?.map fun s => .ofList (ofNat s.toNat)
      else if k = "timestamp" then some (.ofList r.checkedAt.renderNumeric)
      else if k = "response_time" then some (.ofList (ofNat r.responseTime.toNat))
      else if k = "endpoint_id" then some (.ofList (ofInt r.endpointId.toInt))
      else none := by
  unfold streamFields
  cases r.status? <;> cases r.error? <;> simp [Dict.ofList, Dict.get?_insert] <;> grind

theorem streamFields_injective : Function.Injective streamFields := by
  intro r r' h
  have hfield (k : String) : r.streamFields.get? k = r'.streamFields.get? k := by rw [h]
  simp only [get?_streamFields] at hfield
  have hnumeral {m n : Nat} (h : String.ofList (ofNat m) = .ofList (ofNat n)) : m = n :=
    ofNat_injective (String.ofList_injective h)
  have hid : r.endpointId = r'.endpointId :=
    Int64.toInt.inj (ofInt_injective (String.ofList_injective (Option.some.inj (hfield "endpoint_id"))))
  have htime : r.responseTime = r'.responseTime :=
    UInt64.toNat_inj.mp (hnumeral (Option.some.inj (hfield "response_time")))
  -- no other field is at the key of the status or of the error, so there is nothing there if the result has none
  have hstatus : r.status? = r'.status? :=
    Option.map_injective (fun _ _ h => UInt16.toNat_inj.mp (hnumeral h)) (hfield "status_code")
  have herror : r.error? = r'.error? := hfield "error_message"
  have hchecked : r.checkedAt = r'.checkedAt :=
    Instant.renderWith_injective (by decide) (by decide) _
      (String.ofList_injective (Option.some.inj (hfield "timestamp")))
  cases r
  cases r'
  exact CheckResult.mk.injEq .. |>.mpr ⟨hid, htime, hstatus, herror, hchecked⟩

/-! ### Consumers -/

/-- The entry that a result has in the result stream, under the number that it got there. -/
def entry (appended : UInt64 × CheckResult) : StreamEntry :=
  ⟨appended.1, Deployment.resultStream, appended.2.streamFields⟩

/-- Results with the same fields are the same. However often results were appended, a consumer that skips an entry with
fields it has seen takes each of these results once: it takes no two for one. -/
theorem identified_by_streamFields :
    (∀ r r' : CheckResult, r.streamFields = r'.streamFields → r = r') ∧
    ∀ appended : List (UInt64 × CheckResult), ∃ taken : List (UInt64 × CheckResult),
      firsts StreamEntry.fields [] (appended.map entry) = taken.map entry ∧ taken.Sublist appended ∧
      (taken.map Prod.snd).Nodup ∧ ∀ a ∈ appended, a.2 ∈ taken.map Prod.snd := by
  refine ⟨fun _ _ h => streamFields_injective h, fun appended => ?_⟩
  refine ⟨firsts Prod.snd [] appended, ?_, firsts_sublist, ?_, ?_⟩
  · show firsts StreamEntry.fields ([].map streamFields) _ = _
    exact firsts_map streamFields_injective fun _ => rfl
  · exact nodup_map_firsts.mpr List.nodup_nil
  · exact fun a ha => (mem_or_mem_firsts ha).resolve_left List.not_mem_nil

end CheckResult

end EndpointWatch
