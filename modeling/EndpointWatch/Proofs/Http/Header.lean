import EndpointWatch.Http.Client
import EndpointWatch.Proofs.Json.StringMap

/-!
# Which of the configured headers are sent

The configured entries come in no particular order, and names that differ in case only are names of one field. Where
the entries of a name agree, the name is sent with their value in every order, whatever other entries there are
(`Endpoint.sendsConfigured`). Two things get in the way: a value that is no string makes the whole text unreadable, and
of two values for one name the last in the order is sent (`Endpoint.not_sendsAll_of_number_or_case`).
-/

namespace EndpointWatch

open Json

namespace Http

/-- An order in which any entries are gone through. -/
def IsOrder (order : List (String × String) → List (String × String)) : Prop := ∀ es, (order es).Perm es

namespace Headers

variable {es : List (String × String)} {n k v : String}

/-! ### Fields -/

/-- The field that an entry makes, if it is one. -/
def field? (e : String × String) : Option (String × String) :=
  (name? e.1).bind fun k => if isValue e.2 then some (k, e.2) else none

theorem field?_eq_some {e f : String × String} :
    field? e = some f ↔ name? e.1 = some f.1 ∧ isValue e.2 ∧ e.2 = f.2 := by
  unfold field?
  cases name? e.1 with
  | none => simp
  | some k => grind

theorem mem_fields : (k, v) ∈ es.filterMap field? ↔ ∃ n, (n, v) ∈ es ∧ name? n = some k ∧ isValue v := by
  simp only [List.mem_filterMap, field?_eq_some, Prod.exists]
  grind

theorem ofEntries_eq (es : List (String × String)) : ofEntries es = Dict.ofList (es.filterMap field?) := by
  rw [ofEntries, Dict.ofList, List.foldl_filterMap]
  congr 1
  funext h e
  unfold addEntry field?
  cases name? e.1 with
  | none => rfl
  | some k => simp only [Option.bind_some]; split <;> rfl

/-- Entries that are no fields make no difference. -/
theorem ofEntries_filter (es : List (String × String)) :
    ofEntries (es.filter fun e => (field? e).isSome) = ofEntries es := by
  rw [ofEntries_eq, ofEntries_eq, List.filterMap_filter]
  congr 2
  funext e
  cases field? e <;> rfl

/-- That entries which are fields give two values to one name. -/
def Contested (es : List (String × String)) (k : String) : Prop :=
  ∃ v w, (k, v) ∈ es.filterMap field? ∧ (k, w) ∈ es.filterMap field? ∧ v ≠ w

theorem eq_of_not_contested (h : ¬Contested es k) {w : String} (hv : (k, v) ∈ es.filterMap field?)
    (hw : (k, w) ∈ es.filterMap field?) : w = v :=
  Classical.byContradiction fun hne => h ⟨w, v, hw, hv, hne⟩

section Order

variable {es' : List (String × String)}

theorem get?_ofEntries (hp : es'.Perm es) (hk : ¬Contested es k) (hv : (k, v) ∈ es.filterMap field?) :
    (ofEntries es').get? k = some v := by
  have hfields := hp.filterMap field?
  rw [ofEntries_eq]
  exact Dict.get?_foldl_insert_of_mem (hfields.mem_iff.mpr hv)
    (fun w hw => eq_of_not_contested hk hv (hfields.mem_iff.mp hw)) .empty

/-- A field that is set is one that was configured. -/
theorem mem_of_get?_ofEntries (hp : es'.Perm es) (h : (ofEntries es').get? k = some v) :
    (k, v) ∈ es.filterMap field? := by
  rw [ofEntries_eq] at h
  exact (hp.filterMap field?).mem_iff.mp (Dict.mem_of_get?_ofList h)

theorem get?_ofEntries_of_perm (hp : es'.Perm es) (hk : ¬Contested es k) :
    (ofEntries es').get? k = (ofEntries es).get? k := by
  refine Option.ext fun v => ⟨fun h => ?_, fun h => ?_⟩
  · exact get?_ofEntries (.refl es) hk (mem_of_get?_ofEntries hp h)
  · exact get?_ofEntries hp hk (mem_of_get?_ofEntries (.refl es) h)

end Order

/-! ### Requests -/

theorem get?_override {given h : Headers} (hv : given.get? k = some v) : (given.override h).get? k = some v := by
  refine Dict.get?_foldl_insert_of_mem (Dict.mem_toList_iff.mpr hv) (fun w hw => ?_) h
  exact Option.some.inj ((Dict.mem_toList_iff.mp hw).symm.trans hv)

theorem get?_orElse {h : Headers} (hv : h.get? k = some v) (name value : String) :
    (h.orElse name value).get? k = some v := by
  unfold orElse
  split
  · exact hv
  · next hname =>
    have hne : k ≠ name := by
      rintro rfl
      exact hname (by rw [Dict.contains, hv]; rfl)
    rw [Dict.get?_insert_of_ne hne, hv]

/-- What is configured goes before what a request has of itself. -/
theorem get?_sent {h : Headers} (hv : h.get? k = some v) (u : Url) : (Request.get u h).sent.headers.get? k = some v :=
  get?_orElse (get?_override hv) ..

end Headers

end Http

/-! ### Endpoints -/

namespace Endpoint

open Http Headers

variable {e : Endpoint}

/-- The configured entries, as far as they can be read. -/
def headerEntries (e : Endpoint) : List (String × String) :=
  match e.headerMap with
  | .ok d => d.toList
  | .error _ => []

theorem requestHeadersIn_eq {order : List (String × String) → List (String × String)} (ho : IsOrder order) :
    e.requestHeadersIn order = ofEntries (order e.headerEntries) := by
  unfold requestHeadersIn headerEntries
  cases e.headerMap with
  | ok d => rfl
  | error f => rw [List.perm_nil.mp (ho [])]; rfl

/-- The text of a map of strings is read as this map. -/
theorem headerMap_writeObject {d : Dict String String}
    (h : e.headers = some (.ofList (writeObject (d.toList.map fun x => (x.1, writeString x.2))))) :
    e.headerMap = .ok d := by
  rw [headerMap, h]
  simp only [String.toList_ofList]
  rw [writeObject, Unicode.trim_cons_concat (by decide) (by decide), if_neg (by simp)]
  exact document_stringMap d

/-- That the header fields of an endpoint are the same in every order, and that every field of the object that is
configured is one of them, whatever else the object holds. -/
structure SendsAll (e : Endpoint) : Prop where
  ordered : ∀ o o', IsOrder o → IsOrder o' → e.requestHeadersIn o = e.requestHeadersIn o'
  sent : ∀ ms : List (String × List Char), e.headers = some (.ofList (writeObject ms)) → (ms.map Prod.fst).Nodup →
    ∀ o, IsOrder o → ∀ n k v, (n, writeString v) ∈ ms → name? n = some k → isValue v →
      (e.requestHeadersIn o).get? k = some v

/-- What holds of the header fields of an endpoint. -/
structure SendsConfigured (e : Endpoint) : Prop where
  /-- Text that is no object of strings is ignored as a whole. -/
  unreadable : ∀ f, e.headerMap = .error f → ∀ o, e.requestHeadersIn o = .empty
  readable : ∀ d : Dict String String,
    e.headers = some (.ofList (writeObject (d.toList.map fun x => (x.1, writeString x.2)))) → e.headerMap = .ok d
  /-- Entries that are no fields make no difference. -/
  isolated : ∀ o, IsOrder o →
    e.requestHeadersIn o = ofEntries ((o e.headerEntries).filter fun x => (field? x).isSome)
  /-- A field that has no other value is sent with its value. -/
  sent : ∀ o, IsOrder o → ∀ n k v, (n, v) ∈ e.headerEntries → name? n = some k → isValue v →
    ¬Contested e.headerEntries k → (e.requestHeadersIn o).get? k = some v ∧
      ∀ u, (Request.get u (e.requestHeadersIn o)).sent.headers.get? k = some v
  configured : ∀ o, IsOrder o → ∀ k v, (e.requestHeadersIn o).get? k = some v →
    ∃ n, (n, v) ∈ e.headerEntries ∧ name? n = some k ∧ isValue v
  /-- In every order these fields are the same, and all of them if no name has two values. -/
  agree : ∀ o o', IsOrder o → IsOrder o' → ∀ k, ¬Contested e.headerEntries k →
    (e.requestHeadersIn o).get? k = (e.requestHeadersIn o').get? k
  ordered : (∀ k, ¬Contested e.headerEntries k) → ∀ o o', IsOrder o → IsOrder o' →
    e.requestHeadersIn o = e.requestHeadersIn o'

theorem get?_requestHeadersIn_of_orders {o o' : List (String × String) → List (String × String)} (ho : IsOrder o)
    (ho' : IsOrder o') {k : String} (hk : ¬Contested e.headerEntries k) :
    (e.requestHeadersIn o).get? k = (e.requestHeadersIn o').get? k := by
  rw [requestHeadersIn_eq ho, requestHeadersIn_eq ho', get?_ofEntries_of_perm (ho _) hk,
    get?_ofEntries_of_perm (ho' _) hk]

/-- For every endpoint, the configured fields are sent in every order, but for names with two values. -/
theorem sendsConfigured (e : Endpoint) : e.SendsConfigured where
  unreadable f hf o := by rw [requestHeadersIn, hf]
  readable d := headerMap_writeObject
  isolated o ho := by rw [ofEntries_filter, requestHeadersIn_eq ho]
  sent o ho n k v hmem hn hv hk := by
    have hset : (e.requestHeadersIn o).get? k = some v := by
      rw [requestHeadersIn_eq ho]
      exact get?_ofEntries (ho _) hk (mem_fields.mpr ⟨n, hmem, hn, hv⟩)
    exact ⟨hset, get?_sent hset⟩
  configured o ho k v h := by
    rw [requestHeadersIn_eq ho] at h
    exact mem_fields.mp (mem_of_get?_ofEntries (ho _) h)
  agree o o' ho ho' k hk := get?_requestHeadersIn_of_orders ho ho' hk
  ordered hnone o o' ho ho' := Dict.ext_get? fun k => get?_requestHeadersIn_of_orders ho ho' (hnone k)

/-- A value that is no string keeps the other entries from being sent, and of two values for one name the last in the
order is sent. -/
theorem not_sendsAll_of_number_or_case :
    let e (ms : List (String × List Char)) : Endpoint :=
      ⟨1, 7, "https://example.com/health", 60, 5000, some (.ofList (writeObject ms)), true⟩
    ¬(e [("X-Api-Key", writeString "secret"), ("X-Retries", Text.ofNat 3)]).SendsAll ∧
    ¬(e [("X-Api-Key", writeString "secret"), ("x-api-key", writeString "other")]).SendsAll := by
  intro e
  constructor
  · intro h
    have hsent := h.sent _ rfl (by decide) (fun es => es) (fun es => .refl es) "X-Api-Key" "x-api-key" "secret"
      (by simp) (by decide) (by decide)
    revert hsent
    decide +kernel
  · intro h
    have hsame := h.ordered (fun es => es) List.reverse (fun es => .refl es) List.reverse_perm
    have hvalue := congrArg (Dict.get? · "x-api-key") hsame
    revert hvalue
    decide +kernel

end Endpoint

end EndpointWatch
