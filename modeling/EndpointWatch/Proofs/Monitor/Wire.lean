import EndpointWatch.Proofs.Evaluator.Sent
import EndpointWatch.Proofs.Hub.Delivery
import EndpointWatch.Proofs.Monitor.Trail
import EndpointWatch.Proofs.Record.RoundTrip

/-!
# What goes over the wire

Every record is read back from its JSON text. What subscribers get is the text of a result that was saved, and so is what
the evaluation service gets (`Evaluator.exists_posts`); it is read back as that result (`wire_of_run`).
-/

namespace EndpointWatch

/-! ### What subscribers get -/

theorem Hub.Course.map_move_log {ms : List Hub.Move} {c : Hub.Course} (hc : Hub.Course.start.moves? ms = some c) :
    c.log.map Hub.Entry.move = ms := by
  refine holds_of_run (Q := fun ms (c : Hub.Course) => c.log.map Hub.Entry.move = ms) rfl (fun ms c m c' h hm => ?_) ms hc
  obtain ⟨hub, -, rfl⟩ := Hub.Course.move?_eq_some hm
  show (c.log ++ [_]).map _ = _
  rw [List.map_append, h]
  rfl

/-- What a subscriber has read, or will read, are the texts of results that were handed in to the hub. -/
theorem Hub.exists_of_text {ms : List Hub.Move} {c : Hub.Course} (hc : Hub.Course.start.moves? ms = some c) {id : Nat}
    {text : String} (ht : text ∈ Hub.received id c.log ++ c.hub.waiting id) :
    ∃ r, .broadcast r ∈ ms ∧ text = Hub.payload r := by
  have hb := Hub.Books.of_run hc
  have hqueued : text ∈ (Hub.queued id c.log).map Hub.payload := by
    rw [← hb.sequence id]
    rcases List.mem_append.mp ht with ht | ht
    · exact List.mem_append_left _ ht
    · exact List.mem_append_right _ (List.mem_append_right _ ht)
  obtain ⟨r, hr, rfl⟩ := List.mem_map.mp hqueued
  rw [Hub.queued_eq] at hr
  have haccepted : r ∈ Hub.accepted c.log :=
    hb.fannedOut.subset ((List.filter_sublist.map Prod.fst).subset hr)
  obtain ⟨e, he, hmove⟩ := List.mem_filterMap.mp haccepted
  refine ⟨r, ?_, rfl⟩
  rw [← Hub.Course.map_move_log hc]
  unfold Hub.Entry.accepted? at hmove
  split at hmove
  · next r' heq =>
    rw [Option.ite_none_right_eq_some, Option.some.injEq] at hmove
    obtain ⟨-, rfl⟩ := hmove
    exact List.mem_map.mpr ⟨e, he, heq⟩
  · cases hmove

/-! ### What the evaluation service gets -/

/-- That a text is the one of a result, and is read back as this result if its instant is. -/
def CheckResult.IsTextOf (r : CheckResult) (text : String) : Prop :=
  text = .ofList r.write ∧ (r.checkedAt.IsOrdinary → CheckResult.read text.toList = .ok r)

theorem CheckResult.isTextOf_write (r : CheckResult) : r.IsTextOf (.ofList r.write) := by
  refine ⟨rfl, fun h => ?_⟩
  rw [String.toList_ofList]
  exact CheckResult.read_write h

namespace Evaluator

open Http

variable {base : String} {r : CheckResult} {net net' : Network} {xs : List Exchange} {u : Url}

/-- That the exchanges `xs` come of a result that is posted to the service under a base address, and are all that the
hosts are sent while a network goes over into another. -/
structure Posts (base : String) (r : CheckResult) (net net' : Network) (xs : List Exchange) : Prop where
  sent : ∀ host, net'.sentTo host = net.sentTo host ++ xs.flatMap (·.sentTo host)
  /-- The first request is the one to the service. -/
  follows : xs ≠ [] → ∃ u, Url.read? (address base) = some u ∧ Follows (.postJson u (.ofList r.write)) xs
  /-- If it can be reached, the service is sent this request. -/
  reached : ∀ u, Url.read? (address base) = some u → Request.isWebScheme u.scheme → u.hostText?.isSome →
    net.isReachable → ∀ status location?, (net.connect u).1 = .answer status location? →
      ∃ ys, xs = ⟨.postJson u (.ofList r.write), status, location?⟩ :: ys
  /-- What is sent is the text of the result, until a redirect drops it. -/
  text : ∀ us x ws, xs = us ++ x :: ws →
    if us.any Exchange.dropsBody then x.request.sent.body = "" else r.IsTextOf x.request.sent.body

theorem Posts.nothing (h : ∀ u, Url.read? (address base) = some u →
    (Request.isWebScheme u.scheme && u.hostText?.isSome) = false) : Posts base r net net [] where
  sent _ := (List.append_nil _).symm
  follows hne := absurd rfl hne
  reached u hu hweb hhost := by
    have hnot := h u hu
    rw [hweb, hhost] at hnot
    cases hnot
  text us x ws heq := absurd heq.symm (List.append_ne_nil_of_right_ne_nil us (List.cons_ne_nil x ws))

theorem Posts.of_sends (hu : Url.read? (address base) = some u)
    (h : Sends (.postJson u (.ofList r.write)) net net' xs) : Posts base r net net' xs where
  sent := h.sent
  follows _ := ⟨u, hu, h.follows⟩
  reached u' hu' _ _ := by
    cases hu.symm.trans hu'
    exact h.first
  text us x ws heq := by
    have hbody := (heq ▸ h.follows : Follows _ (us ++ x :: ws)).body_eq
    rw [Request.sent, hbody]
    split
    · rfl
    · exact r.isTextOf_write

theorem exists_posts (base : String) (limit : Nat) (r : CheckResult) (net : Network) :
    ∃ xs, Posts base r net (notify base limit r net).2 xs := by
  unfold notify
  split
  · next hu => exact ⟨[], .nothing fun u hu' => by cases hu.symm.trans hu'⟩
  · next u hu =>
    unfold send
    split
    · obtain ⟨xs, h⟩ := exists_sends_of_sendFrom limit (Request.postJson u (.ofList r.write)).urlText maxRedirects
        (.postJson u (.ofList r.write)) net
      exact ⟨xs, .of_sends hu h⟩
    · next hweb =>
      refine ⟨[], .nothing fun u' hu' => ?_⟩
      cases hu.symm.trans hu'
      exact Bool.eq_false_iff.mpr hweb

end Evaluator

/-! ### Runs -/

/-- Endpoints, alert rules, and results of ordinary instants are read back from their texts. In every run of a monitor
and of a hub that has its results from it, each text that a subscriber gets is read back as a result that the monitor
has saved. A delivery under way is one of such a result, and while this is posted the service, and whatever host its
answers lead to, is sent a body that is read back as the result, until a redirect drops the body. -/
theorem wire_of_run :
    (∀ e : Endpoint, Endpoint.read e.write = .ok e) ∧ (∀ a : Alert, Alert.read a.write = .ok a) ∧
    (∀ r : CheckResult, r.checkedAt.IsOrdinary → CheckResult.read r.write = .ok r) ∧
    ∀ {handOver : HandOver} {epoch : Instant} {checker : Checker} {ms : List Monitor.Move} {m : Monitor},
      (Monitor.start handOver epoch checker).moves? ms = some m →
      (∀ {ms' : List Hub.Move} {c : Hub.Course}, Hub.Course.start.moves? ms' = some c →
        (∀ r, .broadcast r ∈ ms' → ∃ n, .broadcast n r ∈ m.log) →
        ∀ id, ∀ text ∈ Hub.received id c.log ++ c.hub.waiting id, ∃ n r, .saved n r ∈ m.log ∧ r.IsTextOf text) ∧
      ∀ d x, m.deliveries.get? d = some x → (∃ n, .saved n x.result ∈ m.log) ∧
        ∀ base limit net, ∃ xs, Evaluator.Posts base x.result net (Evaluator.notify base limit x.result net).2 xs := by
  refine ⟨Endpoint.read_write, Alert.read_write, fun _ => CheckResult.read_write, fun hm => ⟨?_, ?_⟩⟩
  · intro ms' c hc hfrom id text ht
    obtain ⟨r, hr, rfl⟩ := Hub.exists_of_text hc ht
    obtain ⟨n, hn⟩ := hfrom r hr
    have hsaved := ((Monitor.Books.of_run hm).fair n).saved_of_broadcast hn
    exact ⟨n, r, hsaved, r.isTextOf_write⟩
  · intro d x hx
    obtain ⟨n, hn⟩ := (Monitor.HasTrail.of_run hm).handed d x hx
    have hsaved := ((Monitor.Books.of_run hm).fair n).saved_of_handedOn hn
    exact ⟨⟨n, hsaved⟩, fun base limit net => Evaluator.exists_posts base limit x.result net⟩

/-- A result with the least identifier, the largest numbers, quotes, controls and a clef in its error, a nanosecond
after the beginning of the year 0. The result of a check goes to a subscriber and to the evaluation service, which leads
the request on to another host. -/
theorem wire_of_clef :
    let r : CheckResult := ⟨-9223372036854775808, 18446744073709551615, some 65535, some "a \"b\"\\ \n\x01 𝄞",
      ⟨-62167219200, 1, by decide, by decide⟩⟩
    let e : Endpoint := ⟨1, 1, "", 60, 1000, none, true⟩
    let r' : CheckResult := .failed 1 0 "invalid endpoint URL format" .epoch
    let moves : List Monitor.Move := [.beginCycle false (.ok [e]), .arrive 0, .handIn 0, .take 0, .saved 0 true]
    let hubMoves : List Hub.Move := [.request (.subscribe true), .takeRequest, .broadcast r', .takeResult [1], .receive 1]
    let net : Http.Network := .fresh (Dict.ofList [("a.test", [.answer 307 (some "http://b.test/")]),
      ("b.test", [.answer 200 none])]) true
    CheckResult.read r.write = .ok r ∧ ∃ m c x, Hub.Course.start.moves? hubMoves = some c ∧
      (Monitor.start ⟨.standard, 5000, true⟩ .epoch (.fresh .standard ⟨"w", 5, 10⟩)).moves? moves = some m ∧
      (∀ text ∈ Hub.received 1 c.log ++ c.hub.waiting 1, ∃ n r, .saved n r ∈ m.log ∧ r.IsTextOf text) ∧
      Hub.received 1 c.log = [.ofList r'.write] ∧ m.deliveries.get? 1 = some x ∧
      ∃ xs, Evaluator.Posts "http://a.test" r' net (Evaluator.notify "http://a.test" 1000 r' net).2 xs := by
  intro r e r' moves hubMoves net
  obtain ⟨-, -, hread, hruns⟩ := wire_of_run
  let run := (Monitor.start ⟨.standard, 5000, true⟩ .epoch (.fresh .standard ⟨"w", 5, 10⟩)).moves? moves
  have hrun : run.any fun m => r' ∈ (Monitor.ledger 0 m.log).broadcast ∧
      (m.deliveries.get? 1).map Delivery.result = some r' := by decide +kernel
  have hhub : (Hub.Course.start.moves? hubMoves).any fun c => Hub.received 1 c.log = [.ofList r'.write] := by decide +kernel
  obtain ⟨m, hm, hm'⟩ := (Option.any_eq_true ..).mp hrun
  obtain ⟨c, hc, hc'⟩ := (Option.any_eq_true ..).mp hhub
  obtain ⟨hbroadcast, hdelivery⟩ := of_decide_eq_true hm'
  obtain ⟨x, hx, hresult⟩ := Option.map_eq_some_iff.mp hdelivery
  obtain ⟨hsubscribers, hdeliveries⟩ := hruns hm
  have hfrom (r₁ : CheckResult) (h : .broadcast r₁ ∈ hubMoves) : ∃ n, .broadcast n r₁ ∈ m.log := by
    have : r₁ = r' := by simpa [hubMoves] using h
    exact ⟨0, this ▸ Monitor.Ledger.mem_broadcast.mp hbroadcast⟩
  exact ⟨hread r (by decide), m, c, x, hc, hm, hsubscribers hc hfrom 1, of_decide_eq_true hc', hx,
    hresult ▸ (hdeliveries 1 x hx).2 "http://a.test" 1000 net⟩

end EndpointWatch
