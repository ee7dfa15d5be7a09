import EndpointWatch.Evaluator.Notifier
import EndpointWatch.Proofs.Dict

/-!
# What the evaluation service is sent

What comes of a request is a list of exchanges. The first is of the request itself, each other one of the request that
the answer before led to, and the hosts are sent these requests and nothing else (`exists_sends_of_sendFrom`). The body
of the first goes along until a redirect drops it (`Follows.body_eq`).
-/

namespace EndpointWatch.Http

/-- What a host has been sent. -/
def Network.sentTo (host : String) (net : Network) : List Sent := (net.requests.get? host).getD []

/-- A request and the answer to it. -/
structure Exchange where
  request : Request
  status : UInt16
  location? : Option String

/-- What a host is sent in an exchange. -/
def Exchange.sentTo (host : String) (x : Exchange) : List Sent :=
  if host = x.request.url.hostText?.getD "" then [x.request.sent] else []

/-- Whether an exchange ends with a redirect that drops the body. -/
def Exchange.dropsBody (x : Exchange) : Bool := Request.plainRedirects.contains x.status

/-- That exchanges begin with a request, and that each answer led to the request after it. -/
def Follows : Request → List Exchange → Prop
  | _, [] => True
  | r, x :: xs => x.request = r ∧
    (xs = [] ∨ ∃ next, r.destination? x.status x.location? = some next ∧ Follows (r.redirect x.status next) xs)

/-- That the exchanges `xs` come of a request, and are all that the hosts are sent while a network goes over into
another. The first answer is that of the host of the request, if it gives one. -/
structure Sends (r : Request) (net net' : Network) (xs : List Exchange) : Prop where
  follows : Follows r xs
  sent : ∀ host, net'.sentTo host = net.sentTo host ++ xs.flatMap (·.sentTo host)
  first : net.isReachable → ∀ status location?, (net.connect r.url).1 = .answer status location? →
    ∃ ys, xs = ⟨r, status, location?⟩ :: ys

variable {limit left : Nat} {origin host : String} {r : Request} {net net' : Network} {o : Outcome} {status : UInt16}
  {location? : Option String} {x : Exchange} {xs : List Exchange} {next : Url}

/-! ### The network -/

theorem Network.frame_of_connect {u : Url} (h : net.connect u = (o, net')) :
    net'.requests = net.requests ∧ net'.isReachable = net.isReachable := by
  unfold connect at h
  split at h <;> cases h <;> exact ⟨rfl, rfl⟩

theorem Network.sentTo_note (u : Url) (s : Sent) (net : Network) (host : String) :
    (net.note u s).sentTo host = net.sentTo host ++ if host = u.hostText?.getD "" then [s] else [] := by
  unfold sentTo note
  split
  · next hhost => rw [← hhost, Dict.get?_insert_self, Option.getD_some]
  · next hhost => rw [Dict.get?_insert_of_ne hhost, List.append_nil]

/-! ### Exchanges -/

theorem Follows.body_eq {us ws : List Exchange} (h : Follows r (us ++ x :: ws)) :
    x.request.body = if us.any Exchange.dropsBody then "" else r.body := by
  induction us generalizing r with
  | nil =>
    obtain ⟨rfl, -⟩ := h
    rfl
  | cons u us ih =>
    obtain ⟨-, hnil | ⟨next, -, h⟩⟩ := h
    · exact absurd hnil (List.append_ne_nil_of_right_ne_nil us (List.cons_ne_nil x ws))
    · rw [ih h, List.any_cons, Exchange.dropsBody, Request.redirect]
      cases Request.plainRedirects.contains u.status with
      | false => simp only [Bool.false_or, Bool.false_eq_true, if_false]
      | true => simp only [Bool.true_or, if_true, ite_self]

namespace Sends

/-- No host is sent anything if no answer comes. -/
theorem none (hc : net.connect r.url = (o, net'))
    (ho : net'.isReachable → ∀ status location?, o ≠ .answer status location?) : Sends r net net' [] where
  follows := trivial
  sent host := by rw [Network.sentTo, (Network.frame_of_connect hc).1, List.flatMap_nil, List.append_nil, Network.sentTo]
  first hn status location? ha := by
    rw [hc] at ha
    rw [← (Network.frame_of_connect hc).2] at hn
    exact absurd ha (ho hn status location?)

theorem answered (hc : net.connect r.url = (.answer status location?, net')) :
    Sends r net (net'.note r.url r.sent) [⟨r, status, location?⟩] where
  follows := ⟨rfl, .inl rfl⟩
  sent host := by
    rw [Network.sentTo_note, List.flatMap_singleton, Exchange.sentTo]
    simp only [Network.sentTo, (Network.frame_of_connect hc).1]
  first hn status location? ha := by
    rw [hc] at ha
    cases ha
    exact ⟨[], rfl⟩

/-- An answer that leads to another request. -/
theorem cons {net'' : Network} (h : Sends r net net' [x]) (hx : r.destination? x.status x.location? = some next)
    (h' : Sends (r.redirect x.status next) net' net'' xs) : Sends r net net'' (x :: xs) where
  follows := ⟨h.follows.1, .inr ⟨next, hx, h'.follows⟩⟩
  sent host := by
    rw [h'.sent, h.sent, List.flatMap_singleton, List.flatMap_cons, List.append_assoc]
  first hn status location? ha := by
    obtain ⟨ys, heq⟩ := h.first hn status location? ha
    cases heq
    exact ⟨xs, rfl⟩

end Sends

theorem exists_sends_of_sendFrom (limit : Nat) (origin : String) (left : Nat) (r : Request) (net : Network) :
    ∃ xs, Sends r net (sendFrom limit origin left r net).2 xs := by
  fun_induction sendFrom limit origin left r net with
  | case1 _ r net net' _ _ _ hc | case2 _ r net net' _ _ _ hc | case3 _ r net net' hc | case4 _ r net net' _ hc
  | case5 _ r net net' _ hc => exact ⟨[], .none hc nofun⟩
  | case6 _ r net net' _ _ _ hnot hc =>
    show ∃ xs, Sends r net net' xs
    rw [Bool.not_eq_true'] at hnot
    exact ⟨[], .none hc fun hn => absurd (hnot.symm.trans hn) Bool.false_ne_true⟩
  | case7 _ r net net' _ _ _ _ _ hc | case8 r net net' _ _ _ _ _ _ hc | case10 r net net' _ _ _ _ _ _ _ _ hc =>
    exact ⟨_, .answered hc⟩
  | case9 r net net' status _ _ _ next hnext left _ hc ih =>
    obtain ⟨xs, h⟩ := ih
    exact ⟨_, (Sends.answered hc).cons hnext h⟩

end EndpointWatch.Http
