import EndpointWatch.Proofs.Hub.Course

/-!
# Subscribers do not disturb each other

All that a hub has for a subscriber, its `Account`, follows from the moves that concern this subscriber alone
(`account_of_run`). So two runs that are the same to one subscriber bring it the same, whatever the others do, whatever
number it has and in whatever order the fan-outs go (`isolated_of_run`).
-/

namespace EndpointWatch.Hub

/-- What a hub has for a subscriber: the subscriber itself, what it has read, and the results that were put into its
queue and that it missed. -/
structure Account where
  subscriber? : Option Subscriber
  received : List String
  queued : List CheckResult
  missed : List CheckResult

namespace Account

def empty : Account := ⟨none, [], [], []⟩

def note (a : Account) (c : Concern) : Account where
  subscriber? := c.effect a.subscriber?
  received := a.received ++ (c.given? a.subscriber?).toList
  queued := a.queued ++ (c.queued? a.subscriber?).toList
  missed := a.missed ++ (c.missed? a.subscriber?).toList

end Account

namespace Course

def account (id : Nat) (c : Course) : Account :=
  ⟨c.hub.subscribers.get? id, received id c.log, Hub.queued id c.log, missed id c.log⟩

theorem account_of_move? {c c' : Course} {m : Move} (hm : c.move? m = some c') (id : Nat) :
    c'.account id = ((⟨m, c.hub⟩ : Entry).concern? id).elim (c.account id) (c.account id).note := by
  obtain ⟨h, hs, rfl⟩ := move?_eq_some hm
  simp only [account, hs.get? id, received, Hub.queued, missed, filterMap_concat]
  cases (⟨m, c.hub⟩ : Entry).concern? id with
  | none => simp
  | some k => rfl

/-- What a hub has for a subscriber is what follows from the moves that concern it. -/
theorem account_of_run {ms : List Move} {c : Course} (h : start.moves? ms = some c) (id : Nat) :
    c.account id = (c.log.filterMap (·.concern? id)).foldl Account.note .empty := by
  let P (c : Course) : Prop := c.account id = (c.log.filterMap (·.concern? id)).foldl Account.note .empty
  have hstep (c : Course) (m : Move) (c' : Course) (hc : P c) (hm : c.move? m = some c') : P c' := by
    obtain ⟨h, -, rfl⟩ := move?_eq_some hm
    show _ = _
    rw [account_of_move? hm id, hc, filterMap_concat, List.foldl_append]
    cases (⟨m, c.hub⟩ : Entry).concern? id <;> rfl
  exact keeps_of_run hstep ms rfl h

/-- Two runs bring two subscribers the same if the same moves in them concern the subscribers: the same results are
fanned out, the hub carries out the same requests about them, and they look into their queues and hang up at the same
moments between these. -/
theorem isolated_of_run {ms₁ ms₂ : List Move} {c₁ c₂ : Course} {id₁ id₂ : Nat} (h₁ : start.moves? ms₁ = some c₁)
    (h₂ : start.moves? ms₂ = some c₂)
    (same : c₁.log.filterMap (·.concern? id₁) = c₂.log.filterMap (·.concern? id₂)) :
    received id₁ c₁.log = received id₂ c₂.log ∧ Hub.queued id₁ c₁.log = Hub.queued id₂ c₂.log ∧
    missed id₁ c₁.log = missed id₂ c₂.log ∧
    c₁.hub.subscribers.get? id₁ = c₂.hub.subscribers.get? id₂ ∧
    (id₁ ∈ c₁.hub.registered ↔ id₂ ∈ c₂.hub.registered) := by
  have hacc : c₁.account id₁ = c₂.account id₂ := by rw [account_of_run h₁, account_of_run h₂, same]
  have hsub : c₁.hub.subscribers.get? id₁ = c₂.hub.subscribers.get? id₂ := congrArg Account.subscriber? hacc
  refine ⟨congrArg Account.received hacc, congrArg Account.queued hacc, congrArg Account.missed hacc, hsub, ?_⟩
  rw [mem_registered_iff, mem_registered_iff, hsub]

/-- A subscriber reads one of three results and misses none, alone at the hub, and as the second of three of whom one
hangs up and another is taken off the register. -/
theorem isolated_of_company :
    let r (t : UInt64) : CheckResult := ⟨7, t, some 200, none, .epoch⟩
    let alone : List Move := [.request (.subscribe true), .takeRequest, .broadcast (r 1), .broadcast (r 2),
      .takeResult [1], .receive 1, .takeResult [1], .broadcast (r 3), .takeResult [1]]
    let among : List Move := [.request (.subscribe true), .request (.subscribe true), .takeRequest, .takeRequest,
      .request (.subscribe true), .broadcast (r 1), .takeRequest, .takeResult [3, 1, 2], .hangUp 1, .receive 2,
      .request (.unsubscribe 3), .broadcast (r 2), .takeResult [1, 2, 3], .broadcast (r 3), .takeRequest,
      .takeResult [2]]
    ∃ c₁ c₂, start.moves? alone = some c₁ ∧ start.moves? among = some c₂ ∧
      received 1 c₁.log = received 2 c₂.log ∧ Hub.queued 1 c₁.log = Hub.queued 2 c₂.log ∧
      Hub.queued 2 c₂.log = [r 1, r 2, r 3] ∧ c₁.hub.registered = [1] ∧ c₂.hub.registered = [2] := by
  intro r alone among
  have h₁ : (start.moves? alone).isSome := by decide +kernel
  have h₂ : (start.moves? among).isSome := by decide +kernel
  obtain ⟨c₁, hc₁⟩ := Option.isSome_iff_exists.mp h₁
  obtain ⟨c₂, hc₂⟩ := Option.isSome_iff_exists.mp h₂
  have hsame : (start.moves? alone).map (fun c => c.log.filterMap (·.concern? 1)) =
      (start.moves? among).map fun c => c.log.filterMap (·.concern? 2) := by decide +kernel
  have hend : (start.moves? among).all fun c => Hub.queued 2 c.log = [r 1, r 2, r 3] ∧ c.hub.registered = [2] := by
    decide +kernel
  have hend₁ : (start.moves? alone).all fun c => c.hub.registered = [1] := by decide +kernel
  simp only [hc₁, hc₂, Option.map_some, Option.some.injEq, Option.all_some, decide_eq_true_eq] at hsame hend hend₁
  obtain ⟨hread, hqueued, -⟩ := isolated_of_run hc₁ hc₂ hsame
  exact ⟨c₁, c₂, hc₁, hc₂, hread, hqueued, hend.1, hend₁, hend.2⟩

end Course

end EndpointWatch.Hub
