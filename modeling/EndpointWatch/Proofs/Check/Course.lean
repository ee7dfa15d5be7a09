import EndpointWatch.Proofs.Check.Register
import EndpointWatch.Proofs.Run

/-!
# The course of a checker

A `Course` is a checker in use: checks arrive at any time and make their probes beside each other, and breakers are
forgotten in between. A check is known by its endpoint and its rank among the checks of this endpoint. A move says how
long a probe lasted, what came of it and what was drawn for the wait after it. What a move means for one endpoint is its
`Concern`, and the `Account` of an endpoint follows from these alone (`Fits.move`).
-/

namespace EndpointWatch.Checker

/-- A check that makes the probe after `made` others, which begins at `since`. -/
structure Probing where
  endpoint : Endpoint
  made : Nat
  since : Nat
  deriving DecidableEq

/-- The probe that a check makes. -/
def probing? (k : Check) : Option Probing :=
  match k.stage with
  | .probing _ made since => some ⟨k.endpoint, made, since⟩
  | .spawned | .done .. => none

theorem probing?_eq_some {k : Check} {x : Probing} (h : probing? k = some x) :
    ∃ serial made since, k.stage = .probing serial made since ∧ x = ⟨k.endpoint, made, since⟩ := by
  unfold probing? at h
  split at h
  · next serial made since hstage => exact ⟨serial, made, since, hstage, (Option.some.inj h).symm⟩
  · cases h
  · cases h

/-- What there is to tell of a check: that a probe begins, and how the check ended, with the breaker of its endpoint as
it is then. -/
inductive Event where
  | began (rank time : Nat)
  | ended (rank : Nat) (e : Endpoint) (o : CheckOutcome) (time : Nat) (breaker? : Option Breaker)
  deriving DecidableEq

/-- A checker in use. `arrivals` are the endpoints of all checks, in the order of their numbers; `log` has what there is
to tell, oldest first, beside the endpoint that it is about. -/
structure Course where
  session : Session
  arrivals : List Endpoint
  log : List (Int64 × Event)

namespace Course

def start (c : Checker) : Course := ⟨.start c, [], []⟩

/-- The numbers of the checks of an endpoint, by rank. -/
def numbers (id : Int64) (arrivals : List Endpoint) : List Nat :=
  (arrivals.zipIdx.filter fun p => p.1.id = id).map Prod.snd

def breaker? (id : Int64) (c : Course) : Option Breaker := (c.session.checker.guards.get? id).map Guard.breaker

/-- Everything that is told of one endpoint. -/
def told (id : Int64) (c : Course) : List Event := c.log.filterMap fun p => if p.1 = id then some p.2 else none

/-- What there is to tell of a check that has just moved on. -/
def event? (rank : Nat) (breaker? : Option Breaker) (k : Check) : Option Event :=
  match k.stage with
  | .probing _ _ since => some (.began rank since)
  | .done o ended => some (.ended rank k.endpoint o ended breaker?)
  | .spawned => none

def tell (id : Int64) (rank n : Nat) (c : Course) : Course :=
  let event? := (c.session.underWay.get? n).bind (event? rank (c.breaker? id))
  { c with log := c.log ++ (event?.map (id, ·)).toList }

inductive Move where
  | advance (ms : Nat)
  | check (e : Endpoint)
  | probed (id : Int64) (rank lasts : Nat) (r : Except ProbeError Answered) (draw : Nat)
  | retain (ids : List Int64)

/-- The course after a move, if it is possible: a probe ends once it has lasted as long as it does. -/
def move? (c : Course) : Move → Option Course
  | .advance ms => some { c with session := c.session.advance ms }
  | .check e => do
    let session ← (c.session.spawn 0 e).arrive? c.session.nextCheck
    let rank := (numbers e.id c.arrivals).length
    some (({ c with session, arrivals := c.arrivals ++ [e] } : Course).tell e.id rank c.session.nextCheck)
  | .probed id rank lasts r draw => do
    let n ← (numbers id c.arrivals)[rank]?
    let k ← c.session.underWay.get? n
    let x ← probing? k
    if x.since + lasts = c.session.now then
      let session ← c.session.probed? n r
      some (({ c with session := session.redraw n draw } : Course).tell id rank n)
    else none
  | .retain ids => some { c with session := c.session.retain ids }

def moves? (c : Course) (ms : List Move) : Option Course := ms.foldlM move? c

/-! ### What concerns one endpoint -/

/-- What a move can mean for an endpoint: that a check of it arrives, or that a probe of it ends. -/
inductive Concern where
  | arrived (e : Endpoint) (time : Nat)
  | probed (rank lasts : Nat) (r : Except ProbeError Answered) (draw : Nat)
  deriving DecidableEq

def Move.concern? (id : Int64) (now : Nat) : Move → Option Concern
  | .check e => if e.id = id then some (.arrived e now) else none
  | .probed id' rank lasts r draw => if id' = id then some (.probed rank lasts r draw) else none
  | .advance _ | .retain _ => none

/-- The time after a move. -/
def Move.clock (now : Nat) : Move → Nat
  | .advance ms => now + ms
  | .check _ | .probed .. | .retain _ => now

/-- What moves mean for an endpoint, one after the other, from the given time on. -/
def concerns (id : Int64) : (now : Nat) → List Move → List Concern
  | _, [] => []
  | now, m :: ms => (m.concern? id now).toList ++ concerns id (m.clock now) ms

/-! ### Accounts -/

/-- What a checker has for an endpoint: its breaker, its checks by rank with the probes that they make, and what is told
of them. -/
structure Account where
  breaker? : Option Breaker
  checks : List (Option Probing)
  told : List Event
  deriving DecidableEq

namespace Account

def empty : Account := ⟨none, [], []⟩

/-- A check arrives. -/
def arrived (c : Checker) (e : Endpoint) (now : Nat) (a : Account) : Account :=
  let rank := a.checks.length
  if Url.isValidAddress e.url then
    let b := a.breaker?.getD .fresh
    match b.admit? (c.settingsFor e.id) now with
    | some b => ⟨some b, a.checks ++ [some ⟨e, 0, now⟩], a.told ++ [.began rank now]⟩
    | none =>
      let o : CheckOutcome := .error (.guarded (c.breakerName e.id) .turnedAway)
      ⟨some b, a.checks ++ [none], a.told ++ [.ended rank e o now (some b)]⟩
  else ⟨a.breaker?, a.checks ++ [none], a.told ++ [.ended rank e (.error .invalidUrl) now a.breaker?]⟩

/-- The probe of a check ends. -/
def probed (c : Checker) (rank lasts : Nat) (r : Except ProbeError Answered) (draw : Nat) (x : Probing) (a : Account) :
    Account :=
  let now := x.since + lasts
  match c.verdict? x.made r with
  | some v =>
    let b? := a.breaker?.map fun b => b.record (c.settingsFor x.endpoint.id) now v.isOk
    ⟨b?, a.checks.set rank none, a.told ++ [.ended rank x.endpoint (c.outcome x.endpoint.id v) now b?]⟩
  | none =>
    let since := now + Retry.ticks (c.policy.pause x.made.toUInt32 draw)
    ⟨a.breaker?, a.checks.set rank (some ⟨x.endpoint, x.made + 1, since⟩), a.told ++ [.began rank since]⟩

/-- An account after one more thing that concerns its endpoint, at a checker with the policy and the template of `c`. -/
def note (c : Checker) (a : Account) : Concern → Account
  | .arrived e now => a.arrived c e now
  | .probed rank lasts r draw =>
    match a.checks[rank]? with
    | some (some x) => a.probed c rank lasts r draw x
    | some none | none => a

end Account

def account (id : Int64) (c : Course) : Account where
  breaker? := c.breaker? id
  checks := (numbers id c.arrivals).map fun n => (c.session.underWay.get? n).bind probing?
  told := c.told id

variable {c₀ : Checker} {c c' : Course} {id id' : Int64} {e : Endpoint} {es : List Endpoint} {n rank : Nat} {m : Move}

/-! ### Numbers and ranks -/

theorem mem_numbers : n ∈ numbers id es ↔ ∃ e, es[n]? = some e ∧ e.id = id := by
  simp [numbers, List.mem_zipIdx_iff_getElem?]

theorem numbers_concat (id : Int64) (es : List Endpoint) (e : Endpoint) :
    numbers id (es ++ [e]) = numbers id es ++ if e.id = id then [es.length] else [] := by
  rw [numbers, List.zipIdx_append, List.filter_append, List.map_append, ← numbers]
  by_cases h : e.id = id <;> simp [h]

theorem nodup_numbers (id : Int64) (es : List Endpoint) : (numbers id es).Nodup := by
  have hall : (es.zipIdx.map Prod.snd).Nodup := by
    rw [List.zipIdx_map_snd]
    exact List.nodup_range' ..
  exact hall.sublist (List.filter_sublist.map Prod.snd)

theorem lt_of_mem_numbers (h : n ∈ numbers id es) : n < es.length := by
  obtain ⟨e, he, -⟩ := mem_numbers.mp h
  exact (List.getElem?_eq_some_iff.mp he).1

/-- A change at one member of a list without repetitions changes the list of values at its rank. -/
theorem map_eq_set {α : Type} {l : List Nat} (hl : l.Nodup) (hn : l[rank]? = some n) {f g : Nat → α}
    (h : ∀ j, j ≠ n → g j = f j) : l.map g = (l.map f).set rank (g n) := by
  refine List.ext_getElem? fun i => ?_
  rw [List.getElem?_set, List.getElem?_map, List.getElem?_map, List.length_map]
  obtain ⟨hlt, hget⟩ := List.getElem?_eq_some_iff.mp hn
  by_cases hi : rank = i
  · subst hi
    rw [if_pos rfl, if_pos hlt, hn]
    rfl
  · rw [if_neg hi]
    cases hj : l[i]? with
    | none => rfl
    | some j =>
      have hne : j ≠ n := by
        rintro rfl
        exact hi ((List.getElem?_inj hlt hl).mp (hn.trans hj.symm))
      rw [Option.map_some, Option.map_some, h j hne]

/-- What is told of one check is told of its endpoint. -/
theorem account_tell (id id' : Int64) (rank n : Nat) (c : Course) :
    account id (c.tell id' rank n) = { account id c with
      told := c.told id ++
        if id' = id then ((c.session.underWay.get? n).bind (event? rank (c.breaker? id'))).toList else [] } := by
  have htold : (c.tell id' rank n).told id = c.told id ++
      if id' = id then ((c.session.underWay.get? n).bind (event? rank (c.breaker? id'))).toList else [] := by
    rw [told, tell, List.filterMap_append]
    cases (c.session.underWay.get? n).bind (event? rank (c.breaker? id')) with
    | none => by_cases h : id' = id <;> simp [told, h]
    | some ev => by_cases h : id' = id <;> simp [told, h]
  rw [account, htold]
  rfl

/-! ### Along a course -/

/-- What a course keeps, to which an endpoint matters that no `retain` drops: the checker has the policy and the template
of `c₀`, a check is known under its number, and one that was let in by the breaker of the endpoint still finds it. -/
structure Fits (c₀ : Checker) (id : Int64) (c : Course) : Prop where
  policy : c.session.checker.policy = c₀.policy
  template : c.session.checker.template = c₀.template
  next : c.session.nextCheck = c.arrivals.length
  endpoint : ∀ n k, c.session.underWay.get? n = some k → c.arrivals[n]? = some k.endpoint
  keeps : c.session.checker.Keeps id
  admitted : ∀ n k, c.session.underWay.get? n = some k → k.endpoint.id = id → ∀ serial made since,
    k.stage = .probing serial made since → ∃ g, c.session.checker.guards.get? id = some g ∧ g.serial = serial

namespace Fits

theorem start (p : Retry.Policy Float) (t : Breaker.Settings) (id : Int64) : Fits (.fresh p t) id (.start (.fresh p t)) where
  policy := rfl
  template := rfl
  next := rfl
  endpoint _ _ hk := by cases hk
  keeps _ hg := by cases hg
  admitted _ _ hk := by cases hk

/-- A move of one check: what was let in before stays so if the breaker of the endpoint stays. -/
theorem update (h : Fits c₀ id c) {k : Check} (hsteady : Steady id c.session.checker c'.session.checker)
    (hnext : c'.session.nextCheck = c'.arrivals.length)
    (harrivals : ∀ (j : Nat) e, c.arrivals[j]? = some e → c'.arrivals[j]? = some e) (hn : c'.arrivals[n]? = some k.endpoint)
    (hget : ∀ j, c'.session.underWay.get? j = if j = n then some k else c.session.underWay.get? j)
    (hadmitted : k.endpoint.id = id → ∀ serial made since, k.stage = .probing serial made since →
      ∃ g, c'.session.checker.guards.get? id = some g ∧ g.serial = serial) : Fits c₀ id c' where
  policy := hsteady.policy.trans h.policy
  template := hsteady.template.trans h.template
  next := hnext
  endpoint j k' hk := by
    rw [hget] at hk
    split at hk
    · next hj =>
      cases hk
      exact hj ▸ hn
    · exact harrivals j _ (h.endpoint j k' hk)
  keeps := hsteady.keeps
  admitted j k' hk hid serial made since hstage := by
    rw [hget] at hk
    split at hk
    · cases hk
      exact hadmitted hid serial made since hstage
    · obtain ⟨g, hg, hserial⟩ := h.admitted j k' hk hid serial made since hstage
      obtain ⟨g', hg', hserial'⟩ := hsteady.guard g hg
      exact ⟨g', hg', hserial'.trans hserial⟩

theorem tell (h : Fits c₀ id c) (id' : Int64) (rank n : Nat) : Fits c₀ id (c.tell id' rank n) :=
  ⟨h.policy, h.template, h.next, h.endpoint, h.keeps, h.admitted⟩

/-- A move that leaves the checks as they are and the breaker of the endpoint in its place. -/
theorem rest (h : Fits c₀ id c) {s : Session} (hu : Untouched id c.session.checker s.checker)
    (hnext : s.nextCheck = c.session.nextCheck) (hget : s.underWay = c.session.underWay) :
    Fits c₀ id { c with session := s } ∧ account id { c with session := s } = account id c := by
  constructor
  · refine ⟨hu.policy.trans h.policy, hu.template.trans h.template, hnext.trans h.next, ?_,
      (hu.steady h.keeps).keeps, ?_⟩
    · rw [hget]
      exact h.endpoint
    · intro n k hk hid serial made since hstage
      rw [hu.guard]
      exact h.admitted n k (hget ▸ hk) hid serial made since hstage
  · simp only [account, breaker?, told, hu.guard, hget]

/-- A check of another endpoint arrives. -/
theorem arrived_of_ne (h : Fits c₀ id c) (hid : e.id ≠ id) {s : Session}
    (hs : (c.session.spawn 0 e).arrive? c.session.nextCheck = some s) :
    account id { c with session := s, arrivals := c.arrivals ++ [e] } = account id c := by
  obtain ⟨hchecker, -, -, hget⟩ := Session.arrive?_spawn hs
  have hu : Untouched id c.session.checker s.checker := hchecker ▸ arrive_untouched hid c.session.now
  have hchecks : (numbers id (c.arrivals ++ [e])).map (fun n => (s.underWay.get? n).bind probing?) =
      (account id c).checks := by
    rw [numbers_concat, if_neg hid, List.append_nil]
    refine List.map_congr_left fun n hn => ?_
    rw [hget, if_neg (h.next ▸ Nat.ne_of_lt (lt_of_mem_numbers hn))]
  simp only [account, breaker?, hu.guard, hchecks]
  rfl

/-- The account after a check of the endpoint has arrived, by the stage that the check has come to. -/
theorem account_of_arrive? (h : Fits c₀ e.id c) {s : Session}
    (hs : (c.session.spawn 0 e).arrive? c.session.nextCheck = some s) :
    let k : Check := ⟨0, e, Session.stageOf c.session.now (c.session.checker.arrive e c.session.now).1⟩
    let b? := (s.checker.guards.get? e.id).map Guard.breaker
    let rank := (account e.id c).checks.length
    account e.id (({ c with session := s, arrivals := c.arrivals ++ [e] } : Course).tell e.id
      (numbers e.id c.arrivals).length c.session.nextCheck) =
      ⟨b?, (account e.id c).checks ++ [probing? k], (account e.id c).told ++ (event? rank b? k).toList⟩ := by
  intro k b? rank
  obtain ⟨-, -, -, hget⟩ := Session.arrive?_spawn hs
  have hrank : (numbers e.id c.arrivals).length = rank := (List.length_map ..).symm
  have hchecks : (numbers e.id (c.arrivals ++ [e])).map (fun n => (s.underWay.get? n).bind probing?) =
      (account e.id c).checks ++ [probing? k] := by
    rw [numbers_concat, if_pos rfl, List.map_append, List.map_singleton, ← h.next, hget, if_pos rfl]
    refine congrArg (· ++ [probing? k]) (List.map_congr_left fun n hn => ?_)
    rw [hget, if_neg (h.next ▸ Nat.ne_of_lt (lt_of_mem_numbers hn))]
  rw [account_tell, if_pos rfl, hrank]
  simp only [hget, if_true, Option.bind_some]
  rw [account]
  simp only [hchecks]
  rfl

/-- A check of the endpoint arrives. -/
theorem arrived (h : Fits c₀ e.id c) {s : Session}
    (hs : (c.session.spawn 0 e).arrive? c.session.nextCheck = some s) :
    account e.id (({ c with session := s, arrivals := c.arrivals ++ [e] } : Course).tell e.id
      (numbers e.id c.arrivals).length c.session.nextCheck) = (account e.id c).arrived c₀ e c.session.now := by
  rw [h.account_of_arrive? hs]
  obtain ⟨hchecker, -, -, -⟩ := Session.arrive?_spawn hs
  have hbreaker : c.session.checker.breakerOf e.id = (account e.id c).breaker?.getD .fresh := rfl
  have hsettings : c.session.checker.settingsFor e.id = c₀.settingsFor e.id := settingsFor_congr h.template e.id
  have hname : c.session.checker.breakerName e.id = c₀.breakerName e.id := congrArg Breaker.Settings.name hsettings
  rw [hchecker]
  rcases arrive_cases h.keeps c.session.now with ⟨hv, ha⟩ | ⟨hv, g, hg, ⟨hb, hfresh, ha⟩ | ⟨hb, ha⟩⟩
  · rw [ha, Account.arrived, hv]
    rfl
  · rw [hbreaker, hsettings] at hb
    rw [ha, hg.guard]
    simp [Account.arrived, hv, hb, hname, hfresh, hbreaker, Session.stageOf, probing?, event?]
  · rw [hbreaker, hsettings] at hb
    rw [ha, hg.guard]
    simp [Account.arrived, hv, hb, Session.stageOf, probing?, event?]

theorem fits_of_arrive? (h : Fits c₀ id c) {s : Session}
    (hs : (c.session.spawn 0 e).arrive? c.session.nextCheck = some s) :
    Fits c₀ id { c with session := s, arrivals := c.arrivals ++ [e] } := by
  obtain ⟨hchecker, -, hnext, hget⟩ := Session.arrive?_spawn hs
  obtain ⟨hsteady, hadmitted⟩ := arrive_steady h.keeps e c.session.now
  rw [← hchecker] at hsteady hadmitted
  refine h.update hsteady ?_ (fun j e' he => ?_) ?_ hget fun hid serial made since hstage => ?_
  · rw [hnext, h.next, List.length_append]
    rfl
  · rw [List.getElem?_append_left (List.getElem?_eq_some_iff.mp he).1, he]
  · rw [h.next, List.getElem?_append_right (Nat.le_refl _), Nat.sub_self]
    rfl
  · refine hadmitted hid serial ?_
    cases ha : (c.session.checker.arrive e c.session.now).1 with
    | refused f =>
      rw [ha] at hstage
      cases hstage
    | admitted serial' =>
      rw [ha] at hstage
      cases hstage
      rfl

/-! ### The end of a probe -/

variable {k : Check} {serial made since lasts draw : Nat} {r : Except ProbeError Answered} {s : Session}

theorem id_of_rank (h : Fits c₀ id c) (hn : (numbers id' c.arrivals)[rank]? = some n)
    (hk : c.session.underWay.get? n = some k) : k.endpoint.id = id' := by
  obtain ⟨e, he, hid⟩ := mem_numbers.mp (List.mem_of_getElem? hn)
  rw [h.endpoint n k hk] at he
  cases he
  exact hid

/-- The check goes on to a stage, and only the breaker of its own endpoint can have changed. -/
theorem redraw_of_probed? (h : Fits c₀ id c) (hk : c.session.underWay.get? n = some k)
    (hstage : k.stage = .probing serial made since) (hs : c.session.probed? n r = some s) (draw : Nat) :
    ∃ checker stage, s.redraw n draw = { c.session with checker }.proceed n k stage ∧
      Steady id c.session.checker checker ∧ (k.endpoint.id ≠ id → Untouched id c.session.checker checker) ∧
      ∀ serial' made' since', stage = .probing serial' made' since' → serial' = serial := by
  cases hv : c.session.checker.verdict? made r with
  | some v =>
    refine ⟨_, _, Session.redraw_probed?_of_verdict? hk hstage hv hs draw, record_steady h.keeps .., ?_, nofun⟩
    exact fun hid => record_untouched hid ..
  | none =>
    have hself := Untouched.refl id c.session.checker
    have hredraw := Session.redraw_probed?_of_verdict?_eq_none hk hstage hv hs draw
    refine ⟨_, _, hredraw, hself.steady h.keeps, fun _ => hself, ?_⟩
    intro serial' made' since' hstage'
    cases hstage'
    rfl

theorem fits_of_probed? (h : Fits c₀ id c) (hk : c.session.underWay.get? n = some k)
    (hstage : k.stage = .probing serial made since) (hs : c.session.probed? n r = some s) (draw : Nat) :
    Fits c₀ id { c with session := s.redraw n draw } := by
  obtain ⟨checker, stage, hredraw, hsteady, -, hserial⟩ := h.redraw_of_probed? hk hstage hs draw
  rw [hredraw]
  have hget := Session.get?_proceed (s := { c.session with checker }) k stage n
  refine h.update (k := { k with stage }) hsteady h.next (fun _ _ he => he) (h.endpoint n k hk) hget ?_
  intro hid serial' made' since' hstage'
  obtain ⟨g, hg, hserial₀⟩ := h.admitted n k hk hid serial made since hstage
  obtain ⟨g', hg', hserial'⟩ := hsteady.guard g hg
  exact ⟨g', hg', hserial'.trans (hserial₀.trans (hserial serial' made' since' hstage').symm)⟩

/-- A probe for another endpoint ends. -/
theorem probed_of_ne (h : Fits c₀ id c) (hid : k.endpoint.id ≠ id) (hk : c.session.underWay.get? n = some k)
    (hstage : k.stage = .probing serial made since) (hs : c.session.probed? n r = some s) (draw : Nat) :
    account id { c with session := s.redraw n draw } = account id c := by
  obtain ⟨checker, stage, hredraw, -, hu, -⟩ := h.redraw_of_probed? hk hstage hs draw
  have hchecks : (numbers id c.arrivals).map (fun j => ((s.redraw n draw).underWay.get? j).bind probing?) =
      (account id c).checks := by
    refine List.map_congr_left fun j hj => ?_
    have hne : j ≠ n := by
      rintro rfl
      obtain ⟨e, he, hide⟩ := mem_numbers.mp hj
      rw [h.endpoint j k hk] at he
      cases he
      exact hid hide
    rw [hredraw, Session.get?_proceed, if_neg hne]
  have hguard : (s.redraw n draw).checker.guards.get? id = c.session.checker.guards.get? id := by
    rw [hredraw]
    exact (hu hid).guard
  simp only [account, breaker?, hguard, hchecks]
  rfl

/-- The account after a probe for the endpoint has ended, by the stage that the check has come to. -/
theorem account_of_proceed (hn : (numbers id c.arrivals)[rank]? = some n)
    (checker : Checker) (stage : Check.Stage) :
    let b? := (checker.guards.get? id).map Guard.breaker
    let k' : Check := { k with stage }
    account id (({ c with session := { c.session with checker }.proceed n k stage } : Course).tell id rank n) =
      ⟨b?, (account id c).checks.set rank (probing? k'), (account id c).told ++ (event? rank b? k').toList⟩ := by
  intro b? k'
  have hget := Session.get?_proceed (s := { c.session with checker }) k stage n
  have hchecks : (numbers id c.arrivals).map
      (fun j => (({ c.session with checker } : Session).proceed n k stage).underWay.get? j |>.bind probing?) =
      (account id c).checks.set rank (probing? k') := by
    rw [map_eq_set (nodup_numbers id c.arrivals) hn (f := fun j => (c.session.underWay.get? j).bind probing?)]
    · rw [hget, if_pos rfl]
      rfl
    · intro j hj
      rw [hget, if_neg hj]
  rw [account_tell, if_pos rfl]
  simp only [hget, if_true, Option.bind_some]
  rw [account]
  simp only [hchecks]
  rfl

/-- A probe for the endpoint ends. -/
theorem probed (h : Fits c₀ id c) (hn : (numbers id c.arrivals)[rank]? = some n)
    (hk : c.session.underWay.get? n = some k) (hstage : k.stage = .probing serial made since)
    (htime : since + lasts = c.session.now) (hs : c.session.probed? n r = some s) :
    account id (({ c with session := s.redraw n draw } : Course).tell id rank n) =
      (account id c).probed c₀ rank lasts r draw ⟨k.endpoint, made, since⟩ := by
  have hid : k.endpoint.id = id := h.id_of_rank hn hk
  subst hid
  obtain ⟨g, hg, rfl⟩ := h.admitted n k hk rfl serial made since hstage
  have hbreaker : (account k.endpoint.id c).breaker? = some g.breaker := congrArg (Option.map Guard.breaker) hg
  have hsettings := settingsFor_congr h.template k.endpoint.id
  cases hv : c.session.checker.verdict? made r with
  | some v =>
    have hreg := record_registered h.keeps hg c.session.now v.isOk
    rw [Session.redraw_probed?_of_verdict? hk hstage hv hs draw, account_of_proceed hn, hreg.guard, hsettings,
      outcome_congr h.template]
    rw [verdict?_congr h.policy] at hv
    simp [Account.probed, hv, htime, hbreaker, probing?, event?]
  | none =>
    rw [Session.redraw_probed?_of_verdict?_eq_none hk hstage hv hs draw, h.policy]
    have haccount := account_of_proceed (k := k) hn c.session.checker
      (.probing g.serial (made + 1) (c.session.now + Retry.ticks (c₀.policy.pause made.toUInt32 draw)))
    rw [verdict?_congr h.policy] at hv
    refine haccount.trans ?_
    simp [Account.probed, hv, htime, hbreaker, hg, probing?, event?]

/-! ### Moves -/

/-- The account of an endpoint changes by what a move means for the endpoint, if the move does not drop its breaker. -/
theorem move (h : Fits c₀ id c) (hm : c.move? m = some c') (hkept : ∀ ids, m = .retain ids → id ∈ ids) :
    Fits c₀ id c' ∧ c'.session.now = m.clock c.session.now ∧
      account id c' = (m.concern? id c.session.now).elim (account id c) ((account id c).note c₀) := by
  cases m with
  | advance ms =>
    cases hm
    obtain ⟨hfits, haccount⟩ := h.rest (s := c.session.advance ms) (.refl id _) rfl rfl
    exact ⟨hfits, rfl, haccount⟩
  | retain ids =>
    cases hm
    obtain ⟨hfits, haccount⟩ := h.rest (s := c.session.retain ids) (retain_untouched (hkept ids rfl)) rfl rfl
    exact ⟨hfits, rfl, haccount⟩
  | check e =>
    simp only [move?, Option.bind_eq_bind, Option.bind_eq_some_iff, Option.some.injEq] at hm
    obtain ⟨s, hs, rfl⟩ := hm
    obtain ⟨-, hnow, -, -⟩ := Session.arrive?_spawn hs
    refine ⟨(h.fits_of_arrive? hs).tell .., hnow, ?_⟩
    by_cases hid : e.id = id
    · subst hid
      rw [Move.concern?, if_pos rfl, h.arrived hs]
      rfl
    · rw [Move.concern?, if_neg hid, account_tell, if_neg hid, List.append_nil]
      exact h.arrived_of_ne hid hs
  | probed id' rank lasts r draw =>
    simp only [move?, Option.bind_eq_bind, Option.bind_eq_some_iff] at hm
    obtain ⟨n, hn, k, hk, x, hx, hm⟩ := hm
    rw [Option.ite_none_right_eq_some] at hm
    obtain ⟨htime, hm⟩ := hm
    simp only [Option.bind_eq_some_iff, Option.some.injEq] at hm
    obtain ⟨s, hs, rfl⟩ := hm
    obtain ⟨serial, made, since, hstage, rfl⟩ := probing?_eq_some hx
    have hfits := h.fits_of_probed? hk hstage hs draw
    obtain ⟨checker, stage, hredraw, -⟩ := h.redraw_of_probed? hk hstage hs draw
    have hnow : (s.redraw n draw).now = c.session.now := by
      rw [hredraw]
      rfl
    refine ⟨hfits.tell .., hnow, ?_⟩
    by_cases hid : id' = id
    · subst hid
      have hrank : (account id' c).checks[rank]? = some (some ⟨k.endpoint, made, since⟩) := by
        show ((numbers id' c.arrivals).map _)[rank]? = _
        rw [List.getElem?_map, hn, Option.map_some, hk, Option.bind_some, hx]
      rw [Move.concern?, if_pos rfl, h.probed hn hk hstage htime hs, Option.elim_some]
      simp only [Account.note, hrank]
    · have hne : k.endpoint.id ≠ id := by
        rw [h.id_of_rank hn hk]
        exact hid
      rw [Move.concern?, if_neg hid, account_tell, if_neg hid, List.append_nil]
      exact h.probed_of_ne hne hk hstage hs draw

end Fits

end Course

end EndpointWatch.Checker
