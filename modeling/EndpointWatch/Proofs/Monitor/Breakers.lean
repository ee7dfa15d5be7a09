import EndpointWatch.Proofs.Breaker.Course
import EndpointWatch.Proofs.Check.Course
import EndpointWatch.Proofs.Monitor.Turns

/-!
# The breaker of an endpoint across cycles

As long as every fetch of the active endpoints lists an endpoint, its breaker stays under its number (`steady_of_run`),
and it is the breaker of one `Breaker.Course` in which the checks of the endpoint are the calls, whatever cycles they
belong to and however these overlap (`Follows.of_run`).
-/

namespace EndpointWatch.Monitor

open Checker

variable {m m' : Monitor} {v : Move} {vs : List Move} {id : Int64} {s : Session} {t : Breaker.Settings}

/-- The breaker of an endpoint and its number. -/
def guard? (id : Int64) (m : Monitor) : Option Guard := m.session.checker.guards.get? id

/-- The endpoints that have a breaker. -/
def guarded (m : Monitor) : List Int64 := m.session.checker.guards.keys

/-- What a move is for the breaker of an endpoint: time passes, a check of the endpoint arrives, or the last probe of one
is over. -/
def breakerMove? (id : Int64) (m : Monitor) : Move → Option Breaker.Move
  | .advance ms => some (.advance ms)
  | .arrive n => do
    let k ← m.session.underWay.get? n
    if k.endpoint.id = id ∧ Url.isValidAddress k.endpoint.url then some (.arrive n) else none
  | .probed n r => do
    let k ← m.session.underWay.get? n
    let x ← probing? k
    let verdict ← m.session.checker.verdict? x.made r
    if k.endpoint.id = id then some (.finish n verdict.isOk) else none
  | .beginCycle .. | .abandonFetch _ | .handIn _ | .take _ | .saved .. | .complete _ | .stop .. | .call _ | .called ..
  | .giveUp .. | .shutDown => none

/-- What the moves of a run are for the breaker of an endpoint. -/
def breakerMoves (id : Int64) : Monitor → List Move → List Breaker.Move
  | _, [] => []
  | m, v :: vs => (m.breakerMove? id v).toList ++ (m.move? v).elim [] fun m' => breakerMoves id m' vs

theorem breakerMoves_cons (hm : m.move? v = some m') :
    m.breakerMoves id (v :: vs) = (m.breakerMove? id v).toList ++ m'.breakerMoves id vs := by
  rw [breakerMoves, hm]
  rfl

theorem breakerMove?_of_isApart (hv : v.isApart) : m.breakerMove? id v = none := by
  cases v with
  | advance | arrive | probed => cases hv
  | beginCycle | abandonFetch | handIn | take | saved | complete | stop | call | called | giveUp | shutDown => rfl

section Probe

variable {n serial made since : Nat} {k : Check} {r : Except ProbeError Answered}

theorem breakerMove?_arrive (hk : m.session.underWay.get? n = some k) : m.breakerMove? id (.arrive n) =
    if k.endpoint.id = id ∧ Url.isValidAddress k.endpoint.url then some (.arrive n) else none := by
  simp only [breakerMove?, hk, Option.bind_eq_bind, Option.bind_some]

theorem breakerMove?_probed (hk : m.session.underWay.get? n = some k) (hstage : k.stage = .probing serial made since) :
    m.breakerMove? id (.probed n r) = (m.session.checker.verdict? made r).bind fun verdict =>
      if k.endpoint.id = id then some (.finish n verdict.isOk) else none := by
  simp only [breakerMove?, hk, probing?, hstage, Option.bind_eq_bind, Option.bind_some]

end Probe

/-! ### One breaker -/

/-- That a move is no fetch, or one that lists the endpoint. -/
def Move.Lists (id : Int64) (v : Move) : Prop := ∀ es, v = .beginCycle false (.ok es) → id ∈ es.map Endpoint.id

theorem steady_of_turn (hk : m.session.checker.Keeps id) (hv : v.Lists id) (h : Turn m v s) :
    Steady id m.session.checker s.checker := by
  have hrefl := (Untouched.refl id m.session.checker).steady hk
  cases h with
  | advance | goOn | handIn | apart => exact hrefl
  | beginCycle es =>
    rw [Session.checker_spawnAll]
    exact (retain_untouched (hv es rfl)).steady hk
  | arrive => exact (arrive_steady hk _ _).1
  | leave => exact record_steady hk ..

/-- A breaker that is there stays under its number. -/
theorem steady_of_run (hk : m.session.checker.Keeps id) (hvs : ∀ v ∈ vs, v.Lists id) (hm : m.moves? vs = some m') :
    Steady id m.session.checker m'.session.checker := by
  induction vs generalizing m with
  | nil => cases hm; exact (Untouched.refl id _).steady hk
  | cons v vs ih =>
    obtain ⟨m₁, h₁, hm⟩ := run_cons hm
    obtain ⟨hv, hvs⟩ := List.forall_mem_cons.mp hvs
    have hsteady := steady_of_turn hk hv (turn_of_move? h₁)
    exact hsteady.trans (ih hsteady.keeps hvs hm)

/-! ### The breakers that there are -/

/-- A breaker is made when a check arrives, and dropped when a fetch no longer lists its endpoint. -/
theorem mem_keys_of_turn (h : Turn m v s) : id ∈ s.checker.guards.keys ↔
    (id ∈ m.guarded ∨ ∃ n, m.breakerMove? id v = some (.arrive n)) ∧ v.Lists id := by
  unfold Move.Lists
  cases h with
  | advance | handIn => simp [breakerMove?, guarded, Session.advance]
  | beginCycle es => simp [breakerMove?, guarded, Session.checker_spawnAll, Session.retain, mem_keys_retain]
  | arrive hk => simp [breakerMove?_arrive hk, guarded, Session.proceed, mem_keys_arrive]
  | goOn hk hstage hx => simp [breakerMove?_probed hk hstage, hx, guarded, Session.proceed]
  | leave hk hstage hx => simp [breakerMove?_probed hk hstage, hx, guarded, Session.proceed, keys_record]
  | apart hv =>
    have hne (es : List Endpoint) : v ≠ .beginCycle false (.ok es) := by
      rintro rfl
      cases hv
    simp [breakerMove?_of_isApart hv, guarded, hne]

/-! ### The calls of a breaker -/

/-- The number of the breaker that let a check in, as long as the check makes probes of the endpoint. -/
def serialOf? (id : Int64) (k : Check) : Option Nat :=
  match k.stage with
  | .probing serial _ _ => if k.endpoint.id = id then some serial else none
  | .spawned | .done .. => none

/-- The same of the check with the given number. -/
def letIn? (id : Int64) (s : Session) (n : Nat) : Option Nat := (s.underWay.get? n).bind (serialOf? id)

theorem serialOf?_of_ne {k : Check} (hid : k.endpoint.id ≠ id) : serialOf? id k = none := by
  unfold serialOf?
  split
  · exact if_neg hid
  · rfl
  · rfl

theorem letIn?_of_probing {n serial made since : Nat} {k : Check} (hk : s.underWay.get? n = some k)
    (hstage : k.stage = .probing serial made since) (hid : k.endpoint.id = id) : letIn? id s n = some serial := by
  simp only [letIn?, hk, Option.bind_some, serialOf?, hstage, if_pos hid]

theorem letIn?_proceed {n : Nat} (k : Check) (stage : Check.Stage) (j : Nat) :
    letIn? id (s.proceed n k stage) j = if j = n then serialOf? id { k with stage } else letIn? id s j := by
  rw [letIn?, Session.get?_proceed]
  split <;> rfl

/-- A check goes on and no other one is let in. -/
theorem letIn?_of_proceed {n : Nat} {k : Check} {stage : Check.Stage}
    (h : serialOf? id { k with stage } = none ∨ serialOf? id { k with stage } = letIn? id s n) {j serial : Nat}
    (hj : letIn? id (s.proceed n k stage) j = some serial) : letIn? id s j = some serial := by
  rw [letIn?_proceed] at hj
  split at hj
  · next hjn =>
    rcases h with h | h
    · cases h.symm.trans hj
    · exact hjn ▸ h.symm.trans hj
  · exact hj

theorem letIn?_of_erase {n j serial : Nat}
    (hj : letIn? id { s with underWay := s.underWay.erase n } j = some serial) : letIn? id s j = some serial := by
  obtain ⟨k, hk, hserial⟩ := Option.bind_eq_some_iff.mp hj
  rw [letIn?, (Dict.eq_some_of_get?_erase hk).2]
  exact hserial

theorem letIn?_of_spawnAll {n j serial : Nat} (es : List Endpoint)
    (hj : letIn? id (s.spawnAll n es) j = some serial) : letIn? id s j = some serial := by
  obtain ⟨k, hk, hserial⟩ := Option.bind_eq_some_iff.mp hj
  rcases Session.eq_or_get?_of_spawnAll es hk with ⟨e, -, rfl⟩ | hk
  · cases hserial
  · rw [letIn?, hk]
    exact hserial

/-- The breaker of an endpoint is that of `b`, and the checks of the endpoint that it has let in are in flight there. -/
structure Matches (id : Int64) (s : Session) (b : Breaker.Session) : Prop where
  keeps : s.checker.Keeps id
  settings : b.settings = s.checker.settingsFor id
  breaker : b.breaker = s.checker.breakerOf id
  now : b.now = s.now
  letIn : ∀ n serial, letIn? id s n = some serial →
    n ∈ b.inFlight ∧ ∃ g, s.checker.guards.get? id = some g ∧ g.serial = serial

theorem moves?_singleton {c c' : Breaker.Course} {x : Breaker.Move} (h : c.move? x = some c') :
    c.moves? (some x).toList = some c' := by
  rw [Option.toList_some]
  exact run_of_step h rfl

namespace Matches

variable {s' : Session} {b b' : Breaker.Session} {c : Breaker.Course}

/-- A turn that does not touch the breaker. -/
theorem rest (h : Matches id s b) (hu : Untouched id s.checker s'.checker) (hnow : s'.now = s.now)
    (hletIn : ∀ n serial, letIn? id s' n = some serial → letIn? id s n = some serial) : Matches id s' b where
  keeps := (hu.steady h.keeps).keeps
  settings := h.settings.trans (settingsFor_congr hu.template id).symm
  breaker := h.breaker.trans hu.breakerOf.symm
  now := h.now.trans hnow.symm
  letIn n serial hn := by
    rw [hu.guard]
    exact h.letIn n serial (hletIn n serial hn)

/-- A turn of one of the calls. -/
theorem register {g : Guard} (h : Matches id s b) (hg : Registered id g s.checker s'.checker) (hnow : s'.now = s.now)
    (hsettings : b'.settings = b.settings) (hbreaker : b'.breaker = g.breaker) (hnow' : b'.now = b.now)
    (hletIn : ∀ n serial, letIn? id s' n = some serial →
      n ∈ b'.inFlight ∧ (letIn? id s n = some serial ∨ g.serial = serial)) : Matches id s' b' where
  keeps := hg.steady.keeps
  settings := hsettings.trans (h.settings.trans (settingsFor_congr hg.template id).symm)
  breaker := hbreaker.trans hg.breakerOf.symm
  now := hnow'.trans (h.now.trans hnow.symm)
  letIn n serial hn := by
    obtain ⟨hmem, hserial⟩ := hletIn n serial hn
    refine ⟨hmem, g, hg.guard, ?_⟩
    rcases hserial with hold | hserial
    · obtain ⟨-, g₀, hg₀, rfl⟩ := h.letIn n serial hold
      exact hg.serial g₀ hg₀
    · exact hserial

theorem arrive (h : Matches id m.session c.session) {n : Nat} {k : Check} (hk : m.session.underWay.get? n = some k) :
    ∃ c', c.moves? (m.breakerMove? id (.arrive n)).toList = some c' ∧
      Matches id ({ m.session with checker := (m.session.checker.arrive k.endpoint m.now).2 }.proceed n k
        (Session.stageOf m.now (m.session.checker.arrive k.endpoint m.now).1)) c'.session := by
  rw [breakerMove?_arrive hk]
  by_cases hid : k.endpoint.id = id
  · subst hid
    rcases arrive_cases h.keeps m.now with ⟨hv, ha⟩ | ⟨hv, g, hg, ⟨hb, hbreaker, ha⟩ | ⟨hb, ha⟩⟩
    · rw [ha, hv, if_neg fun h => Bool.false_ne_true h.2]
      exact ⟨c, rfl, h.rest (.refl ..) rfl fun _ _ => letIn?_of_proceed (.inl rfl)⟩
    · have hmove := Breaker.Course.move?_arrive_of_turnedAway (c := c) (by rw [h.breaker, h.settings, h.now]; exact hb) n
      rw [if_pos ⟨rfl, hv⟩]
      refine ⟨_, moves?_singleton hmove, h.register hg rfl rfl (h.breaker.trans hbreaker.symm) rfl fun j serial hj => ?_⟩
      rw [ha] at hj
      have hold := letIn?_of_proceed (.inl rfl) hj
      exact ⟨(h.letIn j serial hold).1, .inl hold⟩
    · have hmove := Breaker.Course.move?_arrive (c := c) (by rw [h.breaker, h.settings, h.now]; exact hb) n
      rw [if_pos ⟨rfl, hv⟩]
      refine ⟨_, moves?_singleton hmove, h.register hg rfl rfl rfl rfl fun j serial hj => ?_⟩
      rw [ha, letIn?_proceed] at hj
      split at hj
      · next hjn =>
        have hserial : g.serial = serial := by simpa [serialOf?, Session.stageOf] using hj
        exact ⟨hjn ▸ List.mem_cons_self, .inr hserial⟩
      · exact ⟨List.mem_cons_of_mem _ (h.letIn j serial hj).1, .inl hj⟩
  · rw [if_neg fun h => hid h.1]
    refine ⟨c, rfl, h.rest (arrive_untouched hid m.now) rfl fun _ _ => letIn?_of_proceed (.inl ?_)⟩
    exact serialOf?_of_ne hid

theorem leave (h : Matches id m.session c.session) {n serial made since : Nat} {k : Check}
    {r : Except ProbeError Answered} {x : Except (Retry.Stop ProbeError) Answered}
    (hk : m.session.underWay.get? n = some k) (hstage : k.stage = .probing serial made since)
    (hx : m.session.checker.verdict? made r = some x) :
    ∃ c', c.moves? (m.breakerMove? id (.probed n r)).toList = some c' ∧
      Matches id ({ m.session with checker := m.session.checker.record k.endpoint.id serial m.now x.isOk }.proceed n k
        (.done (m.session.checker.outcome k.endpoint.id x) m.now)) c'.session := by
  rw [breakerMove?_probed hk hstage, hx, Option.bind_some]
  by_cases hid : k.endpoint.id = id
  · obtain ⟨hn, g, hg, rfl⟩ := h.letIn n serial (letIn?_of_probing hk hstage hid)
    rw [if_pos hid, hid]
    have hbreaker : c.session.breaker = g.breaker := by
      rw [h.breaker, breakerOf, hg]
      rfl
    refine ⟨_, moves?_singleton (Breaker.Course.move?_finish_eq_some_iff.mpr ⟨hn, rfl⟩),
      h.register (record_registered h.keeps hg m.now x.isOk) rfl rfl ?_ rfl fun j serial hj => ?_⟩
    · show c.session.breaker.record c.session.settings c.session.now x.isOk = _
      rw [hbreaker, h.settings, h.now]
      rfl
    · rw [letIn?_proceed] at hj
      split at hj
      · cases hj
      · next hjn => exact ⟨(List.mem_erase_of_ne hjn).mpr (h.letIn j serial hj).1, .inl hj⟩
  · rw [if_neg hid]
    exact ⟨c, rfl, h.rest (record_untouched hid ..) rfl fun _ _ => letIn?_of_proceed (.inl rfl)⟩

/-- A turn of the checks is a move of the breaker, or none. -/
theorem turn (h : Matches id m.session c.session) (hv : v.Lists id) (ht : Turn m v s) :
    ∃ c', c.moves? (m.breakerMove? id v).toList = some c' ∧ Matches id s c'.session := by
  cases ht with
  | advance ms =>
    refine ⟨_, moves?_singleton rfl, h.keeps, h.settings, h.breaker, ?_, h.letIn⟩
    exact congrArg (· + ms) h.now
  | beginCycle es =>
    refine ⟨c, rfl, h.rest ?_ (Session.now_spawnAll es) fun _ _ => letIn?_of_spawnAll es⟩
    rw [Session.checker_spawnAll]
    exact retain_untouched (hv es rfl)
  | arrive hk => exact h.arrive hk
  | goOn hk hstage hx ms =>
    rw [breakerMove?_probed hk hstage, hx]
    refine ⟨c, rfl, h.rest (.refl ..) rfl fun _ _ => letIn?_of_proceed (.inr ?_)⟩
    simp only [letIn?, hk, Option.bind_some, serialOf?, hstage]
  | leave hk hstage hx => exact h.leave hk hstage hx
  | handIn => exact ⟨c, rfl, h.rest (.refl ..) rfl fun _ _ => letIn?_of_erase⟩
  | apart hv =>
    rw [breakerMove?_of_isApart hv]
    exact ⟨c, rfl, h⟩

end Matches

/-- The breaker of an endpoint is what the given moves make of a new one. It is there once a check has arrived. -/
structure Follows (t : Breaker.Settings) (id : Int64) (xs : List Breaker.Move) (m : Monitor) : Prop where
  course : ∃ c, (Breaker.Course.start t).moves? xs = some c ∧ Matches id m.session c.session
  guarded : id ∈ m.guarded ↔ ∃ n, .arrive n ∈ xs

namespace Follows

variable {handOver : HandOver} {epoch : Instant} {p : Retry.Policy Float} {xs : List Breaker.Move}

theorem start : Follows ((Checker.fresh p t).settingsFor id) id [] (.start handOver epoch (.fresh p t)) where
  course := by
    refine ⟨_, rfl, ?_, Breaker.Settings.effective_effective _, rfl, rfl, ?_⟩
    · intro g hg
      cases hg
    · intro n serial hn
      cases hn
  guarded := iff_of_false List.not_mem_nil fun ⟨_, h⟩ => List.not_mem_nil h

theorem move (h : Follows t id xs m) (hv : v.Lists id) (hm : m.move? v = some m') :
    Follows t id (xs ++ (m.breakerMove? id v).toList) m' := by
  have hturn := turn_of_move? hm
  obtain ⟨c, hc, hmatches⟩ := h.course
  obtain ⟨c', hc', hmatches'⟩ := hmatches.turn hv hturn
  refine ⟨⟨c', run_append.mpr ⟨c, hc, hc'⟩, hmatches'⟩, ?_⟩
  rw [Monitor.guarded, mem_keys_of_turn hturn, and_iff_left hv, h.guarded]
  simp only [List.mem_append, Option.mem_toList, exists_or]

theorem run (h : Follows t id xs m) (hvs : ∀ v ∈ vs, v.Lists id) (hm : m.moves? vs = some m') :
    Follows t id (xs ++ m.breakerMoves id vs) m' := by
  induction vs generalizing m xs with
  | nil =>
    cases hm
    rwa [breakerMoves, List.append_nil]
  | cons v vs ih =>
    obtain ⟨m₁, h₁, hm⟩ := run_cons hm
    obtain ⟨hv, hvs⟩ := List.forall_mem_cons.mp hvs
    rw [breakerMoves_cons h₁, ← List.append_assoc]
    exact ih (h.move hv h₁) hvs hm

theorem of_run (hvs : ∀ v ∈ vs, v.Lists id) (hm : (Monitor.start handOver epoch (.fresh p t)).moves? vs = some m) :
    Follows ((Checker.fresh p t).settingsFor id) id
      ((Monitor.start handOver epoch (.fresh p t)).breakerMoves id vs) m :=
  Follows.start.run hvs hm

/-- The breaker, if there is one yet. -/
theorem guard? (h : Follows t id xs m) : ∃ c, (Breaker.Course.start t).moves? xs = some c ∧
    ∀ g, m.guard? id = some g → g.settings = c.session.settings ∧ g.breaker = c.session.breaker := by
  obtain ⟨c, hc, hmatches⟩ := h.course
  refine ⟨c, hc, fun g hg => ⟨(hmatches.keeps g hg).trans hmatches.settings.symm, ?_⟩⟩
  rw [hmatches.breaker, breakerOf, show m.session.checker.guards.get? id = some g from hg]
  rfl

end Follows

end EndpointWatch.Monitor
