import EndpointWatch.Check.Session
import EndpointWatch.Proofs.Dict

/-!
# What happens to one endpoint at a checker

A move of a check changes the breaker of its own endpoint only. What it does there is `Registered`, and to the breaker of
any other endpoint it is `Untouched`. A probe ends its check, or another probe follows after a wait that depends on a
draw (`redraw_probed?_of_verdict?`, `redraw_probed?_of_verdict?_eq_none`).
-/

namespace EndpointWatch.Checker

variable {c c' : Checker} {id : Int64} {e : Endpoint} {now n : Nat} {s t : Session}

/-! ### The register -/

/-- The settings of the breaker of an endpoint. -/
def settingsFor (id : Int64) (c : Checker) : Breaker.Settings :=
  ({ c.template with name := c.breakerName id } : Breaker.Settings).effective

/-- The breaker of an endpoint, which is fresh if there is none yet. -/
def breakerOf (id : Int64) (c : Checker) : Breaker := ((c.guards.get? id).map Guard.breaker).getD .fresh

/-- The breaker of an endpoint has the settings that it was made with. -/
def Keeps (id : Int64) (c : Checker) : Prop := ∀ g, c.guards.get? id = some g → g.settings = c.settingsFor id

/-- `c'` differs from `c` in the breakers of other endpoints. -/
structure Untouched (id : Int64) (c c' : Checker) : Prop where
  policy : c'.policy = c.policy
  template : c'.template = c.template
  guard : c'.guards.get? id = c.guards.get? id

/-- `c'` differs from `c` in the breaker of an endpoint, which is `g` now. Its number is that of the one before. -/
structure Registered (id : Int64) (g : Guard) (c c' : Checker) : Prop where
  policy : c'.policy = c.policy
  template : c'.template = c.template
  guard : c'.guards.get? id = some g
  settings : g.settings = c.settingsFor id
  serial : ∀ g₀, c.guards.get? id = some g₀ → g.serial = g₀.serial

/-- `c'` still has the breaker of an endpoint under its number, if `c` had one, with the settings that it was made with. -/
structure Steady (id : Int64) (c c' : Checker) : Prop where
  policy : c'.policy = c.policy
  template : c'.template = c.template
  keeps : c'.Keeps id
  guard : ∀ g, c.guards.get? id = some g → ∃ g', c'.guards.get? id = some g' ∧ g'.serial = g.serial

theorem settingsFor_congr (h : c'.template = c.template) (id : Int64) : c'.settingsFor id = c.settingsFor id := by
  rw [settingsFor, settingsFor, breakerName, breakerName, h]

theorem Untouched.steady (h : Untouched id c c') (hk : c.Keeps id) : Steady id c c' where
  policy := h.policy
  template := h.template
  keeps g hg := by
    rw [settingsFor_congr h.template]
    exact hk g (h.guard ▸ hg)
  guard g hg := ⟨g, h.guard.trans hg, rfl⟩

theorem Registered.steady {g : Guard} (h : Registered id g c c') : Steady id c c' where
  policy := h.policy
  template := h.template
  keeps g' hg := by
    rw [h.guard] at hg
    cases hg
    rw [settingsFor_congr h.template]
    exact h.settings
  guard g₀ hg := ⟨g, h.guard, h.serial g₀ hg⟩

theorem Untouched.refl (id : Int64) (c : Checker) : Untouched id c c := ⟨rfl, rfl, rfl⟩

theorem Steady.trans {c'' : Checker} (h : Steady id c c') (h' : Steady id c' c'') : Steady id c c'' where
  policy := h'.policy.trans h.policy
  template := h'.template.trans h.template
  keeps := h'.keeps
  guard g hg := by
    obtain ⟨g', hg', hserial⟩ := h.guard g hg
    obtain ⟨g'', hg'', hserial'⟩ := h'.guard g' hg'
    exact ⟨g'', hg'', hserial'.trans hserial⟩

theorem Untouched.breakerOf (h : Untouched id c c') : c'.breakerOf id = c.breakerOf id := by
  rw [Checker.breakerOf, Checker.breakerOf, h.guard]

theorem Registered.breakerOf {g : Guard} (h : Registered id g c c') : c'.breakerOf id = g.breaker := by
  rw [Checker.breakerOf, h.guard]
  rfl

theorem guardFor_registered (h : c.Keeps id) :
    Registered id (c.guardFor id).1 c (c.guardFor id).2 ∧ (c.guardFor id).1.breaker = c.breakerOf id := by
  unfold guardFor
  cases hg : c.guards.get? id with
  | some g =>
    refine ⟨⟨rfl, rfl, hg, h g hg, fun g₀ h₀ => ?_⟩, ?_⟩
    · rw [hg] at h₀
      cases h₀
      rfl
    · rw [breakerOf, hg]
      rfl
  | none =>
    refine ⟨⟨rfl, rfl, Dict.get?_insert_self .., rfl, fun g₀ h₀ => ?_⟩, ?_⟩
    · rw [hg] at h₀
      cases h₀
    · rw [breakerOf, hg]
      rfl

theorem guardFor_untouched (h : e.id ≠ id) : Untouched id c (c.guardFor e.id).2 := by
  unfold guardFor
  split
  · exact .refl id c
  · exact ⟨rfl, rfl, Dict.get?_insert_of_ne h.symm⟩

/-- The arrival of a check of another endpoint. -/
theorem arrive_untouched (h : e.id ≠ id) (now : Nat) : Untouched id c (c.arrive e now).2 := by
  have hg := guardFor_untouched (c := c) h
  unfold arrive
  split
  · dsimp only
    split
    · exact hg
    · refine ⟨hg.policy, hg.template, ?_⟩
      rw [← hg.guard]
      exact Dict.get?_insert_of_ne h.symm
  · exact .refl id c

theorem record_untouched {id' : Int64} (h : id' ≠ id) (serial now : Nat) (success : Bool) :
    Untouched id c (c.record id' serial now success) := by
  unfold record
  split
  · split
    · exact ⟨rfl, rfl, Dict.get?_insert_of_ne h.symm⟩
    · exact .refl id c
  · exact .refl id c

theorem retain_untouched {ids : List Int64} (h : id ∈ ids) : Untouched id c (c.retain ids) := by
  refine ⟨rfl, rfl, ?_⟩
  rw [retain, Dict.get?_filter]
  cases c.guards.get? id with
  | none => rfl
  | some g => simp [h]

theorem mem_keys_retain {ids : List Int64} : id ∈ (c.retain ids).guards.keys ↔ id ∈ c.guards.keys ∧ id ∈ ids := by
  rw [Dict.mem_keys_iff, Dict.mem_keys_iff, retain, Dict.get?_filter]
  cases c.guards.get? id <;> simp [Option.isSome_filter]

theorem keys_record (id' : Int64) (serial now : Nat) (success : Bool) :
    (c.record id' serial now success).guards.keys = c.guards.keys := by
  unfold record
  split
  · next g hg =>
    split
    · exact Dict.keys_insert_of_get? hg _
    · rfl
  · rfl

theorem get?_guardFor (id : Int64) (c : Checker) : (c.guardFor id).2.guards.get? id = some (c.guardFor id).1 := by
  unfold guardFor
  split
  · next hg => exact hg
  · exact Dict.get?_insert_self ..

theorem arrive_of_invalid (hv : Url.isValidAddress e.url = false) (now : Nat) :
    c.arrive e now = (.refused .invalidUrl, c) := by
  simp [arrive, hv]

theorem arrive_of_turnedAway (hv : Url.isValidAddress e.url)
    (hb : (c.guardFor e.id).1.breaker.admit? (c.guardFor e.id).1.settings now = none) :
    c.arrive e now = (.refused (.guarded (c.guardFor e.id).1.settings.name .turnedAway), (c.guardFor e.id).2) := by
  simp only [arrive, hv, if_true, hb]

theorem arrive_of_admit? {b : Breaker} (hv : Url.isValidAddress e.url)
    (hb : (c.guardFor e.id).1.breaker.admit? (c.guardFor e.id).1.settings now = some b) :
    c.arrive e now = (.admitted (c.guardFor e.id).1.serial, { (c.guardFor e.id).2 with
      guards := (c.guardFor e.id).2.guards.insert e.id { (c.guardFor e.id).1 with breaker := b } }) := by
  simp only [arrive, hv, if_true, hb]

/-- An arriving check registers the breaker of its endpoint, unless its URL cannot be read. -/
theorem mem_keys_arrive : id ∈ (c.arrive e now).2.guards.keys ↔
    id ∈ c.guards.keys ∨ e.id = id ∧ Url.isValidAddress e.url := by
  rw [Dict.mem_keys_iff, Dict.mem_keys_iff]
  by_cases hid : e.id = id
  · subst hid
    cases hv : Url.isValidAddress e.url with
    | false => simp [arrive_of_invalid hv]
    | true =>
      refine iff_of_true ?_ (.inr ⟨rfl, rfl⟩)
      cases hb : (c.guardFor e.id).1.breaker.admit? (c.guardFor e.id).1.settings now with
      | none =>
        rw [arrive_of_turnedAway hv hb, get?_guardFor]
        rfl
      | some b =>
        rw [arrive_of_admit? hv hb, Dict.get?_insert_self]
        rfl
  · rw [(arrive_untouched hid now).guard]
    exact (or_iff_left fun h => hid h.1).symm

/-- A check arrives: its URL cannot be read, or its own breaker turns it away, or lets it in. -/
theorem arrive_cases (hk : c.Keeps e.id) (now : Nat) :
    (Url.isValidAddress e.url = false ∧ c.arrive e now = (.refused .invalidUrl, c)) ∨
    Url.isValidAddress e.url = true ∧ ∃ g, Registered e.id g c (c.arrive e now).2 ∧
      (((c.breakerOf e.id).admit? (c.settingsFor e.id) now = none ∧ g.breaker = c.breakerOf e.id ∧
          (c.arrive e now).1 = .refused (.guarded (c.breakerName e.id) .turnedAway)) ∨
        ((c.breakerOf e.id).admit? (c.settingsFor e.id) now = some g.breaker ∧
          (c.arrive e now).1 = .admitted g.serial)) := by
  obtain ⟨hg, hbreaker⟩ := guardFor_registered hk
  cases hv : Url.isValidAddress e.url with
  | false => exact .inl ⟨rfl, arrive_of_invalid hv now⟩
  | true =>
    right
    have heq : (c.guardFor e.id).1.breaker.admit? (c.guardFor e.id).1.settings now =
        (c.breakerOf e.id).admit? (c.settingsFor e.id) now := by
      rw [hbreaker, hg.settings]
    cases hb : (c.breakerOf e.id).admit? (c.settingsFor e.id) now with
    | none =>
      rw [arrive_of_turnedAway hv (heq.trans hb), hg.settings]
      exact ⟨rfl, (c.guardFor e.id).1, hg, .inl ⟨rfl, hbreaker, rfl⟩⟩
    | some b =>
      rw [arrive_of_admit? hv (heq.trans hb)]
      refine ⟨rfl, { (c.guardFor e.id).1 with breaker := b }, ?_, .inr ⟨rfl, rfl⟩⟩
      exact ⟨hg.policy, hg.template, Dict.get?_insert_self .., hg.settings, hg.serial⟩

/-- A check leaves its outcome with the breaker that let it in. -/
theorem record_registered (hk : c.Keeps id) {g : Guard} (hg : c.guards.get? id = some g) (now : Nat) (success : Bool) :
    Registered id { g with breaker := g.breaker.record (c.settingsFor id) now success } c
      (c.record id g.serial now success) := by
  have hrecord : c.record id g.serial now success =
      { c with guards := c.guards.insert id { g with breaker := g.breaker.record g.settings now success } } := by
    simp only [record, hg, if_true]
  rw [hrecord, hk g hg]
  refine ⟨rfl, rfl, Dict.get?_insert_self .., rfl, fun g₀ h₀ => ?_⟩
  rw [hg] at h₀
  cases h₀
  rfl

/-- Whichever check arrives, and whether or not it is let in, the breaker of an endpoint keeps its place; and a check of
the endpoint that is let in is let in by this breaker. -/
theorem arrive_steady (hk : c.Keeps id) (e : Endpoint) (now : Nat) :
    Steady id c (c.arrive e now).2 ∧ (e.id = id → ∀ serial, (c.arrive e now).1 = .admitted serial →
      ∃ g, (c.arrive e now).2.guards.get? id = some g ∧ g.serial = serial) := by
  by_cases hid : e.id = id
  · subst hid
    rcases arrive_cases hk now with ⟨-, ha⟩ | ⟨-, g, hg, ⟨-, -, ha⟩ | ⟨-, ha⟩⟩
    · rw [ha]
      exact ⟨(Untouched.refl e.id c).steady hk, nofun⟩
    · rw [ha]
      exact ⟨hg.steady, nofun⟩
    · rw [ha]
      refine ⟨hg.steady, fun _ serial hserial => ?_⟩
      cases hserial
      exact ⟨g, hg.guard, rfl⟩
  · exact ⟨(arrive_untouched hid now).steady hk, fun h => absurd h hid⟩

/-- Whichever check leaves its outcome, the breaker of an endpoint keeps its place. -/
theorem record_steady (hk : c.Keeps id) (id' : Int64) (serial now : Nat) (success : Bool) :
    Steady id c (c.record id' serial now success) := by
  by_cases hid : id' = id
  · subst hid
    cases hg : c.guards.get? id' with
    | none =>
      have hrecord : c.record id' serial now success = c := by simp only [record, hg]
      rw [hrecord]
      exact (Untouched.refl id' c).steady hk
    | some g =>
      by_cases hserial : g.serial = serial
      · subst hserial
        exact (record_registered hk hg now success).steady
      · have hrecord : c.record id' serial now success = c := by simp only [record, hg, if_neg hserial]
        rw [hrecord]
        exact (Untouched.refl id' c).steady hk
  · exact (record_untouched hid serial now success).steady hk

/-! ### Whole checks -/

section Whole

variable {probe : Nat → ProbeCall} {draw : Nat → Nat}

theorem check_of_refused {f : CheckFailure} (ha : c.arrive e now = (.refused f, c')) :
    c.check e now probe draw = (⟨.error f, [], now⟩, c') := by
  rw [check, ha]

theorem check_of_admitted {serial : Nat} (ha : c.arrive e now = (.admitted serial, c')) :
    c.check e now probe draw = (let r := c'.policy.run probe now draw
      (⟨c'.outcome e.id r.result, r.starts, r.ended⟩, c'.record e.id serial r.ended r.result.isOk)) := by
  rw [check, ha]

end Whole

/-! ### Checks under way -/

/-- How a check ends with a probe that follows `made` others, if it does. -/
def verdict? (made : Nat) (r : Except ProbeError Answered) (c : Checker) :
    Option (Except (Retry.Stop ProbeError) Answered) :=
  match r with
  | .ok a => some (.ok a)
  | .error e =>
    if (c.policy.wait? (made + 1)).isSome then none else some (.error (.exhausted c.policy.maxAttempts e))

theorem verdict?_congr (h : c'.policy = c.policy) (made : Nat) (r : Except ProbeError Answered) :
    c'.verdict? made r = c.verdict? made r := by
  unfold verdict?
  rw [h]

theorem outcome_congr (h : c'.template = c.template) (id : Int64) (r : Except (Retry.Stop ProbeError) Answered) :
    c'.outcome id r = c.outcome id r := by
  rw [outcome, outcome, breakerName, breakerName, h]

namespace Session

/-- The stage of a check that has just arrived. -/
def stageOf (now : Nat) : Arrival → Check.Stage
  | .refused f => .done (.error f) now
  | .admitted serial => .probing serial 0 now

/-- The next probe of a check begins after the wait that the draw selects. -/
def redraw (n draw : Nat) (s : Session) : Session :=
  match s.underWay.get? n with
  | some k =>
    match k.stage with
    | .probing serial (made + 1) _ =>
      s.proceed n k (.probing serial (made + 1) (s.now + Retry.ticks (s.checker.policy.pause made.toUInt32 draw)))
    | .probing _ 0 _ | .spawned | .done .. => s
  | none => s

/-- A check that arrives as soon as it is there. -/
theorem arrive?_spawn {cycle : Nat} (h : (s.spawn cycle e).arrive? s.nextCheck = some t) :
    t.checker = (s.checker.arrive e s.now).2 ∧ t.now = s.now ∧ t.nextCheck = s.nextCheck + 1 ∧
      ∀ j, t.underWay.get? j =
        if j = s.nextCheck then some ⟨cycle, e, stageOf s.now (s.checker.arrive e s.now).1⟩ else s.underWay.get? j := by
  have hk : (s.spawn cycle e).underWay.get? s.nextCheck = some ⟨cycle, e, .spawned⟩ := Dict.get?_insert_self ..
  have hget (stage : Check.Stage) (j : Nat) :
      ((s.spawn cycle e).underWay.insert s.nextCheck ⟨cycle, e, stage⟩).get? j =
        if j = s.nextCheck then some ⟨cycle, e, stage⟩ else s.underWay.get? j := by
    by_cases hj : j = s.nextCheck
    · rw [if_pos hj, hj, Dict.get?_insert_self]
    · rw [if_neg hj, Dict.get?_insert_of_ne hj]
      exact Dict.get?_insert_of_ne hj
  simp only [arrive?, hk, Option.some.injEq] at h
  generalize ha : s.checker.arrive e s.now = p
  obtain ⟨a, checker⟩ := p
  have ha' : (s.spawn cycle e).checker.arrive e (s.spawn cycle e).now = (a, checker) := ha
  rw [ha'] at h
  cases a with
  | refused f => cases h; exact ⟨rfl, rfl, rfl, hget _⟩
  | admitted serial => cases h; exact ⟨rfl, rfl, rfl, hget _⟩

theorem get?_proceed (k : Check) (stage : Check.Stage) (n j : Nat) :
    (s.proceed n k stage).underWay.get? j = if j = n then some { k with stage } else s.underWay.get? j := by
  by_cases hj : j = n
  · rw [if_pos hj, hj]
    exact Dict.get?_insert_self ..
  · rw [if_neg hj]
    exact Dict.get?_insert_of_ne hj

/-- A check arrives. -/
theorem arrive?_eq_some (h : s.arrive? n = some t) : ∃ k, s.underWay.get? n = some k ∧ k.stage = .spawned ∧
    t = { s with checker := (s.checker.arrive k.endpoint s.now).2 }.proceed n k
      (stageOf s.now (s.checker.arrive k.endpoint s.now).1) := by
  unfold arrive? at h
  split at h
  · next k hk =>
    split at h
    · next hstage =>
      refine ⟨k, hk, hstage, ?_⟩
      generalize s.checker.arrive k.endpoint s.now = p at h ⊢
      obtain ⟨_ | _, checker⟩ := p
      · cases h; rfl
      · cases h; rfl
    · cases h
    · cases h
  · cases h

theorem probed?_eq_some {r : Except ProbeError Answered} (h : s.probed? n r = some t) :
    ∃ k serial made since, s.underWay.get? n = some k ∧ k.stage = .probing serial made since := by
  unfold probed? at h
  split at h
  · next k hk =>
    split at h
    · next serial made since hstage => exact ⟨k, serial, made, since, hk, hstage⟩
    · cases h
    · cases h
  · cases h

section Probe

variable {k : Check} {serial made since : Nat} {r : Except ProbeError Answered}
  {v : Except (Retry.Stop ProbeError) Answered}

/-- A probe with which a check is over. -/
theorem probed?_of_verdict? (hk : s.underWay.get? n = some k) (hstage : k.stage = .probing serial made since)
    (hv : s.checker.verdict? made r = some v) (h : s.probed? n r = some t) :
    t = { s with checker := s.checker.record k.endpoint.id serial s.now v.isOk }.proceed n k
      (.done (s.checker.outcome k.endpoint.id v) s.now) := by
  simp only [probed?, hk, hstage] at h
  split at h
  · cases h
  · cases r with
    | ok a => cases hv; cases h; rfl
    | error err =>
      simp only [verdict?] at hv
      cases hw : s.checker.policy.wait? (made + 1) with
      | some ms => rw [hw] at hv; cases hv
      | none =>
        rw [hw] at hv h
        cases hv
        cases h
        rfl

/-- A probe that another one follows. -/
theorem probed?_of_verdict?_eq_none (hk : s.underWay.get? n = some k) (hstage : k.stage = .probing serial made since)
    (hv : s.checker.verdict? made r = none) (h : s.probed? n r = some t) :
    ∃ ms, t = s.proceed n k (.probing serial (made + 1) (s.now + ms)) := by
  simp only [probed?, hk, hstage] at h
  split at h
  · cases h
  · cases r with
    | ok a => cases hv
    | error err =>
      simp only [verdict?] at hv
      cases hw : s.checker.policy.wait? (made + 1) with
      | none => rw [hw] at hv; cases hv
      | some ms =>
        rw [hw] at h
        exact ⟨ms, (Option.some.inj h).symm⟩

theorem redraw_probed?_of_verdict? (hk : s.underWay.get? n = some k) (hstage : k.stage = .probing serial made since)
    (hv : s.checker.verdict? made r = some v) (h : s.probed? n r = some t) (draw : Nat) :
    t.redraw n draw = { s with checker := s.checker.record k.endpoint.id serial s.now v.isOk }.proceed n k
      (.done (s.checker.outcome k.endpoint.id v) s.now) := by
  have ht := probed?_of_verdict? hk hstage hv h
  have hn : t.underWay.get? n = some { k with stage := .done (s.checker.outcome k.endpoint.id v) s.now } := by
    rw [ht, get?_proceed, if_pos rfl]
  rw [redraw, hn]
  exact ht

theorem redraw_probed?_of_verdict?_eq_none (hk : s.underWay.get? n = some k)
    (hstage : k.stage = .probing serial made since) (hv : s.checker.verdict? made r = none) (h : s.probed? n r = some t)
    (draw : Nat) : t.redraw n draw = s.proceed n k
      (.probing serial (made + 1) (s.now + Retry.ticks (s.checker.policy.pause made.toUInt32 draw))) := by
  obtain ⟨ms, rfl⟩ := probed?_of_verdict?_eq_none hk hstage hv h
  have hn : (s.proceed n k (.probing serial (made + 1) (s.now + ms))).underWay.get? n =
      some { k with stage := .probing serial (made + 1) (s.now + ms) } := by
    rw [get?_proceed, if_pos rfl]
  rw [redraw, hn]
  simp only [proceed, Dict.insert_insert]

end Probe

end Session

end EndpointWatch.Checker
