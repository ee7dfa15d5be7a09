import EndpointWatch.Proofs.Monitor.Breakers
import Mathlib.Data.List.Dedup
import Mathlib.Data.List.Perm.Subperm

/-!
# Which breakers there are after a cycle

A cycle begins by dropping the breakers of all endpoints that it has not fetched, and its checks make new ones. While no
check of another cycle arrives, the breakers are among those that the cycle is to leave (`Pruned.run`), and when it is
complete they are exactly these (`breakers_of_run`).
-/

namespace EndpointWatch.Monitor

open Checker

variable {m m' : Monitor} {v : Move} {vs : List Move} {es : List Endpoint} {n j : Nat} {k : Check} {s : Session}
  {had : List Int64}

/-- No check is on its way to the checker. -/
def AllArrived (s : Session) : Prop := ∀ j k, s.underWay.get? j = some k → k.stage ≠ .spawned

/-- Whether a cycle has fetched its endpoints. -/
def Move.isFetch : Move → Bool
  | .beginCycle false (.ok _) => true
  | _ => false

theorem Move.lists_of_not_isFetch (hv : v.isFetch = false) (id : Int64) : v.Lists id := by
  rintro es rfl
  cases hv

/-! ### Checks on their way -/

theorem spawned_of_proceed {k₀ : Check} {stage : Check.Stage} (hk : (s.proceed n k₀ stage).underWay.get? j = some k)
    (hne : stage ≠ .spawned) (hstage : k.stage = .spawned) : s.underWay.get? j = some k := by
  rcases Dict.eq_some_of_get?_insert hk with ⟨-, rfl⟩ | ⟨-, hk⟩
  · exact absurd hstage hne
  · exact hk

theorem stageOf_ne_spawned (now : Nat) (a : Arrival) : Session.stageOf now a ≠ .spawned := by
  cases a <;> exact nofun

/-- Without another fetch no check is put on its way. -/
theorem spawned_of_turn (hv : v.isFetch = false) (h : Turn m v s) (hk : s.underWay.get? j = some k)
    (hstage : k.stage = .spawned) : m.session.underWay.get? j = some k := by
  cases h with
  | advance | apart => exact hk
  | beginCycle => cases hv
  | arrive => exact spawned_of_proceed hk (stageOf_ne_spawned _ _) hstage
  | goOn => exact spawned_of_proceed hk nofun hstage
  | leave => exact spawned_of_proceed hk nofun hstage
  | handIn => exact (Dict.eq_some_of_get?_erase hk).2

/-- A check on its way arrives or stays on its way. -/
theorem spawned_or_arrives (hv : v.isFetch = false) (h : Turn m v s) (hk : m.session.underWay.get? j = some k)
    (hstage : k.stage = .spawned) : s.underWay.get? j = some k ∨ v = .arrive j := by
  have hother {n : Nat} {k₀ : Check} (hn : m.session.underWay.get? n = some k₀) (hne : k₀.stage ≠ .spawned) : j ≠ n := by
    rintro rfl
    rw [hk, Option.some.injEq] at hn
    exact hne (hn ▸ hstage)
  cases h with
  | advance | apart => exact .inl hk
  | beginCycle => cases hv
  | @arrive n _ _ _ =>
    by_cases hjn : j = n
    · exact .inr (hjn ▸ rfl)
    · exact .inl ((Dict.get?_insert_of_ne hjn).trans hk)
  | goOn hn hstage₀ => exact .inl ((Dict.get?_insert_of_ne (hother hn (hstage₀ ▸ nofun))).trans hk)
  | leave hn hstage₀ => exact .inl ((Dict.get?_insert_of_ne (hother hn (hstage₀ ▸ nofun))).trans hk)
  | handIn hn hstage₀ => exact .inl ((Dict.get?_erase_of_ne (hother hn (hstage₀ ▸ nofun))).trans hk)

theorem AllArrived.run (h : AllArrived m.session) (hvs : ∀ v ∈ vs, v.isFetch = false) (hm : m.moves? vs = some m') :
    AllArrived m'.session := by
  induction vs generalizing m with
  | nil => cases hm; exact h
  | cons v vs ih =>
    obtain ⟨m₁, h₁, hm⟩ := run_cons hm
    obtain ⟨hv, hvs⟩ := List.forall_mem_cons.mp hvs
    refine ih (fun j k hk hstage => ?_) hvs hm
    exact h j k (spawned_of_turn hv (turn_of_move? h₁) hk hstage) hstage

theorem breakerMove?_eq_arrive {id : Int64} (h : m.breakerMove? id v = some (.arrive n)) : v = .arrive n ∧
    ∃ k, m.session.underWay.get? n = some k ∧ k.endpoint.id = id ∧ Url.isValidAddress k.endpoint.url := by
  cases v with
  | arrive j =>
    obtain ⟨k, hk, h⟩ := Option.bind_eq_some_iff.mp h
    obtain ⟨⟨hid, hvalid⟩, hj⟩ := Option.ite_none_right_eq_some.mp h
    cases hj
    exact ⟨rfl, k, hk, hid, hvalid⟩
  | probed j r =>
    simp [breakerMove?, Option.bind_eq_some_iff] at h
  | advance => cases h
  | beginCycle | abandonFetch | handIn | take | saved | complete | stop | call | called | giveUp | shutDown => cases h

/-! ### The breakers of a cycle -/

/-- That a cycle over `es` leaves a breaker for an endpoint, if those of `had` had one before. -/
def Guardable (had : List Int64) (es : List Endpoint) (id : Int64) : Prop :=
  id ∈ es.map Endpoint.id ∧ (id ∈ had ∨ ∃ e ∈ es, e.id = id ∧ Url.isValidAddress e.url)

/-- Cycle `n` over `es` is under way, and only its checks are on their way: the breakers are among those that it is to
leave, and those that are missing are the ones of these checks. -/
structure Pruned (had : List Int64) (es : List Endpoint) (n : Nat) (s : Session) : Prop where
  spawned : ∀ j k, s.underWay.get? j = some k → k.stage = .spawned → k.cycle = n ∧ k.endpoint ∈ es
  guardable : ∀ id ∈ s.checker.guards.keys, Guardable had es id
  kept : ∀ id ∈ had, id ∈ es.map Endpoint.id → id ∈ s.checker.guards.keys
  due : ∀ e ∈ es, Url.isValidAddress e.url → e.id ∈ s.checker.guards.keys ∨
    ∃ j k, s.underWay.get? j = some k ∧ k.stage = .spawned ∧ k.endpoint = e

namespace Pruned

theorem of_beginCycle (hnumbered : m.session.Numbered) (hall : AllArrived m.session) (es : List Endpoint) :
    Pruned m.guarded es m.nextCycle (m.beginCycle false (.ok es)).session := by
  rw [session_beginCycle]
  have hkeys (id : Int64) : id ∈ ((m.session.retain (es.map Endpoint.id)).spawnAll m.nextCycle es).checker.guards.keys ↔
      id ∈ m.guarded ∧ id ∈ es.map Endpoint.id := by
    rw [Session.checker_spawnAll]
    exact mem_keys_retain
  refine ⟨fun j k hk hstage => ?_, fun id hid => ?_, fun id hhad hid => (hkeys id).mpr ⟨hhad, hid⟩, fun e he _ => ?_⟩
  · rcases Session.eq_or_get?_of_spawnAll es hk with ⟨e, he, rfl⟩ | hk
    · exact ⟨rfl, he⟩
    · exact absurd hstage (hall j k hk)
  · obtain ⟨hhad, hmem⟩ := (hkeys id).mp hid
    exact ⟨hmem, .inl hhad⟩
  · have hretain : (m.session.retain (es.map Endpoint.id)).Numbered := hnumbered
    obtain ⟨j, hj⟩ := Session.exists_of_spawnAll (n := m.nextCycle) hretain he
    exact .inr ⟨j, _, hj, rfl, rfl⟩

theorem turn (h : Pruned had es n m.session) (hv : v.isFetch = false) (ht : Turn m v s) : Pruned had es n s := by
  have hkeys (id : Int64) : id ∈ s.checker.guards.keys ↔
      id ∈ m.guarded ∨ ∃ n, m.breakerMove? id v = some (.arrive n) :=
    (mem_keys_of_turn ht).trans (and_iff_left (Move.lists_of_not_isFetch hv id))
  refine ⟨fun j k hk hstage => h.spawned j k (spawned_of_turn hv ht hk hstage) hstage, fun id hid => ?_,
    fun id hhad hid => (hkeys id).mpr (.inl (h.kept id hhad hid)), fun e he hvalid => ?_⟩
  · rcases (hkeys id).mp hid with hold | ⟨j, hj⟩
    · exact h.guardable id hold
    · obtain ⟨rfl, k, hk, rfl, hvalid⟩ := breakerMove?_eq_arrive hj
      -- the check that arrives was on its way, so it is one of the cycle
      have hmem : k.endpoint ∈ es := by
        cases ht with
        | arrive hk' hstage =>
          rw [hk, Option.some.injEq] at hk'
          exact (h.spawned j k hk (hk' ▸ hstage)).2
        | apart hapart => cases hapart
      exact ⟨List.mem_map_of_mem hmem, .inr ⟨k.endpoint, hmem, rfl, hvalid⟩⟩
  · rcases h.due e he hvalid with hold | ⟨j, k, hk, hstage, rfl⟩
    · exact .inl ((hkeys e.id).mpr (.inl hold))
    · rcases spawned_or_arrives hv ht hk hstage with hk | rfl
      · exact .inr ⟨j, k, hk, hstage, rfl⟩
      · refine .inl ((hkeys k.endpoint.id).mpr (.inr ⟨j, ?_⟩))
        rw [breakerMove?_arrive hk, if_pos ⟨rfl, hvalid⟩]

theorem run (h : Pruned had es n m.session) (hvs : ∀ v ∈ vs, v.isFetch = false) (hm : m.moves? vs = some m') :
    Pruned had es n m'.session := by
  induction vs generalizing m with
  | nil => cases hm; exact h
  | cons v vs ih =>
    obtain ⟨m₁, h₁, hm⟩ := run_cons hm
    obtain ⟨hv, hvs⟩ := List.forall_mem_cons.mp hvs
    exact ih (h.turn hv (turn_of_move? h₁)) hvs hm

/-- Once all its checks have arrived, a cycle has left the breakers that it is to leave. -/
theorem mem_keys_iff (h : Pruned had es n s) (hall : AllArrived s) (id : Int64) :
    id ∈ s.checker.guards.keys ↔ Guardable had es id := by
  refine ⟨h.guardable id, ?_⟩
  rintro ⟨hid, hhad | ⟨e, he, rfl, hvalid⟩⟩
  · exact h.kept id hhad hid
  · refine (h.due e he hvalid).resolve_right ?_
    rintro ⟨j, k, hk, hstage, -⟩
    exact hall j k hk hstage

/-- There are no more breakers than endpoints that the cycle has fetched. -/
theorem count_le (h : Pruned had es n s) : s.checker.count ≤ (es.map Endpoint.id).dedup.length := by
  have hsubset : s.checker.guards.keys ⊆ (es.map Endpoint.id).dedup := fun id hid =>
    List.mem_dedup.mpr (h.guardable id hid).1
  calc s.checker.count = s.checker.guards.keys.length := (List.length_map ..).symm
    _ ≤ _ := (s.checker.guards.nodup_keys.subperm hsubset).length_le

/-- When the cycle is complete, all its checks have arrived. -/
theorem allArrived_of_complete {b : Bool} (h : Pruned had es n m.session) (hb : Books b m)
    (hm : m.move? (.complete n) = some m') : AllArrived m.session := by
  simp only [move?, Option.bind_eq_bind, Option.bind_eq_some_iff, Option.ite_none_right_eq_some,
    Option.some.injEq] at hm
  obtain ⟨c, hc, hcomplete, -⟩ := hm
  have hpending := (hb.running n c hc).pending_eq_nil hcomplete
  intro j k hk hstage
  exact Session.ne_of_pending_eq_nil hpending hk (h.spawned j k hk hstage).1

/-- A cycle over `es` that begins while no check is on its way, up to the next fetch. -/
theorem of_cycle {b : Bool} (hb : Books b m) (hall : AllArrived m.session) (hvs : ∀ v ∈ vs, v.isFetch = false)
    (hm : (m.beginCycle false (.ok es)).moves? vs = some m') : Pruned m.guarded es m.nextCycle m'.session ∧
      (es = [] ∨ .complete m.nextCycle ∈ vs → AllArrived m'.session) := by
  have hbegun := of_beginCycle hb.numbered hall es
  have hpruned := hbegun.run hvs hm
  refine ⟨hpruned, ?_⟩
  rintro (rfl | hcomplete)
  · exact fun j k hk hstage => absurd (hpruned.spawned j k hk hstage).2 List.not_mem_nil
  · obtain ⟨vs₁, vs₂, rfl⟩ := List.append_of_mem hcomplete
    obtain ⟨hvs₁, hvs₂⟩ := List.forall_mem_append.mp hvs
    obtain ⟨m₁, h₁, hm⟩ := run_append.mp hm
    obtain ⟨m₂, h₂, -⟩ := run_cons hm
    have hbooks : Books b m₁ := keeps_of_run (fun _ _ _ hb => hb.move) vs₁ (hb.beginCycle false (.ok es)) h₁
    exact ((hbegun.run hvs₁ h₁).allArrived_of_complete hbooks h₂).run hvs₂ hm

end Pruned

/-! ### The register -/

/-- An endpoint that every fetch lists keeps its breaker, under one number, from the first check that arrives with a
readable URL; and the breaker is what the checks of the endpoint make of it, whatever cycles they belong to.

When a cycle over `es` begins while no check is on its way, and none fetches its endpoints after it, the breakers are of
endpoints in `es`; and once the cycle is complete they are those of the endpoints that had one before it or have a
readable URL. -/
theorem breakers_of_run {handOver : HandOver} {epoch : Instant} {p : Retry.Policy Float} {t : Breaker.Settings}
    (hm : (start handOver epoch (.fresh p t)).moves? vs = some m) :
    (∀ id, (∀ v ∈ vs, v.Lists id) →
      (∀ vs₁ vs₂ m₁ g₁, vs = vs₁ ++ vs₂ → (start handOver epoch (.fresh p t)).moves? vs₁ = some m₁ →
        m₁.guard? id = some g₁ → ∃ g, m.guard? id = some g ∧ g.serial = g₁.serial) ∧
      (id ∈ m.guarded ↔ ∃ n, .arrive n ∈ (start handOver epoch (.fresh p t)).breakerMoves id vs) ∧
      ∃ c, (Breaker.Course.start ((Checker.fresh p t).settingsFor id)).moves?
          ((start handOver epoch (.fresh p t)).breakerMoves id vs) = some c ∧
        ∀ g, m.guard? id = some g → g.settings = c.session.settings ∧ g.breaker = c.session.breaker) ∧
    ∀ vs₁ vs₂ m₁ es, vs = vs₁ ++ .beginCycle false (.ok es) :: vs₂ →
      (start handOver epoch (.fresh p t)).moves? vs₁ = some m₁ → AllArrived m₁.session → (∀ v ∈ vs₂, v.isFetch = false) →
        (∀ id ∈ m.guarded, id ∈ es.map Endpoint.id) ∧ m.session.checker.count ≤ (es.map Endpoint.id).dedup.length ∧
        (es = [] ∨ .complete m₁.nextCycle ∈ vs₂ → ∀ id, id ∈ m.guarded ↔ id ∈ es.map Endpoint.id ∧
          (id ∈ m₁.guarded ∨ ∃ e ∈ es, e.id = id ∧ Url.isValidAddress e.url)) := by
  refine ⟨fun id hlisted => ?_, ?_⟩
  · have hfollows := Follows.of_run hlisted hm
    refine ⟨?_, hfollows.guarded, hfollows.guard?⟩
    rintro vs₁ vs₂ m₁ g₁ rfl h₁ hg₁
    obtain ⟨m₁', h₁', hm⟩ := run_append.mp hm
    obtain rfl : m₁ = m₁' := Option.some.inj (h₁.symm.trans h₁')
    obtain ⟨hlisted₁, hlisted₂⟩ := List.forall_mem_append.mp hlisted
    obtain ⟨c, -, hmatches⟩ := (Follows.of_run hlisted₁ h₁).course
    exact (steady_of_run hmatches.keeps hlisted₂ hm).guard g₁ hg₁
  · rintro vs₁ vs₂ m₁ es rfl h₁ hall hunfetched
    obtain ⟨m₁', h₁', hm⟩ := run_append.mp hm
    obtain rfl : m₁ = m₁' := Option.some.inj (h₁.symm.trans h₁')
    obtain ⟨m₂, h₂, hm⟩ := run_cons hm
    cases h₂
    obtain ⟨hpruned, hcomplete⟩ := Pruned.of_cycle (.of_run h₁) hall hunfetched hm
    exact ⟨fun id hid => (hpruned.guardable id hid).1, hpruned.count_le,
      fun h => hpruned.mem_keys_iff (hcomplete h)⟩

/-- Two cycles overlap, of which the second one drops an endpoint and the first one is stopped. A third cycle lists one
endpoint twice, and one with an unreadable URL. The failed checks of all three cycles count at one breaker. -/
theorem breakers_of_three_cycles :
    let e (id : Int64) (url : String) : Endpoint := ⟨id, 1, url, 60, 1000, none, true⟩
    let down : Except ProbeError Answered := .error (.transport "refused" 0)
    let s : Monitor := start .standard default (.fresh ⟨1, 100, 100, 2, true⟩ ⟨"w", 5, 1000⟩)
    let before : List Move := [.beginCycle false (.ok [e 1 "x://a", e 2 "x://a"]), .arrive 0, .arrive 1, .advance 5,
      .beginCycle false (.ok [e 1 "x://a"]), .arrive 2, .probed 0 down, .probed 2 down, .probed 1 down, .stop 0 .cancelled,
      .handIn 0, .handIn 1, .handIn 2, .take 1, .saved 1 true, .complete 1]
    let es : List Endpoint := [e 1 "x://a", e 1 "x://a", e 3 "a", e 4 "x://b"]
    let after : List Move := [.arrive 3, .arrive 4, .arrive 5, .arrive 6, .probed 3 down, .probed 4 down, .probed 6 down,
      .handIn 3, .handIn 4, .handIn 5, .handIn 6, .take 2, .saved 2 true, .take 2, .saved 2 false, .take 2, .saved 2 true,
      .take 2, .saved 2 true, .complete 2]
    ∃ m₁ m, s.moves? before = some m₁ ∧ s.moves? (before ++ .beginCycle false (.ok es) :: after) = some m ∧
      (∀ id, id ∈ m.guarded ↔ id ∈ es.map Endpoint.id ∧
        (id ∈ m₁.guarded ∨ ∃ e ∈ es, e.id = id ∧ Url.isValidAddress e.url)) ∧
      m₁.guarded = [1] ∧ 4 ∈ m.guarded ∧ 3 ∉ m.guarded ∧ m.session.checker.count ≤ 3 ∧
      ∃ g, m.guard? 1 = some g ∧ g.serial = 1 ∧ g.breaker.failures = 4 := by
  intro e down s before es after
  let vs := before ++ .beginCycle false (.ok es) :: after
  let t := (Checker.fresh ⟨1, 100, 100, 2, true⟩ ⟨"w", 5, 1000⟩).settingsFor 1
  have hbefore : (s.moves? before).any fun m => m.session.underWay.toList.isEmpty && m.nextCycle == 2 &&
      m.guarded == [1] && (m.guard? 1).map Guard.serial == some 1 := by decide +kernel
  have hall : (s.moves? vs).isSome := by decide +kernel
  have hfailures : ((Breaker.Course.start t).moves? (s.breakerMoves 1 vs)).map (fun c => c.session.breaker.failures) =
      some 4 := by decide +kernel
  obtain ⟨m₁, h₁, hm₁⟩ := (Option.any_eq_true ..).mp hbefore
  simp only [Bool.and_eq_true, List.isEmpty_iff, beq_iff_eq] at hm₁
  obtain ⟨⟨⟨hunderWay, hnext⟩, hguarded⟩, hserial⟩ := hm₁
  obtain ⟨m, hm⟩ := Option.isSome_iff_exists.mp hall
  have hlists (v : Move) (hv : v ∈ vs) : v.Lists 1 := by
    rintro es' rfl
    simp only [vs, before, after, List.cons_append, List.nil_append, List.mem_cons, reduceCtorEq, Move.beginCycle.injEq,
      Except.ok.injEq, true_and, List.not_mem_nil, false_or, or_false] at hv
    rcases hv with rfl | rfl | rfl <;> decide
  have harrived : AllArrived m₁.session := by
    intro j k hk
    rw [Dict.get?, hunderWay] at hk
    cases hk
  obtain ⟨hkept, hregister⟩ := breakers_of_run hm
  obtain ⟨hserials, -, c, hc, hguard⟩ := hkept 1 hlists
  obtain ⟨-, hcount, hexact⟩ := hregister before after m₁ es rfl h₁ harrived (by decide)
  have hcomplete : .complete m₁.nextCycle ∈ after := by
    rw [hnext]
    simp [after]
  have hids := hexact (.inr hcomplete)
  obtain ⟨g₁, hg₁, hserial₁⟩ := Option.map_eq_some_iff.mp hserial
  obtain ⟨g, hg, hserial⟩ := hserials before _ m₁ g₁ rfl h₁ hg₁
  refine ⟨m₁, m, h₁, hm, hids, hguarded, ?_, ?_, hcount, g, hg, hserial.trans hserial₁, ?_⟩
  · rw [hids, hguarded]
    decide +kernel
  · rw [hids, hguarded]
    decide +kernel
  · have hc' : (Breaker.Course.start t).moves? (s.breakerMoves 1 vs) = some c := hc
    rw [hc'] at hfailures
    rw [(hguard g hg).2]
    exact Option.some.inj hfailures

end EndpointWatch.Monitor
