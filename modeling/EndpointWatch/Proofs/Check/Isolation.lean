import EndpointWatch.Proofs.Check.Course

/-!
# Endpoints do not disturb each other

What a checker has for an endpoint follows from the arrivals of its checks and from what their probes do
(`account_of_run`). So two runs in which these are the same, and in which the breaker of the endpoint is never dropped,
come to the same for the endpoint, whatever happens to others; and its checks are turned away only because of checks of
its own (`undisturbed_of_run`).
-/

namespace EndpointWatch.Checker

namespace Event

/-- Whether the breaker turned the check away. -/
def isTurnedAway : Event → Bool
  | ended _ _ (.error (.guarded _ .turnedAway)) _ _ => true
  | ended .. | began .. => false

/-- Whether the check made all its probes in vain. -/
def isFailure : Event → Bool
  | ended _ _ (.error (.guarded _ (.inner _))) _ _ => true
  | ended .. | began .. => false

/-- That checks are turned away only after one has failed, in what is told of an endpoint. -/
def Warranted (told : List Event) : Prop :=
  ∀ pre ev post, told = pre ++ ev :: post → ev.isTurnedAway → ∃ ev' ∈ pre, ev'.isFailure

theorem warranted_nil : Warranted [] := by
  intro pre ev post h
  simp at h

theorem Warranted.concat {told : List Event} (h : Warranted told) {ev : Event}
    (hev : ev.isTurnedAway → ∃ ev' ∈ told, ev'.isFailure) : Warranted (told ++ [ev]) := by
  intro pre ev' post heq haway
  rcases List.eq_nil_or_concat post with rfl | ⟨post, last, rfl⟩
  · obtain ⟨rfl, hlast⟩ := List.append_inj' heq rfl
    cases hlast
    exact hev haway
  · have hinit : told ++ [ev] = (pre ++ ev' :: post) ++ [last] := by simpa using heq
    obtain ⟨rfl, -⟩ := List.append_inj' hinit rfl
    exact h pre ev' post rfl haway

end Event

namespace Course

variable {p : Retry.Policy Float} {t : Breaker.Settings} {id : Int64} {c c' : Course} {ms : List Move}

theorem Fits.moves {c₀ : Checker} (h : Fits c₀ id c) (hm : c.moves? ms = some c')
    (hkept : ∀ ids, .retain ids ∈ ms → id ∈ ids) :
    account id c' = (concerns id c.session.now ms).foldl (Account.note c₀) (account id c) := by
  induction ms generalizing c with
  | nil => cases hm; rfl
  | cons m ms ih =>
    obtain ⟨d, hd, hm⟩ := run_cons hm
    obtain ⟨hfits, hnow, haccount⟩ := h.move hd fun ids hids => hkept ids (hids ▸ List.mem_cons_self)
    rw [ih hfits hm fun ids hids => hkept ids (List.mem_cons_of_mem _ hids), haccount, hnow, concerns, List.foldl_append]
    cases m.concern? id c.session.now <;> rfl

/-- What a checker has for an endpoint that is always retained follows from what concerns this endpoint. -/
theorem account_of_run (hm : (start (.fresh p t)).moves? ms = some c) (hkept : ∀ ids, .retain ids ∈ ms → id ∈ ids) :
    account id c = (concerns id 0 ms).foldl (Account.note (.fresh p t)) .empty :=
  (Fits.start p t id).moves hm hkept

/-! ### Checks that are turned away -/

/-- Unless a check has failed, the breaker is closed. -/
structure Account.Sober (a : Account) : Prop where
  closed : (∃ ev ∈ a.told, ev.isFailure) ∨ ∀ b, a.breaker? = some b → b.phase = .closed
  warranted : Event.Warranted a.told

theorem phase_of_admit? {s : Breaker.Settings} {now : Nat} {b b' : Breaker} (hb : b.phase = .closed)
    (h : b.admit? s now = some b') : b'.phase = .closed := by
  rw [Breaker.admit?, hb] at h
  cases h
  exact hb

namespace Account.Sober

variable {c₀ : Checker} {a : Account}

/-- One more thing is told, and the breaker changes. -/
theorem tell (h : a.Sober) {ev : Event} {b? : Option Breaker} {checks : List (Option Probing)}
    (hev : ev.isTurnedAway → ∃ ev' ∈ a.told, ev'.isFailure)
    (hb : ev.isFailure ∨ ((∀ b, a.breaker? = some b → b.phase = .closed) → ∀ b, b? = some b → b.phase = .closed)) :
    Account.Sober ⟨b?, checks, a.told ++ [ev]⟩ where
  closed := by
    rcases hb with hb | hb
    · exact .inl ⟨ev, List.mem_append_right _ (List.mem_singleton_self ev), hb⟩
    · refine h.closed.imp (fun ⟨ev', hmem, hfailure⟩ => ?_) hb
      exact ⟨ev', List.mem_append_left _ hmem, hfailure⟩
  warranted := h.warranted.concat hev

/-- What is told is not that a check was turned away. -/
theorem tell_of_not_turnedAway (h : a.Sober) {ev : Event} {b? : Option Breaker} {checks : List (Option Probing)}
    (hev : ev.isTurnedAway = false)
    (hb : ev.isFailure ∨ ((∀ b, a.breaker? = some b → b.phase = .closed) → ∀ b, b? = some b → b.phase = .closed)) :
    Account.Sober ⟨b?, checks, a.told ++ [ev]⟩ :=
  h.tell (fun haway => Bool.noConfusion (hev.symm.trans haway)) hb

theorem closed_getD (h : ∀ b, a.breaker? = some b → b.phase = .closed) : (a.breaker?.getD .fresh).phase = .closed := by
  cases hb : a.breaker? with
  | none => rfl
  | some b => exact h b hb

theorem arrived (h : a.Sober) (e : Endpoint) (now : Nat) : (a.arrived c₀ e now).Sober := by
  unfold Account.arrived
  split
  · dsimp only
    split
    · next b hadmit =>
      refine h.tell_of_not_turnedAway rfl (.inr fun hclosed b' hb' => ?_)
      cases hb'
      exact phase_of_admit? (closed_getD hclosed) hadmit
    · next hadmit =>
      -- a closed breaker lets every check in
      have hopen : ¬ ∀ b, a.breaker? = some b → b.phase = .closed := by
        intro hclosed
        rw [Breaker.admit?, closed_getD hclosed] at hadmit
        cases hadmit
      refine h.tell (fun _ => h.closed.resolve_right hopen) (.inr fun hclosed => absurd hclosed hopen)
  · exact h.tell_of_not_turnedAway rfl (.inr id)

theorem probed (h : a.Sober) (rank lasts : Nat) (r : Except ProbeError Answered) (draw : Nat) (x : Probing) :
    (a.probed c₀ rank lasts r draw x).Sober := by
  unfold Account.probed
  dsimp only
  split
  · next v _ =>
    cases v with
    | error stop => exact h.tell_of_not_turnedAway rfl (.inl rfl)
    | ok answered =>
      refine h.tell_of_not_turnedAway rfl (.inr fun hclosed b hb => ?_)
      obtain ⟨b₀, hb₀, rfl⟩ := Option.map_eq_some_iff.mp hb
      simp [Breaker.record, Breaker.recordSuccess, Except.isOk, Except.toBool, hclosed b₀ hb₀]
  · exact h.tell_of_not_turnedAway rfl (.inr id)

theorem note (h : a.Sober) (k : Concern) : (a.note c₀ k).Sober := by
  cases k with
  | arrived e now => exact h.arrived e now
  | probed rank lasts r draw =>
    rw [Account.note]
    split
    · exact h.probed ..
    · exact h
    · exact h

theorem foldl_note (h : a.Sober) (ks : List Concern) : (ks.foldl (Account.note c₀) a).Sober := by
  induction ks generalizing a with
  | nil => exact h
  | cons k ks ih => exact ih (h.note k)

end Account.Sober

theorem warranted_of_run (hm : (start (.fresh p t)).moves? ms = some c) (hkept : ∀ ids, .retain ids ∈ ms → id ∈ ids) :
    Event.Warranted (c.told id) := by
  have hempty : Account.Sober .empty := ⟨.inr nofun, Event.warranted_nil⟩
  have hsober : ((concerns id 0 ms).foldl (Account.note (.fresh p t)) .empty).Sober := hempty.foldl_note _
  rw [← account_of_run hm hkept] at hsober
  exact hsober.warranted

/-! ### Two runs -/

/-- Two runs of a checker, in both of which an endpoint is always retained, come to the same for the endpoint if its
checks arrive at the same times and their probes do the same: the checks make as many probes at the same times, end alike
at the same times and leave the breaker in the same state, whatever is checked and retained beside them. And a check is
turned away only after an earlier one of the same endpoint has failed. -/
theorem undisturbed_of_run {ms₁ ms₂ : List Move} {c₁ c₂ : Course} (h₁ : (start (.fresh p t)).moves? ms₁ = some c₁)
    (h₂ : (start (.fresh p t)).moves? ms₂ = some c₂) (kept₁ : ∀ ids, .retain ids ∈ ms₁ → id ∈ ids)
    (kept₂ : ∀ ids, .retain ids ∈ ms₂ → id ∈ ids) (same : concerns id 0 ms₁ = concerns id 0 ms₂) :
    c₁.told id = c₂.told id ∧ c₁.breaker? id = c₂.breaker? id ∧ Event.Warranted (c₁.told id) := by
  have haccount : account id c₁ = account id c₂ := by
    rw [account_of_run h₁ kept₁, account_of_run h₂ kept₂, same]
  exact ⟨congrArg Account.told haccount, congrArg Account.breaker? haccount, warranted_of_run h₁ kept₁⟩

/-- An endpoint whose check fails, and whose next one is turned away, alone and beside another endpoint that fails
before, is turned away as well and is dropped in between. -/
theorem undisturbed_of_company :
    let e (id : Int64) : Endpoint := ⟨id, 1, "x://a", 60, 1000, none, true⟩
    let down : Except ProbeError Answered := .error (.transport "refused" 0)
    let p : Retry.Policy Float := ⟨1, 100, 100, 2, true⟩
    let alone : List Move := [.check (e 1), .advance 5, .probed 1 0 5 down 0, .advance 5, .check (e 1)]
    let among : List Move := [.check (e 2), .check (e 1), .retain [1, 2], .advance 2, .probed 2 0 2 down 7, .check (e 2),
      .retain [1], .advance 3, .probed 1 0 5 down 0, .advance 5, .check (e 2), .check (e 1)]
    ∃ c₁ c₂, (start (.fresh p ⟨"w", 1, 1000⟩)).moves? alone = some c₁ ∧
      (start (.fresh p ⟨"w", 1, 1000⟩)).moves? among = some c₂ ∧ c₁.told 1 = c₂.told 1 ∧
      c₁.breaker? 1 = c₂.breaker? 1 ∧ Event.Warranted (c₁.told 1) ∧ (c₁.told 1).map Event.isTurnedAway = [false, false, true] ∧
      (c₂.told 2).map Event.isTurnedAway = [false, false, true, false] := by
  intro e down p alone among
  let run (ms : List Move) := (start (.fresh p ⟨"w", 1, 1000⟩)).moves? ms
  have h₁ : (run alone).any fun c => (c.told 1).map Event.isTurnedAway = [false, false, true] := by decide +kernel
  have h₂ : (run among).any fun c => (c.told 2).map Event.isTurnedAway = [false, false, true, false] := by decide +kernel
  obtain ⟨c₁, hc₁, ht₁⟩ := (Option.any_eq_true ..).mp h₁
  obtain ⟨c₂, hc₂, ht₂⟩ := (Option.any_eq_true ..).mp h₂
  have kept₁ (ids : List Int64) (h : .retain ids ∈ alone) : 1 ∈ ids := by simp [alone] at h
  have kept₂ (ids : List Int64) (h : .retain ids ∈ among) : 1 ∈ ids := by
    simp only [among, List.mem_cons, reduceCtorEq, Move.retain.injEq, List.not_mem_nil, or_self, or_false, false_or] at h
    rcases h with rfl | rfl <;> decide
  obtain ⟨htold, hbreaker, hwarranted⟩ := undisturbed_of_run hc₁ hc₂ kept₁ kept₂ (by decide +kernel)
  exact ⟨c₁, c₂, hc₁, hc₂, htold, hbreaker, hwarranted, of_decide_eq_true ht₁, of_decide_eq_true ht₂⟩

end Course

end EndpointWatch.Checker
