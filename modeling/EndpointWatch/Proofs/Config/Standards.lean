import EndpointWatch.Config.Override
import EndpointWatch.Json.Writer
import EndpointWatch.Proofs.Json.Mention

/-!
# Settings that are left out

What the monitor's retries and breakers are set to when a configuration is loaded from a text. A setting that the text
mentions is what the text says. If its whole section is missing it is the monitor's standard; if the section is there
but leaves it out it is the standard of the section on its own, which for two settings is another one
(`fillsIn_of_load`).
-/

namespace EndpointWatch

open Json

/-! ### Every section is one value -/

namespace StorageConfig

variable {cs rest : List Char}

theorem takes_readKind : Takes readKind := (takes_stringAs _).check _

theorem closes_of_readMembers {rounds : Nat} {first : Bool} {kind? : Option Kind}
    {found : Option Kind × List (String × Found)} (h : readMembers rounds first kind? cs = .ok (found, rest)) :
    Closes first .object cs rest := by
  induction rounds generalizing first kind? found cs with
  | zero => cases h
  | succ rounds ih =>
    obtain ⟨⟨more, cs₁⟩, hnext, h⟩ := bind_eq_ok_iff.mp h
    cases more with
    | false => cases h; exact closes_of_nextMember_false hnext
    | true =>
      obtain ⟨⟨name, cs₂⟩, hname, h⟩ := bind_eq_ok_iff.mp h
      dsimp only at h
      split at h
      · split at h
        · cases h
        · obtain ⟨cs₃, hcolon, h⟩ := bind_eq_ok_iff.mp h
          obtain ⟨⟨k, cs₄⟩, hkind, h⟩ := bind_eq_ok_iff.mp h
          exact closes_of_nextMember hnext hname hcolon (takes_readKind _ _ _ hkind) (ih h)
      · obtain ⟨cs₃, hcolon, h⟩ := bind_eq_ok_iff.mp h
        obtain ⟨⟨f, cs₄⟩, hkept, h⟩ := bind_eq_ok_iff.mp h
        obtain ⟨⟨⟨k, ms⟩, cs₅⟩, hrest, h⟩ := bind_eq_ok_iff.mp h
        cases h
        exact closes_of_nextMember hnext hname hcolon (takes_kept _ _ _ _ hkept) (ih hrest)

theorem takes_read : Takes StorageConfig.read := by
  intro cs c rest h
  unfold StorageConfig.read at h
  split at h
  · next text hcs =>
    obtain ⟨⟨⟨kind?, ms⟩, rest'⟩, hmembers, h⟩ := bind_eq_ok_iff.mp h
    have hcloses := closes_of_readMembers hmembers
    dsimp only at h
    split at h
    · cases h
    · obtain ⟨c', -, heq⟩ := map_eq_ok_iff.mp h
      cases heq
      exact Passes.of_skipBlank (hcs ▸ hcloses.passes_object)
  · next text hcs =>
    obtain ⟨o, hnext, h⟩ := bind_eq_ok_iff.mp h
    cases o with
    | none => cases h
    | some text' =>
      obtain ⟨⟨k, cs₁⟩, hkind, h⟩ := bind_eq_ok_iff.mp h
      obtain ⟨⟨fs, cs₂⟩, helements, h⟩ := bind_eq_ok_iff.mp h
      obtain ⟨c', -, heq⟩ := map_eq_ok_iff.mp h
      cases heq
      have hrest := closes_of_elements (takes_kept _) helements
      have hcloses := closes_of_nextElement hnext (takes_readKind _ _ _ hkind) hrest
      exact Passes.of_skipBlank (hcs ▸ hcloses.passes_list)
  · exact (wrongType_ne_ok _ _ _ h).elim

end StorageConfig

theorem Retry.Policy.allTake : Retry.Policy.shape.members.AllTake :=
  ⟨(takes_integerIn _ _ _).map _, (takes_integerIn _ _ _).map _, (takes_integerIn _ _ _).map _, takes_float,
    takes_boolean, trivial⟩

theorem Breaker.Settings.allTake : Breaker.Settings.shape.members.AllTake :=
  ⟨takes_stringAs _, (takes_integerIn _ _ _).map _, (takes_integerIn _ _ _).map _, trivial⟩

theorem MonitorConfig.allTake : MonitorConfig.shape.members.AllTake :=
  ⟨(takes_integerIn _ _ _).map _, (takes_integerIn _ _ _).map _, (takes_integerIn _ _ _).map _,
    (takes_stringAs _).optional, (takes_integerIn _ _ _).map _, Shape.takes_read Retry.Policy.allTake (by decide),
    Shape.takes_read Breaker.Settings.allTake (by decide), trivial⟩

theorem ApiConfig.allTake : ApiConfig.shape.members.AllTake := ⟨(takes_stringAs _).check _, trivial⟩

theorem MetricsConfig.allTake : MetricsConfig.shape.members.AllTake :=
  ⟨(takes_integerIn _ _ _).map _, (takes_integerIn _ _ _).map _, takes_boolean, takes_boolean, trivial⟩

theorem Config.allTake : Config.shape.members.AllTake :=
  ⟨Shape.takes_read MonitorConfig.allTake (by decide), StorageConfig.takes_read,
    Shape.takes_read ApiConfig.allTake (by decide), Shape.takes_read MetricsConfig.allTake (by decide), trivial⟩

/-! ### The settings -/

namespace MonitorConfig

/-- A setting of the monitor's retries or breakers. -/
inductive Setting where
  | maxAttempts
  | initial
  | cap
  | multiplier
  | jitter
  | name
  | maxFailures
  | resetInterval
  deriving DecidableEq, Repr

namespace Setting

def Value : Setting → Type
  | maxAttempts | maxFailures => UInt32
  | initial | cap | resetInterval => Nat
  | multiplier => Float
  | jitter => Bool
  | name => String

/-- What a policy and settings of breakers have for it. -/
def of (p : Retry.Policy Float) (b : Breaker.Settings) : (s : Setting) → s.Value
  | maxAttempts => p.maxAttempts
  | initial => p.initial
  | cap => p.cap
  | multiplier => p.multiplier
  | jitter => p.jitter
  | name => b.name
  | maxFailures => b.maxFailures
  | resetInterval => b.resetInterval

/-- What the monitor has for it. -/
def get (m : MonitorConfig) (s : Setting) : s.Value := s.of m.retry m.breaker

/-- What it is where its section stands on its own. -/
def own (s : Setting) : s.Value := s.of .standard .standard

/-- How its value is written. -/
def reader : (s : Setting) → Reader s.Value
  | maxAttempts | maxFailures => uint32
  | initial | cap => milliseconds
  | resetInterval => seconds
  | multiplier => float
  | jitter => boolean
  | name => string

/-- Where it stands in its section. -/
def key : Setting → Key
  | maxAttempts => ⟨"max_attempts", 0⟩
  | initial => ⟨"initial_delay_ms", 1⟩
  | cap => ⟨"max_delay_ms", 2⟩
  | multiplier => ⟨"multiplier", 3⟩
  | jitter => ⟨"jitter", 4⟩
  | name => ⟨"name", 0⟩
  | maxFailures => ⟨"max_failures", 1⟩
  | resetInterval => ⟨"reset_interval_secs", 2⟩

/-- Where its section stands in that of the monitor. -/
def group : Setting → Key
  | maxAttempts | initial | cap | multiplier | jitter => ⟨"retry", 5⟩
  | name | maxFailures | resetInterval => ⟨"breaker", 6⟩

/-- The way to its section. -/
def enclosing (s : Setting) : List Key := [⟨"monitor", 0⟩, s.group]

/-- The way to its value. -/
def path (s : Setting) : List Key := s.enclosing ++ [s.key]

/-- A setting for which the monitor's standard is not the one of its section. -/
def Differs (s : Setting) : Prop := s = cap ∨ s = name

theorem own_eq_iff (s : Setting) : s.own = s.get .standard ↔ ¬s.Differs := by
  cases s with
  | cap => exact iff_of_false (show ¬(10_000_000_000 : Nat) = 2_000_000_000 by decide) (not_not.mpr (.inl rfl))
  | name => exact iff_of_false (show ¬"default" = "endpoint" by decide) (not_not.mpr (.inr rfl))
  | _ => exact iff_of_true rfl (by simp [Differs])

/-- What a setting is once its section has been looked for. -/
def Told (s : Setting) : Option (List Char) → s.Value → Prop
  | some text, v => (Member.orElse s.key.name s.reader s.own).Tells (s.key.text? text) v
  | none, v => v = s.get .standard

variable {s : Setting} {text? : Option (List Char)} {text rest : List Char}

theorem Told.exists_read {v : s.Value} {t : List Char} (h : s.Told (some text) v) (ht : s.key.text? text = some t) :
    ∃ rest, s.reader t = .ok (v, rest) := by
  rw [Told, ht] at h
  exact h

theorem Told.eq_own {v : s.Value} (h : s.Told (some text) v) (hnone : s.key.text? text = none) : v = s.own := by
  rw [Told, hnone] at h
  exact h.eq_standard rfl

theorem told_of_retry {p : Retry.Policy Float}
    (h : (Member.orElse "retry" Retry.Policy.shape.read MonitorConfig.standard.retry).Tells text? p)
    (b : Breaker.Settings) (hs : s.group = ⟨"retry", 5⟩) : s.Told text? (s.of p b) := by
  cases text? with
  | none =>
    cases h.eq_standard rfl
    cases s with
    | name | maxFailures | resetInterval => exact absurd (congrArg Key.name hs) (by decide)
    | _ => rfl
  | some text =>
    obtain ⟨rest, hread⟩ := h
    obtain ⟨-, vs, rfl, h₁, h₂, h₃, h₄, h₅, -⟩ := Shape.read_tells Retry.Policy.allTake (by decide) hread
    cases s with
    | maxAttempts => exact h₁
    | initial => exact h₂
    | cap => exact h₃
    | multiplier => exact h₄
    | jitter => exact h₅
    | _ => exact absurd (congrArg Key.name hs) (by decide)

theorem told_of_breaker {b : Breaker.Settings}
    (h : (Member.orElse "breaker" Breaker.Settings.shape.read MonitorConfig.standard.breaker).Tells text? b)
    (p : Retry.Policy Float) (hs : s.group = ⟨"breaker", 6⟩) : s.Told text? (s.of p b) := by
  cases text? with
  | none =>
    cases h.eq_standard rfl
    cases s with
    | name | maxFailures | resetInterval => rfl
    | _ => exact absurd (congrArg Key.name hs) (by decide)
  | some text =>
    obtain ⟨rest, hread⟩ := h
    obtain ⟨-, vs, rfl, h₁, h₂, h₃, -⟩ := Shape.read_tells Breaker.Settings.allTake (by decide) hread
    cases s with
    | name => exact h₁
    | maxFailures => exact h₂
    | resetInterval => exact h₃
    | _ => exact absurd (congrArg Key.name hs) (by decide)

theorem told_of_section {m : MonitorConfig} (h : MonitorConfig.shape.read text = .ok (m, rest)) (s : Setting) :
    s.Told (s.group.text? text) (s.get m) := by
  obtain ⟨-, vs, rfl, -, -, -, -, -, hretry, hbreaker, -⟩ := Shape.read_tells MonitorConfig.allTake (by decide) h
  have hs : s.group = ⟨"retry", 5⟩ ∨ s.group = ⟨"breaker", 6⟩ := by
    cases s with
    | name | maxFailures | resetInterval => exact .inr rfl
    | _ => exact .inl rfl
  rcases hs with hs | hs
  · exact told_of_retry (hs ▸ hretry) _ hs
  · exact told_of_breaker (hs ▸ hbreaker) _ hs

theorem told_of_read {c : Config} (h : Config.read text = .ok c) (s : Setting) :
    s.Told (textAt? s.enclosing text) (s.get c.monitor) := by
  obtain ⟨rest, hread⟩ := document_eq_ok h
  obtain ⟨-, vs, rfl, hmonitor, -⟩ := Shape.read_tells Config.allTake (by decide) hread
  rw [show s.enclosing = [⟨"monitor", 0⟩] ++ [s.group] from rfl, textAt?_concat]
  replace hmonitor : (Member.orElse "monitor" MonitorConfig.shape.read .standard).Tells
    (Key.text? ⟨"monitor", 0⟩ text) vs.1 := hmonitor
  show s.Told (((Key.text? ⟨"monitor", 0⟩ text).bind some).bind s.group.text?) (s.get vs.1)
  rw [Option.bind_fun_some]
  cases htext : Key.text? ⟨"monitor", 0⟩ text with
  | none =>
    rw [htext] at hmonitor
    exact congrArg s.get (hmonitor.eq_standard rfl)
  | some t =>
    rw [htext] at hmonitor
    obtain ⟨rest', hsection⟩ := hmonitor
    exact told_of_section hsection s

end Setting

end MonitorConfig

/-! ### Loading -/

namespace Config

open MonitorConfig

/-- An override that leaves the retries and the breakers as they are. -/
def Override.Spares (o : Override) : Prop :=
  ∀ value c c', o.apply value c = .ok c' → c'.monitor.retry = c.monitor.retry ∧ c'.monitor.breaker = c.monitor.breaker

theorem spares_numberOverride (name : String) {set : UInt64 → Config → Config}
    (h : ∀ n c, (set n c).monitor.retry = c.monitor.retry ∧ (set n c).monitor.breaker = c.monitor.breaker) :
    (numberOverride name set).Spares := by
  intro value c c' hc
  unfold numberOverride at hc
  dsimp only at hc
  split at hc
  · cases hc; exact h _ c
  · cases hc

theorem spares_of_mem : ∀ o ∈ overrides, o.Spares := by
  simp only [overrides, List.forall_mem_cons]
  refine ⟨?_, ?_, ?_, ?_, ?_, nofun⟩
  · intro value c c' hc
    cases hc
    exact ⟨rfl, rfl⟩
  · intro value c c' hc
    cases hc
    exact ⟨rfl, rfl⟩
  · intro value c c' hc
    dsimp only at hc
    split at hc
    · cases hc; exact ⟨rfl, rfl⟩
    · cases hc
  · exact spares_numberOverride _ fun n c => ⟨rfl, rfl⟩
  · exact spares_numberOverride _ fun n c => ⟨rfl, rfl⟩

theorem applyOverrides_spares (vars : EnvFile.Variables) {os : List Override} (h : ∀ o ∈ os, o.Spares) (c : Config) :
    (applyOverrides vars os c).1.monitor.retry = c.monitor.retry ∧
      (applyOverrides vars os c).1.monitor.breaker = c.monitor.breaker := by
  induction os generalizing c with
  | nil => exact ⟨rfl, rfl⟩
  | cons o os ih =>
    obtain ⟨ho, hos⟩ := List.forall_mem_cons.mp h
    unfold applyOverrides
    split
    · exact ih hos c
    · split
      · next c' happly =>
        obtain ⟨hretry, hbreaker⟩ := ho _ _ _ happly
        obtain ⟨hretry', hbreaker'⟩ := ih hos c'
        exact ⟨hretry'.trans hretry, hbreaker'.trans hbreaker⟩
      · exact ⟨rfl, rfl⟩

/-- The configuration can be loaded from a file with this text, with some variables. -/
def IsLoaded (text : String) (c : Config) : Prop :=
  ∃ vars envFile path, load vars envFile (some (path, some text)) = .ok c

theorem told_of_load {text : String} {c : Config} (h : IsLoaded text c) (s : Setting) :
    s.Told (textAt? s.enclosing text.toList) (s.get c.monitor) := by
  obtain ⟨vars, envFile, path, h⟩ := h
  obtain ⟨c₀, hfile, h⟩ := bind_eq_ok_iff.mp h
  -- the variables touch neither section, so what the text left behind still stands
  have hread : Config.read text.toList = .ok c₀ := by
    replace hfile : (Config.read text.toList).mapError LoadFault.invalid = .ok c₀ := hfile
    cases hread : Config.read text.toList with
    | ok c₁ => rw [hread] at hfile; cases hfile; rfl
    | error e => rw [hread] at hfile; cases hfile
  have hspares := applyOverrides_spares (envFile.elim vars (EnvFile.loadText vars)) spares_of_mem c₀
  split at h
  · next c₁ happly =>
    cases h
    rw [happly] at hspares
    have hget : s.get c.monitor = s.get c₀.monitor := by rw [Setting.get, hspares.1, hspares.2]; rfl
    rw [hget]
    exact Setting.told_of_read hread s
  · cases h

/-- A setting that is left out is the standard one of its section, if the section is there, or else of the monitor. -/
theorem get_of_not_mentions {text : String} {c : Config} (h : IsLoaded text c) {s : Setting}
    (hs : ¬Mentions text.toList s.path) :
    s.get c.monitor = if Mentions text.toList s.enclosing then s.own else s.get .standard := by
  have htold := told_of_load h s
  rw [Mentions, Setting.path, textAt?_concat] at hs
  cases htext : textAt? s.enclosing text.toList with
  | none =>
    have hout : ¬Mentions text.toList s.enclosing := by rw [Mentions, htext]; exact Bool.false_ne_true
    rw [if_neg hout]
    rw [htext] at htold
    exact htold
  | some t =>
    have hin : Mentions text.toList s.enclosing := by rw [Mentions, htext]; rfl
    rw [if_pos hin]
    rw [htext] at htold hs
    exact htold.eq_own (Option.not_isSome_iff_eq_none.mp hs)

/-- Settings that the text leaves out are the monitor's standard ones, so that none of them hangs on which others are
given. -/
structure KeepsStandards (text : String) (c : Config) : Prop where
  kept : ∀ s, ¬Mentions text.toList (Setting.path s) → s.get c.monitor = s.get Config.standard.monitor
  unmoved : ∀ text' c', IsLoaded text' c' → ∀ s, ¬Mentions text.toList (Setting.path s) →
    ¬Mentions text'.toList s.path → s.get c.monitor = s.get c'.monitor

/-- What a configuration that was loaded from a text has for the settings of retries and breakers. -/
structure FillsIn (text : String) (c : Config) : Prop where
  /-- A setting that is mentioned is what the text says. -/
  told : ∀ s t, textAt? (Setting.path s) text.toList = some t → ∃ rest, s.reader t = .ok (s.get c.monitor, rest)
  /-- A setting that its section leaves out is the standard one of the section on its own. -/
  own : ∀ s, Mentions text.toList (Setting.enclosing s) → ¬Mentions text.toList s.path → s.get c.monitor = s.own
  /-- One that is left out is the monitor's standard unless that is another one and the section is there. -/
  kept_iff : ∀ s, ¬Mentions text.toList (Setting.path s) →
    (s.get c.monitor = s.get Config.standard.monitor ↔ (s.Differs → ¬Mentions text.toList s.enclosing))
  /-- One that two texts leave out is the same for both unless it is such a setting and only one text has its section. -/
  unmoved_iff : ∀ text' c', IsLoaded text' c' → ∀ s, ¬Mentions text.toList (Setting.path s) →
    ¬Mentions text'.toList s.path → (s.get c.monitor = s.get c'.monitor ↔
      (s.Differs → (Mentions text.toList s.enclosing ↔ Mentions text'.toList s.enclosing)))

/-- In every configuration that was loaded, the settings are filled in by the text, by their section or by the monitor. -/
theorem fillsIn_of_load {text : String} {c : Config} (h : IsLoaded text c) : FillsIn text c where
  told s t ht := by
    have htold := told_of_load h s
    rw [Setting.path, textAt?_concat] at ht
    obtain ⟨u, hu, hkey⟩ := Option.bind_eq_some_iff.mp ht
    rw [hu] at htold
    exact htold.exists_read hkey
  own s hin hs := (get_of_not_mentions h hs).trans (if_pos hin)
  kept_iff s hs := by
    rw [get_of_not_mentions h hs]
    split
    · next hin =>
      rw [show Config.standard.monitor = .standard from rfl, Setting.own_eq_iff]
      exact ⟨fun hd hd' => absurd hd' hd, fun hd hd' => hd hd' hin⟩
    · next hout => exact iff_of_true rfl fun _ => hout
  unmoved_iff text' c' h' s hs hs' := by
    rw [get_of_not_mentions h hs, get_of_not_mentions h' hs']
    split <;> split
    · next hin hin' => exact iff_of_true rfl fun _ => iff_of_true hin hin'
    · next hin hout' =>
      rw [Setting.own_eq_iff]
      exact ⟨fun hd hd' => absurd hd' hd, fun hd hd' => hout' ((hd hd').mp hin)⟩
    · next hout hin' =>
      rw [eq_comm, Setting.own_eq_iff]
      exact ⟨fun hd hd' => absurd hd' hd, fun hd hd' => hout ((hd hd').mpr hin')⟩
    · next hout hout' => exact iff_of_true rfl fun _ => iff_of_false hout hout'

theorem exists_isLoaded (text : String) (h : (load (fun _ => none) none (some ("", some text))).toOption.isSome) :
    ∃ c, IsLoaded text c := by
  cases hload : load (fun _ => none) none (some ("", some text)) with
  | ok c => exact ⟨c, _, _, _, hload⟩
  | error e => rw [hload] at h; cases h

/-- Retries as a list that ends early, and breakers that only have a name. -/
theorem fillsIn_of_short_sections :
    let text : String := .ofList (writeObject [("monitor", writeObject [("retry", '[' :: (Text.ofNat 5 ++ [']'])),
      ("breaker", writeObject [("name", writeString "ep")])])])
    ∃ c, IsLoaded text c ∧ FillsIn text c ∧ c.monitor.retry.cap = 10_000_000_000 ∧
      c.monitor.breaker.maxFailures = 5 := by
  intro text
  obtain ⟨c, hc⟩ := exists_isLoaded text (by decide +kernel)
  have hfill := fillsIn_of_load hc
  refine ⟨c, hc, hfill, ?_, ?_⟩
  · exact hfill.own .cap (by decide +kernel) (by decide +kernel)
  · exact hfill.own .maxFailures (by decide +kernel) (by decide +kernel)

/-- To set the number of attempts raises the cap of the waits, and to set that of failures renames the breakers. -/
theorem not_keepsStandards_of_short_sections :
    let text : String := .ofList (writeObject [("monitor", writeObject [
      ("retry", writeObject [("max_attempts", Text.ofNat 5)]),
      ("breaker", writeObject [("max_failures", Text.ofNat 3)])])])
    ∃ c, IsLoaded text c ∧
      (c.monitor.retry.cap = 10_000_000_000 ∧ Config.standard.monitor.retry.cap = 2_000_000_000) ∧
      (c.monitor.breaker.name = "default" ∧ Config.standard.monitor.breaker.name = "endpoint") ∧
      ¬KeepsStandards text c := by
  intro text
  obtain ⟨c, hc⟩ := exists_isLoaded text (by decide +kernel)
  have hcap : ¬Mentions text.toList (Setting.path .cap) := by decide +kernel
  have hname : ¬Mentions text.toList (Setting.path .name) := by decide +kernel
  have hcap' := (get_of_not_mentions hc hcap).trans (if_pos (by decide +kernel))
  have hname' := (get_of_not_mentions hc hname).trans (if_pos (by decide +kernel))
  refine ⟨c, hc, ⟨hcap', rfl⟩, ⟨hname', rfl⟩, fun h => ?_⟩
  have hkept := (h.kept .cap hcap).symm.trans hcap'
  exact absurd hkept (show ¬(2_000_000_000 : Nat) = 10_000_000_000 by decide)

end Config

end EndpointWatch
