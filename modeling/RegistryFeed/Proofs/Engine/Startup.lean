import RegistryFeed.Proofs.Engine.Transitions
import RegistryFeed.Proofs.Time.Overflow

/-!
# Starting on settings that are valid

Validation bounds the number of sessions from below only and does not read the spans.
What is valid can therefore still end the program: by more sessions than there can be
slots, or by a span that does not fit, and by nothing else. A start that comes to an
answer leaves the engine running or failed.
-/

namespace RegistryFeed

/-- Every member of the settings of a session can be had. -/
theorem StreamSettings.exists_session_iff {s : StreamSettings} :
    (∃ session, s.session = .ok session) ↔
      ¬ SpanText.Overflows s.idleTimeout ∧ ¬ SpanText.Overflows s.pollInterval := by
  rw [← SpanText.exists_readOr_iff (.ofSeconds 30),
    ← SpanText.exists_readOr_iff (.ofSeconds 1)]
  constructor
  · rintro ⟨session, derived⟩
    obtain ⟨idle, hidle, derived⟩ := bind_eq_ok_iff.mp derived
    obtain ⟨poll, hpoll, -⟩ := bind_eq_ok_iff.mp derived
    exact ⟨⟨idle, hidle⟩, poll, hpoll⟩
  · rintro ⟨⟨idle, hidle⟩, poll, hpoll⟩
    exact ⟨_, bind_eq_ok_iff.mpr ⟨idle, hidle, bind_eq_ok_iff.mpr ⟨poll, hpoll, rfl⟩⟩⟩

theorem PublicationSettings.exists_generation_iff {s : PublicationSettings} :
    (∃ generation, s.generation = .ok generation) ↔ ¬ SpanText.Overflows s.lock.waitTimeout := by
  rw [← SpanText.exists_readOr_iff (.ofSeconds 30)]
  constructor
  · rintro ⟨generation, derived⟩
    obtain ⟨wait, hwait, -⟩ := bind_eq_ok_iff.mp derived
    exact ⟨wait, hwait⟩
  · rintro ⟨wait, hwait⟩
    exact ⟨_, bind_eq_ok_iff.mpr ⟨wait, hwait, rfl⟩⟩

theorem Slots.exists_create_iff {capacity : Nat} :
    (∃ slots, Slots.create capacity = .ok slots) ↔ capacity ≤ maxCapacity := by
  rw [Slots.create]
  split
  · next many => simp [Nat.not_le.mpr many]
  · next few => simp [Nat.not_lt.mp few]

/-- The server can be made, once it has its address. -/
structure StreamSettings.Fits (s : StreamSettings) : Prop where
  idle : ¬ SpanText.Overflows s.idleTimeout
  poll : ¬ SpanText.Overflows s.pollInterval
  sessions : s.maxSessions ≤ Slots.maxCapacity

namespace Engine

variable {settings : Settings}

/-- The address is there, if one is needed. -/
def Reachable (settings : Settings) : Prop :=
  settings.streaming.enabled = true →
    ∃ address, Host.bind settings.streaming.bindAddress = .ok address

/-- What a start takes from the settings fits, behind the address at which it may give up. -/
structure Fits (settings : Settings) : Prop where
  server : settings.streaming.enabled = true → settings.streaming.Fits
  publishers : settings.publication.enabled = true →
    ¬ SpanText.Overflows settings.publication.lock.waitTimeout

theorem exists_openServer_iff :
    (∃ outcome, openServer settings = .ok outcome) ↔
      (Reachable settings → settings.streaming.enabled = true → settings.streaming.Fits) := by
  rw [openServer, Reachable]
  cases settings.streaming.enabled with
  | false => simp
  | true =>
    cases Host.bind settings.streaming.bindAddress with
    | error error => simp
    | ok address =>
      simp only [Bool.not_true, Bool.false_eq_true, if_false]
      constructor
      · rintro ⟨outcome, opened⟩ - -
        obtain ⟨session, derived, opened⟩ := bind_eq_ok_iff.mp opened
        obtain ⟨slots, created, -⟩ := bind_eq_ok_iff.mp opened
        obtain ⟨idle, poll⟩ := StreamSettings.exists_session_iff.mp ⟨session, derived⟩
        have few := Slots.exists_create_iff.mp ⟨slots, created⟩
        exact ⟨idle, poll, by omega⟩
      · intro fits
        obtain ⟨idle, poll, sessions⟩ := fits (fun _ => ⟨address, rfl⟩) trivial
        obtain ⟨session, derived⟩ := StreamSettings.exists_session_iff.mpr ⟨idle, poll⟩
        have few : max settings.streaming.maxSessions 1 ≤ Slots.maxCapacity :=
          Nat.max_le.mpr ⟨sessions, by decide⟩
        obtain ⟨slots, created⟩ := Slots.exists_create_iff.mpr few
        exact ⟨_, bind_eq_ok_iff.mpr ⟨session, derived, bind_eq_ok_iff.mpr ⟨slots, created, rfl⟩⟩⟩

/-- The server fails for want of its address only. -/
theorem reachable_iff_of_openServer {outcome : Except EngineError (Option Server)}
    (opened : openServer settings = .ok outcome) :
    Reachable settings ↔ ∃ server, outcome = .ok server := by
  rw [openServer] at opened
  rw [Reachable]
  cases enabled : settings.streaming.enabled with
  | false =>
    simp only [enabled, Bool.not_false, if_true] at opened
    cases opened
    simp
  | true =>
    simp only [enabled, Bool.not_true, Bool.false_eq_true, if_false] at opened
    cases bound : Host.bind settings.streaming.bindAddress with
    | error error =>
      rw [bound] at opened
      cases opened
      simp
    | ok address =>
      rw [bound] at opened
      obtain ⟨session, -, opened⟩ := bind_eq_ok_iff.mp opened
      obtain ⟨slots, -, opened⟩ := bind_eq_ok_iff.mp opened
      cases opened
      simp

theorem exists_spawnPublishers_iff :
    (∃ publishers, spawnPublishers settings = .ok publishers) ↔
      (settings.publication.enabled = true →
        ¬ SpanText.Overflows settings.publication.lock.waitTimeout) := by
  rw [spawnPublishers, ← PublicationSettings.exists_generation_iff]
  cases settings.publication.enabled with
  | false => simp
  | true =>
    constructor
    · rintro ⟨publishers, spawned⟩ -
      obtain ⟨generation, derived, -⟩ := bind_eq_ok_iff.mp spawned
      exact ⟨generation, derived⟩
    · intro fits
      obtain ⟨generation, derived⟩ := fits rfl
      exact ⟨_, bind_eq_ok_iff.mpr ⟨generation, derived, rfl⟩⟩

/-- A start on valid settings answers exactly if what it takes from them fits. -/
theorem exists_start_iff (valid : settings.validate = .ok ()) {host : Host} :
    (∃ answer, (create settings).start host = .ok answer) ↔
      ((∃ host', host.openStore settings.store = .ok host') → Reachable settings →
        Fits settings) := by
  constructor
  · rintro ⟨⟨result, e', host'⟩, started⟩ ⟨left, store⟩ reachable
    cases start_eq_ok_iff.mp started with
    | refused begun => exact absurd rfl begun
    | invalid _ rejected => cases valid.symm.trans rejected
    | unopened _ _ unopened => cases store.symm.trans unopened
    | unbound _ _ _ unbound =>
      obtain ⟨server, same⟩ := (reachable_iff_of_openServer unbound).mp reachable
      cases same
    | running _ _ _ bound spawned =>
      exact ⟨exists_openServer_iff.mp ⟨_, bound⟩ reachable,
        exists_spawnPublishers_iff.mp ⟨_, spawned⟩⟩
  · intro fits
    cases store : host.openStore settings.store with
    | error error =>
      have starts := Starts.unopened (e := create settings) rfl valid store
      exact ⟨_, start_eq_ok_iff.mpr starts⟩
    | ok host' =>
      have opens := fits ⟨host', store⟩
      obtain ⟨outcome, opened⟩ :=
        exists_openServer_iff.mpr fun reachable => (opens reachable).server
      cases outcome with
      | error error =>
        have starts := Starts.unbound (e := create settings) rfl valid store opened
        exact ⟨_, start_eq_ok_iff.mpr starts⟩
      | ok server =>
        have reachable := (reachable_iff_of_openServer opened).mpr ⟨server, rfl⟩
        obtain ⟨publishers, spawned⟩ := exists_spawnPublishers_iff.mpr (opens reachable).publishers
        have starts := Starts.running (e := create settings) rfl valid store opened spawned
        exact ⟨_, start_eq_ok_iff.mpr starts⟩

/-- Valid settings are no promise of a start. Those of a session and of a generator are derived
exactly if their spans fit, a start answers exactly if what it takes from the settings fits, and
then the engine is running or failed. -/
theorem start_of_valid {settings : Settings} (valid : settings.validate = .ok ()) (host : Host) :
    ((∃ session, settings.streaming.session = .ok session) ↔
      ¬ SpanText.Overflows settings.streaming.idleTimeout ∧
        ¬ SpanText.Overflows settings.streaming.pollInterval) ∧
    ((∃ generation, settings.publication.generation = .ok generation) ↔
      ¬ SpanText.Overflows settings.publication.lock.waitTimeout) ∧
    ((∃ answer, (create settings).start host = .ok answer) ↔
      ((∃ host', host.openStore settings.store = .ok host') → Reachable settings →
        Fits settings)) ∧
    ∀ result e' host', (create settings).start host = .ok (result, e', host') →
      (result = .ok () ∧ e'.state = .running) ∨
        ∃ error, result = .error error ∧ e'.state = .failed := by
  refine ⟨StreamSettings.exists_session_iff, PublicationSettings.exists_generation_iff,
    exists_start_iff valid, ?_⟩
  intro result e' host' started
  cases start_eq_ok_iff.mp started with
  | refused begun => exact absurd rfl begun
  | invalid _ rejected => cases valid.symm.trans rejected
  | unopened | unbound => exact .inr ⟨_, rfl, rfl⟩
  | running => exact .inl ⟨rfl, rfl⟩

/-- An engine with as many sessions as there can be slots does start, and runs. -/
theorem start_of_maxCapacity :
    let settings := { Settings.small "RIPE" with
      streaming := { (Settings.small "RIPE").streaming with maxSessions := Slots.maxCapacity } }
    settings.validate = .ok () ∧ ∃ result e' host',
      (create settings).start (.create ⟨.empty, none, none, .zero, 0, 0⟩ "t") =
          .ok (result, e', host') ∧
        (e'.state = .running ∨ e'.state = .failed) := by
  intro settings
  have valid : settings.validate = .ok () := by decide
  obtain ⟨-, -, answers, ends⟩ := start_of_valid valid
    (.create ⟨.empty, none, none, .zero, 0, 0⟩ "t")
  have fits : Fits settings := by
    refine ⟨fun _ => ⟨?_, ?_, Nat.le_refl _⟩, fun _ => ?_⟩
    all_goals
      rw [← SpanText.read_eq_overflow_iff]
      decide
  obtain ⟨⟨result, e', host'⟩, started⟩ := answers.mpr fun _ _ => fits
  refine ⟨valid, result, e', host', started, ?_⟩
  exact (ends result e' host' started).imp And.right fun ⟨_, _, failed⟩ => failed

/-- More sessions than there can be slots are valid and end the program, as do two items that
complete a second behind the last one. -/
theorem fatal_of_valid :
    let streaming := (Settings.small "RIPE").streaming
    let many := { Settings.small "RIPE" with
      streaming := { streaming with maxSessions := Text.maxNat64 } }
    let long := { Settings.small "RIPE" with
      streaming := { streaming with idleTimeout := "18446744073709551615s 1000000000ns" } }
    (many.validate = .ok () ∧
      (create many).start (.create ⟨.empty, none, none, .zero, 0, 0⟩ "t") =
        .error .tooManySlots) ∧
    long.validate = .ok () ∧ long.streaming.session = .error .spanOverflow := by
  intro streaming many long
  have refused : (match (create many).start (.create ⟨.empty, none, none, .zero, 0, 0⟩ "t") with
      | .error fatal => some fatal
      | .ok _ => none) = some .tooManySlots := by
    decide +kernel
  refine ⟨⟨by decide, ?_⟩, by decide, by decide⟩
  split at refused
  · next fatal started =>
    rw [started, Option.some.inj refused]
  · cases refused

end Engine

end RegistryFeed
