import RegistryFeed.Engine.Life
import RegistryFeed.Proofs.Engine.Transitions

/-!
# The order of an engine's life

Whatever is asked of an engine and in whichever order, it is in one of four states
after every call, its parts agree with the state, and at most one start has
succeeded. Nothing is assumed about the settings, nor about what publishers, server
and host do between the calls; a call that panics ends the life of the engine and
is not looked at.
-/

namespace RegistryFeed

namespace LiveEngine

variable {s s' : LiveEngine} {settings : Settings}

/-- How many starts have succeeded. -/
def starts (s : LiveEngine) : Nat := s.answers.countP (·.isStart)

/-- What holds at every moment of the life of an engine with some settings. -/
structure Orderly (settings : Settings) (s : LiveEngine) : Prop where
  settings : s.engine.settings = settings
  engine : s.engine.Orderly
  once : s.starts ≤ 1
  fresh : s.engine.state = .created → s.starts = 0

theorem starts_concat (s : LiveEngine) (e : Engine) (host : Host) (a : EngineAnswer) :
    (⟨e, host, s.answers ++ [a]⟩ : LiveEngine).starts = s.starts + if a.isStart then 1 else 0 := by
  rw [starts, List.countP_append, List.countP_singleton]
  rfl

namespace Orderly

/-- A change that leaves the state as it is and answers no start. -/
theorem of_same (h : s.Orderly settings) (engine : s'.engine.Orderly)
    (same : s'.engine.settings = s.engine.settings) (state : s'.engine.state = s.engine.state)
    (starts : s'.starts = s.starts) : s'.Orderly settings := by
  refine ⟨same.trans h.settings, engine, starts ▸ h.once, ?_⟩
  rw [state, starts]
  exact h.fresh

theorem setTask (h : s.Orderly settings) {task : Nat} {t t' : PublisherTask}
    (here : s.engine.publishers[task]? = some t)
    (same : t'.publisher.source = t.publisher.source) : (s.setTask task t').Orderly settings := by
  obtain ⟨bound, here⟩ := List.getElem?_eq_some_iff.mp here
  have sources : (s.engine.publishers.set task t').map (·.publisher.source) =
      s.engine.publishers.map (·.publisher.source) := by
    have inside : task < (s.engine.publishers.map (·.publisher.source)).length := by
      rwa [List.length_map]
    have kept : t'.publisher.source = (s.engine.publishers.map (·.publisher.source))[task] := by
      rw [List.getElem_map, here, same]
    rw [List.map_set, kept, List.set_getElem_self]
  exact h.of_same (h.engine.of_same rfl rfl rfl rfl sources) rfl rfl rfl

theorem start (h : s.Orderly settings) {result : Except EngineError Unit} {e : Engine} {host : Host}
    (starts : s.engine.Starts s.host result e host) :
    (⟨e, host, s.answers ++ [.started result]⟩ : LiveEngine).Orderly settings := by
  have counted := s.starts_concat e host (.started result)
  have orderly := h.engine.of_starts starts
  cases starts with
  | refused | invalid => exact h.of_same orderly rfl rfl counted
  | unopened | unbound =>
    refine ⟨h.settings, orderly, ?_, by rintro ⟨⟩⟩
    rw [counted]
    exact h.once
  | running fresh =>
    refine ⟨h.settings, orderly, ?_, by rintro ⟨⟩⟩
    rw [counted, h.fresh fresh]
    exact Nat.le_refl 1

theorem call (h : s.Orderly settings) {c : EngineCall} (done : s.call c = .ok s') :
    s'.Orderly settings := by
  cases c with
  | start =>
    obtain ⟨⟨result, e, host⟩, started, told⟩ := bind_eq_ok_iff.mp done
    obtain rfl := Except.ok.inj told
    exact h.start (Engine.start_eq_ok_iff.mp started)
  | publishSnapshot source =>
    obtain ⟨⟨result, e, host⟩, published, told⟩ := bind_eq_ok_iff.mp done
    obtain rfl := Except.ok.inj told
    have counted := s.starts_concat e host (.published result)
    rcases Engine.publishSnapshot_cases published with same | ⟨made, taken⟩
    · cases same
      exact h.of_same h.engine rfl rfl counted
    · have orderly := h.engine.published source s.host made
      obtain ⟨settings, state⟩ := s.engine.published_same source s.host made
      rw [← taken] at orderly settings state
      exact h.of_same orderly settings state counted
  | health =>
    cases done
    exact h.of_same h.engine rfl rfl (s.starts_concat ..)
  | shutdown =>
    cases done
    refine ⟨h.settings, h.engine.shutdown s.host, ?_, by rintro ⟨⟩⟩
    exact Nat.le_trans (Nat.le_of_eq (s.starts_concat ..)) h.once

theorem step (h : s.Orderly settings) {e : Event} (done : s.step e = .ok s') :
    s'.Orderly settings := by
  cases e with
  | call c => exact h.call done
  | publisher task =>
    cases here : s.engine.publishers[task]? with
    | none =>
      simp only [LiveEngine.step, here] at done
      cases done
      exact h
    | some t =>
      rcases advanced : t.advance s.host.session s.host.site with ⟨t', site⟩
      simp only [LiveEngine.step, here, advanced] at done
      cases done
      have kept := t.advance_source s.host.session s.host.site
      rw [advanced] at kept
      have moved := h.setTask here kept
      exact moved.of_same moved.engine rfl rfl rfl
  | timer task =>
    cases here : s.engine.publishers[task]? with
    | none =>
      simp only [LiveEngine.step, here] at done
      cases done
      exact h
    | some t =>
      simp only [LiveEngine.step, here] at done
      cases done
      exact h.setTask here rfl
  | server now e =>
    cases done
    refine h.of_same (h.engine.of_same rfl rfl rfl ?_ rfl) rfl rfl rfl
    simp [Engine.listening]
  | host host =>
    cases done
    exact h.of_same h.engine rfl rfl rfl

theorem run (h : s.Orderly settings) {es : List Event} (ran : s.run es = .ok s') :
    s'.Orderly settings := by
  induction es generalizing s with
  | nil =>
    cases ran
    exact h
  | cons e es ih =>
    obtain ⟨next, done, ran⟩ := bind_eq_ok_iff.mp ran
    exact ih (h.step done) ran

end Orderly

/-- After any calls an engine is in one of four states. Its store is open exactly while it runs, its
server waits exactly while it runs with a server, and at most one start has succeeded. What comes
next is refused without a change, fails and gives back what was opened, or does what is asked. -/
theorem lifecycle_of_run {es : List Event} {host : Host}
    (ran : (create settings host).run es = .ok s) :
    let e := s.engine
    (e.state = .created ∨ e.state = .running ∨ e.state = .stopped ∨ e.state = .failed) ∧
      (e.storeOpen = true ↔ e.state = .running) ∧
      (e.listening = true ↔ e.state = .running ∧ settings.streaming.enabled = true) ∧
      (s.answers.countP (·.isStart) ≤ 1) ∧
      (e.state = .created ∨ e.state = .failed → e.server = none ∧ e.publishers = []) ∧
      (∀ host, e.state ≠ .created →
        e.start host = .ok (.error (.invalidState "Created" e.state.label), e, host)) ∧
      (∀ host fault, e.state = .created → settings.validate = .error fault →
        e.start host = .ok (.error (.config fault), e, host)) ∧
      (∀ host error, e.state = .created → settings.validate = .ok () →
        host.openStore settings.store = .error error →
        ∃ e', e.start host = .ok (.error error, e', host) ∧ e'.Abandoned) ∧
      (∀ host host' error, e.state = .created → settings.validate = .ok () →
        host.openStore settings.store = .ok host' → settings.streaming.enabled = true →
        Host.bind settings.streaming.bindAddress = .error error →
        ∃ e', e.start host = .ok (.error error, e', host') ∧ e'.Abandoned) ∧
      (∀ host host' e', e.start host = .ok (.ok (), e', host') →
        e.state = .created ∧ e'.state = .running) ∧
      (∀ host source, e.state ≠ .running → e.publishSnapshot source host =
        .ok (.error (.invalidState "Running" e.state.label), e, host)) ∧
      (∀ host, (e.health host).1.state = e.state ∧
        ((e.health host).1.ready = true ↔ e.state = .running) ∧
        ((e.health host).1.healthy = true ↔
          e.state = .running ∧ ∀ t ∈ e.publishers, t.publisher.status.halted = false)) ∧
      ∀ host, (e.shutdown host).1.state = .stopped ∧ (e.shutdown host).1.storeOpen = false ∧
        (e.shutdown host).1.server = none := by
  intro e
  have created : (create settings host).Orderly settings :=
    ⟨rfl, Engine.orderly_create settings, Nat.zero_le 1, fun _ => rfl⟩
  obtain ⟨same, orderly, once, -⟩ := created.run ran
  subst same
  refine ⟨orderly.settled, orderly.store, orderly.address, once, fun idle => ?_, ?_, ?_, ?_, ?_, ?_,
    ?_, ?_, ?_⟩
  · refine ⟨(orderly.closed ?_).2, orderly.unspawned idle⟩
    rcases idle with idle | idle <;> simp [e, idle]
  · intro host begun
    exact Engine.start_eq_ok_iff.mpr (.refused begun)
  · intro host fault fresh rejected
    exact Engine.start_eq_ok_iff.mpr (.invalid fresh rejected)
  · intro host error fresh valid unopened
    exact ⟨_, Engine.start_eq_ok_iff.mpr (.unopened fresh valid unopened), orderly.abandoned fresh⟩
  · intro host host' error fresh valid opened enabled unbound
    have refused : Engine.openServer s.engine.settings = .ok (.error error) := by
      simp [Engine.openServer, enabled, unbound]
    exact ⟨_, Engine.start_eq_ok_iff.mpr (.unbound fresh valid opened refused),
      orderly.abandoned fresh⟩
  · intro host host' e' started
    cases Engine.start_eq_ok_iff.mp started with
    | running fresh => exact ⟨fresh, rfl⟩
  · exact fun host source idle => Engine.publishSnapshot_of_idle idle source host
  · exact fun host => ⟨rfl, decide_eq_true_iff, orderly.healthy_iff host⟩
  · exact fun host => ⟨rfl, rfl, rfl⟩

/-- An engine that has been started and shut down is not started again. -/
theorem lifecycle_of_restart :
    ∃ s, (create (.small "RIPE") (.create ⟨.empty, none, none, .zero, 0, 0⟩ "t")).run
        [.call .start, .call .shutdown] = .ok s ∧
      s.engine.state = .stopped ∧ s.engine.storeOpen = false ∧ s.answers.countP (·.isStart) ≤ 1 ∧
      s.engine.start s.host =
        .ok (.error (.invalidState "Created" "Stopped"), s.engine, s.host) := by
  have stops : ((create (.small "RIPE") (.create ⟨.empty, none, none, .zero, 0, 0⟩ "t")).run
      [.call .start, .call .shutdown]).toOption.map (·.engine.state) = some .stopped := by
    decide +kernel
  cases ran : (create (.small "RIPE") (.create ⟨.empty, none, none, .zero, 0, 0⟩ "t")).run
      [.call .start, .call .shutdown] with
  | error fatal =>
    rw [ran] at stops
    cases stops
  | ok s =>
    rw [ran] at stops
    have stopped : s.engine.state = .stopped := Option.some.inj stops
    obtain ⟨-, store, -, once, -, refused, -⟩ := lifecycle_of_run ran
    have begun := refused s.host (by simp [stopped])
    rw [stopped] at begun store
    have closed : s.engine.storeOpen = false := by simpa using store
    exact ⟨s, rfl, stopped, closed, once, begun⟩

end LiveEngine

end RegistryFeed
