import RegistryFeed.Proofs.Engine.Transitions

/-!
# The end of a publisher's work

A task is told to stop by the value `true` or by the loss of the sender. One that
has had its first turn begins nothing more after that. Before the first turn it is
different: with that turn the task takes note of whatever was sent, so a stop that
came earlier is forgotten. Nothing is assumed about the order of turns, timers and
signals; only a later `false`, which takes a stop back, is left out.
-/

namespace RegistryFeed

namespace TaskLoop

/-- What tells a task to stop. -/
inductive Event.Stops : Event → Prop
  | told : Stops (.signal true)
  | lost : Stops .detached

/-- A task that will begin nothing more, whatever happens to it but a signal that takes the stop
back. If its sender is gone, only a snapshot with the first turn would come before it notices. -/
inductive Halting (l : TaskLoop) : Prop
  | stopped (phase : l.phase = .stopped)
  | told (polled : l.phase ≠ .spawned) (fresh : l.signal.fresh) (value : l.signal.value)
  | lost (gone : l.signal.attached = false) (plain : l.phase = .spawned → l.bootstraps = false)

variable {l : TaskLoop} {e : Event} {es : List Event}

@[simp] theorem run_nil (l : TaskLoop) : l.run [] = l := rfl

@[simp] theorem run_cons (l : TaskLoop) (e : Event) (es : List Event) :
    l.run (e :: es) = (l.step e).run es := rfl

theorem run_append (l : TaskLoop) (es fs : List Event) :
    l.run (es ++ fs) = (l.run es).run fs := List.foldl_append

theorem Halting.turn (h : l.Halting) : l.turn.Halting ∧ l.turn.begun = l.begun := by
  unfold TaskLoop.turn
  split
  next spawned =>
    -- the signal is noted here, so only the loss of the sender is left of a stop
    cases h with
    | stopped phase => simp [spawned] at phase
    | told polled => exact absurd spawned polled
    | lost gone plain =>
      rw [plain spawned]
      exact ⟨.lost gone (by simp [startTimer]), rfl⟩
  next waiting =>
    cases h with
    | stopped phase => simp [waiting] at phase
    | told polled fresh value => simpa [fresh, value, Signal.noted] using Halting.stopped rfl
    | lost gone plain =>
      by_cases fresh : l.signal.fresh
      · by_cases value : l.signal.value
        · simpa [fresh, value, Signal.noted] using Halting.stopped rfl
        · simp only [fresh, value, Signal.noted, ↓reduceIte]
          exact ⟨.lost gone (by simp [waiting]), rfl⟩
      · simpa [fresh, gone] using Halting.stopped rfl
  next => exact ⟨h, rfl⟩

theorem Halting.step (h : l.Halting) (he : e ≠ .signal false) :
    (l.step e).Halting ∧ (l.step e).begun = l.begun := by
  cases e with
  | turn => exact h.turn
  | done =>
    simp only [TaskLoop.step]
    split
    all_goals try exact ⟨h, rfl⟩
    all_goals
      cases h with
      | stopped phase => simp_all
      | told polled fresh value => exact ⟨.told (by simp [startTimer]) fresh value, rfl⟩
      | lost gone plain => exact ⟨.lost gone (by simp [startTimer]), rfl⟩
  | timer =>
    simp only [TaskLoop.step]
    split
    all_goals
      refine ⟨?_, rfl⟩
      cases h with
      | stopped phase => exact .stopped phase
      | told polled fresh value => exact .told polled fresh value
      | lost gone plain => exact .lost gone plain
  | signal value =>
    obtain rfl : value = true := by simpa using he
    refine ⟨?_, rfl⟩
    cases h with
    | stopped phase => exact .stopped phase
    | told polled fresh value =>
      refine .told polled ?_ ?_ <;> simp only [TaskLoop.step, Signal.send] <;> split <;> trivial
    | lost gone plain =>
      exact .lost (by simp [TaskLoop.step, Signal.send, gone]) plain
  | detached =>
    refine ⟨?_, rfl⟩
    cases h with
    | stopped phase => exact .stopped phase
    | told polled fresh value => exact .told polled fresh value
    | lost gone plain => exact .lost rfl plain

/-- A halting task begins nothing more. -/
theorem Halting.run (h : l.Halting) (unrevoked : .signal false ∉ es) :
    (l.run es).Halting ∧ (l.run es).begun = l.begun := by
  induction es generalizing l with
  | nil => exact ⟨h, rfl⟩
  | cons e es ih =>
    obtain ⟨he, hes⟩ := List.ne_and_not_mem_of_not_mem_cons unrevoked
    obtain ⟨next, same⟩ := h.step he.symm
    obtain ⟨last, begun⟩ := ih next hes
    exact ⟨last, begun.trans same⟩

/-! ## Before and after the first turn -/

/-- A task that has had no turn yet. -/
structure Unpolled (b attached : Bool) (l : TaskLoop) : Prop where
  phase : l.phase = .spawned
  bootstraps : l.bootstraps = b
  begun : l.begun = []
  attached : l.signal.attached = attached

variable {b attached : Bool}

theorem unpolled_spawn (b : Bool) : (spawn b).Unpolled b true := ⟨rfl, rfl, rfl, rfl⟩

theorem Unpolled.step (h : l.Unpolled b attached) (he : e ≠ .turn) :
    (l.step e).Unpolled b (attached && decide (e ≠ .detached)) := by
  obtain ⟨phase, bootstraps, begun, rfl⟩ := h
  cases e with
  | turn => exact absurd rfl he
  | done => simpa [TaskLoop.step, phase] using ⟨phase, bootstraps, begun, rfl⟩
  | timer => simpa [TaskLoop.step, phase] using ⟨phase, bootstraps, begun, rfl⟩
  | signal value =>
    refine ⟨phase, bootstraps, begun, ?_⟩
    simp only [TaskLoop.step, Signal.send]
    split <;> simp
  | detached => exact ⟨phase, bootstraps, begun, by simp [TaskLoop.step, Signal.detach]⟩

theorem Unpolled.run (h : l.Unpolled b attached) (unpolled : .turn ∉ es) :
    (l.run es).Unpolled b (attached && decide (.detached ∉ es)) := by
  induction es generalizing l attached with
  | nil => simpa using h
  | cons e es ih =>
    obtain ⟨he, hes⟩ := List.ne_and_not_mem_of_not_mem_cons unpolled
    have last := ih (h.step he.symm) hes
    simpa [Bool.and_assoc, eq_comm] using last

/-- A first turn is never forgotten. -/
theorem step_polled (h : l.phase ≠ .spawned) (e : Event) : (l.step e).phase ≠ .spawned := by
  cases e with
  | turn =>
    simp only [step, turn]
    split
    next spawned => exact absurd spawned h
    next => split <;> (try split) <;> (try split) <;> simp_all [begin]
    next => exact h
  | done => simp only [step]; split <;> simp_all [startTimer]
  | timer => simp only [step]; split <;> simp_all
  | signal | detached => exact h

theorem turn_polled (l : TaskLoop) : l.turn.phase ≠ .spawned := by
  by_cases spawned : l.phase = .spawned
  · simp only [turn, spawned]
    split <;> simp [begin, startTimer]
  · exact step_polled spawned .turn

theorem run_polled (polled : l.phase ≠ .spawned ∨ .turn ∈ es) : (l.run es).phase ≠ .spawned := by
  induction es generalizing l with
  | nil => simpa using polled
  | cons e es ih =>
    apply ih
    rcases polled with polled | polled
    · exact .inl (step_polled polled e)
    · rcases List.mem_cons.mp polled with rfl | later
      · exact .inl (turn_polled l)
      · exact .inr later

/-! ## The stop -/

theorem halting_of_stop (polled : l.phase ≠ .spawned) (stops : e.Stops) : (l.step e).Halting := by
  cases stops with
  | told =>
    by_cases gone : l.signal.attached = false
    · exact .lost (by simp [step, Signal.send, gone]) fun spawned => absurd spawned polled
    · exact .told polled (by simp [step, Signal.send, gone]) (by simp [step, Signal.send, gone])
  | lost => exact .lost rfl fun spawned => absurd spawned polled

theorem Unpolled.bootstrap_begun (h : l.Unpolled true attached) : l.turn.begun = [.bootstrap] := by
  simp [turn, h.phase, h.bootstraps, h.begun, begin]

theorem Unpolled.tick_begun (h : l.Unpolled false true) : l.turn.turn.begun = [.tick] := by
  simp [turn, h.phase, h.bootstraps, h.begun, h.attached, begin, startTimer, Signal.noted]

/-- When a stop ends the work of a task: if it comes after the first turn, or if the task was to
begin without a snapshot and its sender is gone. In every other case more work is begun after it. -/
theorem nothing_begun_iff (b : Bool) (front : List Event) {stop : Event} (stops : stop.Stops) :
    (∀ back, .signal false ∉ back →
      ((spawn b).run (front ++ stop :: back)).begun = ((spawn b).run (front ++ [stop])).begun) ↔
    .turn ∈ front ∨ (b = false ∧ .detached ∈ front ++ [stop]) := by
  have split (back : List Event) : front ++ stop :: back = front ++ [stop] ++ back := by simp
  by_cases polled : .turn ∈ front
  · refine iff_of_true (fun back unrevoked => ?_) (.inl polled)
    have halting : ((spawn b).run (front ++ [stop])).Halting := by
      rw [run_append]
      exact halting_of_stop (run_polled (.inr polled)) stops
    rw [split, run_append]
    exact (halting.run unrevoked).2
  have unpolled : ((spawn b).run (front ++ [stop])).Unpolled b
      (decide (.detached ∉ front ++ [stop])) := by
    refine (unpolled_spawn b).run ?_
    cases stops <;> simpa using polled
  have after (back : List Event) : (spawn b).run (front ++ stop :: back) =
      ((spawn b).run (front ++ [stop])).run back := by rw [split, run_append]
  generalize (spawn b).run (front ++ [stop]) = l at unpolled after ⊢
  simp only [polled, false_or, after]
  cases b with
  | true =>
    refine iff_of_false (fun silent => ?_) (by simp)
    have same := silent [.turn] (by simp)
    rw [run_cons, run_nil, step, unpolled.bootstrap_begun, unpolled.begun] at same
    exact List.cons_ne_nil _ _ same
  | false =>
    by_cases lost : .detached ∈ front ++ [stop]
    · refine iff_of_true (fun back unrevoked => ?_) ⟨rfl, lost⟩
      have gone : l.signal.attached = false := by simpa [lost] using unpolled.attached
      exact ((Halting.lost gone fun _ => unpolled.bootstraps).run unrevoked).2
    · refine iff_of_false (fun silent => ?_) (by simp [lost])
      have same := silent [.turn, .turn] (by simp)
      have attached : l.Unpolled false true := by simpa [lost] using unpolled
      rw [run_cons, run_cons, run_nil, step, step, attached.tick_begun, unpolled.begun] at same
      exact List.cons_ne_nil _ _ same

/-- A stop that comes during a snapshot lets it be completed and no tick follow. -/
theorem nothing_begun_after_snapshot :
    (Event.Stops (.signal true)) ∧ ∀ back, .signal false ∉ back →
      ((spawn true).run ([.turn] ++ .signal true :: back)).begun = [.bootstrap] :=
  ⟨.told, (nothing_begun_iff true [.turn] .told).mpr (.inl (by decide))⟩

/-- A stop before the first turn does not end the work: a tick follows it. -/
theorem begun_after_early_stop :
    ¬ ∀ (b : Bool) (front back : List Event) (stop : Event), stop.Stops → .signal false ∉ back →
      ((spawn b).run (front ++ stop :: back)).begun = ((spawn b).run (front ++ [stop])).begun := by
  intro claim
  have same := claim false [] [.turn, .turn] (.signal true) .told (by decide)
  exact absurd same (by decide)

end TaskLoop

/-! ## The engine -/

/-- What a task does next by itself: it completes its attempt, or takes a turn. -/
def TaskLoop.ownEvent (l : TaskLoop) : Event :=
  match l.phase with
  | .working _ => .done
  | _ => .turn

def TaskLoop.goOn : Nat → TaskLoop → TaskLoop
  | 0, l => l
  | n + 1, l => if l.rests then l else goOn n (l.step l.ownEvent)

theorem TaskLoop.goOn_of_early_stop (b : Bool) :
    (((spawn b).step (.signal true)).goOn 8).begun =
      if b then [.bootstrap, .tick] else [.tick] := by
  cases b <;>
    simp [goOn, rests, ownEvent, step, turn, begin, startTimer, spawn, Signal.quiet, Signal.send,
      Signal.noted, Signal.wakes]

namespace PublisherTask

theorem advance_loop (t : PublisherTask) (session : String) (site : Site) :
    (t.advance session site).1.loop = t.loop.step t.loop.ownEvent := by
  unfold advance TaskLoop.ownEvent
  -- what the attempts give is named before it is looked into, or checking would compute it
  rcases t.publisher.bootstrap session site with ⟨p, left⟩
  rcases t.publisher.tick site with ⟨outcome, q, left'⟩
  cases t.loop.phase with
  | working attempt => cases attempt <;> rfl
  | _ => rfl

/-- The attempts of a task change nothing of its loop. -/
theorem runFor_loop (session : String) (n : Nat) (t : PublisherTask) (site : Site) :
    (runFor session n t site).1.loop = t.loop.goOn n := by
  induction n generalizing t site with
  | zero => rfl
  | succ n ih =>
    rcases advanced : t.advance session site with ⟨t', left⟩
    simp only [runFor, TaskLoop.goOn, advanced]
    split
    · rfl
    · rw [ih, ← advance_loop t session site, advanced]

end PublisherTask

namespace Engine

variable {e e' : Engine} {host host' : Host}

theorem mem_runPublishers {t : PublisherTask} (h : t ∈ (e.runPublishers host).1.publishers) :
    ∃ t₀ ∈ e.publishers, ∃ site, t = (t₀.run host.session site).1 := by
  have mem (ts : List PublisherTask) (acc : List PublisherTask × Site)
      (h : t ∈ (ts.foldl (fun acc t =>
        (acc.1 ++ [(t.run host.session acc.2).1], (t.run host.session acc.2).2)) acc).1) :
      t ∈ acc.1 ∨ ∃ t₀ ∈ ts, ∃ site, t = (t₀.run host.session site).1 := by
    induction ts generalizing acc with
    | nil => exact .inl h
    | cons t₀ ts ih =>
      rcases ih _ h with done | ⟨t₁, mem, later⟩
      · rcases List.mem_append.mp done with old | new
        · exact .inl old
        · exact .inr ⟨t₀, List.mem_cons_self, acc.2, List.mem_singleton.mp new⟩
      · exact .inr ⟨t₁, List.mem_cons_of_mem _ mem, later⟩
  simpa using mem e.publishers ([], host.site) h

theorem spawnPublishers_loop {settings : Settings} {ts : List PublisherTask}
    (spawned : spawnPublishers settings = .ok ts) :
    ∀ t ∈ ts, t.loop = .spawn settings.publication.bootstrapSnapshot := by
  unfold spawnPublishers at spawned
  split at spawned
  · cases spawned
    simp
  · obtain ⟨generation, -, spawned⟩ := bind_eq_ok_iff.mp spawned
    cases spawned
    simp [PublisherTask.spawn]

theorem publishers_of_start (started : e.start host = .ok (.ok (), e', host')) :
    spawnPublishers e.settings = .ok e'.publishers := by
  cases start_eq_ok_iff.mp started with
  | running _ _ _ _ spawned => exact spawned

/-- When an engine is shut down before its publishers have had a turn, every one of them still
begins all of its first work. -/
theorem begun_of_early_shutdown (started : e.start host = .ok (.ok (), e', host'))
    {t : PublisherTask} (ht : t ∈ (e'.shutdown host').1.publishers) :
    t.loop.begun =
      if e.settings.publication.bootstrapSnapshot then [.bootstrap, .tick] else [.tick] := by
  obtain ⟨told, told_mem, site, rfl⟩ := mem_runPublishers ht
  obtain ⟨t₀, mem, rfl⟩ := List.mem_map.mp told_mem
  rw [PublisherTask.run, PublisherTask.runFor_loop, PublisherTask.act,
    spawnPublishers_loop (publishers_of_start started) t₀ mem]
  exact TaskLoop.goOn_of_early_stop _

end Engine

end RegistryFeed
