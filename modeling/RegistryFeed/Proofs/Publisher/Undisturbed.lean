import RegistryFeed.Proofs.Publication.Ending
import RegistryFeed.Proofs.Publisher.Halting

/-!
# Attempts that nothing disturbs

Where nothing happens between the steps of an attempt but its own sleeps, a bootstrap
or a tick on a shared site is the one that a publisher makes alone on the site: the
outcome, what the publisher remembers and what is left on the site are the same.
-/

namespace RegistryFeed

open Generation

namespace LivePublisher

open Publisher

/-- The attempt goes on, or time passes. -/
inductive Event.Alone : Event → Prop
  | turn : Alone .turn
  | pass (span : Span) (stamp : Int) : Alone (.world (.pass span stamp))
  | finish : Alone .finish

/-- A publisher whose attempt has come so far, while all else is as it was. -/
structure At (s : LivePublisher) (attempt : Attempt) (i : Nat) (w : Worker) (site : Site)
    (t : LivePublisher) : Prop where
  publisher : t.publisher = s.publisher
  shared : t.shared = ⟨site, s.shared.workers.set i w⟩
  done : t.done = s.done
  call : ∃ c, t.call = some c ∧ c.attempt = attempt ∧ c.worker = i

variable {s t : LivePublisher} {attempt : Attempt} {i : Nat} {w : Worker} {site : Site}

namespace At

theorem here (h : s.At attempt i w site t) (known : i < s.shared.workers.length) :
    t.shared.workers[i]? = some w := by
  rw [h.shared]
  exact List.getElem?_set_self known

theorem own (h : s.At attempt i w site t) (known : i < s.shared.workers.length) :
    ∃ c, t.own? = some (c, w.generation) ∧ c.attempt = attempt ∧ c.worker = i := by
  obtain ⟨c, call, same, rfl⟩ := h.call
  exact ⟨c, by simp [own?, call, h.here known], same, rfl⟩

theorem turn (h : s.At attempt i w site t) (known : i < s.shared.workers.length) :
    s.At attempt i (SharedSite.takeTurn site w).1 (SharedSite.takeTurn site w).2
      (t.step .turn) := by
  obtain ⟨c, own, same, rfl⟩ := h.own known
  simp only [LivePublisher.step, own]
  refine ⟨h.publisher, ?_, h.done, _, rfl, same, rfl⟩
  rw [SharedSite.step_turn (h.here known), h.shared, List.set_set]

theorem pass (h : s.At attempt i w site t) (span : Span) (stamp : Int) :
    s.At attempt i w { site with clock := site.clock.add span, stamp := stamp }
      (t.step (.world (.pass span stamp))) := by
  refine ⟨h.publisher, ?_, h.done, h.call⟩
  simp [LivePublisher.step, SharedSite.Event.worker?, SharedSite.step, h.shared]

/-- A step of a generator alone on the site is a turn, and the time of a sleep. -/
theorem step (h : s.At attempt i w site t) (known : i < s.shared.workers.length) :
    ∃ es, (∀ e ∈ es, e.Alone) ∧
      s.At attempt i ⟨w.startedAt, (site.step w.startedAt w.generation).1⟩
        (site.step w.startedAt w.generation).2 (t.run es) := by
  have turned := h.turn known
  unfold SharedSite.takeTurn at turned
  split at turned
  · next delay _ sleeping =>
    obtain ⟨span, slept⟩ :
        ∃ span, site.sleep delay = { site with clock := site.clock.add span } := ⟨_, rfl⟩
    refine ⟨[.turn, .world (.pass span site.stamp)],
      by simp [Event.Alone.turn, Event.Alone.pass], ?_⟩
    simp only [Site.step, sleeping, slept]
    exact turned.pass span site.stamp
  · exact ⟨[.turn], by simp [Event.Alone.turn], turned⟩

theorem run (fuel : Nat) (h : s.At attempt i w site t) (known : i < s.shared.workers.length) :
    ∃ es, (∀ e ∈ es, e.Alone) ∧
      s.At attempt i ⟨w.startedAt, (site.run w.startedAt fuel w.generation).1⟩
        (site.run w.startedAt fuel w.generation).2 (t.run es) := by
  induction fuel generalizing w site t with
  | zero => exact ⟨[], by simp, h⟩
  | succ fuel ih =>
    unfold Site.run
    split
    · exact ⟨[], by simp, h⟩
    · exact ⟨[], by simp, h⟩
    · obtain ⟨es, alone, stepped⟩ := h.step known
      obtain ⟨more, aloneToo, ran⟩ := ih stepped
      refine ⟨es ++ more, List.forall_mem_append.mpr ⟨alone, aloneToo⟩, ?_⟩
      rw [run_append]
      exact ran

end At

theorem at_begin (s : LivePublisher) (attempt : Attempt) (halted : Bool) (kind : DocumentKind)
    (session : String) :
    let p := s.publisher
    let t := s.begin attempt halted kind session
    t.At attempt s.shared.workers.length
      ⟨s.shared.site.clock, .create kind p.source p.filter p.settings session⟩ s.shared.site t := by
  refine ⟨rfl, ?_, rfl, _, rfl, rfl, rfl⟩
  simp [begin, SharedSite.step]

/-- An attempt that nothing disturbs comes to what its generator does alone on the site. -/
theorem begin_undisturbed (s : LivePublisher) (attempt : Attempt) (halted : Bool)
    (kind : DocumentKind) (session : String) {g : Generation} {site : Site}
    {result : GenerationResult}
    (generated : s.shared.site.generate kind s.publisher.source s.publisher.filter
      s.publisher.settings session = (g, site))
    (ended : g.phase = .ended result) :
    ∃ es c, (∀ e ∈ es, e.Alone) ∧ c.attempt = attempt ∧
      let t := (s.begin attempt halted kind session).run es
      t.call = none ∧ t.shared.site = site ∧
        t.publisher = (s.publisher.conclude c g site).1 ∧
        t.done = s.done ++ [(s.publisher.conclude c g site).2] := by
  have known : s.shared.workers.length <
      (s.begin attempt halted kind session).shared.workers.length := by
    simp [begin, SharedSite.step]
  obtain ⟨es, alone, ran⟩ :=
    (s.at_begin attempt halted kind session).run (Site.stepsFor s.publisher.settings) known
  rw [Site.generate] at generated
  simp only [generated] at ran
  obtain ⟨c, own, same, -⟩ := ran.own known
  refine ⟨es ++ [.finish], c, ?_, same, ?_⟩
  · exact List.forall_mem_append.mpr ⟨alone, by simp [Event.Alone.finish]⟩
  · rw [run_append]
    generalize (s.begin attempt halted kind session).run es = t at ran own
    have finished : t.run [.finish] = t.finish c g := by
      simp only [LivePublisher.run, List.foldl_cons, List.foldl_nil, LivePublisher.step, own, ended]
    rw [finished, LivePublisher.finish, ran.publisher, ran.shared, ran.done]
    exact ⟨rfl, rfl, rfl, rfl⟩

theorem attempted_site (result : GenerationResult) (p : Publisher) (site : Site) :
    (attempted (result, p, site)).2.2 = site := by
  unfold attempted
  split
  all_goals simp_all

theorem bootstrapped_site (result : GenerationResult) (p : Publisher) (site : Site) :
    (bootstrapped (result, p, site)).2 = site := by
  unfold bootstrapped
  split
  all_goals simp_all

/-- What is left of a tick: the outcome, the publisher and the site. -/
def Ticked (s t : LivePublisher) (left : TickOutcome × Publisher × Site) : Prop :=
  t.call = none ∧ t.publisher = left.2.1 ∧ t.shared.site = left.2.2 ∧
    ∃ d, t.done = s.done ++ [d] ∧ d.answer = .ticked left.1

/-- The generator of an attempt, alone on the site, does not meet a delay that cannot be had. -/
def Lives (s : LivePublisher) (kind : DocumentKind) (session : String) : Prop :=
  ∀ cause, (s.shared.site.generate kind s.publisher.source s.publisher.filter
    s.publisher.settings session).1.phase ≠ .fatal cause

theorem Lives.ended {kind : DocumentKind} {session : String} (lives : s.Lives kind session)
    (plain : s.shared.site.script = none) :
    ∃ g site result, s.shared.site.generate kind s.publisher.source s.publisher.filter
      s.publisher.settings session = (g, site) ∧ g.phase = .ended result := by
  have ends := Site.generate_ends plain kind s.publisher.source s.publisher.filter
    s.publisher.settings session
  rw [Lives] at lives
  -- what the generator gives is named before it is looked into, or checking would compute it
  generalize s.shared.site.generate kind s.publisher.source s.publisher.filter
    s.publisher.settings session = made at lives ends
  obtain ⟨g, site⟩ := made
  rcases ends with ⟨result, ended⟩ | ⟨cause, fatal⟩
  · exact ⟨g, site, result, rfl, ended⟩
  · exact absurd fatal (lives cause)

theorem attempt_undisturbed (s : LivePublisher) (halted : Bool) (lives : s.Lives .delta "")
    (plain : s.shared.site.script = none) :
    ∃ es, (∀ e ∈ es, e.Alone) ∧
      s.Ticked ((s.begin .tick halted .delta "").run es) (s.publisher.attempt s.shared.site) := by
  obtain ⟨g, site, result, generated, ended⟩ := lives.ended plain
  obtain ⟨es, c, alone, ticks, idle, left, publisher, done⟩ :=
    s.begin_undisturbed .tick halted .delta "" generated ended
  rw [attempt, generate, generated]
  simp only [conclude, ticks] at publisher done
  exact ⟨es, alone, idle, publisher, left.trans (attempted_site _ _ _).symm, _, done, rfl⟩

/-- A tick that nothing disturbs is the tick of a publisher alone on the site. -/
theorem tick_undisturbed (idle : s.call = none) (lives : s.Lives .delta "")
    (plain : s.shared.site.script = none) :
    ∃ es, (∀ e ∈ es, e.Alone) ∧
      s.Ticked (s.run (.tick false :: es)) (s.publisher.tick s.shared.site) := by
  have stepped : s.step (.tick false) = s.tick false := by simp [LivePublisher.step, idle]
  simp only [LivePublisher.run, List.foldl_cons, stepped]
  cases halted : s.publisher.status.halted with
  | false =>
    rw [tick_of_running halted, Publisher.tick, if_neg (by simp [halted])]
    exact s.attempt_undisturbed false lives plain
  | true =>
    cases sees : s.publisher.seesChain s.shared.site with
    | true =>
      rw [tick_of_seesChain halted sees, Publisher.tick, if_pos halted, if_pos sees]
      exact (s.step .resume).attempt_undisturbed true lives plain
    | false =>
      rw [tick_of_blind halted (by simp [sees]), Publisher.tick, if_pos halted,
        if_neg (by simp [sees])]
      exact ⟨[], by simp, idle, rfl, rfl, _, rfl, rfl⟩

/-- A bootstrap that nothing disturbs is that of a publisher alone on the site. -/
theorem bootstrap_undisturbed (idle : s.call = none) (session : String)
    (lives : s.Lives .snapshot session) (plain : s.shared.site.script = none) :
    ∃ es, (∀ e ∈ es, e.Alone) ∧
      let t := s.run (.bootstrap session :: es)
      t.call = none ∧
        (t.publisher, t.shared.site) = s.publisher.bootstrap session s.shared.site := by
  have stepped : s.step (.bootstrap session) =
      s.begin .bootstrap s.publisher.status.halted .snapshot session := by
    simp [LivePublisher.step, idle]
  obtain ⟨g, site, result, generated, ended⟩ := lives.ended plain
  obtain ⟨es, c, alone, bootstraps, free, left, publisher, -⟩ :=
    s.begin_undisturbed .bootstrap s.publisher.status.halted .snapshot session generated ended
  rw [← stepped] at free left publisher
  simp only [conclude, bootstraps] at publisher
  rw [Publisher.bootstrap, generate, generated]
  exact ⟨es, alone, free, Prod.ext publisher (left.trans (bootstrapped_site _ _ _).symm)⟩

end LivePublisher

end RegistryFeed
