import Mathlib.Data.List.Nodup
import RegistryFeed.Engine.Health

/-!
# What one call does to an engine

A start has five outcomes. A refused call changes nothing, and a start that fails
on the way gives back what it has opened. Every call leaves an engine in order: its
store is open and its server waits exactly while it runs, and every publisher has a
source of its own. Nothing is assumed about the settings or the host.
-/

namespace RegistryFeed

/-! ## The sources of the publishers -/

theorem Publisher.generate_source (p : Publisher) (kind : DocumentKind) (session : String)
    (site : Site) : (p.generate kind session site).2.1.source = p.source := by
  have kept (x : Generation × Site) : (p.takeOver x).2.1.source = p.source := rfl
  exact kept _

theorem Publisher.bootstrap_source (p : Publisher) (session : String) (site : Site) :
    (p.bootstrap session site).1.source = p.source := by
  have kept (x : GenerationResult × Publisher × Site) :
      (bootstrapped x).1.source = x.2.1.source := by
    unfold bootstrapped
    split <;> rfl
  exact (kept _).trans (p.generate_source .snapshot session site)

theorem Publisher.attempt_source (p : Publisher) (site : Site) :
    (p.attempt site).2.1.source = p.source := by
  have kept (x : GenerationResult × Publisher × Site) :
      (attempted x).2.1.source = x.2.1.source := by
    unfold attempted
    split <;> rfl
  exact (kept _).trans (p.generate_source .delta "" site)

theorem Publisher.tick_source (p : Publisher) (site : Site) :
    (p.tick site).2.1.source = p.source := by
  unfold Publisher.tick
  split
  · split
    · exact Publisher.attempt_source _ site
    · rfl
  · exact p.attempt_source site

theorem PublisherTask.advance_source (t : PublisherTask) (session : String) (site : Site) :
    (t.advance session site).1.publisher.source = t.publisher.source := by
  have bootstrapped := t.publisher.bootstrap_source session site
  have ticked := t.publisher.tick_source site
  unfold advance
  -- what the attempts give is named before it is looked into, or checking would compute it
  generalize t.publisher.bootstrap session site = p at bootstrapped ⊢
  generalize t.publisher.tick site = q at ticked ⊢
  obtain ⟨p, left⟩ := p
  obtain ⟨outcome, q, left'⟩ := q
  cases t.loop.phase with
  | working attempt =>
    cases attempt with
    | bootstrap => exact bootstrapped
    | tick => exact ticked
  | _ => rfl

theorem PublisherTask.runFor_source (session : String) (n : Nat) (t : PublisherTask) (site : Site) :
    (runFor session n t site).1.publisher.source = t.publisher.source := by
  induction n generalizing t site with
  | zero => rfl
  | succ n ih =>
    rw [runFor]
    split
    · rfl
    · exact (ih _ _).trans (t.advance_source session site)

namespace Engine

variable {e e' : Engine} {host host' : Host} {result : Except EngineError Unit}

/-- The outcomes of a start: what it answers, and the engine and the host after it. -/
inductive Starts (e : Engine) (host : Host) : Except EngineError Unit → Engine → Host → Prop
  | refused (begun : e.state ≠ .created) :
      Starts e host (.error (.invalidState "Created" e.state.label)) e host
  | invalid (fresh : e.state = .created) {fault : ConfigFault}
      (rejected : e.settings.validate = .error fault) :
      Starts e host (.error (.config fault)) e host
  | unopened (fresh : e.state = .created) (valid : e.settings.validate = .ok ())
      {error : EngineError} (unopened : host.openStore e.settings.store = .error error) :
      Starts e host (.error error) ((e.enter .starting).enter .failed) host
  | unbound (fresh : e.state = .created) (valid : e.settings.validate = .ok ()) {host' : Host}
      (opened : host.openStore e.settings.store = .ok host') {error : EngineError}
      (unbound : openServer e.settings = .ok (.error error)) :
      Starts e host (.error error) ((e.enter .starting).enter .failed) host'
  | running (fresh : e.state = .created) (valid : e.settings.validate = .ok ()) {host' : Host}
      (opened : host.openStore e.settings.store = .ok host') {server : Option Server}
      (bound : openServer e.settings = .ok (.ok server)) {publishers : List PublisherTask}
      (spawned : spawnPublishers e.settings = .ok publishers) :
      Starts e host (.ok ()) (({ e.enter .starting with
        server := server, publishers := publishers, storeOpen := true } : Engine).enter .running)
        host'

theorem start_eq_ok_iff :
    e.start host = .ok (result, e', host') ↔ e.Starts host result e' host' := by
  constructor
  · intro started
    unfold start at started
    split at started
    next begun =>
      cases started
      exact .refused begun
    next notBegun =>
      have fresh := not_not.mp notBegun
      split at started
      next rejected =>
        cases started
        exact .invalid fresh rejected
      next valid =>
        dsimp only at started
        split at started
        next unopened =>
          cases started
          exact .unopened fresh valid unopened
        next opened =>
          obtain ⟨outcome, bound, started⟩ := bind_eq_ok_iff.mp started
          cases outcome with
          | error error =>
            cases started
            exact .unbound fresh valid opened bound
          | ok server =>
            obtain ⟨publishers, spawned, started⟩ := bind_eq_ok_iff.mp started
            cases started
            exact .running fresh valid opened bound spawned
  · intro starts
    cases starts with
    | refused begun => rw [start, if_pos begun]; rfl
    | invalid fresh rejected => simp only [start, fresh, ne_eq, not_true, if_false, rejected]
    | unopened fresh valid unopened =>
      simp only [start, fresh, ne_eq, not_true, if_false, valid, enter, observe, unopened]
    | unbound fresh valid opened unbound =>
      simp only [start, fresh, ne_eq, not_true, if_false, valid, enter, observe, opened, unbound]
      rfl
    | running fresh valid opened bound spawned =>
      simp only [start, fresh, ne_eq, not_true, if_false, valid, enter, observe, opened, bound,
        spawned]
      rfl

theorem runPublishers_sources (e : Engine) (host : Host) :
    (e.runPublishers host).1.publishers.map (·.publisher.source) =
      e.publishers.map (·.publisher.source) := by
  have sources (ts : List PublisherTask) (acc : List PublisherTask × Site) :
      (ts.foldl (fun acc t =>
        (acc.1 ++ [(t.run host.session acc.2).1], (t.run host.session acc.2).2)) acc).1.map
          (·.publisher.source) =
      acc.1.map (·.publisher.source) ++ ts.map (·.publisher.source) := by
    induction ts generalizing acc with
    | nil => exact (List.append_nil _).symm
    | cons t ts ih =>
      have kept := PublisherTask.runFor_source host.session 8 t acc.2
      refine (ih _).trans ?_
      simp only [List.map_append, List.map_cons, List.map_nil, List.append_assoc,
        List.cons_append, List.nil_append, PublisherTask.run, kept]
  exact sources e.publishers ([], host.site)

/-! ## What holds in every state -/

/-- An engine between two calls. -/
structure Orderly (e : Engine) : Prop where
  settled : e.state = .created ∨ e.state = .running ∨ e.state = .stopped ∨ e.state = .failed
  store : e.storeOpen = true ↔ e.state = .running
  address : e.listening = true ↔ e.state = .running ∧ e.settings.streaming.enabled = true
  unspawned : e.state = .created ∨ e.state = .failed → e.publishers = []
  sources : e.publishers = [] ∨
    e.publishers.map (·.publisher.source) = e.settings.sources.all ∧ e.settings.sources.all.Nodup

/-- An engine whose start has failed on the way has given back everything. -/
structure Abandoned (e : Engine) : Prop where
  state : e.state = .failed
  store : e.storeOpen = false
  server : e.server = none
  publishers : e.publishers = []

theorem orderly_create (settings : Settings) : (create settings).Orderly :=
  ⟨.inl rfl, by simp [create], by simp [create, listening], fun _ => rfl, .inl rfl⟩

/-- Settings that are valid name no source twice. -/
theorem nodup_of_valid {settings : Settings} (valid : settings.validate = .ok ()) :
    settings.sources.all.Nodup := by
  cases other : settings.sources.nonAuthName with
  | none => simp [SourceSettings.all, SourceSettings.context, SourceContext.servable, other]
  | some name =>
    have differ : settings.sources.name ≠ name := by
      intro same
      refine Settings.differ_of_valid valid other ?_
      rw [same, Text.sameWord]
      exact beq_self_eq_true _
    simp [SourceSettings.all, SourceSettings.context, SourceContext.servable, other, differ]

theorem listening_of_openServer {settings : Settings} {server : Option Server}
    (bound : openServer settings = .ok (.ok server)) :
    server.isSome = true ↔ settings.streaming.enabled = true := by
  unfold openServer at bound
  split at bound
  next disabled =>
    cases bound
    simpa using disabled
  next enabled =>
    split at bound
    · cases bound
    · obtain ⟨session, -, bound⟩ := bind_eq_ok_iff.mp bound
      obtain ⟨slots, -, bound⟩ := bind_eq_ok_iff.mp bound
      cases bound
      simpa using enabled

theorem sources_of_spawnPublishers {settings : Settings} {ts : List PublisherTask}
    (spawned : spawnPublishers settings = .ok ts) :
    ts = [] ∨ ts.map (·.publisher.source) = settings.sources.all := by
  unfold spawnPublishers at spawned
  split at spawned
  · cases spawned
    exact .inl rfl
  · obtain ⟨generation, -, spawned⟩ := bind_eq_ok_iff.mp spawned
    cases spawned
    refine .inr ?_
    rw [List.map_map]
    exact List.map_id _

namespace Orderly

/-- While the engine does not run, nothing is open. -/
theorem closed (h : e.Orderly) (idle : e.state ≠ .running) :
    e.storeOpen = false ∧ e.server = none := by
  refine ⟨eq_false_of_ne_true fun opened => idle (h.store.mp opened), ?_⟩
  exact Option.not_isSome_iff_eq_none.mp fun waits => idle (h.address.mp waits).1

/-- A change of anything but the state, the store, the address and the sources. -/
theorem of_same (h : e.Orderly) (settings : e'.settings = e.settings) (state : e'.state = e.state)
    (store : e'.storeOpen = e.storeOpen) (address : e'.listening = e.listening)
    (sources : e'.publishers.map (·.publisher.source) = e.publishers.map (·.publisher.source)) :
    e'.Orderly := by
  have empty : e'.publishers = [] ↔ e.publishers = [] := by
    rw [← List.map_eq_nil_iff, sources, List.map_eq_nil_iff]
  obtain ⟨settled, hstore, haddress, unspawned, hsources⟩ := h
  refine ⟨?_, ?_, ?_, ?_, ?_⟩
  · rwa [state]
  · rwa [store, state]
  · rwa [address, state, settings]
  · rwa [state, empty]
  · rwa [empty, sources, settings]

theorem abandoned (h : e.Orderly) (fresh : e.state = .created) :
    ((e.enter .starting).enter .failed).Abandoned := by
  obtain ⟨store, server⟩ := h.closed (by simp [fresh])
  exact ⟨rfl, store, server, h.unspawned (.inl fresh)⟩

theorem of_abandoned (h : e.Abandoned) : e.Orderly := by
  refine ⟨.inr (.inr (.inr h.state)), ?_, ?_, fun _ => h.publishers, .inl h.publishers⟩
  · simp [h.store, h.state]
  · simp [listening, h.server, h.state]

theorem of_starts (h : e.Orderly) (starts : e.Starts host result e' host') : e'.Orderly := by
  cases starts with
  | refused | invalid => exact h
  | unopened fresh | unbound fresh => exact .of_abandoned (h.abandoned fresh)
  | running fresh valid opened bound spawned =>
    have address := listening_of_openServer bound
    refine ⟨.inr (.inl rfl), ?_, ?_, ?_, ?_⟩
    · exact iff_of_true rfl rfl
    · exact address.trans (iff_and_self.mpr fun _ => rfl)
    · intro idle
      rcases idle with idle | idle <;> cases idle
    · exact (sources_of_spawnPublishers spawned).imp_right fun all => ⟨all, nodup_of_valid valid⟩

theorem published (h : e.Orderly) (source : Source) (host : Host) (made : Generation × Site) :
    (e.published source host made).2.1.Orderly := by
  have resumed : ∀ e : Engine, e.Orderly → (e.resume source).Orderly := by
    intro e h
    refine h.of_same rfl rfl rfl rfl ?_
    rw [resume, List.map_map]
    refine List.map_congr_left fun t _ => ?_
    simp only [Function.comp_apply]
    split <;> rfl
  have observed : (e.observe made.1.observed).Orderly := h.of_same rfl rfl rfl rfl rfl
  obtain ⟨g, site⟩ := made
  unfold Engine.published
  dsimp only
  split
  · exact resumed _ observed
  · exact observed
  · exact observed

theorem shutdown (h : e.Orderly) (host : Host) : (e.shutdown host).1.Orderly := by
  have kept : (e.shutdown host).1.publishers.map (·.publisher.source) =
      e.publishers.map (·.publisher.source) := by
    refine (runPublishers_sources _ host).trans ?_
    exact List.map_map
  have empty : (e.shutdown host).1.publishers = [] ↔ e.publishers = [] := by
    rw [← List.map_eq_nil_iff, kept, List.map_eq_nil_iff]
  refine ⟨.inr (.inr (.inl rfl)), ?_, ?_, ?_, ?_⟩
  · exact iff_of_false Bool.false_ne_true (by rintro ⟨⟩)
  · exact iff_of_false Bool.false_ne_true (by rintro ⟨⟨⟩, -⟩)
  · rintro (⟨⟨⟩⟩ | ⟨⟨⟩⟩)
  · rw [empty, kept]
    exact h.sources

end Orderly

/-! ## Calls that are refused, and what a monitor sees -/

theorem publishSnapshot_of_idle (idle : e.state ≠ .running) (source : Source) (host : Host) :
    e.publishSnapshot source host =
      .ok (.error (.invalidState "Running" e.state.label), e, host) := by
  have stands : e.isRunning = false := by simpa [isRunning] using idle
  rw [publishSnapshot, stands]
  rfl

theorem publishSnapshot_cases {source : Source} {result : Except EngineError Artifact}
    (published : e.publishSnapshot source host = .ok (result, e', host')) :
    (e', host') = (e, host) ∨ ∃ made, (result, e', host') = e.published source host made := by
  unfold publishSnapshot at published
  split at published
  · cases published
    exact .inl rfl
  split at published
  · cases published
    exact .inl rfl
  obtain ⟨generation, -, published⟩ := bind_eq_ok_iff.mp published
  exact .inr ⟨_, (Except.ok.inj published).symm⟩

theorem published_same (e : Engine) (source : Source) (host : Host) (made : Generation × Site) :
    (e.published source host made).2.1.settings = e.settings ∧
      (e.published source host made).2.1.state = e.state := by
  obtain ⟨g, site⟩ := made
  unfold published
  dsimp only
  split <;> exact ⟨rfl, rfl⟩

theorem health_sources (e : Engine) (host : Host) :
    (e.health host).1.sources.map (·.halted) =
      e.settings.sources.all.map fun source => (e.statusOf source).halted := by
  have halted (sources : List Source) (acc : List SourceHealth × Host) :
      (sources.foldl (fun acc source =>
        (acc.1 ++ [(e.sourceHealth source acc.2).1], (e.sourceHealth source acc.2).2)) acc).1.map
          (·.halted) =
      acc.1.map (·.halted) ++ sources.map fun source => (e.statusOf source).halted := by
    induction sources generalizing acc with
    | nil => exact (List.append_nil _).symm
    | cons source sources ih =>
      refine (ih _).trans ?_
      simp only [List.map_append, List.map_cons, List.map_nil, List.append_assoc,
        List.cons_append, List.nil_append]
      rfl
  exact halted e.settings.sources.all ([], host)

theorem statusOf_of_mem (distinct : (e.publishers.map (·.publisher.source)).Nodup)
    {t : PublisherTask} (mem : t ∈ e.publishers) :
    e.statusOf t.publisher.source = t.publisher.status := by
  obtain ⟨u, found⟩ : ∃ u, e.publishers.find? (·.publisher.source = t.publisher.source) = some u :=
    Option.isSome_iff_exists.mp (List.find?_isSome.mpr ⟨t, mem, by simp⟩)
  have same : u.publisher.source = t.publisher.source := by simpa using List.find?_some found
  have equal : u = t := List.inj_on_of_nodup_map distinct (List.mem_of_find?_eq_some found) mem same
  rw [statusOf, found, equal]

/-- An engine is healthy if it runs and none of its publishers is halted. -/
theorem Orderly.healthy_iff (h : e.Orderly) (host : Host) :
    (e.health host).1.healthy = true ↔
      e.state = .running ∧ ∀ t ∈ e.publishers, t.publisher.status.halted = false := by
  have told : (e.health host).1.healthy = (e.isRunning &&
      ((e.health host).1.sources.map (·.halted)).all (!·)) := by
    rw [List.all_map]
    rfl
  have halted : (∀ source ∈ e.settings.sources.all, (e.statusOf source).halted = false) ↔
      ∀ t ∈ e.publishers, t.publisher.status.halted = false := by
    rcases h.sources with none | ⟨all, distinct⟩
    · simp [none, statusOf, PublisherStatus.fresh]
    · rw [← all] at distinct ⊢
      rw [List.forall_mem_map]
      exact forall₂_congr fun t mem => by rw [statusOf_of_mem distinct mem]
  rw [told, health_sources, ← halted]
  simp [isRunning]

end Engine

end RegistryFeed
