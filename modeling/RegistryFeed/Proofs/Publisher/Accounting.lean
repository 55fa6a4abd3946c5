import RegistryFeed.Proofs.Publisher.Attempts

/-!
# What the attempts of a publisher come to

An invariant of a publisher on a shared site: every attempt that is over fits what
was seen of the chain and what was put into the store, and the attempt under way
will. Nothing is assumed about what others do, also between the steps of an attempt.
What fails from outside is only taken not to be the lack of a snapshot.
-/

namespace RegistryFeed

open Generation

namespace Publisher

variable {p : Publisher} {c : Ongoing} {g : Generation} {source : Source}

/-- What an attempt comes to, and what becomes of the status. -/
inductive Concluded (source : Source) (c : Ongoing) (s : PublisherStatus) :
    Answer → PublisherStatus → Prop
  | bootstrapped {v : VersionInfo} (attempt : c.attempt = .bootstrap) (own : v.source = source)
      (counts : 0 < v.version) (added : c.added = [v.row]) :
      Concluded source c s (.bootstrapped (some v.version)) (s.recordSuccess (some v.version))
  | chained (attempt : c.attempt = .bootstrap) (added : c.added = []) :
      Concluded source c s (.bootstrapped none) s
  | published {v : VersionInfo} (attempt : c.attempt = .tick) (own : v.source = source)
      (counts : 0 < v.version) (added : c.added = [v.row]) :
      Concluded source c s (.ticked (.published v.version)) (s.recordSuccess (some v.version))
  | nothingNew (attempt : c.attempt = .tick) (added : c.added = []) :
      Concluded source c s (.ticked .nothingNew) (s.recordSuccess none)
  | halted (attempt : c.attempt = .tick) (added : c.added = []) (vacant : c.seen = some []) :
      Concluded source c s (.ticked .halted) s.halt
  | failed (attempt : c.attempt = .tick) (added : c.added = []) :
      Concluded source c s (.ticked .failed) s.recordFailure.2

theorem attempted_of_outside {error : EngineError} (outside : error.Outside) (p : Publisher)
    (site : Site) : attempted (.error error, p, site) =
      (.failed, { p.failed error with status := p.status.recordFailure.2 }, site) := by
  cases error with
  | noSnapshot name => exact absurd rfl (outside name)
  | _ => rfl

/-- A bootstrap that fails leaves the status as it is. -/
theorem bootstrapped_of_error (error : EngineError) (p : Publisher) (site : Site) :
    (bootstrapped (.error error, p, site)).1.status = p.status ∧
      (bootstrapped (.error error, p, site)).1.source = p.source := by
  cases error with
  | snapshotExists => exact ⟨rfl, rfl⟩
  | _ => exact ⟨rfl, rfl⟩

theorem conclude_concluded {result : GenerationResult} (phase : g.phase = .ended result)
    (told : Told source c.seen c.added result) (p : Publisher) (site : Site) :
    ∃ answer, (p.conclude c g site).2 = ⟨answer, c.halted, false, c.seen, c.added⟩ ∧
      Concluded source c p.status answer (p.conclude c g site).1.status ∧
      (p.conclude c g site).1.source = p.source := by
  have answer : g.result = result := by simp only [Generation.result, phase]
  cases attempt : c.attempt with
  | bootstrap =>
    simp only [conclude, takeOver, answer, attempt]
    generalize seen : c.seen = rows at told
    generalize made : c.added = added at told
    cases told with
    | document own counts => exact ⟨_, rfl, .bootstrapped attempt own counts made, rfl⟩
    | nothing => exact ⟨_, rfl, .chained attempt made, rfl⟩
    | @error e vacant =>
      obtain ⟨status, source⟩ := bootstrapped_of_error e (p.observe g.observed) site
      refine ⟨_, rfl, ?_, source⟩
      rw [status]
      exact .chained attempt made
  | tick =>
    simp only [conclude, takeOver, answer, attempt]
    generalize seen : c.seen = rows at told
    generalize made : c.added = added at told
    cases told with
    | document own counts => exact ⟨_, rfl, .published attempt own counts made, rfl⟩
    | nothing => exact ⟨_, rfl, .nothingNew attempt made, rfl⟩
    | @error e vacant =>
      by_cases outside : e.Outside
      · rw [attempted_of_outside outside]
        exact ⟨_, rfl, .failed attempt made, rfl⟩
      · obtain ⟨name, same⟩ := not_forall.mp outside
        rw [not_not] at same
        subst same
        exact ⟨_, rfl, .halted attempt made (seen.trans (vacant name rfl)), rfl⟩

/-- What can be said of an attempt that is over: it has added a version exactly if it has published
one, and it halts only for want of a version or while the chain cannot be read. -/
structure Done.Fits (source : Source) (d : Done) : Prop where
  added : d.added.map (·.version) = d.answer.version?.toList
  own : ∀ r ∈ d.added, r.source = source
  vacant : d.answer = .ticked .halted → d.seen = some [] ∨ d.halted = true ∧ d.unread = true

namespace Concluded

variable {s t : PublisherStatus} {a : Answer}

theorem fits (h : Concluded source c s a t) :
    Done.Fits source ⟨a, c.halted, false, c.seen, c.added⟩ := by
  cases h with
  | bootstrapped _ own _ added | published _ own _ added =>
    refine ⟨?_, ?_, by simp⟩
    · simp only [added]
      rfl
    · simp only [added, List.mem_singleton]
      rintro r rfl
      exact own
  | halted _ added vacant =>
    exact ⟨by simp [added, Answer.version?], by simp [added], fun _ => .inl vacant⟩
  | chained _ added | nothingNew _ added | failed _ added =>
    exact ⟨by simp [added, Answer.version?], by simp [added], by simp⟩

/-- A version that is published is told, since none is numbered zero. -/
theorem lastPublished (h : Concluded source c s a t) :
    t.lastPublished? = a.version?.or s.lastPublished? := by
  cases h with
  | bootstrapped _ _ counts | published _ _ counts => exact if_neg (Int.ne_of_gt counts)
  | chained | nothingNew | halted | failed => rfl

theorem ticks {outcome : TickOutcome} (h : Concluded source c s (.ticked outcome) t) :
    c.attempt = .tick := by
  cases h with
  | published attempt | nothingNew attempt | halted attempt | failed attempt => exact attempt

theorem halted_iff {outcome : TickOutcome} (h : Concluded source c s (.ticked outcome) t)
    (running : s.halted = false) : t.halted = true ↔ outcome = .halted := by
  cases h with
  | halted => exact iff_of_true rfl rfl
  | published | nothingNew | failed =>
    refine iff_of_false ?_ (by simp)
    simp [PublisherStatus.recordSuccess, PublisherStatus.recordFailure, running]

end Concluded

/-- A look at a store that has a version of the source does not find that there is none. -/
theorem Ongoing.turned_sees (c : Ongoing) {a b : Store} (seen : c.seen ≠ some [])
    (present : a.versionsOf g.source ≠ []) : (c.turned g a b).seen ≠ some [] := by
  simp only [Ongoing.turned]
  split
  next => simpa using present
  next => exact seen

theorem Ongoing.turned_stored (c : Ongoing) {a b : Store} (grown : a.versions <+: b.versions)
    (stored : c.added ⊆ a.versions) : (c.turned g a b).added ⊆ b.versions :=
  List.append_subset.mpr
    ⟨List.Subset.trans stored grown.subset, List.drop_subset a.versions.length b.versions⟩

end Publisher

namespace LivePublisher

open Publisher

variable {s t : LivePublisher} {source : Source} {e : Event} {es : List Event}

/-- An attempt under way, and how far its generator has come. A tick that went on after a halt has
seen a chain, and will see one. -/
structure Underway (source : Source) (s : LivePublisher) (c : Ongoing) : Prop where
  generator : ∃ w, s.shared.workers[c.worker]? = some w ∧ w.generation.source = source ∧
    Reached source c.seen c.added w.generation.phase
  stored : c.added ⊆ s.shared.site.store.versions
  running : c.attempt = .tick → s.publisher.status.halted = false
  resumed : c.attempt = .tick → c.halted = true →
    s.shared.site.store.versionsOf source ≠ [] ∧ c.seen ≠ some []

/-- The failures of the attempt come from the store, the log or the lock. -/
def Event.Honest (e : Event) : Prop := ∀ error, e = .fail error → error.Outside

structure Sound (source : Source) (s : LivePublisher) : Prop where
  own : s.publisher.source = source
  fits : ∀ d ∈ s.done, d.Fits source
  stored : ∀ d ∈ s.done, d.added ⊆ s.shared.site.store.versions
  last : s.publisher.status.lastPublished? = (s.done.filterMap (·.answer.version?)).getLast?
  numbered : s.shared.Numbered source
  call : ∀ c, s.call = some c → s.Underway source c

theorem chain_grows {source : Source} {a b : Store} (grown : a.versions <+: b.versions)
    (present : a.versionsOf source ≠ []) : b.versionsOf source ≠ [] := by
  intro none
  apply present
  rw [List.eq_nil_iff_forall_not_mem] at none ⊢
  intro r hr
  obtain ⟨mem, own⟩ := List.mem_filter.mp hr
  exact none r (List.mem_filter.mpr ⟨grown.subset mem, own⟩)

theorem told_of_ended {seen : Option (List VersionRow)} {added : List VersionRow}
    {result : GenerationResult} (reached : Reached source seen added (.ended result)) :
    Told source seen added result := by
  cases reached with
  | ended told => exact told

theorem own?_eq_some {c : Ongoing} {g : Generation} (h : s.own? = some (c, g)) :
    s.call = some c ∧ ∃ w, s.shared.workers[c.worker]? = some w ∧ w.generation = g := by
  obtain ⟨d, call, h⟩ := Option.bind_eq_some_iff.mp h
  obtain ⟨w, here, same⟩ := Option.bind_eq_some_iff.mp h
  obtain ⟨rfl, rfl⟩ := Prod.mk.inj (Option.some.inj same)
  exact ⟨call, w, here, rfl⟩

theorem latest_concat (done : List Done) (d : Done) :
    ((done ++ [d]).filterMap (·.answer.version?)).getLast? =
      d.answer.version?.or (done.filterMap (·.answer.version?)).getLast? := by
  rw [List.filterMap_append, List.getLast?_append]
  cases version : d.answer.version? with
  | none => simp [version]
  | some v => simp [version]

namespace Sound

/-- An event on the site leaves what is over as it is. -/
theorem moved (sound : s.Sound source) (e : SharedSite.Event) {call : Option Ongoing}
    (underway : ∀ c, call = some c →
      Underway source ⟨s.publisher, s.shared.step e, call, s.done⟩ c) :
    Sound source ⟨s.publisher, s.shared.step e, call, s.done⟩ where
  own := sound.own
  fits := sound.fits
  stored d hd :=
    List.Subset.trans (sound.stored d hd) (SharedSite.versions_grow s.shared e).subset
  last := sound.last
  numbered := sound.numbered.step e
  call := underway

/-- One more attempt is over. -/
theorem ended (sound : s.Sound source) {p : Publisher} {d : Done} (own : p.source = source)
    (fits : d.Fits source) (stored : d.added ⊆ s.shared.site.store.versions)
    (last : p.status.lastPublished? =
      d.answer.version?.or s.publisher.status.lastPublished?) :
    Sound source ⟨p, s.shared, none, s.done ++ [d]⟩ where
  own := own
  fits := List.forall_mem_append.mpr ⟨sound.fits, List.forall_mem_singleton.mpr fits⟩
  stored := List.forall_mem_append.mpr ⟨sound.stored, List.forall_mem_singleton.mpr stored⟩
  last := by rw [last, sound.last, latest_concat]
  numbered := sound.numbered
  call := by simp

theorem begin (sound : s.Sound source) (attempt : Attempt) (halted : Bool) (kind : DocumentKind)
    (session : String) (running : attempt = .tick → s.publisher.status.halted = false)
    (chained : attempt = .tick → halted = true → s.shared.site.store.versionsOf source ≠ []) :
    (s.begin attempt halted kind session).Sound source := by
  refine sound.moved _ fun c began => ?_
  obtain rfl := Option.some.inj began
  refine ⟨⟨_, List.getElem?_concat_length, sound.own, ?_⟩, List.nil_subset _, running,
    fun ticks resumed => ⟨chained ticks resumed, by simp⟩⟩
  exact .locking (by simp [LockWait.create])

theorem resume (sound : s.Sound source) : (s.step .resume).Sound source where
  own := sound.own
  fits := sound.fits
  stored := sound.stored
  last := sound.last
  numbered := sound.numbered
  call c call :=
    have underway := sound.call c call
    ⟨underway.generator, underway.stored, fun _ => rfl, underway.resumed⟩

end Sound

theorem versionsOf_of_seesChain {p : Publisher} {site : Site} (sees : p.seesChain site = true) :
    site.store.versionsOf p.source ≠ [] := by
  rw [seesChain] at sees
  split at sees
  · next v found =>
    obtain ⟨mem, own⟩ := Store.mem_of_findLast found
    exact List.ne_nil_of_mem (List.mem_filter.mpr ⟨mem, decide_eq_true own⟩)
  · cases sees

/-- A halted publisher that does not go on has found no version, or could not read the chain. -/
theorem blind_cases {p : Publisher} {site : Site} {fails : Bool}
    (blind : ¬ (!fails && p.seesChain site) = true) :
    site.store.versionsOf p.source = [] ∨ (fails || !p.readsChain site) = true := by
  cases fails with
  | true => exact .inr rfl
  | false =>
    rw [readsChain]
    rw [seesChain] at blind
    cases found : site.store.findLast p.source with
    | error e => exact .inr rfl
    | ok latest =>
      cases latest with
      | none => exact .inl (Store.versionsOf_eq_nil found)
      | some v => simp [found] at blind

/-- An attempt that is over at once, since a halted publisher sees no chain. -/
theorem tick_of_blind {fails : Bool} (halted : s.publisher.status.halted = true)
    (blind : ¬ (!fails && s.publisher.seesChain s.shared.site) = true) :
    s.tick fails =
      { s with
        done := s.done ++
          [⟨.ticked .halted, true, fails || !s.publisher.readsChain s.shared.site,
            some (s.shared.site.store.versionsOf s.publisher.source), []⟩] } := by
  rw [LivePublisher.tick, if_pos halted, if_neg blind]

theorem tick_of_seesChain (halted : s.publisher.status.halted = true)
    (sees : s.publisher.seesChain s.shared.site = true) :
    s.tick false = (s.step .resume).begin .tick true .delta "" := by
  rw [LivePublisher.tick, if_pos halted, if_pos (by simpa using sees)]
  rfl

theorem tick_of_running (running : s.publisher.status.halted = false) (fails : Bool) :
    s.tick fails = s.begin .tick false .delta "" := by
  rw [LivePublisher.tick, if_neg (by simp [running])]

namespace Sound

theorem tick (sound : s.Sound source) (idle : s.call = none) (fails : Bool) :
    (s.tick fails).Sound source := by
  cases halted : s.publisher.status.halted with
  | false =>
    rw [tick_of_running halted]
    exact sound.begin .tick false .delta "" (fun _ => halted) (by simp)
  | true =>
    by_cases sees : (!fails && s.publisher.seesChain s.shared.site) = true
    · obtain ⟨reads, chain⟩ := Bool.and_eq_true_iff.mp sees
      obtain rfl : fails = false := by simpa using reads
      rw [tick_of_seesChain halted chain]
      have chained := versionsOf_of_seesChain chain
      rw [sound.own] at chained
      exact sound.resume.begin .tick true .delta "" (fun _ => rfl) (fun _ _ => chained)
    · rw [tick_of_blind halted sees, idle]
      refine sound.ended sound.own ⟨rfl, by simp, fun _ => ?_⟩ (List.nil_subset _) rfl
      rcases blind_cases sees with vacant | unread
      · exact .inl (congrArg some vacant)
      · exact .inr ⟨rfl, unread⟩

/-- An attempt whose generator has ended comes to what the generator says. -/
theorem finish_eq (sound : s.Sound source) {c : Ongoing} {g : Generation}
    {result : GenerationResult} (own : s.own? = some (c, g)) (phase : g.phase = .ended result) :
    ∃ p answer, s.finish c g =
        ⟨p, s.shared, none, s.done ++ [⟨answer, c.halted, false, c.seen, c.added⟩]⟩ ∧
      Concluded source c s.publisher.status answer p.status ∧ p.source = source := by
  obtain ⟨call, w, here, rfl⟩ := own?_eq_some own
  obtain ⟨v, there, -, reached⟩ := (sound.call c call).generator
  obtain rfl : w = v := Option.some.inj (here.symm.trans there)
  rw [phase] at reached
  obtain ⟨answer, done, concluded, kept⟩ :=
    conclude_concluded phase (told_of_ended reached) s.publisher s.shared.site
  refine ⟨_, answer, ?_, concluded, kept.trans sound.own⟩
  rw [← done]
  rfl

theorem finish (sound : s.Sound source) {c : Ongoing} {g : Generation} {result : GenerationResult}
    (own : s.own? = some (c, g)) (phase : g.phase = .ended result) :
    (s.finish c g).Sound source := by
  obtain ⟨p, answer, finished, concluded, ofSource⟩ := sound.finish_eq own phase
  rw [finished]
  exact sound.ended ofSource concluded.fits (sound.call c (own?_eq_some own).1).stored
    concluded.lastPublished

theorem turn (sound : s.Sound source) : (s.step .turn).Sound source := by
  simp only [step]
  split
  next c g own =>
    obtain ⟨call, w, here, rfl⟩ := own?_eq_some own
    obtain ⟨⟨v, there, ofSource, reached⟩, stored, running, resumed⟩ := sound.call c call
    obtain rfl : w = v := Option.some.inj (here.symm.trans there)
    refine sound.moved (.turn c.worker) fun d same => ?_
    obtain rfl := Option.some.inj same
    rw [SharedSite.step_turn here]
    have counts := sound.numbered.previous w (List.mem_of_getElem? here)
    have grown := (SharedSite.takeTurn_move s.shared.site w).versions_grow
    refine ⟨⟨_, SharedSite.getElem?_set here _,
      (SharedSite.takeTurn_sameTask s.shared.site w).source.trans ofSource,
      SharedSite.takeTurn_reached ofSource counts reached⟩, c.turned_stored grown stored,
      running, ?_⟩
    intro ticks halted
    obtain ⟨present, seen⟩ := resumed ticks halted
    exact ⟨chain_grows grown present, c.turned_sees seen (by rw [ofSource]; exact present)⟩
  next => exact sound

theorem fail (sound : s.Sound source) {error : EngineError} (outside : error.Outside) :
    (s.step (.fail error)).Sound source := by
  simp only [step]
  split
  next c g own =>
    obtain ⟨call, w, here, rfl⟩ := own?_eq_some own
    obtain ⟨⟨v, there, ofSource, reached⟩, stored, running, resumed⟩ := sound.call c call
    obtain rfl : w = v := Option.some.inj (here.symm.trans there)
    refine sound.moved (.fail c.worker error) fun d same => ?_
    obtain rfl : c = d := Option.some.inj (call.symm.trans same)
    rw [SharedSite.step_fail here]
    exact ⟨⟨_, SharedSite.getElem?_set here _,
      (SharedSite.failTurn_sameTask s.shared.site w error).source.trans ofSource,
      SharedSite.failTurn_reached outside reached⟩, stored, running, resumed⟩
  next => exact sound

theorem world (sound : s.Sound source) (e : SharedSite.Event) :
    (s.step (.world e)).Sound source := by
  simp only [step]
  split
  next => exact sound
  next other =>
    refine sound.moved e fun c call => ?_
    obtain ⟨⟨w, here, ofSource, reached⟩, stored, running, resumed⟩ := sound.call c call
    -- the generator of the attempt is no one else's to move
    have foreign : ¬ e.Of c.worker := by
      intro own
      cases own with
      | turn | fail => exact other (by simp [SharedSite.Event.worker?, call])
    have grown := SharedSite.versions_grow s.shared e
    refine ⟨⟨w, SharedSite.step_other here foreign, ofSource, reached⟩,
      List.Subset.trans stored grown.subset, running, ?_⟩
    intro ticks halted
    obtain ⟨present, seen⟩ := resumed ticks halted
    exact ⟨chain_grows grown present, seen⟩

theorem step (sound : s.Sound source) (honest : e.Honest) : (s.step e).Sound source := by
  cases e with
  | bootstrap session =>
    simp only [LivePublisher.step]
    split
    next => exact sound
    next => exact sound.begin .bootstrap _ .snapshot session (by simp) (by simp)
  | tick fails =>
    simp only [LivePublisher.step]
    split
    next => exact sound
    next idle => exact sound.tick (by simpa using idle) fails
  | turn => exact sound.turn
  | fail error => exact sound.fail (honest error rfl)
  | finish =>
    simp only [LivePublisher.step]
    split
    next c g own =>
      split
      next result phase => exact sound.finish own phase
      next => exact sound
    next => exact sound
  | resume => exact sound.resume
  | world e => exact sound.world e

theorem run (sound : s.Sound source) (honest : ∀ e ∈ es, e.Honest) : (s.run es).Sound source := by
  induction es generalizing s with
  | nil => exact sound
  | cons e es ih =>
    obtain ⟨first, rest⟩ := List.forall_mem_cons.mp honest
    exact ih (sound.step first) rest

end Sound

end LivePublisher

end RegistryFeed
