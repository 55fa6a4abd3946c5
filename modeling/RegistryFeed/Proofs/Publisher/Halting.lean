import RegistryFeed.Proofs.Publisher.Accounting

/-!
# When a publisher halts

A version once in the store is never taken out, so a publisher that goes on after a
halt, for it sees a chain, is not told again that there is none: a tick that begins
halted and comes to a halt has never had a generator. Every other tick that comes to
a halt has looked into the store and found no version.
-/

namespace RegistryFeed

open Generation

namespace LivePublisher

open Publisher

variable {s : LivePublisher} {source : Source} {es : List Event}

namespace Sound

/-- A publisher is halted after a tick exactly if the tick comes to a halt. If it was halted before,
such a tick is over before any generator begins. -/
theorem step_done (sound : s.Sound source) (e : Event) :
    (s.step e).done = s.done ∨
      ∃ d, (s.step e).done = s.done ++ [d] ∧ ∀ outcome, d.answer = .ticked outcome →
        ((s.step e).publisher.status.halted = true ↔ outcome = .halted) ∧
        (outcome = .halted → d.halted = true →
          s.call = none ∧ (s.step e).shared = s.shared ∧ (s.step e).call = none) := by
  cases e with
  | bootstrap session | turn | fail error | world e =>
    simp only [LivePublisher.step]
    split
    next => exact .inl rfl
    next => exact .inl rfl
  | resume => exact .inl rfl
  | tick fails =>
    simp only [LivePublisher.step]
    split
    next => exact .inl rfl
    next idle =>
      have idle : s.call = none := by simpa using idle
      cases halted : s.publisher.status.halted with
      | false =>
        rw [tick_of_running halted]
        exact .inl rfl
      | true =>
        by_cases sees : (!fails && s.publisher.seesChain s.shared.site) = true
        · obtain ⟨reads, chain⟩ := Bool.and_eq_true_iff.mp sees
          obtain rfl : fails = false := by simpa using reads
          rw [tick_of_seesChain halted chain]
          exact .inl rfl
        · rw [tick_of_blind halted sees]
          refine .inr ⟨_, rfl, fun outcome answer => ?_⟩
          obtain rfl := Answer.ticked.inj answer
          exact ⟨iff_of_true halted rfl, fun _ _ => ⟨idle, rfl, idle⟩⟩
  | finish =>
    simp only [LivePublisher.step]
    split
    next c g own =>
      split
      next result phase =>
        obtain ⟨p, answer, finished, concluded, -⟩ := sound.finish_eq own phase
        obtain ⟨-, -, running, resumed⟩ := sound.call c (own?_eq_some own).1
        rw [finished]
        refine .inr ⟨_, rfl, fun outcome same => ?_⟩
        obtain rfl : answer = .ticked outcome := same
        refine ⟨concluded.halted_iff (running concluded.ticks), ?_⟩
        -- one that began halted has seen a version, which no one has taken out since
        rintro rfl halted
        rcases concluded.fits.vacant rfl with vacant | ⟨-, unread⟩
        · exact absurd vacant (resumed concluded.ticks halted).2
        · cases unread
      next => exact .inl rfl
    next => exact .inl rfl

/-- A halted publisher goes on as soon as it can read a chain that is there. -/
theorem tick_goes_on (sound : s.Sound source) (idle : s.call = none)
    (halted : s.publisher.status.halted = true)
    (present : s.shared.site.store.versionsOf source ≠ [])
    (reads : s.publisher.readsChain s.shared.site = true) :
    (s.step (.tick false)).publisher.status.halted = false ∧
      (s.step (.tick false)).done = s.done ∧
      ∃ c, (s.step (.tick false)).call = some c ∧ c.attempt = .tick ∧ c.halted = true := by
  have sees : s.publisher.seesChain s.shared.site = true := by
    rw [readsChain] at reads
    rw [seesChain]
    cases found : s.shared.site.store.findLast s.publisher.source with
    | error e => simp [found] at reads
    | ok latest =>
      cases latest with
      | none =>
        rw [sound.own] at found
        exact absurd (Store.versionsOf_eq_nil found) present
      | some v => rfl
  have stepped : s.step (.tick false) = (s.step .resume).begin .tick true .delta "" := by
    rw [← tick_of_seesChain halted sees]
    simp [LivePublisher.step, idle]
  rw [stepped]
  exact ⟨rfl, rfl, _, rfl, rfl, rfl⟩

end Sound

/-- What an event does to the site is what some event of the site does, if it does anything. -/
theorem step_shared (s : LivePublisher) (e : Event) :
    (s.step e).shared = s.shared ∨ ∃ f, (s.step e).shared = s.shared.step f := by
  have begun (p : Publisher) (attempt : Attempt) (halted : Bool) (kind : DocumentKind)
      (session : String) :
      ∃ f, ({ s with publisher := p }.begin attempt halted kind session).shared =
        s.shared.step f := ⟨.begin kind _ _ _ session, rfl⟩
  cases e with
  | bootstrap session =>
    simp only [step]
    split
    next => exact .inl rfl
    next => exact .inr (begun s.publisher _ _ _ _)
  | tick fails =>
    simp only [step, tick]
    split
    next => exact .inl rfl
    next =>
      split
      next =>
        split
        next => exact .inr (begun _ _ _ _ _)
        next => exact .inl rfl
      next => exact .inr (begun s.publisher _ _ _ _)
  | turn =>
    simp only [step]
    split
    next c _ _ => exact .inr ⟨.turn c.worker, rfl⟩
    next => exact .inl rfl
  | fail error =>
    simp only [step]
    split
    next c _ _ => exact .inr ⟨.fail c.worker error, rfl⟩
    next => exact .inl rfl
  | finish =>
    simp only [step]
    split
    next =>
      split
      next => exact .inl rfl
      next => exact .inl rfl
    next => exact .inl rfl
  | resume => exact .inl rfl
  | world e =>
    simp only [step]
    split
    next => exact .inl rfl
    next => exact .inr ⟨e, rfl⟩

theorem versions_grow_of_run (s : LivePublisher) (es : List Event) :
    s.shared.site.store.versions <+: (s.run es).shared.site.store.versions := by
  induction es generalizing s with
  | nil => exact List.prefix_rfl
  | cons e es ih =>
    refine List.IsPrefix.trans ?_ (ih (s.step e))
    rcases step_shared s e with same | ⟨f, moved⟩
    · exact same ▸ List.prefix_rfl
    · rw [moved]
      exact SharedSite.versions_grow s.shared f

theorem run_append (s : LivePublisher) (es more : List Event) :
    s.run (es ++ more) = (s.run es).run more := List.foldl_append

theorem sound_create {source : Source} (filter : PublicationFilter) (settings : GenerationSettings)
    {shared : SharedSite} (numbered : shared.Numbered source) :
    (create (.create source filter settings) shared).Sound source where
  own := rfl
  fits := by simp [create]
  stored := by simp [create]
  last := rfl
  numbered := numbered
  call := by simp [create]

/-- The attempts of a publisher, bootstraps and ticks, on a site that others use at any time, also
between the steps of an attempt. Every attempt puts into the store exactly the version that it says
it has published, and the latest such version is the one that the status tells. A tick comes to a
halt only where no version was found, or where a halted publisher could not read the chain; if the
publisher was halted already, it is over before any generator begins. The publisher is halted after
a tick exactly if the tick came to a halt. Once a version has been published by anyone, a halted
publisher goes on with the first tick that can read the chain. -/
theorem halting_of_run {source : Source} (filter : PublicationFilter)
    (settings : GenerationSettings) {shared : SharedSite} (numbered : shared.Numbered source)
    {es : List Event} (honest : ∀ e ∈ es, e.Honest) :
    let start := create (.create source filter settings) shared
    (∀ d ∈ (start.run es).done,
      d.Fits source ∧ d.added ⊆ (start.run es).shared.site.store.versions) ∧
    (start.run es).publisher.status.lastPublished? =
      ((start.run es).done.filterMap (·.answer.version?)).getLast? ∧
    ∀ before e after, es = before ++ e :: after →
      let s := start.run before
      let t := s.step e
      (t.done = s.done ∨ ∃ d, t.done = s.done ++ [d] ∧
        ∀ outcome, d.answer = .ticked outcome →
          (t.publisher.status.halted = true ↔ outcome = .halted) ∧
          (outcome = .halted → d.halted = true →
            s.call = none ∧ t.shared = s.shared ∧ t.call = none)) ∧
      ∀ past rest, before = past ++ rest →
        (start.run past).shared.site.store.versionsOf source ≠ [] →
        e = .tick false → s.call = none → s.publisher.status.halted = true →
        s.publisher.readsChain s.shared.site = true →
        t.publisher.status.halted = false ∧ t.done = s.done ∧
          ∃ c, t.call = some c ∧ c.attempt = .tick ∧ c.halted = true := by
  intro start
  have begun : start.Sound source := sound_create filter settings numbered
  have sound := begun.run honest
  refine ⟨fun d hd => ⟨sound.fits d hd, sound.stored d hd⟩, sound.last, ?_⟩
  rintro before e after rfl s t
  have here : s.Sound source :=
    begun.run fun f hf => honest f (List.mem_append_left _ hf)
  refine ⟨here.step_done e, ?_⟩
  rintro past rest rfl present rfl idle halted reads
  have kept := versions_grow_of_run (start.run past) rest
  rw [← run_append] at kept
  exact here.tick_goes_on idle halted (chain_grows kept present) reads

/-- A publisher comes to a halt, and stays halted while the store cannot be asked; then someone else
publishes the snapshot, and a change is made. -/
def haltedMeanwhile : List Event :=
  let record (payload : String) : Event :=
    .world (.append registry none .update "route" "k" (some payload))
  [.tick false, .turn, .turn, .turn, .finish, .tick true, record "p",
    .world (.begin .snapshot registry .default .default "s"), .world (.turn 1), .world (.turn 1),
    .world (.turn 1), .world (.turn 1), .world (.turn 1), record "q"]

def publishedAfterwards : List Event := [.turn, .turn, .turn, .turn, .turn, .finish]

def onBlank : LivePublisher := create (.create registry .default .default) ⟨.blank, []⟩

theorem halting_of_haltedMeanwhile :
    let es := haltedMeanwhile ++ .tick false :: publishedAfterwards
    (⟨.blank, []⟩ : SharedSite).Numbered registry ∧ (∀ e ∈ es, e.Honest) ∧
      (onBlank.run haltedMeanwhile).publisher.status.halted = true ∧
      ((onBlank.run haltedMeanwhile).step (.tick false)).publisher.status.halted = false ∧
      (onBlank.run es).done.map (·.answer) =
        [.ticked .halted, .ticked .halted, .ticked (.published 2)] ∧
      (onBlank.run es).publisher.status.lastPublished? = some 2 := by
  intro es
  have numbered : (⟨.blank, []⟩ : SharedSite).Numbered registry := by
    refine ⟨fun r hr => ?_, by simp⟩
    cases hr
  have honest : ∀ e ∈ es, e.Honest := by
    rintro e he error rfl
    simp [es, haltedMeanwhile, publishedAfterwards] at he
  have halted : (onBlank.run haltedMeanwhile).publisher.status.halted = true := by decide +kernel
  have idle : (onBlank.run haltedMeanwhile).call.isNone = true := by decide +kernel
  have present : (onBlank.run haltedMeanwhile).shared.site.store.versionsOf registry ≠ [] := by
    decide +kernel
  have answers : (onBlank.run es).done.map (·.answer) =
      [.ticked .halted, .ticked .halted, .ticked (.published 2)] := by decide +kernel
  have general := halting_of_run .default .default numbered honest
  rw [show create (.create registry .default .default) ⟨.blank, []⟩ = onBlank from rfl] at general
  obtain ⟨-, last, steps⟩ := general
  obtain ⟨-, resumes⟩ := steps haltedMeanwhile (.tick false) publishedAfterwards rfl
  obtain ⟨goesOn, -, -⟩ := resumes haltedMeanwhile [] (List.append_nil _).symm present rfl
    (Option.isNone_iff_eq_none.mp idle) halted (by decide +kernel)
  refine ⟨numbered, honest, halted, goesOn, answers, ?_⟩
  rw [last, ← Function.comp_def, ← List.filterMap_map, answers]
  rfl

end LivePublisher

end RegistryFeed
