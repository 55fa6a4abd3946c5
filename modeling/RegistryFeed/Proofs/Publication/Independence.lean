import RegistryFeed.Proofs.Publication.Interleaving
import RegistryFeed.Proofs.Publication.SideBySide

/-!
# Sources do not interfere

Whatever programs do with the sources of one site, each source fares as if it were
alone: the calls on it are answered as in the run of just these calls, and what the
store has of it is the same, up to the numbers of the rows, the owners of the leases
and the identifiers of the sessions. A call on another source changes nothing that
belongs to this one. Nothing is assumed about the names of the sources or about the
order of the calls, and any generator may fail or halt at any step. The store has to
be without publications and leases at first.
-/

namespace RegistryFeed

/-- What is under way at the desk of a source belongs to that source. -/
structure Desk.Of (source : Source) (d : Desk) : Prop where
  workers : ∀ w ∈ d.workers, w.generation.Of source
  leases : ∀ l, .tried (.ok (some l)) ∈ d.answers → l.name = source.lockName

namespace Desk

variable {source other : Source} {d e : Desk} {site a b : Site}

/-! ## What one call does -/

/-- The calls on a source, with its desk and the site after each; a call on a generator or a lease
that is not there changes nothing. -/
inductive Serves (source : Source) (d : Desk) (site : Site) : Desk → Site → Prop
  | appended (operation : Operation) (objectType primaryKey : String) (payload : Option String)
      (now : Int) (entry : Entry) :
      Serves source d site (d.tell (.appended entry))
        { site with
          store := (site.store.append source operation objectType primaryKey payload now).2 }
  | begun {w : Worker} (own : w.generation.Of source) :
      Serves source d site { d with workers := d.workers ++ [w] } site
  | moved {w x : Worker} {t : Site} (mem : w ∈ d.workers) (i : Nat)
      (turn : Generation.Turn site w.generation x.generation t) :
      Serves source d site { d with workers := d.workers.set i x } t
  | failed {w : Worker} (mem : w ∈ d.workers) (i : Nat) (error : EngineError) :
      Serves source d site
        { d with workers := d.workers.set i (SharedSite.failTurn site w error) } site
  | tried (ttl : Span) :
      Serves source d site (d.tell (.tried (site.tryLock source.lockName ttl).1))
        (site.tryLock source.lockName ttl).2
  | returned {lease : Lease} (mem : .tried (.ok (some lease)) ∈ d.answers) :
      Serves source d site (d.tell .returned) (site.releaseLock lease)
  | shown (holder : Option Lease) : Serves source d site (d.tell (.shown holder)) site
  | idle : Serves source d site d site

theorem serves (source : Source) (d : Desk) (site : Site) (c : SourceCall) :
    Serves source d site (d.serve source site c).1 (d.serve source site c).2 := by
  cases c with
  | append operation objectType primaryKey payload => exact .appended _ _ _ _ _ _
  | begin kind filter settings session =>
    exact .begun (Generation.Of.create kind source filter settings session)
  | turn worker =>
    unfold serve
    dsimp only
    split
    · next w found =>
      exact .moved (List.mem_of_getElem? found) worker (SharedSite.takeTurn_turn site w)
    · exact .idle
  | fail worker error =>
    unfold serve
    dsimp only
    split
    · next w found => exact .failed (List.mem_of_getElem? found) worker error
    · exact .idle
  | acquire ttl => exact .tried ttl
  | giveBack answer =>
    unfold serve
    dsimp only
    split
    · next lease found => exact .returned (List.mem_of_getElem? found)
    · exact .idle
  | lookUp => exact .shown _

theorem Of.tell (own : d.Of source) {answer : SourceAnswer}
    (lease : ∀ l, answer = .tried (.ok (some l)) → l.name = source.lockName) :
    (d.tell answer).Of source := by
  refine ⟨own.workers, ?_⟩
  intro l mem
  rcases List.mem_append.mp mem with old | new
  · exact own.leases l old
  · exact lease l (List.mem_singleton.mp new).symm

theorem Of.set (own : d.Of source) {x : Worker} (worker : x.generation.Of source) (i : Nat) :
    Of source { d with workers := d.workers.set i x } := by
  refine ⟨?_, own.leases⟩
  intro w mem
  rcases List.mem_or_eq_of_mem_set mem with old | rfl
  · exact own.workers w old
  · exact worker

variable {t : Site}

theorem Serves.of (serves : Serves source d site e t) (own : d.Of source) : e.Of source := by
  cases serves with
  | appended => exact own.tell (by simp)
  | begun worker =>
    refine ⟨?_, own.leases⟩
    intro w mem
    rcases List.mem_append.mp mem with old | new
    · exact own.workers w old
    · rw [List.mem_singleton.mp new]
      exact worker
  | moved mem i turn => exact own.set ((own.workers _ mem).turn turn) i
  | failed mem i error => exact own.set ((own.workers _ mem).failTurn site error) i
  | tried ttl =>
    refine own.tell fun l given => ?_
    rw [SourceAnswer.tried.injEq] at given
    exact Site.name_of_tryLock given
  | returned => exact own.tell (by simp)
  | shown => exact own.tell (by simp)
  | idle => exact own

theorem Serves.plain (serves : Serves source d site e t) (plain : site.Plain) : t.Plain := by
  cases serves with
  | appended => exact plain.append _ _ _ _ _ _
  | begun => exact plain
  | moved _ _ turn => exact plain.turn turn
  | failed => exact plain
  | tried ttl => exact plain.tryLock _ ttl
  | returned => exact plain.releaseLock _
  | shown => exact plain
  | idle => exact plain

theorem Serves.owners_le (serves : Serves source d site e t) (plain : site.Plain) :
    site.owners ≤ t.owners := by
  cases serves with
  | moved _ _ turn => exact turn.lease.leasing.owners
  | tried ttl =>
    rw [plain.tryLock_eq]
    exact Nat.le_succ _
  | @returned lease =>
    exact Nat.le_of_eq (congrArg Site.owners (plain.releaseLock_eq lease)).symm
  | appended | begun | failed | shown | idle => exact Nat.le_refl _

/-- A call on one source changes nothing of another. -/
theorem Serves.samePart (serves : Serves other d site e t) (own : d.Of other) (plain : site.Plain)
    (different : source ≠ other) : Site.SamePart source site t := by
  have locks : source.lockName ≠ other.lockName :=
    fun same => different (Source.lockName_injective same)
  cases serves with
  | appended =>
    refine ⟨rfl, rfl, ?_, rfl, rfl, rfl⟩
    rw [Store.rowsOf_append, if_neg different]
  | moved mem _ turn => exact plain.samePart_turn (own.workers _ mem) different turn
  | tried ttl => exact plain.samePart_tryLock locks ttl
  | returned mem => exact plain.samePart_releaseLock ((own.leases _ mem).symm ▸ locks)
  | begun | failed | shown | idle => exact .refl source site

/-! ## One call in two runs -/

variable {rename : String → String} {os : OwnerPairs}

theorem Alike.tell (alike : d.Alike rename os e) {x y : SourceAnswer} (answer : x.Alike os y) :
    (d.tell x).Alike rename os (e.tell y) :=
  ⟨alike.workers, List.rel_append alike.answers (.cons answer .nil)⟩

theorem Alike.set (alike : d.Alike rename os e) (i : Nat) {w x : Worker}
    (worker : w.Alike rename os x) :
    Alike rename os { d with workers := d.workers.set i w }
      { e with workers := e.workers.set i x } :=
  ⟨forall₂_set alike.workers i worker, alike.answers⟩

/-- A call on the source is answered alike at alike desks, and they stay alike. -/
theorem Alike.serve (alike : d.Alike rename os e) (own : d.Of source)
    (sites : a.Abreast rename os source b) (c : SourceCall) :
    ∃ more, os ⊆ more ∧
      (d.serve source a c).1.Alike rename more (e.serve source b (c.rename rename)).1 ∧
      (d.serve source a c).2.Abreast rename more source
        (e.serve source b (c.rename rename)).2 := by
  have sub := List.Subset.refl os
  have now := sites.epochMillis
  cases c with
  | append operation objectType primaryKey payload =>
    obtain ⟨same, sites⟩ := sites.append operation objectType primaryKey payload a.epochMillis
    refine ⟨os, sub, ?_, ?_⟩
    · simp only [SourceCall.rename, Desk.serve, now, same]
      exact alike.tell (.appended _)
    · simp only [SourceCall.rename, Desk.serve, now]
      exact sites
  | begin kind filter settings session =>
    refine ⟨os, sub, ⟨List.rel_append alike.workers (.cons ?_ .nil), alike.answers⟩, sites⟩
    rw [sites.clock]
    exact .intro _ (.create kind source filter settings session)
  | turn worker =>
    have found := forall₂_getElem? alike.workers worker
    simp only [SourceCall.rename, Desk.serve]
    cases here : d.workers[worker]? with
    | none =>
      rw [here] at found
      generalize e.workers[worker]? = x at found ⊢
      cases found
      exact ⟨os, sub, alike, sites⟩
    | some w =>
      rw [here] at found
      generalize e.workers[worker]? = x at found ⊢
      cases found with
      | some same =>
        obtain ⟨more, wider, moved, sites⟩ :=
          sites.takeTurn same (own.workers w (List.mem_of_getElem? here))
        exact ⟨more, wider, (alike.mono wider).set worker moved, sites⟩
  | fail worker error =>
    have found := forall₂_getElem? alike.workers worker
    simp only [SourceCall.rename, Desk.serve]
    generalize d.workers[worker]? = w at found ⊢
    generalize e.workers[worker]? = x at found ⊢
    cases found with
    | none => exact ⟨os, sub, alike, sites⟩
    | some same => exact ⟨os, sub, alike.set worker (same.failTurn sites.clock error), sites⟩
  | acquire ttl =>
    obtain ⟨more, wider, tried, sites⟩ := sites.tryLock ttl
    exact ⟨more, wider, (alike.mono wider).tell (.tried tried), sites⟩
  | giveBack answer =>
    have found := forall₂_getElem? alike.answers answer
    simp only [SourceCall.rename, Desk.serve]
    generalize d.answers[answer]? = x at found ⊢
    generalize e.answers[answer]? = y at found ⊢
    cases found with
    | none => exact ⟨os, sub, alike, sites⟩
    | some same =>
      cases same with
      | tried result =>
        cases result with
        | taken lease => exact ⟨os, sub, alike.tell .returned, sites.releaseLock lease⟩
        | failed | refused => exact ⟨os, sub, alike, sites⟩
      | appended | returned | shown => exact ⟨os, sub, alike, sites⟩
  | lookUp =>
    refine ⟨os, sub, alike.tell ?_, sites⟩
    rw [now]
    exact .shown (sites.holder a.epochMillis)

end Desk

namespace Hub

/-! ## Runs -/

structure Sound (h : Hub) : Prop where
  plain : h.site.Plain
  desks : ∀ source, (h.desk source).Of source

/-- The second hub knows of one source only, and of that source all that the first one knows. -/
structure Mirrors (rename : String → String) (os : OwnerPairs) (source : Source)
    (all alone : Hub) : Prop where
  sites : all.site.Abreast rename os source alone.site
  desks : (all.desk source).Alike rename os (alone.desk source)

variable {rename : String → String} {os : OwnerPairs} {source : Source} {h all alone : Hub}

theorem Sound.step (sound : h.Sound) (e : Event) : (h.step e).Sound := by
  cases e with
  | call source c =>
    have serves := Desk.serves source (h.desk source) h.site c
    refine ⟨serves.plain sound.plain, ?_⟩
    intro other
    simp only [Hub.step]
    split
    · next same => exact same ▸ serves.of (sound.desks source)
    · exact sound.desks other
  | pass span stamp =>
    exact ⟨⟨sound.plain.memory, sound.plain.script, sound.plain.tidy⟩, sound.desks⟩

/-- A call on another source changes nothing of this one. -/
theorem Sound.step_other (sound : h.Sound) {e : Event} (other : ¬ e.concerns source) :
    (h.step e).desk source = h.desk source ∧ Site.SamePart source h.site (h.step e).site := by
  cases e with
  | call named c =>
    have different : source ≠ named := by
      rintro rfl
      exact other (decide_eq_true rfl)
    have serves := Desk.serves named (h.desk named) h.site c
    exact ⟨if_neg different, serves.samePart (sound.desks named) sound.plain different⟩
  | pass span stamp => exact absurd rfl other

theorem Mirrors.other (mirrors : Mirrors rename os source all alone) (sound : all.Sound) {e : Event}
    (other : ¬ e.concerns source) : Mirrors rename os source (all.step e) alone := by
  obtain ⟨desk, same⟩ := sound.step_other other
  have owners : all.site.owners ≤ (all.step e).site.owners := by
    cases e with
    | call named c => exact (Desk.serves named (all.desk named) all.site c).owners_le sound.plain
    | pass span stamp => exact Nat.le_refl _
  refine ⟨mirrors.sites.of_samePart (sound.step e).plain same owners, ?_⟩
  rw [desk]
  exact mirrors.desks

theorem Mirrors.own (mirrors : Mirrors rename os source all alone) (sound : all.Sound) {e : Event}
    (concerns : e.concerns source) :
    ∃ more, Mirrors rename more source (all.step e) (alone.step (e.rename rename)) := by
  cases e with
  | call named c =>
    obtain rfl : named = source := of_decide_eq_true concerns
    obtain ⟨more, -, desks, sites⟩ :=
      mirrors.desks.serve (sound.desks named) mirrors.sites c
    refine ⟨more, sites, ?_⟩
    simp only [Event.rename, Hub.step, if_true]
    exact desks
  | pass span stamp => exact ⟨os, mirrors.sites.pass span stamp, mirrors.desks⟩

theorem Mirrors.run (mirrors : Mirrors rename os source all alone) (sound : all.Sound)
    (es : List Event) :
    ∃ more, Mirrors rename more source (all.run es)
      (alone.run ((es.filter (·.concerns source)).map (·.rename rename))) := by
  induction es generalizing os all alone with
  | nil => exact ⟨os, mirrors⟩
  | cons e es ih =>
    by_cases concerns : e.concerns source
    · rw [List.filter_cons_of_pos concerns]
      obtain ⟨more, mirrors⟩ := mirrors.own sound concerns
      exact ih mirrors (sound.step e)
    · rw [List.filter_cons_of_neg concerns]
      exact ih (mirrors.other sound concerns) (sound.step e)

theorem Sound.run (sound : h.Sound) (es : List Event) : (h.run es).Sound := by
  induction es generalizing h with
  | nil => exact sound
  | cons e es ih => exact ih (sound.step e)

/-- A site with neither publications nor leases, with the log and the locks of the store. -/
structure Begins (site : Site) : Prop where
  unpublished : site.Unpublished
  unlocked : site.store.leases = []
  memory : site.memory = none
  script : site.script = none

namespace Begins

variable {site : Site}

theorem plain (begins : Begins site) : site.Plain := by
  refine ⟨begins.memory, begins.script, ?_, ?_, ?_, ?_⟩
  · rw [begins.unpublished.versions]
    exact fun r none => absurd none List.not_mem_nil
  · rw [begins.unpublished.files]
    exact fun f none => absurd none List.not_mem_nil
  · rw [begins.unpublished.files]
    exact List.nodup_nil
  · rw [begins.unlocked]
    exact List.nodup_nil

theorem sound (begins : Begins site) : (create site).Sound := by
  refine ⟨begins.plain, fun source => ⟨?_, ?_⟩⟩
  · exact fun w none => absurd none List.not_mem_nil
  · exact fun l none => absurd none List.not_mem_nil

theorem mirrors (begins : Begins site) (rename : String → String) (source : Source) :
    Mirrors rename [] source (create site) (create site) := by
  have empty : site.store.Holds source [] := by
    refine ⟨?_, ?_⟩
    · rw [Store.versionsOf, begins.unpublished.versions, List.filter_nil, List.map_nil]
    · rw [Store.filesOf, begins.unpublished.files, List.filter_nil, List.map_nil]
  refine ⟨⟨begins.plain, begins.plain, rfl, rfl, rfl, ⟨[], [], .nil, empty, empty⟩, ?_, ?_, ?_⟩,
    .nil, .nil⟩
  · simp only [create, Store.leaseOf, begins.unlocked, List.find?_nil]
    exact .none
  · exact fun p none => absurd none List.not_mem_nil
  · exact fun p none => absurd none List.not_mem_nil

end Begins

/-- After any calls on any sources, each source is where it would be after only the calls on it,
made at the same times. The desks are alike, so these calls were answered alike and their
generators ended alike; the log is the same, the versions and their files are those of documents
that are alike, each found under its own name, and the lock is held alike. No call on another source
changes the desk, or what the store has of the source. -/
theorem independent_of_run {site : Site} (begins : Begins site) (es : List Event) (source : Source)
    (rename : String → String) :
    let all := (create site).run es
    let alone := (create site).run ((es.filter (·.concerns source)).map (·.rename rename))
    (∃ os : OwnerPairs, os.OneToOne ∧
      alone.site.clock = all.site.clock ∧
      alone.site.store.rowsOf source = all.site.store.rowsOf source ∧
      (∃ ds ds', List.Forall₂ (Document.Alike rename) ds ds' ∧
        all.site.store.Holds source ds ∧ alone.site.store.Holds source ds' ∧
        (∀ d ∈ ds, all.site.store.findFile d.fileName = some (Store.fileOf d)) ∧
        ∀ d ∈ ds', alone.site.store.findFile d.fileName = some (Store.fileOf d)) ∧
      Option.Rel (Lease.Alike os) (all.site.store.leaseOf source.lockName)
        (alone.site.store.leaseOf source.lockName) ∧
      (all.desk source).Alike rename os (alone.desk source)) ∧
    ∀ e : Event, ¬ e.concerns source →
      (all.step e).desk source = all.desk source ∧
        Site.SamePart source all.site (all.step e).site := by
  intro all alone
  have sound : all.Sound := begins.sound.run es
  obtain ⟨os, mirrors⟩ := (begins.mirrors rename source).run begins.sound es
  refine ⟨⟨os, mirrors.sites.oneToOne, mirrors.sites.clock, mirrors.sites.rows, ?_,
    mirrors.sites.lease, mirrors.desks⟩, fun e => sound.step_other⟩
  obtain ⟨ds, ds', alike, held, held'⟩ := mirrors.sites.documents
  exact ⟨ds, ds', alike, held, held', mirrors.sites.left.tidy.findFile held,
    mirrors.sites.right.tidy.findFile held'⟩

/-! ## Two sources at once -/

/-- Its name begins with that of the other source. -/
def branch : Source := ⟨"TEST.2"⟩

/-- A generator for one source halts after its commit; one for the other meets a program that holds
its lock, and goes on when the lock is given back. -/
def crowded : List Event :=
  [.call registry (.append .update "route" "k" (some "p")),
    .call branch (.append .update "route" "k" (some "q")),
    .call registry (.begin .snapshot .default .default "s"),
    .call branch (.acquire (.ofSeconds 300)), .call branch (.begin .snapshot .default .default "t"),
    .call branch (.turn 0), .call registry (.turn 0), .call registry (.turn 0),
    .call registry (.turn 0), .call registry (.turn 0), .call branch (.giveBack 1),
    .call branch (.turn 0), .call branch (.turn 0), .call branch (.turn 0), .call branch (.turn 0),
    .call branch (.turn 0)]

theorem crowded_rows :
    ((create .blank).run crowded).site.store.versionsOf branch =
      [⟨2, branch, 1, "snapshot", 1, "t", 0⟩] := by
  decide +kernel

/-- The second source publishes as it does alone. -/
theorem independent_of_crowded :
    Begins .blank ∧
      ∃ r, ((create .blank).run ((crowded.filter (·.concerns branch)).map
        (·.rename fun _ => "u"))).site.store.versionsOf branch = [r] ∧
          r.version = 1 ∧ r.lastSerial = 1 ∧ r.session = "u" := by
  have begins : Begins .blank := ⟨⟨rfl, rfl⟩, rfl, rfl, rfl⟩
  obtain ⟨⟨os, -, -, -, ⟨ds, ds', alike, held, held', -⟩, -⟩, -⟩ :=
    independent_of_run begins crowded branch fun _ => "u"
  have rows := held.versions
  rw [crowded_rows] at rows
  refine ⟨begins, ?_⟩
  rw [held'.versions]
  cases alike with
  | nil => cases rows
  | cons first rest =>
    obtain ⟨row, none⟩ := List.cons.inj rows
    cases rest with
    | nil =>
      refine ⟨_, rfl, first.info.version.trans ?_, first.info.lastSerial.trans ?_,
        first.info.session⟩
      · exact (congrArg VersionRow.version row).symm
      · exact (congrArg VersionRow.lastSerial row).symm
    | cons => cases none

end Hub

end RegistryFeed
