import RegistryFeed.Proofs.Publication.Alone
import RegistryFeed.Proofs.Publication.Interleaving

/-!
# A source without news

While the latest version of a source reaches to the end of its log, nobody can
publish for it: a generator that begins then finds that version, reads nothing
after it, and has nothing to commit. Generators that began before may still be
about to commit what they read, and lose.
-/

namespace RegistryFeed

/-- A generator that found a version and has nothing to publish after it. -/
def Generation.Phase.Idle (v : VersionInfo) : Generation.Phase → Prop
  | .locking _ | .finding _ | .fatal _ => True
  | .reading _ before => before = some v
  | .committing _ _ => False
  | .releasing _ result | .ended result => ∀ a, result ≠ .ok (some a)

/-- A generator for a delta that is alone on a site, gets its lock and can read the log finds that
there is nothing to publish. -/
theorem Site.generate_of_covered {site : Site} {source : Source} {v : VersionInfo}
    {settings : GenerationSettings} {lease : Lease} {es : List Entry}
    (last : site.store.findLast source = .ok (some v))
    (covered : ∀ e ∈ site.entriesOf source, e.serial ≤ v.lastSerial)
    (granted : (site.tryLock source.lockName settings.lease).1 = .ok (some lease))
    (readable : ((site.tryLock source.lockName settings.lease).2.entriesSince source
      v.lastSerial).1 = .ok es) (f : PublicationFilter) (session : String) :
    (site.generate .delta source f settings session).1.phase = .ended (.ok none) := by
  have nothing : es = [] := by
    rw [Site.entriesSince_eq_ok readable, (site.tryLock_sameRecords _ _).entriesOf_eq,
      entriesAfter, List.filter_eq_nil_iff]
    intro e he
    have := covered e he
    simp only [decide_eq_true_eq]
    omega
  subst nothing
  exact generate_of_uncut granted last (by simp) readable rfl session

variable {allowed : Source → PublicationFilter → Prop} {past : List Site}
  {docs : List Document} {source : Source} {v : VersionInfo}

namespace Recorded

variable {site : Site}

theorem chain_eq (h : Recorded allowed past docs site) (source : Source) :
    site.store.chain source = (documentsOf docs source).map (·.info.row) := by
  rw [← h.versionsOf_eq]
  refine Store.chain_of_ascending ?_
  rw [h.versionsOf_eq]
  exact List.pairwise_map.mpr ((h.chainLinks source).ascending.imp And.left)

theorem findLast_eq (h : Recorded allowed past docs site) (source : Source) :
    site.store.findLast source = .ok (newest none (documentsOf docs source)) := by
  unfold Store.findLast
  rw [h.chain_eq, newest_none, List.getLast?_map]
  cases (documentsOf docs source).getLast? with
  | none => rfl
  | some d =>
    simp only [Option.map_some, VersionInfo.info_row]
    rfl

/-- A document after the latest version needs an entry beyond it. -/
theorem newest_append {added : List Document} (h : Recorded allowed past (docs ++ added) site)
    (latest : newest none (documentsOf docs source) = some v)
    (covered : ∀ e ∈ site.entriesOf source, e.serial ≤ v.lastSerial) :
    newest none (documentsOf (docs ++ added) source) = some v := by
  have linked := h.chains source
  rw [documentsOf, List.filter_append] at linked ⊢
  cases more : added.filter (fun d => d.info.source = source) with
  | nil =>
    rw [List.append_nil]
    exact latest
  | cons d rest =>
    rw [more] at linked
    have next := linked.next
    rw [← documentsOf, latest] at next
    obtain ⟨p, ⟨f, t, _, ht, hp⟩, _⟩ := next.cut
    obtain ⟨last, mem, beyond, _⟩ := Publishing.beyond_of_cut hp
    have bound := covered last ((h.grown t ht source).subset mem)
    omega

theorem idle_move {t : Site} {g : Generation} {phase : Generation.Phase}
    (h : Recorded allowed past docs site)
    (latest : newest none (documentsOf docs g.source) = some v)
    (covered : ∀ e ∈ site.entriesOf g.source, e.serial ≤ v.lastSerial) (idle : g.phase.Idle v)
    (move : Generation.Move site g phase t) : phase.Idle v := by
  cases move with
  | quiet free same =>
    rcases free with stays | unbound
    · rw [stays]
      exact idle
    · cases phase with
      | locking w => trivial
      | finding l => trivial
      | fatal c => trivial
      | reading l before => exact unbound.elim
      | committing l p => exact unbound.elim
      | releasing l result => exact unbound
      | ended result => exact unbound
  | @found lease previous finding last =>
    rw [h.findLast_eq, latest] at last
    exact (Except.ok.inj last).symm
  | @cut lease previous p t reading cut same =>
    rw [reading] at idle
    have here : previous = some v := idle
    subst here
    obtain ⟨last, mem, beyond, _⟩ := Publishing.beyond_of_cut cut
    have bound := covered last mem
    omega
  | committed committing commit =>
    rw [committing] at idle
    exact idle.elim
  | released releasing same =>
    rw [releasing] at idle
    exact idle

end Recorded

namespace SharedSite

/-- The latest version of a source reaches to the end of its log, and a generator at a place in the
list is idle. -/
structure Settled (allowed : Source → PublicationFilter → Prop) (past : List Site)
    (docs : List Document) (source : Source) (v : VersionInfo) (i : Nat) (s : SharedSite) :
    Prop where
  sound : Sound allowed past docs s
  latest : newest none (documentsOf docs source) = some v
  covered : ∀ e ∈ s.site.entriesOf source, e.serial ≤ v.lastSerial
  idle : ∀ w, s.workers[i]? = some w → w.generation.source = source → w.generation.phase.Idle v

theorem Settled.effect {i : Nat} {s u : SharedSite} {e : Event}
    (h : Settled allowed past docs source v i s) (fits : e.Fits allowed)
    (quiet : ¬ e.AppendsTo source) (effect : Effect s e u) :
    ∃ added, Settled allowed (past ++ [s.site]) (docs ++ added) source v i u := by
  obtain ⟨added, sound⟩ := h.sound.effect fits effect
  have covered : ∀ e ∈ u.site.entriesOf source, e.serial ≤ v.lastSerial := by
    rw [effect.entriesOf_eq quiet]
    exact h.covered
  refine ⟨added, sound, sound.recorded.newest_append h.latest covered, covered, ?_⟩
  cases effect with
  | begun kind other filter settings session =>
    intro w hw ofSource
    rw [List.getElem?_append] at hw
    split at hw
    · exact h.idle w hw ofSource
    · have new := List.mem_singleton.mp (List.mem_of_getElem? hw)
      rw [new]
      trivial
  | @moved _ j w next t here same move =>
    intro x hx ofSource
    rw [List.getElem?_set] at hx
    split at hx
    · next place =>
      split at hx
      · have moved : next = x := Option.some.inj hx
        subst moved
        rw [same.source] at ofSource
        subst ofSource
        subst place
        exact h.sound.recorded.idle_move h.latest h.covered (h.idle w here rfl) move
      · cases hx
    · exact h.idle x hx ofSource
  | grown _ _ => exact h.idle
  | passed _ => exact h.idle

theorem Settled.run {i : Nat} {s : SharedSite} {es : List Event}
    (h : Settled allowed past docs source v i s) (fits : ∀ e ∈ es, e.Fits allowed)
    (quiet : ∀ e ∈ es, ¬ e.AppendsTo source) :
    ∃ past docs, Settled allowed past docs source v i (s.run es) := by
  induction es generalizing past docs s with
  | nil => exact ⟨past, docs, h⟩
  | cons e es ih =>
    obtain ⟨added, stepped⟩ := h.effect (fits e List.mem_cons_self) (quiet e List.mem_cons_self)
      (step_effect s e)
    exact ih stepped (fun x hx => fits x (List.mem_cons_of_mem _ hx))
      fun x hx => quiet x (List.mem_cons_of_mem _ hx)

/-- There is nothing to publish for a source after a version. Whoever begins from now on ends
without a document or fails, whatever else happens but a new entry; and a generator that is alone
does not fail if it gets its lock and can read the log. -/
structure NothingNew (allowed : Source → PublicationFilter → Prop) (source : Source)
    (v : VersionInfo) (s : SharedSite) : Prop where
  later : ∀ more : List Event, (∀ e ∈ more, e.Fits allowed) → (∀ e ∈ more, ¬ e.AppendsTo source) →
    ∀ i w, s.workers.length ≤ i → (s.run more).workers[i]? = some w →
      w.generation.source = source → ∀ r, w.generation.phase = .ended (.ok r) → r = none
  alone : ∀ settings lease es,
    (s.site.tryLock source.lockName settings.lease).1 = .ok (some lease) →
    ((s.site.tryLock source.lockName settings.lease).2.entriesSince source v.lastSerial).1 =
      .ok es →
    ∀ f session, (s.site.generate .delta source f settings session).1.phase = .ended (.ok none)

theorem Sound.nothingNew {s : SharedSite} (h : Sound allowed past docs s)
    (latest : newest none (documentsOf docs source) = some v)
    (covered : ∀ e ∈ s.site.entriesOf source, e.serial ≤ v.lastSerial) :
    NothingNew allowed source v s := by
  constructor
  · intro more fits quiet i w later here ofSource r ended
    have start : Settled allowed past docs source v i s := by
      refine ⟨h, latest, covered, ?_⟩
      intro x hx
      rw [List.getElem?_eq_none later] at hx
      cases hx
    obtain ⟨_, _, settled⟩ := start.run fits quiet
    have idle := settled.idle w here ofSource
    rw [ended] at idle
    cases r with
    | none => rfl
    | some a => exact absurd rfl (idle a)
  · intro settings lease es granted readable
    refine Site.generate_of_covered ?_ covered granted readable
    rw [h.recorded.findLast_eq, latest]

end SharedSite

end RegistryFeed
