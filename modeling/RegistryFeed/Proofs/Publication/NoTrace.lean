import Mathlib.Control.Monad.Basic
import RegistryFeed.Proofs.Publication.Alone
import RegistryFeed.Proofs.Publication.Interleaving
import RegistryFeed.Proofs.Publication.Locking

/-!
# A generation that fails

A generator that fails, or that finds nothing to publish, has changed no version,
no file and nothing in the log, at whichever of its steps it failed. A generator
whose lock could be given back leaves no lease behind, however it ended, and
never touches a lock that is held under the lease of someone else. So what was
due before is still due, and the same generator publishes it once nothing stands
in its way. Nothing is assumed about the site at the beginning, nor about the
generators that work at the same time.
-/

namespace RegistryFeed

/-- The answer of a generator, once it is settled. -/
def Generation.Phase.answer? : Generation.Phase → Option GenerationResult
  | .releasing _ result | .ended result => some result
  | .locking _ | .finding _ | .reading _ _ | .committing _ _ | .fatal _ => none

/-- A turn does not change an answer that is settled. -/
theorem Generation.Turn.answer {site t : Site} {g next : Generation} {answer : GenerationResult}
    (turn : Turn site g next t) (h : g.phase.answer? = some answer) :
    next.phase.answer? = some answer := by
  cases turn with
  | released releasing =>
    rw [releasing] at h
    simp only [Generation.released, releasing]
    exact h
  | stays => exact h
  | tried phase | woken phase | found phase | read phase | committed phase | refused phase =>
    rw [phase] at h
    cases h

/-- A move changes the records of a site only by committing a document, which is then the answer. -/
theorem Generation.Move.sameRecords_or_answer {site t : Site} {g : Generation} {phase : Phase}
    (m : Move site g phase t) :
    site.SameRecords t ∨ ∃ a, phase.answer? = some (.ok (some a)) := by
  cases m with
  | quiet _ same => exact .inl same
  | found _ _ => exact .inl (.refl site)
  | cut _ _ same => exact .inl same
  | @committed lease p a store committing commit => exact .inr ⟨a, rfl⟩
  | released _ same => exact .inl same

namespace SharedSite

open Generation

/-- The result of the generator at a place in the list, once it has ended. -/
def resultOf (s : SharedSite) (i : Nat) : Option GenerationResult :=
  s.workers[i]?.bind fun w => match w.generation.phase with
    | .ended result => some result
    | _ => none

theorem resultOf_eq_some {s : SharedSite} {i : Nat} {result : GenerationResult} :
    s.resultOf i = some result ↔
      ∃ w, s.workers[i]? = some w ∧ w.generation.phase = .ended result := by
  rw [resultOf, Option.bind_eq_some_iff]
  refine exists_congr fun w => and_congr_right fun _ => ?_
  split
  · next other phase =>
    rw [phase]
    simp
  · next none =>
    simp only [reduceCtorEq, false_iff]
    exact none result

/-! ## One generator among many -/

/-- The events of the generator at a place in the list. -/
inductive Event.Of (i : Nat) : Event → Prop
  | turn : Of i (.turn i)
  | fail (error : EngineError) : Of i (.fail i error)

variable {s : SharedSite} {i : Nat} {w : Worker}

theorem step_turn (here : s.workers[i]? = some w) :
    s.step (.turn i) = ⟨(takeTurn s.site w).2, s.workers.set i (takeTurn s.site w).1⟩ := by
  simp only [step, here]

theorem step_fail (here : s.workers[i]? = some w) (error : EngineError) :
    s.step (.fail i error) = ⟨s.site, s.workers.set i (failTurn s.site w error)⟩ := by
  simp only [step, here]

theorem getElem?_set (here : s.workers[i]? = some w) (next : Worker) :
    (s.workers.set i next)[i]? = some next :=
  List.getElem?_set_self (List.getElem?_eq_some_iff.mp here).1

/-- The events of others leave a generator as it is. -/
theorem step_other (here : s.workers[i]? = some w) {e : Event} (other : ¬ e.Of i) :
    (s.step e).workers[i]? = some w := by
  cases e with
  | begin kind source filter settings session =>
    exact (List.getElem?_append_left (List.getElem?_eq_some_iff.mp here).1).trans here
  | turn j =>
    have differ : j ≠ i := by
      rintro rfl
      exact other .turn
    simp only [step]
    split
    · rw [List.getElem?_set_ne differ]
      exact here
    · exact here
  | fail j error =>
    have differ : j ≠ i := by
      rintro rfl
      exact other (.fail error)
    simp only [step]
    split
    · rw [List.getElem?_set_ne differ]
      exact here
    · exact here
  | append source serial operation objectType primaryKey payload => exact here
  | pass span stamp => exact here

section Kept

variable {P : Worker → Prop} (turn : ∀ site w, P w → P (takeTurn site w).1)
  (fail : ∀ site w error, P w → P (failTurn site w error))

include turn fail

/-- What no step of a generator changes no event changes. -/
theorem step_keeps (here : s.workers[i]? = some w) (h : P w) (e : Event) :
    ∃ v, (s.step e).workers[i]? = some v ∧ P v := by
  by_cases own : e.Of i
  · cases own with
    | turn =>
      rw [step_turn here]
      exact ⟨_, getElem?_set here _, turn s.site w h⟩
    | fail error =>
      rw [step_fail here error]
      exact ⟨_, getElem?_set here _, fail s.site w error h⟩
  · exact ⟨w, step_other here own, h⟩

theorem run_keeps (here : s.workers[i]? = some w) (h : P w) (es : List Event) :
    ∃ v, (s.run es).workers[i]? = some v ∧ P v := by
  induction es generalizing s w with
  | nil => exact ⟨w, here, h⟩
  | cons e es ih =>
    obtain ⟨v, next, kept⟩ := step_keeps turn fail here h e
    exact ih next kept

end Kept

/-- A generator that has begun stays in the list. -/
theorem run_present (here : s.workers[i]? = some w) (es : List Event) :
    ∃ v, (s.run es).workers[i]? = some v := by
  obtain ⟨v, there, _⟩ := run_keeps (P := fun _ => True) (fun _ _ _ => trivial)
    (fun _ _ _ _ => trivial) here trivial es
  exact ⟨v, there⟩

/-! ## The answer -/

variable {answer : GenerationResult}

theorem takeTurn_answer (site : Site) (w : Worker)
    (h : w.generation.phase.answer? = some answer) :
    (takeTurn site w).1.generation.phase.answer? = some answer :=
  (takeTurn_turn site w).answer h

theorem failTurn_answer (site : Site) (w : Worker) (error : EngineError)
    (h : w.generation.phase.answer? = some answer) :
    (failTurn site w error).generation.phase.answer? = some answer := by
  cases phase : w.generation.phase with
  | releasing lease result =>
    rw [phase] at h
    simp only [failTurn, phase, released]
    exact h
  | ended result =>
    rw [phase] at h
    simp only [failTurn, phase]
    exact h
  | _ =>
    rw [phase] at h
    cases h

/-- An event of a generator changes the records only if it settles that it answers a document. -/
theorem own_sameRecords_or_answer (here : s.workers[i]? = some w) {e : Event} (own : e.Of i) :
    s.site.SameRecords (s.step e).site ∨
      ∃ v a, (s.step e).workers[i]? = some v ∧
        v.generation.phase.answer? = some (.ok (some a)) := by
  cases own with
  | turn =>
    rw [step_turn here]
    rcases (takeTurn_move s.site w).sameRecords_or_answer with same | ⟨a, committed⟩
    · exact .inl same
    · exact .inr ⟨_, a, getElem?_set here _, committed⟩
  | fail error =>
    rw [step_fail here error]
    exact .inl (.refl s.site)

/-- A generator that ends without a document has changed nothing. -/
theorem sameRecords_of_answer (here : s.workers[i]? = some w) {e : Event} (own : e.Of i)
    {rest : List Event} {v : Worker} (last : ((s.step e).run rest).workers[i]? = some v)
    (ended : v.generation.phase.answer? = some answer) (without : ∀ a, answer ≠ .ok (some a)) :
    s.site.SameRecords (s.step e).site := by
  rcases own_sameRecords_or_answer here own with same | ⟨x, a, next, settled⟩
  · exact same
  · -- the answer that is settled here is the one at the end
    obtain ⟨y, there, kept⟩ := run_keeps takeTurn_answer failTurn_answer next settled rest
    obtain rfl : v = y := Option.some.inj (last.symm.trans there)
    exact absurd (Option.some.inj (ended.symm.trans kept)) (without a)

/-- An event of a generator that is alone: a step of its own, or time that passes. -/
def Event.Alone (i : Nat) (e : Event) : Prop := e.Of i ∨ ∃ span stamp, e = .pass span stamp

theorem sameRecords_of_alone (here : s.workers[i]? = some w) {es : List Event}
    (alone : ∀ e ∈ es, e.Alone i) {v : Worker} (last : (s.run es).workers[i]? = some v)
    (ended : v.generation.phase.answer? = some answer) (without : ∀ a, answer ≠ .ok (some a)) :
    s.site.SameRecords (s.run es).site := by
  induction es generalizing s w with
  | nil => exact .refl s.site
  | cons e es ih =>
    obtain ⟨x, next⟩ := run_present here [e]
    have first : s.site.SameRecords (s.step e).site := by
      rcases alone e List.mem_cons_self with own | ⟨span, stamp, rfl⟩
      · exact sameRecords_of_answer here own last ended without
      · exact ⟨rfl, rfl, rfl, rfl, rfl⟩
    exact first.trans (ih next (fun x hx => alone x (List.mem_cons_of_mem _ hx)) last)

/-! ## The lease -/

variable {l : Lease}

/-- No event puts a row into the table of leases but for the next owner. -/
theorem step_leasing (s : SharedSite) (e : Event) : s.site.Leasing (s.step e).site := by
  cases e with
  | begin => exact .of_eq rfl (Nat.le_refl _) rfl
  | turn worker =>
    simp only [step]
    split
    · next w here => exact (takeTurn_lease s.site w).leasing
    · exact .of_eq rfl (Nat.le_refl _) rfl
  | fail worker error =>
    simp only [step]
    split
    · exact .of_eq rfl (Nat.le_refl _) rfl
    · exact .of_eq rfl (Nat.le_refl _) rfl
  | append source serial operation objectType primaryKey payload =>
    have same := record_sameOutsideLog s.site source serial operation objectType primaryKey payload
    exact .of_eq same.leases (Nat.le_of_eq same.owners.symm) (congrArg _ same.script)
  | pass span stamp => exact .of_eq rfl (Nat.le_refl _) rfl

/-- No event of a run is a failure to give back the lock of a generator. -/
def Releases (i : Nat) (s : SharedSite) (es : List Event) : Prop :=
  ∀ done error rest, es = done ++ .fail i error :: rest →
    ∀ w, (s.run done).workers[i]? = some w →
      ∀ lease result, w.generation.phase ≠ .releasing lease result

theorem Releases.tail {e : Event} {es : List Event} (h : Releases i s (e :: es)) :
    Releases i (s.step e) es := by
  intro done error rest parts w here
  refine h (e :: done) error rest ?_ w here
  rw [parts]
  rfl

theorem Releases.append {done rest : List Event} (h : Releases i s (done ++ rest)) :
    Releases i (s.run done) rest := by
  induction done generalizing s with
  | nil => exact h
  | cons e done ih => exact ih h.tail

/-- A lease that the generator at a place has put into the table: it holds the lease, or nothing is
left of it. -/
structure Tracked (i : Nat) (l : Lease) (s : SharedSite) : Prop where
  spent : s.site.Spent l
  place : ∃ w, s.workers[i]? = some w ∧
    (w.generation.phase.lease? = some l ∨ s.site.Cleared l)

theorem Tracked.step (h : Tracked i l s) {e : Event} {rest : List Event}
    (releases : Releases i s (e :: rest)) : Tracked i l (s.step e) := by
  obtain ⟨w, here, place⟩ := h.place
  refine ⟨(step_leasing s e).spent h.spent, ?_⟩
  by_cases own : e.Of i
  · cases own with
    | turn =>
      rw [step_turn here]
      exact ⟨_, getElem?_set here _, (takeTurn_lease s.site w).held_or_cleared h.spent place⟩
    | fail error =>
      have kept := releases [] error rest rfl w here
      rw [step_fail here error]
      exact ⟨_, getElem?_set here _,
        (failTurn_lease s.site w error kept).held_or_cleared h.spent place⟩
  · exact ⟨w, step_other here own, place.imp_right ((step_leasing s e).cleared h.spent)⟩

theorem Tracked.run {es : List Event} (h : Tracked i l s) (releases : Releases i s es) :
    Tracked i l (s.run es) := by
  induction es generalizing s with
  | nil => exact h
  | cons e es ih => exact ih (h.step releases) releases.tail

/-- A generator holds the row that one of its events puts into the table of leases. -/
theorem tracked_of_new (here : s.workers[i]? = some w) {e : Event} (own : e.Of i)
    (new : l ∈ (s.step e).site.store.leases) (old : l ∉ s.site.store.leases) :
    Tracked i l (s.step e) := by
  cases own with
  | turn =>
    rw [step_turn here] at new ⊢
    obtain ⟨held, spent⟩ := (takeTurn_lease s.site w).holds_new new old
    exact ⟨spent, _, getElem?_set here _, .inl held⟩
  | fail error =>
    rw [step_fail here error] at new
    exact absurd new old

/-- Nothing is left of the leases of a generator that has ended. -/
theorem Tracked.cleared (h : Tracked i l s) (here : s.workers[i]? = some w)
    (ended : w.generation.phase.lease? = none) : s.site.Cleared l := by
  obtain ⟨v, there, place⟩ := h.place
  obtain rfl : w = v := Option.some.inj (here.symm.trans there)
  rcases place with held | cleared
  · rw [ended] at held
    cases held
  · exact cleared

/-- No event of a generator touches a lock that is held under the lease of someone else. -/
theorem own_holder (here : s.workers[i]? = some w) {e : Event} (own : e.Of i) {name : String}
    (held : s.site.store.holder name s.site.epochMillis = some l)
    (other : ∀ k, w.generation.phase.lease? = some k → ¬ (l.name = k.name ∧ l.owner = k.owner)) :
    (s.step e).site.store.holder name s.site.epochMillis = some l := by
  cases own with
  | turn =>
    rw [step_turn here]
    exact (takeTurn_lease s.site w).holder_kept held other
  | fail error =>
    rw [step_fail here error]
    exact held

end SharedSite

/-- A generator begins, whatever the site and the other generators are like, and has ended after
some events. If it has no document to show, none of its events has changed a version, a file or the
log; alone, it has left them all as they were, and what was due before is still due. If no failure
has kept it from giving back its lock, nothing is left of any row that it has put into the table of
leases. None of its events has touched a lock that was held under the lease of someone else. And
wherever a publication is due and nothing stands in the way, the same generator publishes it as the
next version. -/
theorem no_trace_of_run (s : SharedSite) (kind : DocumentKind) (source : Source)
    (f : PublicationFilter) (settings : GenerationSettings) (session : String)
    (es : List SharedSite.Event) {result : GenerationResult}
    (ended : ((s.step (.begin kind source f settings session)).run es).resultOf s.workers.length =
      some result) :
    let begun := s.step (.begin kind source f settings session)
    let i := s.workers.length
    ((∀ a, result ≠ .ok (some a)) →
      (∀ done e rest, es = done ++ e :: rest → e.Of i →
        (begun.run done).site.SameRecords ((begun.run done).step e).site) ∧
      ((∀ e ∈ es, e.Alone i) →
        s.site.SameRecords (begun.run es).site ∧
        ∀ previous p, s.site.Due kind source f previous p →
          (begun.run es).site.Due kind source f previous p)) ∧
    (SharedSite.Releases i begun es →
      ∀ done e rest, es = done ++ e :: rest → e.Of i →
        ∀ l ∈ ((begun.run done).step e).site.store.leases,
          l ∉ (begun.run done).site.store.leases → (begun.run es).site.Cleared l) ∧
    (∀ done e rest, es = done ++ e :: rest → e.Of i →
      ∀ v, (begun.run done).workers[i]? = some v → ∀ name l,
        let now := (begun.run done).site.epochMillis
        (begun.run done).site.store.holder name now = some l →
        (∀ k, v.generation.phase.lease? = some k → ¬ (l.name = k.name ∧ l.owner = k.owner)) →
          ((begun.run done).step e).site.store.holder name now = some l) ∧
    ∀ (site : Site) previous p newSession, site.Due kind source f previous p →
      site.Clear source settings newSession previous →
      ∃ d : Document,
        (site.generate kind source f settings newSession).1.phase =
          .ended (.ok (some d.published)) ∧
        site.Publishes (site.generate kind source f settings newSession).2 source previous p d := by
  intro begun i
  obtain ⟨w, last, ended⟩ := SharedSite.resultOf_eq_some.mp ended
  have answered : w.generation.phase.answer? = some result := by rw [ended]; rfl
  have unleased : w.generation.phase.lease? = none := by rw [ended]; rfl
  have started : begun.workers[i]? =
      some ⟨s.site.clock, .create kind source f settings session⟩ :=
    List.getElem?_concat_length
  refine ⟨?_, ?_, ?_, ?_⟩
  · intro without
    refine ⟨?_, ?_⟩
    · rintro done e rest rfl own
      obtain ⟨v, here⟩ := SharedSite.run_present started done
      rw [SharedSite.run_append, SharedSite.run_cons] at last
      exact SharedSite.sameRecords_of_answer here own last answered without
    · intro alone
      have same : s.site.SameRecords (begun.run es).site :=
        SharedSite.sameRecords_of_alone started alone last answered without
      exact ⟨same, fun previous p due => due.of_sameRecords same⟩
  · rintro releases done e rest rfl own l new old
    obtain ⟨v, here⟩ := SharedSite.run_present started done
    have tracked := (SharedSite.tracked_of_new here own new old).run releases.append.tail
    rw [← SharedSite.run_cons, ← SharedSite.run_append] at tracked
    exact tracked.cleared last unleased
  · rintro done e rest _ own v here name l now held other
    exact SharedSite.own_holder here own held other
  · intro site previous p newSession due clear
    exact due.generate clear

/-- A source has one version and an entry beyond it. -/
def awaitingDelta : SharedSite := SharedSite.run ⟨.blank, []⟩ (takeover.take 8)

/-- A generator gets its lock, finds the version, cannot read the log, and gives the lock back. -/
def failedReading : List SharedSite.Event :=
  [.turn 1, .turn 1, .fail 1 (.internal (.other "disk")), .turn 1]

theorem no_trace_of_failedReading :
    let begun := awaitingDelta.step (.begin .delta registry .default .default "s")
    let site := (begun.run failedReading).site
    let change : DeltaChange := ⟨.update, "route", "k", some "q"⟩
    (begun.run failedReading).resultOf 1 = some (.error (.internal (.other "disk"))) ∧
      awaitingDelta.site.SameRecords site ∧
      site.Cleared ⟨"nrtm4-generation:TEST", "owner-1", 300000⟩ ∧
      ∃ d : Document,
        (site.generate .delta registry .default .default "t").1.phase =
          .ended (.ok (some d.published)) ∧
        d.body = .changes [change] := by
  intro begun site change
  have second : awaitingDelta.workers.length = 1 := by decide +kernel
  have ended : (begun.run failedReading).resultOf 1 =
      some (.error (.internal (.other "disk"))) := by decide +kernel
  have alone : ∀ e ∈ failedReading, e.Alone 1 := by
    intro e he
    simp only [failedReading, List.mem_cons, List.not_mem_nil, or_false] at he
    rcases he with rfl | rfl | rfl | rfl
    · exact .inl .turn
    · exact .inl .turn
    · exact .inl (.fail _)
    · exact .inl .turn
  have releases : SharedSite.Releases 1 begun failedReading := by
    intro done error rest parts w here lease result releasing
    have reading : ((begun.run [.turn 1, .turn 1]).workers[1]?.bind
        (·.generation.phase.answer?)) = none := by decide +kernel
    rcases done with _ | ⟨_, _ | ⟨_, _ | ⟨_, _ | ⟨_, done⟩⟩⟩⟩
    · cases parts
    · cases parts
    · cases parts
      rw [here, Option.bind_some, releasing] at reading
      cases reading
    · cases parts
    · simp [failedReading] at parts
  have taken : (⟨"nrtm4-generation:TEST", "owner-1", 300000⟩ : Lease) ∈
      ((begun.run []).step (.turn 1)).site.store.leases := by decide +kernel
  have free : (⟨"nrtm4-generation:TEST", "owner-1", 300000⟩ : Lease) ∉
      (begun.run []).site.store.leases := by decide +kernel
  obtain ⟨failed, cleared, _, again⟩ := no_trace_of_run awaitingDelta .delta registry .default
    .default "s" failedReading (second.symm ▸ ended)
  rw [second] at failed cleared
  obtain ⟨_, same⟩ := failed (by intro a ha; cases ha)
  obtain ⟨same, due⟩ := same alone
  refine ⟨ended, same, cleared releases [] (.turn 1) _ rfl .turn _ taken free, ?_⟩
  have before : awaitingDelta.site.Due .delta registry .default
      (some ⟨1, registry, 1, .snapshot, 1, "s", 0⟩)
      (.delta ⟨1, registry, 1, .snapshot, 1, "s", 0⟩ 2 [change]) := by
    refine ⟨by decide +kernel, by simp, by decide +kernel⟩
  have clear : site.Clear registry .default "t" (some ⟨1, registry, 1, .snapshot, 1, "s", 0⟩) := by
    refine ⟨⟨⟨"nrtm4-generation:TEST", "owner-2", 300000⟩, by decide +kernel⟩,
      ⟨[⟨2, .update, "route", "k", some "q", 0⟩], by decide +kernel⟩, ?_⟩
    intro file hf
    have files : ∀ file ∈ site.store.files, file.versionId ≠ site.store.lastVersionId + 1 ∧
        file.name ≠ (⟨0, registry, 1 + 1, .delta, 0, "s", 0⟩ : VersionInfo).fileName := by
      decide +kernel
    refine ⟨(files file hf).1, ?_⟩
    rintro v ofSource ⟨version, kind, session⟩ _ named
    refine (files file hf).2 (named.trans ?_)
    unfold VersionInfo.fileName
    rw [ofSource, version, kind, session]
  obtain ⟨d, answered, published⟩ := again site _ _ "t" (due _ _ before) clear
  exact ⟨d, answered, published.body⟩

end RegistryFeed
