import RegistryFeed.Proofs.Publication.Belonging
import RegistryFeed.Proofs.Publication.Locking

/-!
# Two sites side by side

Two sites hold the same of one source, up to names; what else they hold is arbitrary.
Then the store answers alike wherever it is asked about that source, and after a turn
of two alike generators for it the sites still hold the same of it. A pair of owners
is added whenever both try the lock and get it; owners are told apart by their
numbers, so the pairs stay one to one.
-/

namespace RegistryFeed

/-- The rows of two versions that are alike. -/
def VersionRow.Alike (rename : String → String) (r s : VersionRow) : Prop :=
  ∃ v w : VersionInfo, v.Alike rename w ∧ v.row = r ∧ w.row = s

/-- Both sites are plain, and of one source they hold the same, up to names; only owners who have
tried a lock are paired. -/
structure Site.Abreast (rename : String → String) (os : OwnerPairs) (source : Source)
    (a b : Site) : Prop where
  left : a.Plain
  right : b.Plain
  clock : b.clock = a.clock
  stamp : b.stamp = a.stamp
  rows : b.store.rowsOf source = a.store.rowsOf source
  documents : ∃ ds es, List.Forall₂ (Document.Alike rename) ds es ∧
    a.store.Holds source ds ∧ b.store.Holds source es
  lease : Option.Rel (Lease.Alike os) (a.store.leaseOf source.lockName)
    (b.store.leaseOf source.lockName)
  oneToOne : os.OneToOne
  past : ∀ p ∈ os, (∃ i < a.owners, p.1 = ownerName i) ∧ ∃ j < b.owners, p.2 = ownerName j

variable {rename : String → String} {os : OwnerPairs} {source : Source} {a b t u : Site}

/-! ## Lists and options -/

theorem forall₂_getLast? {α β : Type} {R : α → β → Prop} {xs : List α} {ys : List β}
    (h : List.Forall₂ R xs ys) : Option.Rel R xs.getLast? ys.getLast? := by
  have reversed := List.forall₂_reverse_iff.mpr h
  rw [List.getLast?_eq_head?_reverse, List.getLast?_eq_head?_reverse]
  generalize xs.reverse = front at reversed
  generalize ys.reverse = back at reversed
  cases reversed with
  | nil => exact .none
  | cons first _ => exact .some first

theorem isSome_of_rel {α β : Type} {R : α → β → Prop} {x : Option α} {y : Option β}
    (h : Option.Rel R x y) : y.isSome = x.isSome := by
  cases h with
  | some => rfl
  | none => rfl

theorem forall₂_getElem? {α β : Type} {R : α → β → Prop} {xs : List α} {ys : List β}
    (h : List.Forall₂ R xs ys) (i : Nat) : Option.Rel R xs[i]? ys[i]? := by
  induction h generalizing i with
  | nil => exact .none
  | cons first _ ih =>
    cases i with
    | zero => exact .some first
    | succ i => exact ih i

theorem forall₂_set {α β : Type} {R : α → β → Prop} {xs : List α} {ys : List β}
    (h : List.Forall₂ R xs ys) (i : Nat) {x : α} {y : β} (new : R x y) :
    List.Forall₂ R (xs.set i x) (ys.set i y) := by
  induction h generalizing i with
  | nil => exact .nil
  | cons first rest ih =>
    cases i with
    | zero => exact .cons new rest
    | succ i => exact .cons first (ih i)

/-! ## The versions -/

theorem VersionRow.Alike.version {r s : VersionRow} (h : r.Alike rename s) :
    s.version = r.version := by
  obtain ⟨v, w, alike, rfl, rfl⟩ := h
  exact alike.version

theorem insertByVersion_alike {r s : VersionRow} (h : r.Alike rename s) {rs ss : List VersionRow}
    (rest : List.Forall₂ (VersionRow.Alike rename) rs ss) :
    List.Forall₂ (VersionRow.Alike rename) (Store.insertByVersion r rs)
      (Store.insertByVersion s ss) := by
  induction rest with
  | nil => exact .cons h .nil
  | cons first rest ih =>
    rw [Store.insertByVersion, Store.insertByVersion, h.version, first.version]
    split
    · exact .cons h (.cons first rest)
    · exact .cons first ih

theorem any_version_eq {rs ss : List VersionRow} (h : List.Forall₂ (VersionRow.Alike rename) rs ss)
    (n : Int) : ss.any (·.version = n) = rs.any (·.version = n) := by
  induction h with
  | nil => rfl
  | cons first _ ih => rw [List.any_cons, List.any_cons, first.version, ih]

namespace Site.Abreast

theorem epochMillis (h : a.Abreast rename os source b) : b.epochMillis = a.epochMillis := by
  rw [Site.epochMillis, h.clock]
  rfl

theorem versions (h : a.Abreast rename os source b) :
    List.Forall₂ (VersionRow.Alike rename) (a.store.versionsOf source)
      (b.store.versionsOf source) := by
  obtain ⟨ds, es, alike, left, right⟩ := h.documents
  rw [left.versions, right.versions, List.forall₂_map_left_iff, List.forall₂_map_right_iff]
  exact alike.imp fun d e same => ⟨d.info, e.info, same.info, rfl, rfl⟩

/-- The latest versions are alike. -/
theorem findLast (h : a.Abreast rename os source b) :
    ∃ v w, a.store.findLast source = .ok v ∧ b.store.findLast source = .ok w ∧
      Option.Rel (VersionInfo.Alike rename) v w := by
  have chains : List.Forall₂ (VersionRow.Alike rename) (a.store.chain source)
      (b.store.chain source) := by
    refine List.rel_foldr (R := VersionRow.Alike rename)
      (P := List.Forall₂ (VersionRow.Alike rename)) ?_ .nil h.versions
    intro r s row rs ss rows
    exact insertByVersion_alike row rows
  have last := forall₂_getLast? chains
  unfold Store.findLast
  generalize (a.store.chain source).getLast? = r at last ⊢
  generalize (b.store.chain source).getLast? = s at last ⊢
  cases last with
  | none => exact ⟨none, none, rfl, rfl, .none⟩
  | some row =>
    obtain ⟨v, w, alike, rfl, rfl⟩ := row
    refine ⟨some v, some w, ?_, ?_, .some alike⟩
    · exact bind_eq_ok_iff.mpr ⟨v, v.info_row, rfl⟩
    · exact bind_eq_ok_iff.mpr ⟨w, w.info_row, rfl⟩

theorem entriesSince (h : a.Abreast rename os source b) (after : Int) :
    b.store.entriesSince source after = a.store.entriesSince source after := by
  simp only [Store.entriesSince, Store.rowsAfter, h.rows]

/-! ## Steps -/

/-- A step that leaves the part of the source as it was in one of the sites. -/
theorem of_samePart (h : a.Abreast rename os source b) (plain : t.Plain)
    (same : SamePart source a t) (owners : a.owners ≤ t.owners) :
    t.Abreast rename os source b := by
  obtain ⟨ds, es, alike, left, right⟩ := h.documents
  refine ⟨plain, h.right, h.clock.trans same.clock.symm, h.stamp.trans same.stamp.symm,
    h.rows.trans same.rows.symm, ⟨ds, es, alike, ?_, right⟩, ?_, h.oneToOne, ?_⟩
  · exact ⟨same.versions.trans left.versions, same.files.trans left.files⟩
  · rw [same.lease]
    exact h.lease
  · intro p hp
    obtain ⟨⟨i, hi, named⟩, other⟩ := h.past p hp
    exact ⟨⟨i, Nat.lt_of_lt_of_le hi owners, named⟩, other⟩

/-- A step of both that neither touches the log nor publishes. -/
theorem of_sameRecords (h : a.Abreast rename os source b) {more : OwnerPairs} (left : t.Plain)
    (right : u.Plain) (same : a.SameRecords t) (same' : b.SameRecords u)
    (clock : u.clock = t.clock) (stamp : u.stamp = t.stamp)
    (lease : Option.Rel (Lease.Alike more) (t.store.leaseOf source.lockName)
      (u.store.leaseOf source.lockName))
    (oneToOne : more.OneToOne)
    (past : ∀ p ∈ more,
      (∃ i < t.owners, p.1 = ownerName i) ∧ ∃ j < u.owners, p.2 = ownerName j) :
    t.Abreast rename more source u := by
  obtain ⟨ds, es, alike, held, held'⟩ := h.documents
  have holds {x y : Site} {xs : List Document} (records : x.SameRecords y)
      (held : x.store.Holds source xs) : y.store.Holds source xs := by
    refine ⟨?_, ?_⟩
    · rw [Store.versionsOf, records.versions]
      exact held.versions
    · rw [Store.filesOf, Store.versionsOf, records.versions, records.files]
      exact held.files
  refine ⟨left, right, clock, stamp, ?_,
    ⟨ds, es, alike, holds same held, holds same' held'⟩, lease, oneToOne, past⟩
  rw [Store.rowsOf, Store.rowsOf, same.serials, same'.serials]
  exact h.rows

theorem pass (h : a.Abreast rename os source b) (span : Span) (stamp : Int) :
    Abreast rename os source { a with clock := a.clock.add span, stamp := stamp }
      { b with clock := b.clock.add span, stamp := stamp } :=
  ⟨⟨h.left.memory, h.left.script, h.left.tidy⟩, ⟨h.right.memory, h.right.script, h.right.tidy⟩,
    congrArg (·.add span) h.clock, rfl, h.rows, h.documents, h.lease, h.oneToOne, h.past⟩

/-- The same change is recorded in both logs. -/
theorem append (h : a.Abreast rename os source b) (operation : Operation)
    (objectType primaryKey : String) (payload : Option String) (now : Int) :
    (b.store.append source operation objectType primaryKey payload now).1 =
        (a.store.append source operation objectType primaryKey payload now).1 ∧
      Abreast rename os source
        { a with
          store := (a.store.append source operation objectType primaryKey payload now).2 }
        { b with
          store := (b.store.append source operation objectType primaryKey payload now).2 } := by
  have serial : b.store.nextSerialOf source = a.store.nextSerialOf source := by
    rw [Store.nextSerialOf, Store.nextSerialOf, h.rows]
  obtain ⟨ds, es, alike, left, right⟩ := h.documents
  refine ⟨by simp only [Store.append, serial], h.left.append _ _ _ _ _ _,
    h.right.append _ _ _ _ _ _, h.clock, h.stamp, ?_, ⟨ds, es, alike, ⟨left.versions, left.files⟩,
      right.versions, right.files⟩, h.lease, h.oneToOne, h.past⟩
  rw [Store.rowsOf_append, Store.rowsOf_append, if_pos rfl, if_pos rfl, h.rows, serial]

/-! ## The lock -/

/-- Who holds the lock in one site stands for who holds it in the other. -/
theorem holder (h : a.Abreast rename os source b) (now : Int) :
    Option.Rel (Lease.Alike os) (a.store.holder source.lockName now)
      (b.store.holder source.lockName now) := by
  have lease := h.lease
  unfold Store.holder
  generalize a.store.leaseOf source.lockName = l at lease
  generalize b.store.leaseOf source.lockName = m at lease
  cases lease with
  | none => exact .none
  | some alike =>
    dsimp only
    rw [alike.expiresAt]
    split
    · exact .some alike
    · exact .none

/-- Two new owners stand for one another. -/
theorem oneToOne_cons (h : a.Abreast rename os source b) :
    OwnerPairs.OneToOne ((ownerName a.owners, ownerName b.owners) :: os) := by
  have fresh : ∀ p ∈ os, p.1 ≠ ownerName a.owners ∧ p.2 ≠ ownerName b.owners := by
    intro p hp
    obtain ⟨⟨i, hi, left⟩, j, hj, right⟩ := h.past p hp
    refine ⟨?_, ?_⟩
    · intro same
      have := ownerName_injective (left.symm.trans same)
      omega
    · intro same
      have := ownerName_injective (right.symm.trans same)
      omega
  intro p hp q hq
  rcases List.mem_cons.mp hp with rfl | hp
  · rcases List.mem_cons.mp hq with rfl | hq
    · exact iff_of_true rfl rfl
    · exact iff_of_false (fresh q hq).1.symm (fresh q hq).2.symm
  · rcases List.mem_cons.mp hq with rfl | hq
    · exact iff_of_false (fresh p hp).1 (fresh p hp).2
    · exact h.oneToOne p hp q hq

theorem past_cons (h : a.Abreast rename os source b) :
    ∀ p ∈ (ownerName a.owners, ownerName b.owners) :: os,
      (∃ i < a.owners + 1, p.1 = ownerName i) ∧ ∃ j < b.owners + 1, p.2 = ownerName j := by
  intro p hp
  rcases List.mem_cons.mp hp with rfl | hp
  · exact ⟨⟨_, Nat.lt_succ_self _, rfl⟩, _, Nat.lt_succ_self _, rfl⟩
  · obtain ⟨⟨i, hi, left⟩, j, hj, right⟩ := h.past p hp
    exact ⟨⟨i, Nat.lt_succ_of_lt hi, left⟩, j, Nat.lt_succ_of_lt hj, right⟩

/-- Both get the lock, under owners that now stand for one another, or neither does. -/
theorem tryLock (h : a.Abreast rename os source b) (ttl : Span) :
    ∃ more, os ⊆ more ∧
      TryAlike more (a.tryLock source.lockName ttl).1 (b.tryLock source.lockName ttl).1 ∧
      (a.tryLock source.lockName ttl).2.Abreast rename more source
        (b.tryLock source.lockName ttl).2 := by
  have sub : os ⊆ (ownerName a.owners, ownerName b.owners) :: os := List.subset_cons_self _ _
  have holders := isSome_of_rel (h.holder a.epochMillis)
  have same := a.tryLock_sameRecords source.lockName ttl
  have same' := b.tryLock_sameRecords source.lockName ttl
  have left := h.left.tryLock source.lockName ttl
  have right := h.right.tryLock source.lockName ttl
  have tries := h.right.tryLock_cases source.lockName ttl
  rw [h.epochMillis] at tries
  refine ⟨_, sub, ?_⟩
  rcases h.left.tryLock_cases source.lockName ttl with
    ⟨held, refused⟩ | ⟨free, s, l, rfl, taken, given⟩
  · rcases tries with ⟨-, refused'⟩ | ⟨free', -⟩
    · rw [refused] at same left ⊢
      rw [refused'] at same' right ⊢
      exact ⟨.refused, h.of_sameRecords left right same same' h.clock h.stamp
        (Lease.rel_mono sub h.lease) h.oneToOne_cons h.past_cons⟩
    · rw [holders, held] at free'
      cases free'
  · rcases tries with ⟨held', -⟩ | ⟨-, t, m, rfl, taken', given'⟩
    · rw [holders, free] at held'
      cases held'
    · rw [given] at same left ⊢
      rw [given'] at same' right ⊢
      have new : Lease.Alike ((ownerName a.owners, ownerName b.owners) :: os)
          ⟨source.lockName, ownerName a.owners, Store.expiry a.epochMillis ttl⟩
          ⟨source.lockName, ownerName b.owners, Store.expiry a.epochMillis ttl⟩ :=
        ⟨rfl, List.mem_cons_self, rfl⟩
      refine ⟨.taken new, h.of_sameRecords left right same same' h.clock h.stamp ?_
        h.oneToOne_cons h.past_cons⟩
      rw [taken, taken']
      exact .some new

/-- A lease is given back in both: either the lock is free in both afterwards, or it stays held. -/
theorem releaseLock (h : a.Abreast rename os source b) {k l : Lease} (alike : k.Alike os l) :
    (a.releaseLock k).Abreast rename os source (b.releaseLock l) := by
  have same := a.releaseLock_sameRecords k
  have same' := b.releaseLock_sameRecords l
  have left := h.left.releaseLock k
  have right := h.right.releaseLock l
  have lease := h.lease
  rw [h.left.releaseLock_eq] at same left ⊢
  rw [h.right.releaseLock_eq] at same' right ⊢
  refine h.of_sameRecords left right same same' h.clock h.stamp ?_ h.oneToOne h.past
  rw [h.left.tidy.leaseOf_release, h.right.tidy.leaseOf_release]
  generalize a.store.leaseOf source.lockName = x at lease
  generalize b.store.leaseOf source.lockName = y at lease
  cases lease with
  | none => exact .none
  | @some x y held =>
    have owners := h.oneToOne _ held.owners _ alike.owners
    simp only at owners
    rw [Option.filter_some, Option.filter_some, held.name, alike.name]
    simp only [owners]
    split
    · exact .some held
    · exact .none

/-! ## Transactions -/

theorem alike_next {g h : Generation} (work : g.Alike rename os h) {p q : Publishing}
    (publishing : p.Alike rename q) (i j now : Int) :
    (p.next g i now).Alike rename (q.next h j now) := by
  cases work with
  | intro =>
    cases publishing with
    | snapshot n objects => exact ⟨rfl, rfl, rfl, rfl, rfl, rfl⟩
    | delta previous n changes =>
      exact ⟨previous.source, congrArg (· + 1) previous.version, rfl, rfl, previous.session, rfl⟩

theorem refusal?_eq (h : a.Abreast rename os source b) {g k : Generation}
    (work : g.Alike rename os k) (own : g.source = source) {p q : Publishing}
    (publishing : p.Alike rename q) (known : ∀ v, p.previous = some v → v.source = source) :
    q.refusal? k b.store = p.refusal? g a.store := by
  have taken := any_version_eq h.versions
  cases work with
  | intro =>
    obtain rfl := own
    cases publishing with
    | snapshot n objects => simp only [Publishing.refusal?, taken]
    | @delta v w previous n changes =>
      have ofSource := known v rfl
      simp only [Publishing.refusal?, previous.source, previous.version, previous.lastSerial,
        ofSource, taken]

/-- Both transactions are refused for the same reason, or both commit. -/
theorem commit (h : a.Abreast rename os source b) {g k : Generation} (work : g.Alike rename os k)
    (own : g.source = source) {p q : Publishing} (publishing : p.Alike rename q)
    (known : ∀ v, p.previous = some v → v.source = source) :
    (∃ error, g.commit p a.store a.stamp = .error error ∧
      k.commit q b.store b.stamp = .error error) ∨
    ∃ (d e : Document) (s t : Store), g.commit p a.store a.stamp = .ok (d.published, s) ∧
      k.commit q b.store b.stamp = .ok (e.published, t) ∧ d.Alike rename e ∧
      Abreast rename os source { a with store := s } { b with store := t } := by
  have reasons := h.refusal?_eq work own publishing known
  have body : q.body = p.body := by cases publishing <;> rfl
  rcases h.left.tidy.commit_eq g p a.stamp with ⟨error, refused, failed⟩ | ⟨free, s, made⟩
  · rcases h.right.tidy.commit_eq k q b.stamp with ⟨error', refused', failed'⟩ | ⟨free', -⟩
    · obtain rfl : error' = error := by
        rw [refused, refused'] at reasons
        exact Option.some.inj reasons
      exact .inl ⟨error', failed, failed'⟩
    · rw [refused, free'] at reasons
      cases reasons
  · rcases h.right.tidy.commit_eq k q b.stamp with ⟨error', refused', -⟩ | ⟨-, t, made'⟩
    · rw [free, refused'] at reasons
      cases reasons
    · obtain ⟨adds, -, -, ofSource, -⟩ := Generation.commit_eq_ok made
      obtain ⟨adds', -⟩ := Generation.commit_eq_ok made'
      have new : Document.Alike rename ⟨p.next g (a.store.lastVersionId + 1) a.stamp, p.body⟩
          ⟨q.next k (b.store.lastVersionId + 1) b.stamp, q.body⟩ := by
        refine ⟨?_, body⟩
        rw [h.stamp]
        exact alike_next work publishing _ _ _
      have ofSource := ofSource.trans (Publishing.source_eq own known)
      obtain ⟨ds, es, alike, held, held'⟩ := h.documents
      refine .inr ⟨_, _, s, t, made, made', new, ⟨h.left.memory, h.left.script,
        h.left.tidy.adds adds⟩, ⟨h.right.memory, h.right.script, h.right.tidy.adds adds'⟩,
        h.clock, h.stamp, ?_, ⟨_, _, List.rel_append alike (.cons new .nil),
          held.adds_own h.left.tidy adds ofSource,
          held'.adds_own h.right.tidy adds' (new.info.source.trans ofSource)⟩, ?_,
        h.oneToOne, h.past⟩
      · simp only [Store.rowsOf, adds.serials, adds'.serials]
        exact h.rows
      · simp only [Store.leaseOf, adds.leases, adds'.leases]
        exact h.lease

end Site.Abreast

/-! ## Turns -/

open SharedSite in
/-- Alike generators for a source take alike turns. -/
theorem Site.Abreast.takeTurn (h : a.Abreast rename os source b) {w x : Worker}
    (alike : w.Alike rename os x) (own : w.generation.Of source) :
    ∃ more, os ⊆ more ∧ (takeTurn a w).1.Alike rename more (takeTurn b x).1 ∧
      (takeTurn a w).2.Abreast rename more source (takeTurn b x).2 := by
  have sub := List.Subset.refl os
  cases alike with
  | @intro startedAt g k work =>
    have ofSource := own.ofSource
    have carried := own.phase
    have stays := work
    cases work with
    | intro kind other filter session phase observed =>
      obtain rfl : other = source := ofSource
      cases phase with
      | @locking wait waiting =>
        obtain ⟨name, ttl, timeout, retry, attempts, phase, seen⟩ := wait
        obtain rfl : name = other.lockName := carried.1
        cases phase with
        | trying =>
          obtain ⟨more, wider, tried, sites⟩ := h.tryLock ttl
          have elapsed := sites.clock
          refine ⟨more, wider, ?_, sites⟩
          simp only [SharedSite.takeTurn, Site.step]
          rw [elapsed]
          exact .intro _ ((stays.mono wider).lockTried _ tried rfl rfl)
        | sleeping delay => exact ⟨os, sub, .intro _ stays.woken, h⟩
        | acquired l => exact absurd rfl (waiting l)
        | failed | fatal => exact ⟨os, sub, .intro _ stays, h⟩
      | finding lease =>
        obtain ⟨v, w, last, last', versions⟩ := h.findLast
        refine ⟨os, sub, ?_, h⟩
        simp only [SharedSite.takeTurn, Site.step, last, last']
        exact .intro _ (stays.found versions)
      | @reading l m lease p q previous =>
        have position : Generation.position q = Generation.position p := by
          cases previous with
          | none => rfl
          | some version => exact version.lastSerial
        refine ⟨os, sub, ?_, ?_⟩
        · simp only [SharedSite.takeTurn, Site.step, h.left.entriesSince_eq,
            h.right.entriesSince_eq, position, h.entriesSince]
          exact .intro _ (stays.read _)
        · simp only [SharedSite.takeTurn, Site.step, h.left.entriesSince_eq,
            h.right.entriesSince_eq]
          exact h
      | committing lease publishing =>
        rcases h.commit stays rfl publishing carried.2 with
          ⟨error, failed, failed'⟩ | ⟨d, e, s, t, made, made', new, sites⟩
        · refine ⟨os, sub, ?_, ?_⟩
          · simp only [SharedSite.takeTurn, Site.step, failed, failed']
            exact .intro _ (stays.committed_error error)
          · simp only [SharedSite.takeTurn, Site.step, failed, failed']
            exact h
        · refine ⟨os, sub, ?_, ?_⟩
          · simp only [SharedSite.takeTurn, Site.step, made, made']
            exact .intro _ (stays.committed new)
          · simp only [SharedSite.takeTurn, Site.step, made, made']
            exact sites
      | releasing lease result => exact ⟨os, sub, .intro _ stays.released, h.releaseLock lease⟩
      | ended | fatal => exact ⟨os, sub, .intro _ stays, h⟩

end RegistryFeed
