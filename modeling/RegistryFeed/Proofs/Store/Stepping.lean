import Mathlib.Data.List.Induction
import RegistryFeed.Proofs.Store.Commit
import RegistryFeed.Store.Repository

/-!
# Versions step by one

A call that continues a chain is checked against the version that it names, which
may be long out of date: its serial is compared with that of this version only.
What refuses it is the number of the version it asks for, which only one row can
have. So the numbers alone keep the chain from forking, and the serials and the
session follow. Numbers of versions and serials have no bound here.
-/

namespace RegistryFeed

/-- The rows of one source, as they were inserted, are versions 1, 2, 3 and so on. The first is a
snapshot and the others are deltas, under one session, and the serials do not go back. -/
structure Orderly (rows : List VersionRow) : Prop where
  numbered : ∀ i (h : i < rows.length), rows[i].version = i + 1
  kinds : ∀ r ∈ rows, r.kind =
    if r.version = 1 then DocumentKind.snapshot.text else DocumentKind.delta.text
  session : ∀ a ∈ rows, ∀ b ∈ rows, a.session = b.session
  serials : rows.Pairwise fun a b => a.lastSerial ≤ b.lastSerial

namespace Orderly

variable {rows : List VersionRow}

theorem nil : Orderly [] where
  numbered i h := by cases h
  kinds r hr := by cases hr
  session a ha := by cases ha
  serials := .nil

theorem concat (orderly : Orderly rows) {row : VersionRow}
    (number : row.version = rows.length + 1)
    (kind : row.kind =
      if row.version = 1 then DocumentKind.snapshot.text else DocumentKind.delta.text)
    (session : ∀ r ∈ rows, r.session = row.session)
    (serials : ∀ r ∈ rows, r.lastSerial ≤ row.lastSerial) : Orderly (rows ++ [row]) where
  numbered i h := by
    by_cases inside : i < rows.length
    · rw [List.getElem_append_left inside]
      exact orderly.numbered i inside
    · rw [List.length_append, List.length_singleton] at h
      obtain rfl : i = rows.length := by omega
      rw [List.getElem_concat_length rfl]
      exact number
  kinds r hr := by
    rcases List.mem_append.mp hr with earlier | last
    · exact orderly.kinds r earlier
    · rw [List.mem_singleton.mp last]
      exact kind
  session a ha b hb := by
    have own : ∀ x ∈ rows ++ [row], x.session = row.session := by
      intro x hx
      rcases List.mem_append.mp hx with earlier | last
      · exact session x earlier
      · rw [List.mem_singleton.mp last]
    rw [own a ha, own b hb]
  serials := by
    refine List.pairwise_append.mpr ⟨orderly.serials, List.pairwise_singleton _ _, ?_⟩
    intro a ha b hb
    rw [List.mem_singleton.mp hb]
    exact serials a ha

/-- The numbers that are taken are those from one to the number of rows. -/
theorem taken_iff (orderly : Orderly rows) {n : Int} :
    (∃ r ∈ rows, r.version = n) ↔ 1 ≤ n ∧ n ≤ rows.length := by
  constructor
  · rintro ⟨r, hr, rfl⟩
    obtain ⟨i, h, rfl⟩ := List.mem_iff_getElem.mp hr
    have := orderly.numbered i h
    omega
  · rintro ⟨low, high⟩
    have inside : n.toNat - 1 < rows.length := by omega
    refine ⟨rows[n.toNat - 1], List.getElem_mem inside, ?_⟩
    have := orderly.numbered _ inside
    omega

/-- A row is the newest exactly if the number after its own is not taken. -/
theorem newest_iff (orderly : Orderly rows) {row : VersionRow} (mem : row ∈ rows) :
    (∀ r ∈ rows, r.version ≤ row.version) ↔ ¬ ∃ r ∈ rows, r.version = row.version + 1 := by
  have own := orderly.taken_iff.mp ⟨row, mem, rfl⟩
  constructor
  · rintro newest ⟨r, hr, next⟩
    have := newest r hr
    omega
  · intro free r hr
    have other := orderly.taken_iff.mp ⟨r, hr, rfl⟩
    rw [orderly.taken_iff] at free
    omega

theorem number_of_newest (orderly : Orderly rows) {row : VersionRow} (mem : row ∈ rows)
    (newest : ∀ r ∈ rows, r.version ≤ row.version) :
    1 ≤ row.version ∧ row.version = rows.length := by
  have own := orderly.taken_iff.mp ⟨row, mem, rfl⟩
  have free := (orderly.newest_iff mem).mp newest
  rw [orderly.taken_iff] at free
  omega

/-- The newest row has the highest serial. -/
theorem serial_le (orderly : Orderly rows) {row : VersionRow} (mem : row ∈ rows)
    (newest : ∀ r ∈ rows, r.version ≤ row.version) : ∀ r ∈ rows, r.lastSerial ≤ row.lastSerial := by
  intro r hr
  obtain ⟨i, hi, rfl⟩ := List.mem_iff_getElem.mp mem
  obtain ⟨j, hj, rfl⟩ := List.mem_iff_getElem.mp hr
  have below := newest _ hr
  rw [orderly.numbered i hi, orderly.numbered j hj] at below
  by_cases same : j = i
  · subst same
    exact Int.le_refl _
  · exact List.pairwise_iff_getElem.mp orderly.serials j i hj hi (by omega)

end Orderly

/-! ## One call -/

@[simp]
theorem VersionCall.info_id (c : VersionCall) (id : Int) : (c.info id).id = id := by
  cases c with
  | first => rfl
  | next => rfl

namespace Store

/-- The calls that are accepted: to begin a chain where there is none, or to continue a chain after
its newest version, not behind it. -/
inductive Takes (s : Store) : VersionCall → Prop
  | first {source : Source} {session : String} {lastSerial now : Int}
      (none : s.versionsOf source = []) : Takes s (.first source session lastSerial now)
  | next {previous : VersionInfo} {lastSerial now : Int}
      (newest : ∀ r ∈ s.versionsOf previous.source, r.version ≤ previous.version)
      (forward : previous.lastSerial ≤ lastSerial) : Takes s (.next previous lastSerial now)

/-- The calls that are refused, and for what. -/
inductive Refuses (s : Store) : VersionCall → EngineError → Prop
  | begun {source : Source} {session : String} {lastSerial now : Int}
      (some : s.versionsOf source ≠ []) :
      Refuses s (.first source session lastSerial now) (.store (.violated .versionTaken))
  | behind {previous : VersionInfo} {lastSerial now : Int}
      (back : lastSerial < previous.lastSerial) :
      Refuses s (.next previous lastSerial now) (.internal
        (.serialBehind lastSerial previous.version previous.source previous.lastSerial))
  | stale {previous : VersionInfo} {lastSerial now : Int} {r : VersionRow}
      (forward : previous.lastSerial ≤ lastSerial) (mem : r ∈ s.versionsOf previous.source)
      (later : previous.version < r.version) :
      Refuses s (.next previous lastSerial now) (.store (.violated .versionTaken))

theorem Takes.not_refuses {s : Store} {c : VersionCall} {error : EngineError} (takes : s.Takes c) :
    ¬ s.Refuses c error := by
  intro refuses
  cases takes with
  | first none =>
    cases refuses with
    | begun some => exact some none
  | next newest forward =>
    cases refuses with
    | behind back => omega
    | stale _ mem later =>
      have := newest _ mem
      omega

theorem Refuses.unique {s : Store} {c : VersionCall} {a b : EngineError} (one : s.Refuses c a)
    (other : s.Refuses c b) : a = b := by
  cases one with
  | begun =>
    cases other
    rfl
  | behind back =>
    cases other with
    | behind => rfl
    | stale forward => omega
  | stale forward =>
    cases other with
    | behind back => omega
    | stale => rfl

/-- The store with one more row. -/
def withVersion (s : Store) (v : VersionInfo) : Store :=
  { s with versions := s.versions ++ [v.row], lastVersionId := v.id }

theorem versionsOf_withVersion (s : Store) (v : VersionInfo) (source : Source) :
    (s.withVersion v).versionsOf source =
      s.versionsOf source ++ if v.source = source then [v.row] else [] := by
  have row : v.row.source = v.source := rfl
  rw [versionsOf, versionsOf, withVersion, List.filter_append]
  by_cases same : v.source = source
  · simp [row, same]
  · simp [row, same]

/-- A row is inserted where no other of its source has its number. -/
theorem insertVersion_cases (s : Store) (v : VersionInfo) (id : v.id = s.lastVersionId + 1) :
    ((¬ ∃ r ∈ s.versionsOf v.source, r.version = v.version) ∧
      s.insertVersion v.source v.version v.kind v.lastSerial v.session v.createdAt =
        .ok (v, s.withVersion v)) ∨
    ((∃ r ∈ s.versionsOf v.source, r.version = v.version) ∧
      s.insertVersion v.source v.version v.kind v.lastSerial v.session v.createdAt =
        .error (.store (.violated .versionTaken))) := by
  have decides : (s.versionsOf v.source).any (·.version = v.version) = true ↔
      ∃ r ∈ s.versionsOf v.source, r.version = v.version := by
    simp only [List.any_eq_true, decide_eq_true_eq]
  by_cases taken : ∃ r ∈ s.versionsOf v.source, r.version = v.version
  · refine .inr ⟨taken, ?_⟩
    rw [insertVersion, if_pos (decides.mpr taken)]
  · refine .inl ⟨taken, insertVersion_of_unused id ?_⟩
    intro r hr same number
    exact taken ⟨r, List.mem_filter.mpr ⟨hr, decide_eq_true same⟩, number⟩

variable {s t : Store} {c : VersionCall} {v : VersionInfo}

/-- What is inserted is what the call asks for, in a row of its own. -/
theorem answer_eq_ok (inserted : s.answer c = .ok (v, t)) :
    v = c.info (s.lastVersionId + 1) ∧ t = s.withVersion v := by
  cases c with
  | first source session lastSerial now => exact (insertVersion_eq_ok inserted).2
  | next previous lastSerial now =>
    rw [answer, insertNext] at inserted
    split at inserted
    · cases inserted
    · exact (insertVersion_eq_ok inserted).2

/-- The version that a call continues, if it does, is a row of the store. -/
def Knows (s : Store) (c : VersionCall) : Prop :=
  ∀ previous lastSerial now, c = .next previous lastSerial now → previous.row ∈ s.versions

/-- A call is accepted and adds its row, or is refused. -/
theorem answer_cases (orderly : ∀ source, Orderly (s.versionsOf source)) (knows : s.Knows c) :
    (s.Takes c ∧ s.answer c =
      .ok (c.info (s.lastVersionId + 1), s.withVersion (c.info (s.lastVersionId + 1)))) ∨
    ∃ error, s.Refuses c error ∧ s.answer c = .error error := by
  cases c with
  | first source session lastSerial now =>
    have asked :=
      s.insertVersion_cases (VersionCall.info _ (.first source session lastSerial now)) rfl
    rcases asked with ⟨free, inserted⟩ | ⟨taken, refused⟩
    · refine .inl ⟨.first ?_, inserted⟩
      have free : ¬ ∃ r ∈ s.versionsOf source, r.version = 1 := free
      rw [(orderly source).taken_iff] at free
      exact List.length_eq_zero_iff.mp (by omega)
    · refine .inr ⟨_, .begun ?_, refused⟩
      obtain ⟨r, mem, -⟩ := taken
      exact List.ne_nil_of_mem mem
  | next previous lastSerial now =>
    by_cases back : lastSerial < previous.lastSerial
    · refine .inr ⟨_, .behind back, ?_⟩
      rw [answer, insertNext, if_pos back]
    · have forward : previous.lastSerial ≤ lastSerial := by omega
      have mem : previous.row ∈ s.versionsOf previous.source :=
        List.mem_filter.mpr ⟨knows _ _ _ rfl, decide_eq_true rfl⟩
      have newest_iff := (orderly previous.source).newest_iff mem
      rw [answer, insertNext, if_neg back]
      have asked := s.insertVersion_cases (VersionCall.info _ (.next previous lastSerial now)) rfl
      rcases asked with ⟨free, inserted⟩ | ⟨⟨r, taken, number⟩, refused⟩
      · exact .inl ⟨.next (newest_iff.mpr free) forward, inserted⟩
      · have number : r.version = previous.version + 1 := number
        exact .inr ⟨_, .stale forward taken (by omega), refused⟩

theorem answer_ok_iff (orderly : ∀ source, Orderly (s.versionsOf source)) (knows : s.Knows c) :
    (∃ v t, s.answer c = .ok (v, t)) ↔ s.Takes c := by
  rcases answer_cases orderly knows with ⟨takes, inserted⟩ | ⟨error, refuses, refused⟩
  · exact ⟨fun _ => takes, fun _ => ⟨_, _, inserted⟩⟩
  · constructor
    · rintro ⟨v, t, inserted⟩
      cases refused.symm.trans inserted
    · intro takes
      exact absurd refuses takes.not_refuses

theorem answer_error_iff (orderly : ∀ source, Orderly (s.versionsOf source)) (knows : s.Knows c)
    (error : EngineError) : s.answer c = .error error ↔ s.Refuses c error := by
  rcases answer_cases orderly knows with ⟨takes, inserted⟩ | ⟨cause, refuses, refused⟩
  · constructor
    · intro refused
      cases inserted.symm.trans refused
    · intro refuses
      exact absurd refuses takes.not_refuses
  · constructor
    · intro same
      rw [← Except.error.inj (refused.symm.trans same)]
      exact refuses
    · intro other
      rw [refused, refuses.unique other]

/-- What a call that is accepted adds is the next version of its source, and keeps the order. -/
theorem Takes.orderly (takes : s.Takes c) (orderly : ∀ source, Orderly (s.versionsOf source))
    (knows : s.Knows c) (id : Int) :
    (c.info id).version = (s.versionsOf (c.info id).source).length + 1 ∧
      ∀ source, Orderly ((s.withVersion (c.info id)).versionsOf source) := by
  suffices own : (c.info id).version = (s.versionsOf (c.info id).source).length + 1 ∧
      Orderly (s.versionsOf (c.info id).source ++ [(c.info id).row]) by
    refine ⟨own.1, fun source => ?_⟩
    rw [versionsOf_withVersion]
    split
    · next same =>
      rw [← same]
      exact own.2
    · rw [List.append_nil]
      exact orderly source
  cases takes with
  | @first source session lastSerial now none =>
    have empty : s.versionsOf (VersionCall.info id (.first source session lastSerial now)).source
      = [] := none
    rw [empty]
    exact ⟨rfl, Orderly.nil.concat rfl rfl (by simp) (by simp)⟩
  | @next previous lastSerial now newest forward =>
    have mem : previous.row ∈ s.versionsOf previous.source :=
      List.mem_filter.mpr ⟨knows _ _ _ rfl, decide_eq_true rfl⟩
    have rows := orderly previous.source
    obtain ⟨low, last⟩ := rows.number_of_newest mem newest
    have low : 1 ≤ previous.version := low
    have last : previous.version = (s.versionsOf previous.source).length := last
    have number : previous.version + 1 = (s.versionsOf previous.source).length + 1 := by omega
    have other : previous.version + 1 ≠ 1 := by omega
    refine ⟨number, rows.concat number (if_neg other).symm ?_ ?_⟩
    · intro r hr
      exact rows.session r hr previous.row mem
    · intro r hr
      exact Int.le_trans (rows.serial_le mem newest r hr) forward

end Store

/-! ## Any number of calls -/

namespace Repository

variable {r : Repository} {es : List Event}

theorem run_append (r : Repository) (es more : List Event) :
    r.run (es ++ more) = (r.run es).run more := List.foldl_append

theorem run_concat (r : Repository) (es : List Event) (e : Event) :
    r.run (es ++ [e]) = (r.run es).step e := run_append r es [e]

/-- A call adds to what the transaction sees, or leaves everything as it is. -/
theorem step_call (r : Repository) (c : VersionCall) :
    (∃ v t, r.working.answer c = .ok (v, t) ∧ r.step (.call c) = { r with working := t }) ∨
      ∃ error, r.working.answer c = .error error ∧ r.step (.call c) = r := by
  cases answered : r.working.answer c with
  | ok inserted => exact .inl ⟨inserted.1, inserted.2, rfl, by simp only [step, answered]⟩
  | error error => exact .inr ⟨error, rfl, by simp only [step, answered]⟩

/-- A transaction sees all that is committed. -/
def Grown (r : Repository) : Prop := r.committed.versions <+: r.working.versions

theorem Grown.step (grown : r.Grown) (e : Event) :
    (r.step e).Grown ∧ r.committed.versions <+: (r.step e).committed.versions := by
  cases e with
  | call c =>
    rcases r.step_call c with ⟨v, t, inserted, stepped⟩ | ⟨error, -, stepped⟩
    · rw [stepped]
      obtain ⟨-, rfl⟩ := Store.answer_eq_ok inserted
      exact ⟨grown.trans (List.prefix_append _ _), List.prefix_rfl⟩
    · rw [stepped]
      exact ⟨grown, List.prefix_rfl⟩
  | commit => exact ⟨List.prefix_rfl, grown⟩
  | rollback => exact ⟨List.prefix_rfl, List.prefix_rfl⟩

theorem Grown.run (grown : r.Grown) (es : List Event) :
    (r.run es).Grown ∧ r.committed.versions <+: (r.run es).committed.versions := by
  induction es generalizing r with
  | nil => exact ⟨grown, List.prefix_rfl⟩
  | cons e es ih =>
    obtain ⟨still, more⟩ := grown.step e
    obtain ⟨still', more'⟩ := ih still
    exact ⟨still', more.trans more'⟩

/-- Rows are never taken away, so a version that was read once can be continued from its row. -/
theorem Informed.knows {before after : List Event} {c : VersionCall} (informed : r.Informed es)
    (grown : r.Grown) (split : es = before ++ .call c :: after) :
    (r.run before).working.Knows c := by
  rintro previous lastSerial now rfl
  rcases informed before previous lastSerial now after split with
    ⟨earlier, ⟨later, rfl⟩, row, mem, read⟩ | ⟨row, mem, read⟩
  · rw [VersionRow.row_of_info read]
    -- what was committed by then is committed still, and the transaction sees it
    rw [run_append]
    obtain ⟨still, more⟩ := (grown.run earlier).1.run later
    exact still.subset (more.subset mem)
  · rw [VersionRow.row_of_info read]
    exact mem

/-- Both what is committed and what the transaction sees are in order, for each source. -/
structure InOrder (r : Repository) : Prop where
  committed : ∀ source, Orderly (r.committed.versionsOf source)
  working : ∀ source, Orderly (r.working.versionsOf source)

theorem InOrder.step (h : r.InOrder) (e : Event)
    (knows : ∀ c, e = .call c → r.working.Knows c) : (r.step e).InOrder := by
  cases e with
  | call c =>
    have known := knows c rfl
    rcases r.step_call c with ⟨v, t, inserted, stepped⟩ | ⟨error, -, stepped⟩
    · rw [stepped]
      obtain ⟨rfl, rfl⟩ := Store.answer_eq_ok inserted
      have takes := (Store.answer_ok_iff h.working known).mp ⟨_, _, inserted⟩
      exact ⟨h.committed, (takes.orderly h.working known _).2⟩
    · rw [stepped]
      exact h
  | commit => exact ⟨h.working, h.working⟩
  | rollback => exact ⟨h.committed, h.committed⟩

theorem InOrder.run (h : r.InOrder) (grown : r.Grown) (informed : r.Informed es)
    {before : List Event} (here : before <+: es) : (r.run before).InOrder := by
  induction before using List.reverseRecOn with
  | nil => exact h
  | append_singleton before e ih =>
    obtain ⟨after, split⟩ := here
    rw [List.append_assoc, List.singleton_append] at split
    rw [run_concat]
    refine (ih ⟨_, split⟩).step e ?_
    rintro c rfl
    exact informed.knows grown split.symm

/-- Whatever versions the callers continue, old or new, and whatever they roll back: the committed
rows of a source are versions 1, 2, 3 and so on of one session, in order of their serials, and stay.
A call is accepted exactly if it begins a chain where there is none, or continues the newest version
and not behind it, and adds the next version; other calls change nothing. -/
theorem steps_of_run {s : Store} (orderly : ∀ source, Orderly (s.versionsOf source))
    (informed : (create s).Informed es) :
    (∀ before, before <+: es →
      (∀ source, Orderly (((create s).run before).committed.versionsOf source)) ∧
      ((create s).run before).committed.versions <+: ((create s).run es).committed.versions) ∧
    ∀ before c after, es = before ++ .call c :: after →
      let r := (create s).run before
      ((∃ v t, r.working.answer c = .ok (v, t)) ↔ r.working.Takes c) ∧
      (∀ v t, r.working.answer c = .ok (v, t) → r.step (.call c) = ⟨r.committed, t⟩ ∧
        v = c.info v.id ∧ v.version = (r.working.versionsOf v.source).length + 1 ∧
        t.versions = r.working.versions ++ [v.row]) ∧
      (∀ error, r.working.answer c = .error error ↔ r.working.Refuses c error) ∧
      ∀ error, r.working.answer c = .error error → r.step (.call c) = r := by
  have grown : (create s).Grown := List.prefix_rfl
  have start : (create s).InOrder := ⟨orderly, orderly⟩
  constructor
  · rintro before ⟨after, rfl⟩
    refine ⟨(start.run grown informed ⟨after, rfl⟩).committed, ?_⟩
    rw [run_append]
    exact ((grown.run before).1.run after).2
  intro before c after split r
  have order : r.InOrder := start.run grown informed ⟨_, split.symm⟩
  have knows : r.working.Knows c := informed.knows grown split
  refine ⟨Store.answer_ok_iff order.working knows, ?_,
    Store.answer_error_iff order.working knows, ?_⟩
  · intro v t inserted
    obtain ⟨rfl, rfl⟩ := Store.answer_eq_ok inserted
    have takes := (Store.answer_ok_iff order.working knows).mp ⟨_, _, inserted⟩
    refine ⟨?_, ?_, (takes.orderly order.working knows _).1, rfl⟩
    · simp only [step, inserted]
    · rw [VersionCall.info_id]
  · intro error refused
    simp only [step, refused]

/-- Callers that continue only what was committed before any of them began. -/
theorem informed_of_committed {front rest : List Event}
    (none : ∀ previous lastSerial now, .call (.next previous lastSerial now) ∉ front)
    (read : ∀ previous lastSerial now, .call (.next previous lastSerial now) ∈ rest →
      ∃ row ∈ (r.run front).committed.versions, row.info = .ok previous) :
    r.Informed (front ++ rest) := by
  intro before previous lastSerial now after split
  rcases List.append_eq_append_iff.mp split with ⟨between, rfl, same⟩ | ⟨between, rfl, same⟩
  · refine .inl ⟨front, List.prefix_append _ _, read previous lastSerial now ?_⟩
    simp [same]
  · cases between with
    | nil =>
      refine .inl ⟨before, List.prefix_rfl, ?_⟩
      have same : .call (.next previous lastSerial now) :: after = rest := same
      rw [List.append_nil] at read
      apply read previous lastSerial now
      rw [← same]
      exact List.mem_cons_self
    | cons x between =>
      obtain ⟨rfl, -⟩ := List.cons.inj same
      exact absurd (by simp) (none previous lastSerial now)

/-- The first version of a source, and the one after it. -/
def begun : VersionInfo := ⟨1, ⟨"TEST"⟩, 1, .snapshot, 3, "s", 0⟩

def continued : VersionInfo := ⟨2, ⟨"TEST"⟩, 2, .delta, 4, "s", 0⟩

/-- The first version is continued and rolled back, and continued again. -/
def renewed : List Event :=
  [.call (.first ⟨"TEST"⟩ "s" 3 0), .commit, .call (.next begun 5 0), .rollback,
    .call (.next begun 4 0), .commit]

/-- After the second version the first one cannot be continued any more. -/
theorem steps_of_renewed :
    (∀ source, Orderly (Store.empty.versionsOf source)) ∧
    (create .empty).Informed (renewed ++ [.call (.next begun 9 0)]) ∧
    ((create .empty).run renewed).committed.versions = [begun.row, continued.row] ∧
    ((create .empty).run renewed).working.answer (.next begun 9 0) =
      .error (.store (.violated .versionTaken)) ∧
    ((create .empty).run renewed).step (.call (.next begun 9 0)) =
      (create .empty).run renewed := by
  have orderly : ∀ source, Orderly (Store.empty.versionsOf source) := fun _ => .nil
  have informed : (create .empty).Informed (renewed ++ [.call (.next begun 9 0)]) := by
    show (create .empty).Informed (renewed.take 2 ++ (renewed.drop 2 ++ [.call (.next begun 9 0)]))
    refine informed_of_committed (by simp [renewed]) ?_
    intro previous lastSerial now named
    have same : previous = begun := by
      simp only [renewed, List.drop_succ_cons, List.drop_zero, List.cons_append, List.mem_cons,
        Event.call.injEq, VersionCall.next.injEq, reduceCtorEq] at named
      grind
    rw [same]
    exact ⟨begun.row, by decide +kernel, begun.info_row⟩
  obtain ⟨-, calls⟩ := steps_of_run orderly informed
  obtain ⟨-, -, refuses, unchanged⟩ := calls renewed (.next begun 9 0) [] rfl
  have rows : ((create .empty).run renewed).committed.versions = [begun.row, continued.row] := by
    decide +kernel
  have taken := (refuses (.store (.violated .versionTaken))).mpr
    (.stale (r := continued.row) (by decide) (by decide +kernel) (by decide))
  exact ⟨orderly, informed, rows, taken, unchanged _ taken⟩

end Repository

end RegistryFeed
