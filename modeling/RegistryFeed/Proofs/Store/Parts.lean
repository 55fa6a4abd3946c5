import Mathlib.Data.List.Nodup
import RegistryFeed.Proofs.Publication.FileNames
import RegistryFeed.Proofs.Store.Commit

/-!
# The part of one source

All sources share the tables of a store, the numbers of the rows and the names of
the files. A transaction on one source is refused only for what the store holds of
that source: a number is taken only by a row of the source, and the name of a file
only by a file of the same version. Nothing is assumed about what other sources are
called or about what they have published.
-/

namespace RegistryFeed

namespace Store

/-- The files of a source, in the order in which they were saved. -/
def filesOf (s : Store) (source : Source) : List FileRow :=
  s.files.filter fun f => (s.versionsOf source).any (·.id = f.versionId)

/-- The documents of a source: its versions, and the files of just these. -/
structure Holds (s : Store) (source : Source) (ds : List Document) : Prop where
  versions : s.versionsOf source = ds.map (·.info.row)
  files : s.filesOf source = ds.map fileOf

/-- A store in which only whole documents were saved: every file is that of a version, and has its
name. -/
structure Tidy (s : Store) : Prop where
  rows : ∀ r ∈ s.versions, r.id ≤ s.lastVersionId
  filed : ∀ f ∈ s.files, ∃ v : VersionInfo,
    v.row ∈ s.versions ∧ f.versionId = v.id ∧ f.name = v.fileName
  names : (s.files.map (·.name)).Nodup
  locks : (s.leases.map (·.name)).Nodup

variable {s t : Store} {source : Source} {ds : List Document} {d : Document}

/-- Where no two files have one name, each is found under its own. -/
theorem findFile_of_nodup (names : (s.files.map (·.name)).Nodup) {f : FileRow}
    (mem : f ∈ s.files) : s.findFile f.name = some f := by
  cases found : s.findFile f.name with
  | none => simpa using List.find?_eq_none.mp found f mem
  | some k =>
    have named : k.name = f.name := by simpa using List.find?_some found
    rw [List.inj_on_of_nodup_map names (List.mem_of_find?_eq_some found) mem named]

/-- A document of a source is found under its name. -/
theorem Tidy.findFile (h : s.Tidy) (held : s.Holds source ds) :
    ∀ d ∈ ds, s.findFile d.fileName = some (fileOf d) := by
  intro d hd
  have filed : fileOf d ∈ s.filesOf source := by
    rw [held.files]
    exact List.mem_map_of_mem hd
  exact findFile_of_nodup h.names (List.mem_filter.mp filed).1

/-! ## A document more -/

theorem versionsOf_adds (adds : s.Adds d t) (source : Source) :
    t.versionsOf source =
      s.versionsOf source ++ if d.info.source = source then [d.info.row] else [] := by
  rw [versionsOf, versionsOf, adds.versions, List.filter_append]
  refine congrArg _ ?_
  split
  · next own => exact List.filter_cons_of_pos (decide_eq_true own)
  · next other => exact List.filter_cons_of_neg fun own => other (of_decide_eq_true own)

theorem Tidy.file_le (h : s.Tidy) {f : FileRow} (hf : f ∈ s.files) :
    f.versionId ≤ s.lastVersionId := by
  obtain ⟨v, there, id, -⟩ := h.filed f hf
  rw [id]
  exact h.rows v.row there

/-- No file has the name of a version whose number is free. -/
theorem Tidy.free (h : s.Tidy) {v : VersionInfo} (id : v.id = s.lastVersionId + 1)
    (unused : ∀ r ∈ s.versions, r.source = v.source → r.version ≠ v.version) :
    ∀ f ∈ s.files, f.versionId ≠ v.id ∧ f.name ≠ v.fileName := by
  intro f hf
  refine ⟨?_, ?_⟩
  · have := h.file_le hf
    omega
  · intro same
    obtain ⟨w, there, -, named⟩ := h.filed f hf
    obtain ⟨-, number, named, -⟩ := VersionInfo.same_of_fileName (named.symm.trans same)
    exact unused w.row there named number

theorem Tidy.adds (h : s.Tidy) (adds : s.Adds d t) : t.Tidy := by
  refine ⟨?_, ?_, ?_, ?_⟩
  · intro r hr
    rw [adds.versions] at hr
    rw [adds.lastVersionId]
    rcases List.mem_append.mp hr with old | new
    · have := h.rows r old
      have := adds.id
      omega
    · rw [List.mem_singleton.mp new]
      exact Int.le_refl _
  · intro f hf
    rw [adds.files] at hf
    rw [adds.versions]
    rcases List.mem_append.mp hf with old | new
    · obtain ⟨v, there, same⟩ := h.filed f old
      exact ⟨v, List.mem_append_left _ there, same⟩
    · rw [List.mem_singleton.mp new]
      exact ⟨d.info, List.mem_append_right _ List.mem_cons_self, rfl, rfl⟩
  · rw [adds.files, List.map_append, List.nodup_append]
    refine ⟨h.names, List.nodup_singleton _, ?_⟩
    intro name old last new
    obtain ⟨f, hf, rfl⟩ := List.mem_map.mp old
    rw [List.mem_singleton.mp new]
    exact (h.free adds.id adds.unused f hf).2
  · rw [adds.leases]
    exact h.locks

/-- The new file is that of the new row, and no old file is. -/
theorem filesOf_adds (h : s.Tidy) (adds : s.Adds d t) (source : Source) :
    t.filesOf source =
      s.filesOf source ++ if d.info.source = source then [fileOf d] else [] := by
  have id := adds.id
  rw [filesOf, filesOf, adds.files, List.filter_append, versionsOf_adds adds]
  congr 1
  · refine List.filter_congr fun f hf => ?_
    have := h.file_le hf
    have older : ¬ d.info.id = f.versionId := by omega
    rw [List.any_append]
    split
    · have : d.info.row.id ≠ f.versionId := older
      simp [this]
    · simp
  · split
    · refine List.filter_cons_of_pos ?_
      rw [List.any_append, Bool.or_eq_true]
      exact .inr (by simp [fileOf, VersionInfo.row])
    · refine List.filter_cons_of_neg ?_
      rw [List.append_nil, List.any_eq_true]
      rintro ⟨r, hr, same⟩
      have := h.rows r (List.mem_filter.mp hr).1
      have : r.id = d.info.id := of_decide_eq_true same
      omega

theorem Holds.adds_own (h : s.Holds source ds) (tidy : s.Tidy) (adds : s.Adds d t)
    (own : d.info.source = source) : t.Holds source (ds ++ [d]) := by
  refine ⟨?_, ?_⟩
  · rw [versionsOf_adds adds, if_pos own, h.versions, List.map_append, List.map_singleton]
  · rw [filesOf_adds tidy adds, if_pos own, h.files, List.map_append, List.map_singleton]

end Store

/-! ## A transaction on a tidy store -/

/-- Why a transaction is refused: the serials go back, or the number of the version is taken. -/
def Publishing.refusal? (g : Generation) (p : Publishing) (s : Store) : Option EngineError :=
  match p with
  | .snapshot _ _ =>
    if (s.versionsOf g.source).any (·.version = 1) then some (.store (.violated .versionTaken))
    else none
  | .delta v n _ =>
    if n < v.lastSerial then
      some (.internal (.serialBehind n v.version v.source v.lastSerial))
    else if (s.versionsOf v.source).any (·.version = v.version + 1) then
      some (.store (.violated .versionTaken))
    else none

namespace Store

theorem unused_of_not_any {s : Store} {source : Source} {version : Int}
    (free : ¬ (s.versionsOf source).any (·.version = version)) :
    ∀ r ∈ s.versions, r.source = source → r.version ≠ version := by
  intro r hr own same
  refine free (List.any_eq_true.mpr ⟨r, List.mem_filter.mpr ⟨hr, ?_⟩, ?_⟩)
  · exact decide_eq_true own
  · exact decide_eq_true same

/-- On a tidy store nothing else refuses a transaction. -/
theorem Tidy.commit_eq {s : Store} (h : s.Tidy) (g : Generation) (p : Publishing) (now : Int) :
    (∃ error, p.refusal? g s = some error ∧ g.commit p s now = .error error) ∨
      p.refusal? g s = none ∧ ∃ t, g.commit p s now =
        .ok ((Document.mk (p.next g (s.lastVersionId + 1) now) p.body).published, t) := by
  cases p with
  | snapshot n os =>
    by_cases taken : (s.versionsOf g.source).any (·.version = 1)
    · refine .inl ⟨_, if_pos taken, ?_⟩
      simp only [Generation.commit, publishSnapshot, insertFirst, insertVersion, if_pos taken, bind,
        Except.bind]
    · have unused := unused_of_not_any taken
      exact .inr ⟨if_neg taken, _, Generation.commit_of_free rfl (fun v none => by cases none)
        unused (h.free rfl unused)⟩
  | delta v n cs =>
    by_cases behind : n < v.lastSerial
    · refine .inl ⟨_, if_pos behind, ?_⟩
      simp only [Generation.commit, publishDelta, insertNext, if_pos behind, bind, Except.bind]
    by_cases taken : (s.versionsOf v.source).any (·.version = v.version + 1)
    · refine .inl ⟨_, (if_neg behind).trans (if_pos taken), ?_⟩
      simp only [Generation.commit, publishDelta, insertNext, insertVersion, if_neg behind,
        if_pos taken, bind, Except.bind]
    · have unused := unused_of_not_any taken
      refine .inr ⟨(if_neg behind).trans (if_neg taken), _, Generation.commit_of_free rfl ?_
        unused (h.free rfl unused)⟩
      intro w same
      rw [← Option.some.inj same]
      exact Int.not_lt.mp behind

/-! ## The lock -/

theorem find?_filter_of_nodup {leases : List Lease} (distinct : (leases.map (·.name)).Nodup)
    (keep : Lease → Bool) (name : String) :
    (leases.filter keep).find? (·.name = name) =
      (leases.find? (·.name = name)).filter keep := by
  induction leases with
  | nil => rfl
  | cons l rest ih =>
    obtain ⟨absent, distinct⟩ := List.nodup_cons.mp distinct
    by_cases named : l.name = name
    · have gone : rest.find? (·.name = name) = none := by
        rw [List.find?_eq_none]
        intro x hx same
        exact absent (List.mem_map.mpr ⟨x, hx, (of_decide_eq_true same).trans named.symm⟩)
      have later := ih distinct
      rw [gone] at later
      rw [List.find?_cons_of_pos (by simpa using named), List.filter_cons]
      split
      · next kept =>
        rw [List.find?_cons_of_pos (by simpa using named), Option.filter_some, if_pos kept]
      · next lost => rw [later, Option.filter_some, if_neg lost, Option.filter_none]
    · rw [List.find?_cons_of_neg (by simpa using named), List.filter_cons, ← ih distinct]
      split
      · exact List.find?_cons_of_neg (by simpa using named)
      · rfl

/-- Where no lock has two leases, one that is given back leaves its lock free. -/
theorem Tidy.leaseOf_release {s : Store} (h : s.Tidy) (k : Lease) (name : String) :
    (s.release k).leaseOf name =
      (s.leaseOf name).filter fun l => !(l.name = k.name && l.owner = k.owner) :=
  find?_filter_of_nodup h.locks _ name

theorem Tidy.release {s : Store} (h : s.Tidy) (k : Lease) : (s.release k).Tidy :=
  ⟨h.rows, h.filed, h.names, (List.filter_sublist.map _).nodup h.locks⟩

theorem Tidy.tryAcquire {s : Store} (h : s.Tidy) (name owner : String) (ttl : Span) (now : Int) :
    (s.tryAcquire name owner ttl now).2.Tidy := by
  rcases tried : s.tryAcquire name owner ttl now with ⟨answer, t⟩
  cases answer with
  | none =>
    obtain rfl := tryAcquire_eq_none tried
    exact h
  | some l =>
    obtain ⟨named, -, rfl⟩ := tryAcquire_eq_some tried
    refine ⟨h.rows, h.filed, h.names, ?_⟩
    rw [List.map_append, List.nodup_append]
    refine ⟨(List.filter_sublist.map _).nodup h.locks, List.nodup_singleton _, ?_⟩
    intro n old m new same
    obtain ⟨x, hx, rfl⟩ := List.mem_map.mp old
    have other : x.name ≠ name := by simpa using (List.mem_filter.mp hx).2
    rw [List.map_singleton, List.mem_singleton] at new
    exact other (same.trans (new.trans named))

end Store

end RegistryFeed
