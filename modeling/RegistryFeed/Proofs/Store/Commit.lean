import RegistryFeed.Publication.Generation

/-!
# What a transaction adds

A committed transaction adds one row to the versions and one file, both made
from the same document, and touches no other table. It needs a version number
that no row of the source has. Nothing is assumed about the store before it.
-/

namespace RegistryFeed

/-- The row in which a version is stored. -/
def VersionInfo.row (v : VersionInfo) : VersionRow :=
  ⟨v.id, v.source, v.version, v.kind.text, v.lastSerial, v.session, v.createdAt⟩

theorem DocumentKind.text_of_ofText {t : String} {k : DocumentKind}
    (h : DocumentKind.ofText t = .ok k) : k.text = t := by
  unfold DocumentKind.ofText at h
  split at h
  · next same => cases h; exact same.symm
  · split at h
    · next same => cases h; exact same.symm
    · cases h

theorem VersionRow.row_of_info {r : VersionRow} {v : VersionInfo} (h : r.info = .ok v) :
    v.row = r := by
  unfold VersionRow.info at h
  split at h
  · next k hk =>
    cases h
    simp only [VersionInfo.row, DocumentKind.text_of_ofText hk]
  · cases h

theorem VersionInfo.info_row (v : VersionInfo) : v.row.info = .ok v := by
  simp only [VersionRow.info, VersionInfo.row, DocumentKind.ofText_text]

theorem VersionInfo.row_injective {v w : VersionInfo} (h : v.row = w.row) : v = w := by
  have kinds : v.kind = w.kind := by
    have ht : v.kind.text = w.kind.text := congrArg VersionRow.kind h
    have hv := DocumentKind.ofText_text v.kind
    rw [ht, DocumentKind.ofText_text w.kind] at hv
    exact (Except.ok.inj hv).symm
  cases v
  cases w
  simp only [VersionInfo.row, VersionRow.mk.injEq] at h
  obtain ⟨rfl, rfl, rfl, _, rfl, rfl, rfl⟩ := h
  simp only at kinds
  rw [kinds]

/-- The file of a document. -/
def Store.fileOf (d : Document) : FileRow := ⟨d.info.id, d.fileName, d.hash, d.text⟩

/-- The document as it is handed out once its file is stored. -/
def Document.published (d : Document) : Artifact := ⟨d, some d.fileName, some d.hash⟩

namespace Store

/-- A document was added to a store, and nothing else was changed. -/
structure Adds (s : Store) (d : Document) (t : Store) : Prop where
  unused : ∀ r ∈ s.versions, r.source = d.info.source → r.version ≠ d.info.version
  id : d.info.id = s.lastVersionId + 1
  lastVersionId : t.lastVersionId = d.info.id
  versions : t.versions = s.versions ++ [d.info.row]
  files : t.files = s.files ++ [fileOf d]
  serials : t.serials = s.serials
  leases : t.leases = s.leases

theorem insertVersion_eq_ok {s t : Store} {source : Source} {version : Int}
    {kind : DocumentKind} {lastSerial : Int} {session : String} {now : Int} {v : VersionInfo}
    (h : s.insertVersion source version kind lastSerial session now = .ok (v, t)) :
    (∀ r ∈ s.versions, r.source = source → r.version ≠ version) ∧
      v = ⟨s.lastVersionId + 1, source, version, kind, lastSerial, session, now⟩ ∧
      t = { s with versions := s.versions ++ [v.row], lastVersionId := v.id } := by
  unfold insertVersion at h
  split at h
  · cases h
  · next free =>
    cases h
    refine ⟨?_, rfl, rfl⟩
    intro r hr hs hv
    apply free
    rw [List.any_eq_true]
    exact ⟨r, List.mem_filter.mpr ⟨hr, by simpa using hs⟩, by simpa using hv⟩

/-- A file is saved only under a name that no file has. -/
theorem saveFile_eq_ok {s t : Store} {f : FileRow} (h : s.saveFile f = .ok t) :
    (∀ g ∈ s.files, g.name ≠ f.name) ∧ t = { s with files := s.files ++ [f] } := by
  unfold saveFile at h
  split at h
  · cases h
  · split at h
    · cases h
    · next free =>
      split at h
      · cases h
      · cases h
        refine ⟨?_, rfl⟩
        intro g hg named
        exact free (List.any_eq_true.mpr ⟨g, hg, decide_eq_true named⟩)

/-- What is answered names the file that was added, and gives its digest. -/
theorem saveDocument_eq_ok {inserted : VersionInfo × Store} {body : DocumentBody}
    {a : Artifact} {t : Store} (h : saveDocument inserted body = .ok (a, t)) :
    a = (Document.mk inserted.1 body).published ∧
      (∀ f ∈ inserted.2.files, f.name ≠ a.toDocument.fileName) ∧
      t = { inserted.2 with files := inserted.2.files ++ [fileOf ⟨inserted.1, body⟩] } := by
  obtain ⟨saved, hs, h⟩ := bind_eq_ok_iff.mp h
  cases h
  obtain ⟨unnamed, rfl⟩ := saveFile_eq_ok hs
  exact ⟨rfl, unnamed, rfl⟩

/-- The new row and its file are both made from the document that is answered. -/
theorem adds_of_insertVersion {s u t : Store} {source : Source} {version : Int}
    {kind : DocumentKind} {lastSerial : Int} {session : String} {now : Int} {v : VersionInfo}
    {body : DocumentBody} {a : Artifact}
    (inserted : s.insertVersion source version kind lastSerial session now = .ok (v, u))
    (saved : saveDocument (v, u) body = .ok (a, t)) :
    a = (Document.mk v body).published ∧ s.Adds ⟨v, body⟩ t := by
  obtain ⟨unused, rfl, rfl⟩ := insertVersion_eq_ok inserted
  obtain ⟨rfl, -, rfl⟩ := saveDocument_eq_ok saved
  exact ⟨rfl, unused, rfl, rfl, rfl, rfl, rfl, rfl⟩

end Store

/-! ## A transaction that is not refused -/

namespace Store

theorem insertVersion_of_unused {s : Store} {v : VersionInfo} (id : v.id = s.lastVersionId + 1)
    (unused : ∀ r ∈ s.versions, r.source = v.source → r.version ≠ v.version) :
    s.insertVersion v.source v.version v.kind v.lastSerial v.session v.createdAt =
      .ok (v, { s with versions := s.versions ++ [v.row], lastVersionId := v.id }) := by
  unfold insertVersion
  rw [if_neg, ← id]
  · rfl
  · intro taken
    obtain ⟨r, hr, same⟩ := List.any_eq_true.mp taken
    obtain ⟨hr, ofSource⟩ := List.mem_filter.mp hr
    exact unused r hr (of_decide_eq_true ofSource) (of_decide_eq_true same)

/-- A file of a version that is there is saved if its version and its name are free. -/
theorem saveFile_of_free {s : Store} {f : FileRow} (there : ∃ r ∈ s.versions, r.id = f.versionId)
    (free : ∀ g ∈ s.files, g.versionId ≠ f.versionId ∧ g.name ≠ f.name) :
    s.saveFile f = .ok { s with files := s.files ++ [f] } := by
  have version : ¬ s.files.any (·.versionId = f.versionId) := by
    intro taken
    obtain ⟨g, hg, same⟩ := List.any_eq_true.mp taken
    exact (free g hg).1 (of_decide_eq_true same)
  have name : ¬ s.files.any (·.name = f.name) := by
    intro taken
    obtain ⟨g, hg, same⟩ := List.any_eq_true.mp taken
    exact (free g hg).2 (of_decide_eq_true same)
  have known : s.versions.any (·.id = f.versionId) := by
    obtain ⟨r, hr, same⟩ := there
    exact List.any_eq_true.mpr ⟨r, hr, decide_eq_true same⟩
  simp only [saveFile, if_neg version, if_neg name, known, Bool.not_true, Bool.false_eq_true,
    if_false]

theorem saveDocument_of_free {v : VersionInfo} {s : Store} (body : DocumentBody)
    (inserted : v.row ∈ s.versions)
    (free : ∀ f ∈ s.files, f.versionId ≠ v.id ∧ f.name ≠ v.fileName) :
    saveDocument (v, s) body =
      .ok ((Document.mk v body).published,
        { s with files := s.files ++ [fileOf ⟨v, body⟩] }) := by
  have saved : s.saveFile (fileOf ⟨v, body⟩) = .ok _ :=
    saveFile_of_free ⟨v.row, inserted, rfl⟩ free
  exact bind_eq_ok_iff.mpr ⟨_, saved, rfl⟩

end Store

/-! ## What a generator is about to commit -/

namespace Publishing

/-- The version that the new one follows; a snapshot follows none. -/
def previous : Publishing → Option VersionInfo
  | .snapshot _ _ => none
  | .delta v _ _ => some v

def lastSerial : Publishing → Int
  | .snapshot n _ => n
  | .delta _ n _ => n

def body : Publishing → DocumentBody
  | .snapshot _ os => .objects os
  | .delta _ _ cs => .changes cs

end Publishing

/-- The first version is a snapshot; every other is a delta that takes over the
source and the session of the one before. -/
def VersionInfo.Follows (v : VersionInfo) : Option VersionInfo → Prop
  | none => v.version = 1 ∧ v.kind = .snapshot
  | some p => v.version = p.version + 1 ∧ v.kind = .delta ∧ v.session = p.session

/-- The source for which a generator publishes. -/
def Publishing.source (g : Generation) (p : Publishing) : Source :=
  match p.previous with
  | none => g.source
  | some v => v.source

theorem Publishing.source_eq {g : Generation} {p : Publishing} {source : Source}
    (own : g.source = source) (known : ∀ v, p.previous = some v → v.source = source) :
    p.source g = source := by
  unfold Publishing.source
  split
  · exact own
  · next v previous => exact known v previous

/-- The version that a generator inserts. -/
def Publishing.next (g : Generation) (p : Publishing) (id now : Int) : VersionInfo :=
  match p.previous with
  | none => ⟨id, g.source, 1, .snapshot, p.lastSerial, g.session, now⟩
  | some v => ⟨id, v.source, v.version + 1, .delta, p.lastSerial, v.session, now⟩

namespace Publishing

variable (g : Generation) (p : Publishing) (id now : Int)

theorem next_follows : (p.next g id now).Follows p.previous := by
  unfold next
  split
  · next none =>
    rw [none]
    exact ⟨rfl, rfl⟩
  · next v some =>
    rw [some]
    exact ⟨rfl, rfl, rfl⟩

theorem next_source : (p.next g id now).source = p.source g := by
  unfold next source
  split
  · rfl
  · rfl

theorem next_id : (p.next g id now).id = id := by
  unfold next
  split
  · rfl
  · rfl

theorem next_session (first : p.previous = none) : (p.next g id now).session = g.session := by
  unfold next
  rw [first]

theorem next_lastSerial : (p.next g id now).lastSerial = p.lastSerial := by
  unfold next
  split
  · rfl
  · rfl

end Publishing

/-- A transaction inserts the next version, and saves the document of that version. -/
theorem Generation.parts_of_commit {g : Generation} {p : Publishing} {s t : Store} {now : Int}
    {a : Artifact} (h : g.commit p s now = .ok (a, t)) :
    ∃ v u, v = p.next g (s.lastVersionId + 1) now ∧
      s.insertVersion v.source v.version v.kind v.lastSerial v.session now = .ok (v, u) ∧
      Store.saveDocument (v, u) p.body = .ok (a, t) := by
  cases p with
  | snapshot n os =>
    obtain ⟨⟨v, u⟩, inserted, saved⟩ := bind_eq_ok_iff.mp h
    obtain ⟨-, rfl, -⟩ := Store.insertVersion_eq_ok inserted
    exact ⟨_, u, rfl, inserted, saved⟩
  | delta p n cs =>
    obtain ⟨⟨v, u⟩, inserted, saved⟩ := bind_eq_ok_iff.mp h
    unfold Store.insertNext at inserted
    split at inserted
    · cases inserted
    · obtain ⟨-, rfl, -⟩ := Store.insertVersion_eq_ok inserted
      exact ⟨_, u, rfl, inserted, saved⟩

theorem Generation.commit_eq_ok {g : Generation} {p : Publishing} {s t : Store} {now : Int}
    {a : Artifact} (h : g.commit p s now = .ok (a, t)) :
    s.Adds a.toDocument t ∧ a.body = p.body ∧ a.info.lastSerial = p.lastSerial ∧
      a.info.source = p.source g ∧ a.info.Follows p.previous := by
  obtain ⟨_, u, rfl, inserted, saved⟩ := parts_of_commit h
  obtain ⟨rfl, adds⟩ := Store.adds_of_insertVersion inserted saved
  exact ⟨adds, rfl, p.next_lastSerial g _ now, p.next_source g _ now, p.next_follows g _ now⟩

/-- What a generator hands out names the file that it has stored, and gives its digest. -/
theorem Generation.published_of_commit {g : Generation} {p : Publishing} {s t : Store} {now : Int}
    {a : Artifact} (h : g.commit p s now = .ok (a, t)) : a = a.toDocument.published := by
  obtain ⟨v, u, -, inserted, saved⟩ := parts_of_commit h
  obtain ⟨rfl, -⟩ := Store.adds_of_insertVersion inserted saved
  rfl

theorem Generation.unnamed_of_commit {g : Generation} {p : Publishing} {s t : Store} {now : Int}
    {a : Artifact} (h : g.commit p s now = .ok (a, t)) :
    ∀ f ∈ s.files, f.name ≠ a.toDocument.fileName := by
  obtain ⟨v, u, -, inserted, saved⟩ := parts_of_commit h
  obtain ⟨-, -, rfl⟩ := Store.insertVersion_eq_ok inserted
  exact (Store.saveDocument_eq_ok saved).2.1

/-- A generator commits unless the serials go back, its version number is taken, or the place or the
name of its file is. -/
theorem Generation.commit_of_free {g : Generation} {p : Publishing} {s : Store} {now : Int}
    {next : VersionInfo} (inserts : p.next g (s.lastVersionId + 1) now = next)
    (forward : ∀ v, p.previous = some v → v.lastSerial ≤ p.lastSerial)
    (unused : ∀ r ∈ s.versions, r.source = next.source → r.version ≠ next.version)
    (free : ∀ f ∈ s.files, f.versionId ≠ next.id ∧ f.name ≠ next.fileName) :
    g.commit p s now = .ok ((Document.mk next p.body).published,
      { s with
        versions := s.versions ++ [next.row]
        lastVersionId := next.id
        files := s.files ++ [Store.fileOf ⟨next, p.body⟩] }) := by
  have id : next.id = s.lastVersionId + 1 := by
    rw [← inserts]
    exact p.next_id g _ now
  have inserted := Store.insertVersion_of_unused id unused
  have saved := fun body => Store.saveDocument_of_free body
    (s := { s with versions := s.versions ++ [next.row], lastVersionId := next.id })
    (List.mem_append_right _ List.mem_cons_self) free
  cases p with
  | snapshot n os =>
    subst inserts
    simp only [commit, Store.publishSnapshot, Store.insertFirst, bind, Except.bind]
    simp only [Publishing.next, Publishing.previous, Publishing.lastSerial] at inserted
    rw [inserted]
    exact saved (.objects os)
  | delta v n cs =>
    subst inserts
    simp only [commit, Store.publishDelta, Store.insertNext, bind, Except.bind]
    have ahead : ¬ n < v.lastSerial := Int.not_lt.mpr (forward v rfl)
    rw [if_neg ahead]
    simp only [Publishing.next, Publishing.previous, Publishing.lastSerial] at inserted
    rw [inserted]
    exact saved (.changes cs)

end RegistryFeed
