import RegistryFeed.Proofs.Publication.Turn

/-!
# What recording a change does

A recorded change touches the log alone. The log of its source grows at the end
or stays as it was, the logs of all other sources stay, and a log in ascending
order is still in ascending order. Nothing is assumed about where the log is
kept, nor that the program that records is a generator.
-/

namespace RegistryFeed

theorem MemoryLog.entriesOf_setEntries (log : MemoryLog) (source other : Source)
    (es : List Entry) :
    (log.setEntries source es).entriesOf other =
      if other = source then es else log.entriesOf other := by
  unfold setEntries entriesOf
  by_cases same : other = source
  · simp [same]
  · have others : (log.entries.filter fun e => e.1 ≠ source).lookup other =
        log.entries.lookup other := by
      induction log.entries with
      | nil => rfl
      | cons e rest ih =>
        obtain ⟨first, held⟩ := e
        by_cases here : first = source
        · have differ : (other == first) = false := by simpa [here] using same
          rw [List.filter_cons_of_neg (by simpa using here), ih, List.lookup_cons, differ]
        · rw [List.filter_cons_of_pos (by simpa using here), List.lookup_cons, List.lookup_cons,
            ih]
    have differ : (other == source) = false := by simpa using same
    simp only [List.lookup_cons, differ, same, if_false, others]

theorem nextSerial_concat {log : List Entry} {e : Entry} (h : log.getLast? = some e) :
    nextSerial log = e.serial + 1 := by
  unfold nextSerial lastSerial serialRange
  cases log with
  | nil => cases h
  | cons a rest => simp only [List.head?_cons, h, Option.map_some]

namespace Store

/-- A row above all others of its source goes to the end. -/
theorem rowsOf_insertRow {row : SerialRow} {rows : List SerialRow}
    (above : ∀ r ∈ rows, r.source = row.source → r.serial < row.serial) (source : Source) :
    (insertRow row rows).filter (fun r => r.source = source) =
      rows.filter (fun r => r.source = source) ++
        if row.source = source then [row] else [] := by
  induction rows with
  | nil =>
    by_cases same : row.source = source
    · simp [insertRow, same]
    · simp [insertRow, same]
  | cons r rest ih =>
    have last : ¬ (r.source = row.source ∧ row.serial < r.serial) := by
      rintro ⟨hs, hl⟩
      have := above r List.mem_cons_self hs
      omega
    have tail := ih fun x hx => above x (List.mem_cons_of_mem _ hx)
    rw [insertRow, if_neg last, List.filter_cons, List.filter_cons, tail]
    split
    · rfl
    · rfl

end Store

namespace Site

/-- The log of a source is in ascending order, without repetition. -/
def Ascending (site : Site) (source : Source) : Prop :=
  (site.serials source).Pairwise (· < ·)

theorem serials_of_memory {site : Site} {log : MemoryLog} (h : site.memory = some log)
    (source : Source) : site.serials source = (log.entriesOf source).map (·.serial) := by
  simp only [serials, h]

theorem entriesOf_sublist (site : Site) (source : Source) :
    ((site.entriesOf source).map (·.serial)).Sublist (site.serials source) := by
  unfold entriesOf serials
  cases site.memory with
  | some log => exact .refl _
  | none =>
    simp only
    induction site.store.rowsOf source with
    | nil => exact .refl _
    | cons r rest ih =>
      cases he : r.entry with
      | error _ => simpa [he, Except.toOption] using ih.cons _
      | ok e =>
        have same := SerialRow.serial_of_entry he
        simpa [he, same, Except.toOption] using ih

theorem Ascending.entriesOf {site : Site} {source : Source} (h : site.Ascending source) :
    (site.entriesOf source).Pairwise (fun a b => a.serial < b.serial) := by
  have sorted := h.sublist (site.entriesOf_sublist source)
  exact List.pairwise_map.mp sorted

theorem Ascending.of_serials_eq {a b : Site} {source : Source}
    (same : b.serials source = a.serials source) (h : a.Ascending source) :
    b.Ascending source := by
  unfold Ascending
  rw [same]
  exact h

/-- The log of a source has grown at its end by rows of one source. -/
structure Grows (a b : Site) (source : Source) : Prop where
  versions : b.store.versions = a.store.versions
  files : b.store.files = a.store.files
  entries : ∀ other, a.entriesOf other <+: b.entriesOf other
  others : ∀ other, other ≠ source → b.entriesOf other = a.entriesOf other
  ascending : ∀ other, a.Ascending other → b.Ascending other

theorem Grows.refl (a : Site) (source : Source) : a.Grows a source :=
  ⟨rfl, rfl, fun _ => List.prefix_rfl, fun _ _ => rfl, fun _ h => h⟩

/-- What comes after the entries of a source, and only of that source. -/
theorem Grows.of_end {a b : Site} {source : Source} (n : Int) (es : List Entry)
    (versions : b.store.versions = a.store.versions) (files : b.store.files = a.store.files)
    (entries : ∀ other, b.entriesOf other =
      a.entriesOf other ++ if source = other then es else [])
    (serials : ∀ other, b.serials other = a.serials other ++ if source = other then [n] else [])
    (above : a.Ascending source → ∀ m ∈ a.serials source, m < n) : a.Grows b source := by
  refine ⟨versions, files, ?_, ?_, ?_⟩
  · intro other
    rw [entries other]
    exact List.prefix_append _ _
  · intro other different
    rw [entries other, if_neg (Ne.symm different), List.append_nil]
  · intro other sorted
    unfold Ascending
    rw [serials other]
    split
    · next same =>
      subst same
      refine List.pairwise_append.mpr ⟨sorted, List.pairwise_singleton _ _, ?_⟩
      intro m hm k hk
      rw [List.mem_singleton.mp hk]
      exact above sorted m hm
    · rw [List.append_nil]
      exact sorted

/-- In an ascending log the serial after the last one is above all. -/
theorem lt_of_getLast? {ns : List Int} {last : Int} (sorted : ns.Pairwise (· < ·))
    (h : ns.getLast? = some last) : ∀ m ∈ ns, m < last + 1 := by
  intro m hm
  obtain ⟨init, rfl⟩ := List.getLast?_eq_some_iff.mp h
  rcases List.mem_append.mp hm with earlier | here
  · have := (List.pairwise_append.mp sorted).2.2 m earlier last List.mem_cons_self
    omega
  · have := List.mem_singleton.mp here
    omega

/-- A serial of the program's own is checked; the next one is above the others of an ascending
log. -/
theorem append_above {log : List Entry} {serial : Option Int}
    (sorted : log.Pairwise fun a b => a.serial < b.serial)
    (checked : serial.all fun n => (log.map (·.serial)).all (· < n)) :
    ∀ m ∈ log.map (·.serial), m < serial.getD (nextSerial log) := by
  intro m hm
  cases serial with
  | some n =>
    rw [Option.all_some, List.all_eq_true] at checked
    exact of_decide_eq_true (checked m hm)
  | none =>
    cases hl : log.getLast? with
    | none =>
      rw [List.getLast?_eq_none_iff.mp hl] at hm
      cases hm
    | some e =>
      rw [Option.getD_none, nextSerial_concat hl]
      exact lt_of_getLast? (List.pairwise_map.mpr sorted) (by simp [hl]) m hm

theorem memory_append_grows {site : Site} {log : MemoryLog} (kept : site.memory = some log)
    (source : Source) {serial : Option Int} (entry : Int → Entry)
    (named : ∀ n, (entry n).serial = n)
    (checked : serial.all fun n => (site.serials source).all (· < n)) :
    site.Grows { site with memory := some (log.append source serial entry).2 } source := by
  have entries : ∀ other, (log.append source serial entry).2.entriesOf other =
      log.entriesOf other ++
        if source = other then [entry (serial.getD (nextSerial (log.entriesOf source)))]
        else [] := by
    intro other
    rw [MemoryLog.append, MemoryLog.entriesOf_setEntries]
    by_cases same : other = source
    · simp [same]
    · simp [same, Ne.symm same]
  refine .of_end (serial.getD (nextSerial (log.entriesOf source)))
    [entry (serial.getD (nextSerial (log.entriesOf source)))] rfl rfl ?_ ?_ ?_
  · intro other
    simp only [Site.entriesOf, kept]
    exact entries other
  · intro other
    rw [serials_of_memory rfl, serials_of_memory kept, entries other]
    split
    · rw [List.map_append, List.map_singleton, named]
    · rw [List.append_nil, List.append_nil]
  · intro sorted
    rw [serials_of_memory kept] at checked ⊢
    refine append_above (List.pairwise_map.mp ?_) checked
    rw [← serials_of_memory kept]
    exact sorted

/-- A store whose rows of a source are followed by one more row. -/
theorem row_grows {site : Site} (own : site.memory = none) {store : Store} (row : SerialRow)
    (versions : store.versions = site.store.versions) (files : store.files = site.store.files)
    (rows : ∀ other, store.rowsOf other =
      site.store.rowsOf other ++ if row.source = other then [row] else [])
    (above : site.Ascending row.source → ∀ m ∈ site.serials row.source, m < row.serial) :
    site.Grows { site with store := store } row.source := by
  refine .of_end row.serial row.entry.toOption.toList versions files ?_ ?_ above
  · intro other
    simp only [Site.entriesOf, own, rows other, List.filterMap_append]
    split
    · cases he : row.entry <;> simp [he, Except.toOption]
    · rfl
  · intro other
    simp only [Site.serials, own, rows other, List.map_append]
    split <;> rfl

theorem store_append_grows {site : Site} (own : site.memory = none) (source : Source)
    (operation : Operation) (objectType primaryKey : String) (payload : Option String) :
    site.Grows
      { site with
        store :=
          (site.store.append source operation objectType primaryKey payload site.epochMillis).2 }
      source := by
  refine row_grows own ⟨source, site.store.nextSerialOf source, operation.text, objectType,
    primaryKey, payload, site.epochMillis⟩ rfl rfl ?_ ?_
  · intro other
    rw [Store.rowsOf_append]
    by_cases same : other = source
    · simp [same]
    · simp [same, Ne.symm same]
  · intro sorted
    simp only [Ascending, Site.serials, own] at sorted ⊢
    intro m hm
    cases hl : (site.store.rowsOf source).getLast? with
    | none =>
      rw [List.getLast?_eq_none_iff.mp hl] at hm
      cases hm
    | some r =>
      simp only [Store.nextSerialOf, hl]
      exact lt_of_getLast? sorted (by simp [hl]) m hm

theorem putRow_grows {site : Site} (own : site.memory = none) {row : SerialRow} {store : Store}
    (above : ∀ m ∈ site.serials row.source, m < row.serial)
    (put : site.store.putRow row = .ok store) :
    site.Grows { site with store := store } row.source := by
  unfold Store.putRow at put
  split at put
  · cases put
  · cases put
    refine row_grows own row rfl rfl ?_ (fun _ => above)
    intro other
    refine Store.rowsOf_insertRow ?_ other
    intro r hr hs
    apply above
    simp only [Site.serials, own]
    exact List.mem_map_of_mem (List.mem_filter.mpr ⟨hr, by simpa using hs⟩)

/-- Two sites that differ in nothing but the log and the time. -/
structure SameOutsideLog (a b : Site) : Prop where
  versions : b.store.versions = a.store.versions
  files : b.store.files = a.store.files
  lastVersionId : b.store.lastVersionId = a.store.lastVersionId
  leases : b.store.leases = a.store.leases
  script : b.script = a.script
  owners : b.owners = a.owners

end Site

theorem Store.putRow_eq_ok {s t : Store} {row : SerialRow} (h : s.putRow row = .ok t) :
    t = { s with serials := insertRow row s.serials } := by
  unfold Store.putRow at h
  split at h
  · cases h
  · cases h
    rfl

namespace SharedSite

theorem record_sameOutsideLog (site : Site) (source : Source) (serial : Option Int)
    (operation : Operation) (objectType primaryKey : String) (payload : Option String) :
    site.SameOutsideLog
      (record site source serial operation objectType primaryKey payload) := by
  unfold record
  split
  · split
    · exact ⟨rfl, rfl, rfl, rfl, rfl, rfl⟩
    · exact ⟨rfl, rfl, rfl, rfl, rfl, rfl⟩
    · split
      · next store put =>
        rw [Store.putRow_eq_ok put]
        exact ⟨rfl, rfl, rfl, rfl, rfl, rfl⟩
      · exact ⟨rfl, rfl, rfl, rfl, rfl, rfl⟩
  · exact ⟨rfl, rfl, rfl, rfl, rfl, rfl⟩

theorem record_grows (site : Site) (source : Source) (serial : Option Int)
    (operation : Operation) (objectType primaryKey : String) (payload : Option String) :
    site.Grows (record site source serial operation objectType primaryKey payload) source := by
  unfold record
  split
  · next checked =>
    split
    · next log kept => exact Site.memory_append_grows kept source _ (fun _ => rfl) checked
    · next own => exact Site.store_append_grows own source _ _ _ _
    · next n own =>
      split
      · next store put =>
        refine Site.putRow_grows own ?_ put
        intro m hm
        rw [Option.all_some, List.all_eq_true] at checked
        exact of_decide_eq_true (checked m hm)
      · exact .refl site source
  · exact .refl site source

/-! ## What an event does -/

/-- An event that may make the log of a source longer. -/
def Event.AppendsTo (source : Source) : Event → Prop
  | .append here _ _ _ _ _ => here = source
  | _ => False

/-- The effects that an event can have on a shared site. -/
inductive Effect (s : SharedSite) : Event → SharedSite → Prop
  | begun (kind : DocumentKind) (source : Source) (filter : PublicationFilter)
      (settings : GenerationSettings) (session : String) :
      Effect s (.begin kind source filter settings session)
        { s with
          workers := s.workers ++ [⟨s.site.clock, .create kind source filter settings session⟩] }
  | moved {e : Event} {i : Nat} {w next : Worker} {t : Site} (here : s.workers[i]? = some w)
      (same : Generation.SameTask w.generation next.generation)
      (move : Generation.Move s.site w.generation next.generation.phase t) :
      Effect s e ⟨t, s.workers.set i next⟩
  | grown {e : Event} {source : Source} {t : Site} (appends : e.AppendsTo source)
      (grows : s.site.Grows t source) : Effect s e { s with site := t }
  | passed {e : Event} {t : Site} (same : s.site.SameRecords t) : Effect s e { s with site := t }

theorem step_effect (s : SharedSite) (e : Event) : Effect s e (s.step e) := by
  cases e with
  | begin kind source filter settings session => exact .begun kind source filter settings session
  | turn worker =>
    cases here : s.workers[worker]? with
    | some w =>
      simp only [step, here]
      exact .moved here (takeTurn_sameTask s.site w) (takeTurn_move s.site w)
    | none =>
      simp only [step, here]
      exact .passed (.refl s.site)
  | fail worker error =>
    cases here : s.workers[worker]? with
    | some w =>
      simp only [step, here]
      exact .moved here (failTurn_sameTask s.site w error) (failTurn_move s.site w error)
    | none =>
      simp only [step, here]
      exact .passed (.refl s.site)
  | append source serial operation objectType primaryKey payload =>
    have grows := record_grows s.site source serial operation objectType primaryKey payload
    exact .grown rfl grows
  | pass span stamp => exact .passed ⟨rfl, rfl, rfl, rfl, rfl⟩

theorem Effect.entriesOf_eq {s t : SharedSite} {e : Event} (h : Effect s e t) {source : Source}
    (quiet : ¬ e.AppendsTo source) : t.site.entriesOf source = s.site.entriesOf source := by
  cases h with
  | begun => rfl
  | moved _ _ move => exact (move.logs_eq source).1
  | @grown _ other _ appends grows =>
    refine grows.others source ?_
    rintro rfl
    exact quiet appends
  | passed same => exact same.entriesOf_eq source

theorem Effect.ascending {s t : SharedSite} {e : Event} (h : Effect s e t) {source : Source}
    (sorted : s.site.Ascending source) : t.site.Ascending source := by
  cases h with
  | begun => exact sorted
  | moved _ _ move => exact sorted.of_serials_eq (move.logs_eq source).2
  | grown _ grows => exact grows.ascending source sorted
  | passed same => exact sorted.of_serials_eq (same.serials_eq source)

theorem ascending_run {s : SharedSite} {source : Source} (sorted : s.site.Ascending source)
    (es : List Event) : (s.run es).site.Ascending source := by
  induction es generalizing s with
  | nil => exact sorted
  | cons e es ih => exact ih ((step_effect s e).ascending sorted)

end SharedSite

end RegistryFeed
