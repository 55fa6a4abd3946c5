import RegistryFeed.Proofs.Publication.Turn
import RegistryFeed.Session.Live

/-!
# Logs as their readers see them

Both kinds of log reply to every question as the plain view of them does: the
log in memory while it works, the store while its rows can be read. So what is
shown for a session on a view holds for a session on either log.
-/

namespace RegistryFeed

/-- A log that shows a view replies to every question as the view does, goes on to show it, and is
as large as any source of it. -/
structure LogSource.Shows {σ : Type} (source : LogSource σ) (shows : σ → LogView → Prop) :
    Prop where
  reply : ∀ {log v}, shows log v → ∀ q, (source.reply log q).1 = v.reply q
  kept : ∀ {log v}, shows log v → ∀ q, shows (source.reply log q).2 v
  large : ∀ {log v}, shows log v → ∀ s, (v.entries s).length ≤ source.size log

/-! ## The log in memory -/

def MemoryLog.view (log : MemoryLog) : LogView := ⟨log.entriesOf, log.latestVersion⟩

theorem MemoryLog.reply_eq {log : MemoryLog} (working : log.health = .working) (q : Reading) :
    (log.reply q).1 = log.view.reply q := by
  have begun : ∀ read, log.beginRead read = (true, { log with reads := read :: log.reads }) := by
    intro read
    simp only [MemoryLog.beginRead, working]
  cases q with
  | range source =>
    simp only [reply, MemoryLog.range, begun]
    rfl
  | page source after max =>
    simp only [reply, page, MemoryLog.entriesSince, begun]
    rfl
  | latest source => rfl

theorem MemoryLog.reply_kept {log : MemoryLog} (working : log.health = .working) (q : Reading) :
    (log.reply q).2.health = .working ∧ (log.reply q).2.view = log.view := by
  cases q with
  | range source | page source after max =>
    simp only [reply, MemoryLog.range, page, MemoryLog.entriesSince, beginRead, working]
    exact ⟨trivial, rfl⟩
  | latest source => exact ⟨working, rfl⟩

theorem MemoryLog.length_entriesOf_le (log : MemoryLog) (source : Source) :
    (log.entriesOf source).length ≤ (log.entries.flatMap (·.2)).length := by
  unfold entriesOf
  induction log.entries with
  | nil => exact Nat.le_refl _
  | cons pair rest ih =>
    obtain ⟨s, es⟩ := pair
    rw [List.lookup_cons, List.flatMap_cons, List.length_append]
    split
    · exact Nat.le_add_right _ _
    · exact Nat.le_trans ih (Nat.le_add_left _ _)

theorem MemoryLog.source_shows :
    MemoryLog.source.Shows fun log v => log.health = .working ∧ log.view = v where
  reply := by
    rintro log _ ⟨working, rfl⟩ q
    exact reply_eq working q
  kept := by
    rintro log _ ⟨working, rfl⟩ q
    exact reply_kept working q
  large := by
    rintro log _ ⟨-, rfl⟩ s
    exact log.length_entriesOf_le s

/-! ## Rows that can be read -/

section

variable {f : SerialRow → Entry} {rows : List SerialRow}

theorem filterMap_entry_eq (h : ∀ r ∈ rows, r.entry = .ok (f r)) :
    rows.filterMap (fun r => r.entry.toOption) = rows.map f := by
  induction rows with
  | nil => rfl
  | cons r rest ih =>
    have others := ih fun x hx => h x (List.mem_cons_of_mem _ hx)
    have here : r.entry.toOption = some (f r) := by rw [h r List.mem_cons_self]; rfl
    rw [List.filterMap_cons, here, others, List.map_cons]

theorem serialRange_map (h : ∀ r ∈ rows, r.entry = .ok (f r)) :
    serialRange (rows.map f) =
      match rows.head?, rows.getLast? with
      | some a, some b => some ⟨a.serial, b.serial⟩
      | _, _ => none := by
  have serial : ∀ r ∈ rows, (f r).serial = r.serial :=
    fun r hr => SerialRow.serial_of_entry (h r hr)
  rw [serialRange, List.head?_map, List.getLast?_map]
  cases ha : rows.head? with
  | none => rfl
  | some a =>
    cases hb : rows.getLast? with
    | none => rfl
    | some b =>
      simp only [Option.map_some, serial a (List.mem_of_head? ha),
        serial b (List.mem_of_getLast? hb)]

end

namespace Store

/-- Every row of the log and of the versions can be read, and the rows can be counted. -/
structure Readable (s : Store) : Prop where
  count : (s.serials.length : Int) ≤ Text.maxInt64
  serials : ∀ r ∈ s.serials, ∃ e, r.entry = .ok e
  latest : ∀ source, ∃ v, s.findLast source = .ok v

def view (s : Store) : LogView :=
  ⟨fun source => (s.rowsOf source).filterMap fun r => r.entry.toOption,
    fun source => (s.findLast source).toOption.join⟩

theorem reply_eq {s : Store} (readable : s.Readable) (q : Reading) :
    s.reply q = s.view.reply q := by
  let f (r : SerialRow) : Entry := r.entry.toOption.getD ⟨r.serial, .add, "", "", none, 0⟩
  have entries : ∀ r ∈ s.serials, r.entry = .ok (f r) := by
    intro r hr
    obtain ⟨e, he⟩ := readable.serials r hr
    simp only [f, he, Except.toOption, Option.getD_some]
  have ofSource : ∀ source, ∀ r ∈ s.rowsOf source, r.entry = .ok (f r) :=
    fun source r hr => entries r (List.mem_filter.mp hr).1
  cases q with
  | range source =>
    have view : s.view.entries source = (s.rowsOf source).map f :=
      filterMap_entry_eq (ofSource source)
    have same : s.range source = serialRange (s.view.entries source) := by
      rw [view]
      exact (serialRange_map (ofSource source)).symm
    simp only [reply, LogView.reply, same]
  | page source after max =>
    have rows : ∀ r ∈ s.rowsAfter source after, r.entry = .ok (f r) :=
      fun r hr => ofSource source r (List.mem_filter.mp hr).1
    have view : entriesAfter (s.view.entries source) after = (s.rowsAfter source after).map f := by
      rw [Store.view, entriesAfter_filterMap]
      exact filterMap_entry_eq rows
    have taken : ∀ r ∈ (s.rowsAfter source after).take max, r.entry = .ok (f r) :=
      fun r hr => rows r (List.mem_of_mem_take hr)
    have fewer : (s.rowsAfter source after).length ≤ s.serials.length :=
      (List.filter_sublist.trans List.filter_sublist).length_le
    have few : ((s.rowsAfter source after).length : Int) ≤ Text.maxInt64 :=
      Int.le_trans (Int.ofNat_le.mpr fewer) readable.count
    simp only [reply, page, take_pageLimit few, LogView.reply, view, mapM_eq_ok taken,
      List.map_take]
  | latest source =>
    obtain ⟨v, hv⟩ := readable.latest source
    simp only [reply, LogView.reply, Store.view, hv]
    rfl

theorem source_shows : Store.source.Shows fun s v => s.Readable ∧ s.view = v where
  reply := by
    rintro s _ ⟨readable, rfl⟩ q
    exact reply_eq readable q
  kept := by
    rintro s _ shown _
    exact shown
  large := by
    rintro s _ ⟨-, rfl⟩ source
    exact Nat.le_trans (List.length_filterMap_le _ _) (List.length_filter_le _ _)

end Store

end RegistryFeed
