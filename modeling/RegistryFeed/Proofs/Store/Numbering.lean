import Mathlib.Algebra.GroupWithZero.Nat
import Mathlib.Data.List.Forall2
import Mathlib.Data.List.Induction
import RegistryFeed.Proofs.Change.Window
import RegistryFeed.Proofs.Publication.Turn
import RegistryFeed.Store.Appending

/-!
# One table, many logs

All sources share one table, and still each of them has a log of its own: its
changes in the order in which they were recorded, under the serials from one on.
Reads of the table are reads of that list, at every position and for pages of
every size. The store may hold any versions, files and leases; only its log begins
empty. That a source has fewer changes than a serial can count is needed for the
pages alone, whose size the database bounds.
-/

namespace RegistryFeed

/-! ## The list of a source -/

section

variable {source : Source} {c : Change} {cs : List Change}

theorem listed_of_own (own : c.source = source) :
    listed source (cs ++ [c]) =
      listed source cs ++ [c.entry ((listed source cs).length + 1)] := by
  simp [listed, List.filter_append, own, List.mapIdx_append]

theorem listed_of_other (other : c.source ≠ source) :
    listed source (cs ++ [c]) = listed source cs := by
  simp [listed, List.filter_append, other]

/-- The serials of a source are the numbers from one on. -/
theorem serials_listed (source : Source) (cs : List Change) :
    (listed source cs).map (·.serial) =
      (List.range (listed source cs).length).map fun k : Nat => (k : Int) + 1 := by
  induction cs using List.reverseRecOn with
  | nil => rfl
  | append_singleton cs c ih =>
    by_cases own : c.source = source
    · rw [listed_of_own own, List.map_append, ih, List.length_append, List.length_singleton,
        List.range_succ, List.map_append]
      rfl
    · rw [listed_of_other own, ih]

theorem ordered_listed (source : Source) (cs : List Change) : Ordered (listed source cs) := by
  apply List.pairwise_map.mp
  rw [serials_listed]
  apply List.pairwise_map.mpr
  apply List.pairwise_lt_range.imp
  intro a b less
  omega

/-- The first and the last of some serials. -/
def extent (serials : List Int) : Option SerialRange :=
  match serials.head?, serials.getLast? with
  | some first, some last => some ⟨first, last⟩
  | _, _ => none

theorem serialRange_eq_extent (log : List Entry) :
    serialRange log = extent (log.map (·.serial)) := by
  rw [serialRange, extent, List.head?_map, List.getLast?_map]
  cases log.head? <;> cases log.getLast? <;> rfl

theorem extent_from_one (n : Nat) :
    extent ((List.range n).map fun k : Nat => (k : Int) + 1) =
      if n = 0 then none else some ⟨1, n⟩ := by
  cases n with
  | zero => rfl
  | succ n =>
    rw [extent, List.head?_map, List.getLast?_map, List.head?_range, List.getLast?_range]
    simp

theorem serialRange_listed (source : Source) (cs : List Change) :
    serialRange (listed source cs) =
      if listed source cs = [] then none else some ⟨1, (listed source cs).length⟩ := by
  rw [serialRange_eq_extent, serials_listed, extent_from_one]
  simp only [List.length_eq_zero_iff]

end

/-! ## Rows and the entries that they hold -/

/-- The row can be read, as the entry. -/
def SerialRow.Holds (r : SerialRow) (e : Entry) : Prop := r.entry = .ok e

theorem mapM_of_holds {rows : List SerialRow} {log : List Entry}
    (h : List.Forall₂ SerialRow.Holds rows log) : rows.mapM SerialRow.entry = .ok log := by
  induction h with
  | nil => rfl
  | cons first _ ih =>
    rw [List.mapM_cons, first, ih]
    rfl

theorem serials_of_holds {rows : List SerialRow} {log : List Entry}
    (h : List.Forall₂ SerialRow.Holds rows log) :
    rows.map (·.serial) = log.map (·.serial) := by
  induction h with
  | nil => rfl
  | cons first _ ih =>
    rw [List.map_cons, List.map_cons, ih, SerialRow.serial_of_entry first]

namespace Store

variable {s : Store} {source : Source} {log : List Entry}

/-- The rows of a source hold the entries of the list. -/
def Logs (s : Store) (source : Source) (log : List Entry) : Prop :=
  List.Forall₂ SerialRow.Holds (s.rowsOf source) log

theorem Logs.rowsAfter (h : s.Logs source log) (after : Int) :
    List.Forall₂ SerialRow.Holds (s.rowsAfter source after) (entriesAfter log after) := by
  apply List.rel_filter ?_ h
  intro r e held
  simp [SerialRow.serial_of_entry held]

theorem Logs.entriesSince (h : s.Logs source log) (after : Int) :
    s.entriesSince source after = .ok (entriesAfter log after) :=
  mapM_of_holds (h.rowsAfter after)

theorem Logs.page (h : s.Logs source log) (few : (log.length : Int) ≤ Text.maxInt64) (after : Int)
    (max : Nat) : s.page source after max = .ok ((entriesAfter log after).take max) := by
  have rows := h.rowsAfter after
  have fewer : (entriesAfter log after).length ≤ log.length := List.length_filter_le _ _
  have few' : ((s.rowsAfter source after).length : Int) ≤ Text.maxInt64 := by
    rw [rows.length_eq]
    omega
  rw [Store.page, take_pageLimit few']
  exact mapM_of_holds (List.forall₂_take max rows)

theorem range_eq_extent (s : Store) (source : Source) :
    s.range source = extent ((s.rowsOf source).map (·.serial)) := by
  rw [Store.range, extent, List.head?_map, List.getLast?_map]
  cases (s.rowsOf source).head? <;> cases (s.rowsOf source).getLast? <;> rfl

theorem Logs.range (h : s.Logs source log) : s.range source = serialRange log := by
  rw [range_eq_extent, serialRange_eq_extent, serials_of_holds h]

theorem Logs.nextSerial (h : s.Logs source log) :
    s.nextSerialOf source = RegistryFeed.nextSerial log := by
  rw [nextSerialOf, RegistryFeed.nextSerial, lastSerial, ← h.range, Store.range]
  cases rows : s.rowsOf source with
  | nil => rfl
  | cons r rest =>
    cases last : (r :: rest).getLast? with
    | none => cases List.getLast?_eq_none_iff.mp last
    | some r => rfl

/-! ## Recording -/

theorem recordAll_concat (s : Store) (cs : List Change) (c : Change) :
    s.recordAll (cs ++ [c]) = ((s.recordAll cs).record c).2 := by
  rw [recordAll, recordAll, List.foldl_append]
  rfl

theorem nextSerial_listed (source : Source) (cs : List Change) :
    RegistryFeed.nextSerial (listed source cs) = (listed source cs).length + 1 := by
  rw [RegistryFeed.nextSerial, lastSerial, serialRange_listed]
  by_cases empty : listed source cs = []
  · rw [if_pos empty, empty]
    rfl
  · rw [if_neg empty]
    rfl

/-- A change gets the number of its source's changes up to itself as its serial. -/
theorem record_listed {cs : List Change} {c : Change} (own : c.source = source)
    (h : s.Logs source (listed source cs)) :
    (s.record c).1 = c.entry ((listed source cs).length + 1) := by
  subst own
  rw [← nextSerial_listed, ← h.nextSerial]
  rfl

theorem logs_recordAll (new : s.serials = []) (cs : List Change) (source : Source) :
    (s.recordAll cs).Logs source (listed source cs) := by
  induction cs using List.reverseRecOn with
  | nil =>
    rw [recordAll, List.foldl_nil, Logs, rowsOf, new]
    exact .nil
  | append_singleton cs c ih =>
    rw [recordAll_concat, Logs, record, rowsOf_append]
    by_cases own : source = c.source
    · subst own
      rw [if_pos rfl, listed_of_own rfl, ← nextSerial_listed, ← ih.nextSerial]
      apply List.rel_append ih
      refine .cons ?_ .nil
      rw [SerialRow.Holds, SerialRow.entry, Operation.ofText_text]
      rfl
    · rw [if_neg own, listed_of_other (Ne.symm own)]
      exact ih

/-! ## Page after page -/

/-- What follows the last entry of a page is what the page left. -/
theorem entriesAfter_page (ordered : Ordered log) {after : Int} {max : Nat} {last : Entry}
    (ends : ((entriesAfter log after).take max).getLast? = some last) :
    entriesAfter log last.serial = (entriesAfter log after).drop max := by
  have cut := eq_window_of_part ordered (List.take_prefix max _) ends
  have beyond := (mem_entriesAfter.mp (List.mem_of_mem_take (List.mem_of_getLast? ends))).2
  have whole := window_append_entriesAfter ordered (Int.le_of_lt beyond)
  rw [← cut] at whole
  exact List.append_cancel_left (whole.trans (List.take_append_drop max _).symm)

/-- Pages that each have room for an entry give what one page of all their sizes would give. -/
theorem Logs.readPages (h : s.Logs source log) (ordered : Ordered log)
    (few : (log.length : Int) ≤ Text.maxInt64) (after : Int) {sizes : List Nat}
    (positive : ∀ n ∈ sizes, 1 ≤ n) :
    s.readPages source after sizes = .ok ((entriesAfter log after).take sizes.sum) := by
  induction sizes generalizing after with
  | nil => rfl
  | cons max more ih =>
    have room := positive max List.mem_cons_self
    rw [Store.readPages, h.page few]
    cases ends : ((entriesAfter log after).take max).getLast? with
    | none =>
      -- a page with room for an entry is empty only if nothing is left
      have nothing : entriesAfter log after = [] := by
        have empty := List.getLast?_eq_none_iff.mp ends
        rw [List.take_eq_nil_iff] at empty
        exact empty.resolve_left (by omega)
      simp [nothing, bind, Except.bind, pure, Except.pure]
    | some last =>
      have later := ih last.serial fun n hn => positive n (List.mem_cons_of_mem max hn)
      rw [entriesAfter_page ordered ends] at later
      rw [List.sum_cons, List.take_add]
      simp [ends, later, bind, Except.bind, pure, Except.pure]

theorem length_le_sum {sizes : List Nat} (positive : ∀ n ∈ sizes, 1 ≤ n) :
    sizes.length ≤ sizes.sum := by
  induction sizes with
  | nil => exact Nat.le_refl 0
  | cons n sizes ih =>
    have here := positive n List.mem_cons_self
    have later := ih fun m hm => positive m (List.mem_cons_of_mem n hm)
    rw [List.length_cons, List.sum_cons]
    omega

/-- After any changes of any sources, the log of a source is the list of its own changes: the next
one gets the serial that follows their number, and every read, of all that follows a position, of a
page or of pages one after another, gives the part of that list that was asked for, as it was
recorded. -/
theorem log_of_changes {s : Store} (new : s.serials = []) (cs : List Change) (source : Source)
    (few : ((listed source cs).length : Int) ≤ Text.maxInt64) :
    let t := s.recordAll cs
    let log := listed source cs
    (log.map (·.serial) = (List.range log.length).map fun k : Nat => (k : Int) + 1) ∧
    (∀ c : Change, c.source = source → (t.record c).1 = c.entry (log.length + 1)) ∧
    (∀ after, t.entriesSince source after = .ok (entriesAfter log after)) ∧
    (∀ after max, t.page source after max = .ok ((entriesAfter log after).take max)) ∧
    (∀ after (sizes : List Nat), (∀ n ∈ sizes, 1 ≤ n) →
      t.readPages source after sizes = .ok ((entriesAfter log after).take sizes.sum) ∧
      ((entriesAfter log after).length ≤ sizes.length →
        t.readPages source after sizes = t.entriesSince source after)) ∧
    t.range source = (if log = [] then none else some ⟨1, log.length⟩) ∧
    t.latestSerial source = if log = [] then none else some (log.length : Int) := by
  intro t log
  have logs : t.Logs source log := logs_recordAll new cs source
  have range : t.range source = if log = [] then none else some ⟨1, log.length⟩ :=
    logs.range.trans (serialRange_listed source cs)
  refine ⟨serials_listed source cs, fun c own => record_listed own logs, logs.entriesSince,
    logs.page few, ?_, range, ?_⟩
  · intro after sizes positive
    have read := logs.readPages (ordered_listed source cs) few after positive
    refine ⟨read, fun enough => ?_⟩
    have all := Nat.le_trans enough (length_le_sum positive)
    rw [read, List.take_of_length_le all, logs.entriesSince]
  · rw [latestSerial, range]
    by_cases empty : log = []
    · rw [if_pos empty, if_pos empty]
      rfl
    · rw [if_neg empty, if_neg empty]
      rfl

/-- Two sources that take turns; the first one deletes an object whose text is gone. -/
def takingTurns : List Change :=
  [⟨⟨"RIPE"⟩, .add, "route", "k", some "p", 0⟩, ⟨⟨"TEST"⟩, .add, "route", "k", some "q", 1⟩,
    ⟨⟨"RIPE"⟩, .delete, "route", "k", none, 2⟩, ⟨⟨"RIPE"⟩, .update, "mntner", "m", some "r", 3⟩]

theorem log_of_takingTurns :
    empty.serials = [] ∧ ((listed ⟨"RIPE"⟩ takingTurns).length : Int) ≤ Text.maxInt64 ∧
    (empty.recordAll takingTurns).page ⟨"RIPE"⟩ 1 18446744073709551615 =
      .ok [⟨2, .delete, "route", "k", none, 2⟩, ⟨3, .update, "mntner", "m", some "r", 3⟩] ∧
    (empty.recordAll takingTurns).readPages ⟨"RIPE"⟩ 0 [1, 2, 1] =
      (empty.recordAll takingTurns).entriesSince ⟨"RIPE"⟩ 0 ∧
    (empty.recordAll takingTurns).range ⟨"RIPE"⟩ = some ⟨1, 3⟩ := by
  have few : ((listed ⟨"RIPE"⟩ takingTurns).length : Int) ≤ Text.maxInt64 := by decide
  obtain ⟨-, -, -, page, pages, range, -⟩ :=
    log_of_changes (s := empty) rfl takingTurns ⟨"RIPE"⟩ few
  refine ⟨rfl, few, ?_, ?_, ?_⟩
  · rw [page]
    rfl
  · exact (pages 0 [1, 2, 1] (by decide)).2 (by decide)
  · rw [range]
    rfl

end Store

end RegistryFeed
