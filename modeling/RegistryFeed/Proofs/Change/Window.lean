import Mathlib.Data.List.TakeWhile
import RegistryFeed.Change.Entry

/-!
# Windows on a log

What was read after a position, from a log that has grown since, is a window on
the present log: its low end is excluded and its high end included. Windows that
meet join to one. The log is in ascending order throughout; serials may have
gaps.
-/

namespace RegistryFeed

/-- Serials ascend strictly. -/
abbrev Ordered (log : List Entry) : Prop := log.Pairwise fun a b => a.serial < b.serial

/-- The entries after one serial, up to another one. -/
def window (log : List Entry) (after last : Int) : List Entry :=
  log.filter fun e => after < e.serial ∧ e.serial ≤ last

theorem mem_window {log : List Entry} {after last : Int} {e : Entry} :
    e ∈ window log after last ↔ e ∈ log ∧ after < e.serial ∧ e.serial ≤ last := by
  simp [window]

theorem mem_entriesAfter {log : List Entry} {after : Int} {e : Entry} :
    e ∈ entriesAfter log after ↔ e ∈ log ∧ after < e.serial := by
  simp [entriesAfter]

variable {log : List Entry}

theorem window_cons (e : Entry) (log : List Entry) (after last : Int) :
    window (e :: log) after last =
      if after < e.serial ∧ e.serial ≤ last then e :: window log after last
      else window log after last := by
  by_cases h : after < e.serial ∧ e.serial ≤ last
  · rw [if_pos h, window, List.filter_cons_of_pos (by simpa using h), window]
  · rw [if_neg h, window, List.filter_cons_of_neg (by simpa using h), window]

/-- Nothing lies in a window that ends below the whole log. -/
theorem window_eq_nil {after last : Int} (h : ∀ e ∈ log, last < e.serial) :
    window log after last = [] := by
  rw [window, List.filter_eq_nil_iff]
  intro e he
  have := h e he
  simp only [decide_eq_true_eq]
  omega

theorem window_self (log : List Entry) (after : Int) : window log after after = [] := by
  rw [window, List.filter_eq_nil_iff]
  intro e _
  simp only [decide_eq_true_eq]
  omega

theorem window_eq_filter (log : List Entry) (after last : Int) :
    window log after last = (entriesAfter log after).filter fun e => e.serial ≤ last := by
  rw [window, entriesAfter, List.filter_filter]
  refine List.filter_congr ?_
  intro e _
  rw [Bool.and_comm, Bool.decide_and]

/-- A window and what follows it. -/
theorem window_append_entriesAfter {a b : Int}
    (sorted : Ordered log) (hab : a ≤ b) :
    window log a b ++ entriesAfter log b = entriesAfter log a := by
  induction log with
  | nil => rfl
  | cons e rest ih =>
    obtain ⟨first, others⟩ := List.pairwise_cons.mp sorted
    have tail := ih others
    rw [window_cons]
    unfold entriesAfter at tail ⊢
    by_cases low : e.serial ≤ b
    · rw [List.filter_cons_of_neg (by simpa using low)]
      by_cases mem : a < e.serial
      · rw [if_pos ⟨mem, low⟩, List.filter_cons_of_pos (by simpa using mem), List.cons_append, tail]
      · rw [if_neg (by omega), List.filter_cons_of_neg (by simpa using mem), tail]
    · -- this entry and all later ones are beyond the window
      have beyond : ∀ x ∈ rest, b < x.serial := by
        intro x hx
        have := first x hx
        omega
      rw [if_neg (by omega), window_eq_nil beyond, List.nil_append]
      refine List.filter_congr ?_
      intro x hx
      have above : b < x.serial := by
        rcases List.mem_cons.mp hx with rfl | later
        · omega
        · exact beyond x later
      simp only [decide_eq_decide]
      omega

theorem window_append {a b c : Int} (sorted : Ordered log)
    (hab : a ≤ b) (hbc : b ≤ c) : window log a b ++ window log b c = window log a c := by
  have low : (window log a b).filter (fun e => e.serial ≤ c) = window log a b := by
    rw [List.filter_eq_self]
    intro e he
    have := (mem_window.mp he).2
    exact decide_eq_true (by omega)
  rw [window_eq_filter log a c, ← window_append_entriesAfter sorted hab, List.filter_append, low,
    ← window_eq_filter]

theorem serial_le_of_getLast? {last e : Entry}
    (sorted : Ordered log) (h : log.getLast? = some last)
    (he : e ∈ log) : e.serial ≤ last.serial := by
  obtain ⟨init, rfl⟩ := List.getLast?_eq_some_iff.mp h
  rcases List.mem_append.mp he with earlier | here
  · have := (List.pairwise_append.mp sorted).2.2 e earlier last List.mem_cons_self
    omega
  · exact Int.le_of_eq (congrArg Entry.serial (List.mem_singleton.mp here))

/-- The last entry after a position is the last entry of the log. -/
theorem getLast?_of_entriesAfter {after : Int} {last : Entry}
    (sorted : Ordered log)
    (h : (entriesAfter log after).getLast? = some last) : log.getLast? = some last := by
  have mem := mem_entriesAfter.mp (List.mem_of_getLast? h)
  cases hl : log.getLast? with
  | none =>
    rw [List.getLast?_eq_none_iff.mp hl] at mem
    cases mem.1
  | some e =>
    obtain ⟨init, rfl⟩ := List.getLast?_eq_some_iff.mp hl
    have above := serial_le_of_getLast? sorted hl mem.1
    rw [entriesAfter, List.filter_append, List.filter_cons_of_pos (by simp; omega)] at h
    simpa using h

theorem entriesAfter_grows {old : List Entry} (grown : old <+: log) (after : Int) :
    entriesAfter old after <+: entriesAfter log after := grown.filter _

/-- Fewer entries are left after one that was after a position. -/
theorem length_entriesAfter_lt {after : Int} {e : Entry} (he : e ∈ entriesAfter log after) :
    (entriesAfter log e.serial).length < (entriesAfter log after).length := by
  have beyond := (mem_entriesAfter.mp he).2
  have fewer : entriesAfter log e.serial =
      (entriesAfter log after).filter fun x => e.serial < x.serial := by
    unfold entriesAfter
    rw [List.filter_filter]
    refine List.filter_congr fun x _ => ?_
    simp only [← Bool.decide_and, decide_eq_decide]
    omega
  rw [fewer]
  exact List.length_filter_lt_length_iff_exists.mpr ⟨e, he, by simp⟩

theorem pairwise_entriesAfter (sorted : Ordered log)
    (after : Int) : Ordered (entriesAfter log after) :=
  sorted.filter _

/-- The entries after a position up to one of them are a window. -/
theorem eq_window_of_part {part : List Entry} {after : Int} {last : Entry}
    (sorted : Ordered log) (h : part <+: entriesAfter log after)
    (ends : part.getLast? = some last) : part = window log after last.serial := by
  have sorted' := pairwise_entriesAfter sorted after
  obtain ⟨rest, split⟩ := h
  rw [← split] at sorted'
  obtain ⟨sortedPart, _, apart⟩ := List.pairwise_append.mp sorted'
  have here : part.filter (fun e => e.serial ≤ last.serial) = part := by
    rw [List.filter_eq_self]
    intro e he
    exact decide_eq_true (serial_le_of_getLast? sortedPart ends he)
  have beyond : rest.filter (fun e => e.serial ≤ last.serial) = [] := by
    rw [List.filter_eq_nil_iff]
    intro e he
    have := apart last (List.mem_of_getLast? ends) e he
    simp only [decide_eq_true_eq]
    omega
  rw [window_eq_filter, ← split, List.filter_append, here, beyond, List.append_nil]

/-- What was read from an earlier log is the window up to its last entry. -/
theorem entriesAfter_eq_window {old : List Entry} {after : Int} {last : Entry}
    (sorted : Ordered log) (grown : old <+: log)
    (h : (entriesAfter old after).getLast? = some last) :
    entriesAfter old after = window log after last.serial :=
  eq_window_of_part sorted (entriesAfter_grows grown after) h

/-! ## Logs that reach far enough -/

/-- A log has an entry at a serial or beyond it. -/
def Reaches (log : List Entry) (serial : Int) : Prop := ∃ e ∈ log, serial ≤ e.serial

theorem Reaches.mono {old : List Entry} {n : Int} (h : Reaches old n) (grown : old <+: log) :
    Reaches log n := by
  obtain ⟨e, he, le⟩ := h
  exact ⟨e, grown.subset he, le⟩

/-- A window that the log has reached stays as it is when the log grows. -/
theorem Reaches.window_eq {old : List Entry} {after last : Int} (h : Reaches old last)
    (sorted : Ordered log) (grown : old <+: log) :
    window log after last = window old after last := by
  obtain ⟨more, rfl⟩ := grown
  obtain ⟨e, he, le⟩ := h
  have beyond : window more after last = [] := by
    refine window_eq_nil fun x hx => ?_
    have := (List.pairwise_append.mp sorted).2.2 e he x hx
    omega
  rw [window] at beyond ⊢
  rw [List.filter_append, beyond, List.append_nil, window]

theorem reaches_of_serialRange {r : SerialRange} (h : serialRange log = some r) :
    Reaches log r.last := by
  unfold serialRange at h
  split at h
  · next a b _ hb =>
    cases h
    exact ⟨b, List.mem_of_getLast? hb, Int.le_refl _⟩
  · cases h

/-! ## Pages -/

/-- Where a reader stands after it has read some entries from a position. -/
def positionAfter (start : Int) (part : List Entry) : Int :=
  (part.getLast?.map (·.serial)).getD start

theorem positionAfter_of_getLast? {start : Int} {part : List Entry} {last : Entry}
    (h : part.getLast? = some last) : positionAfter start part = last.serial := by
  rw [positionAfter, h, Option.map_some, Option.getD_some]

theorem positionAfter_takeWhile_le {start last : Int} (le : start ≤ last) (es : List Entry) :
    positionAfter start (es.takeWhile fun e => e.serial ≤ last) ≤ last := by
  cases hl : (es.takeWhile fun e => e.serial ≤ last).getLast? with
  | none =>
    rw [positionAfter, hl]
    exact le
  | some e =>
    rw [positionAfter_of_getLast? hl]
    have low := List.mem_takeWhile_imp (p := fun e : Entry => decide (e.serial ≤ last))
      (List.mem_of_getLast? hl)
    exact of_decide_eq_true low

/-- A part that was read next to a window makes it a longer window. -/
theorem window_append_part {old part : List Entry} {a start : Int} (sorted : Ordered log)
    (grown : old <+: log) (h : part <+: entriesAfter old start) (le : a ≤ start) :
    start ≤ positionAfter start part ∧
      window log a start ++ part = window log a (positionAfter start part) := by
  cases hl : part.getLast? with
  | none =>
    rw [positionAfter, hl, List.getLast?_eq_none_iff.mp hl, List.append_nil]
    exact ⟨Int.le_refl _, rfl⟩
  | some last =>
    have cut := eq_window_of_part sorted (h.trans (entriesAfter_grows grown start)) hl
    have beyond := (mem_entriesAfter.mp (h.subset (List.mem_of_getLast? hl))).2
    rw [positionAfter_of_getLast? hl]
    refine ⟨by omega, ?_⟩
    rw [cut]
    exact window_append sorted le (by omega)

theorem Reaches.positionAfter {old part : List Entry} {start : Int} (h : Reaches log start)
    (grown : old <+: log) (read : part <+: entriesAfter old start) :
    Reaches log (positionAfter start part) := by
  cases hl : part.getLast? with
  | none =>
    rw [RegistryFeed.positionAfter, hl]
    exact h
  | some last =>
    have mem := mem_entriesAfter.mp (read.subset (List.mem_of_getLast? hl))
    rw [positionAfter_of_getLast? hl]
    exact ⟨last, grown.subset mem.1, Int.le_refl _⟩

/-- In an ordered log, the entries up to a serial come first. -/
theorem takeWhile_entriesAfter (sorted : Ordered log) (after last : Int) :
    (entriesAfter log after).takeWhile (fun e => e.serial ≤ last) = window log after last := by
  rw [window_eq_filter]
  have sorted' := pairwise_entriesAfter sorted after
  generalize entriesAfter log after = es at sorted'
  induction es with
  | nil => rfl
  | cons e rest ih =>
    obtain ⟨first, others⟩ := List.pairwise_cons.mp sorted'
    by_cases low : e.serial ≤ last
    · rw [List.takeWhile_cons_of_pos (by simpa using low),
        List.filter_cons_of_pos (by simpa using low), ih others]
    · have beyond : (e :: rest).filter (fun x => x.serial ≤ last) = [] := by
        rw [List.filter_eq_nil_iff]
        intro x hx
        simp only [decide_eq_true_eq]
        rcases List.mem_cons.mp hx with rfl | later
        · exact low
        · have := first x later
          omega
      rw [List.takeWhile_cons_of_neg (by simpa using low), beyond]

theorem takeWhile_append_of_stop {p : Entry → Bool} {es : List Entry} {e : Entry} (he : e ∈ es)
    (stops : p e = false) (more : List Entry) : (es ++ more).takeWhile p = es.takeWhile p := by
  rw [List.takeWhile_append, if_neg]
  intro full
  have all := (List.takeWhile_prefix p).eq_of_length full
  have passes := List.takeWhile_eq_self_iff.mp all e he
  rw [stops] at passes
  cases passes

/-- The last page of a range is not full, or goes beyond the end of the range. -/
theorem short_or_beyond {page : List Entry} {size : Nat} {last : Int} (positive : 1 ≤ size)
    (isLast : (page.length < size ||
      ((page.getLast?).map fun e => decide (last < e.serial)).getD true) = true) :
    page.length < size ∨ ∃ e ∈ page, last < e.serial := by
  rw [Bool.or_eq_true] at isLast
  rcases isLast with short | beyond
  · exact .inl (of_decide_eq_true short)
  · cases hl : page.getLast? with
    | none =>
      have empty := List.getLast?_eq_none_iff.mp hl
      subst empty
      exact .inl positive
    | some e =>
      rw [hl] at beyond
      exact .inr ⟨e, List.mem_of_getLast? hl, of_decide_eq_true beyond⟩

/-- A page that is not the last one lies within the range and moves its reader on. -/
theorem lt_positionAfter {start last : Int} {size : Nat} (sorted : Ordered log)
    {page : List Entry} (paged : (entriesAfter log start).take size = page)
    (goesOn : ¬ (page.length < size ||
      ((page.getLast?).map fun e => decide (last < e.serial)).getD true) = true) :
    start < positionAfter start (page.takeWhile fun e => e.serial ≤ last) := by
  rw [Bool.or_eq_true, not_or] at goesOn
  obtain ⟨full, within⟩ := goesOn
  cases hl : page.getLast? with
  | none => simp [hl] at within
  | some e =>
    have low : e.serial ≤ last := by simpa [hl] using within
    have inLog : page <+: entriesAfter log start := by
      rw [← paged]
      exact List.take_prefix _ _
    have inOrder := (pairwise_entriesAfter sorted start).sublist inLog.sublist
    have whole : page.takeWhile (fun e => e.serial ≤ last) = page := by
      rw [List.takeWhile_eq_self_iff]
      intro x hx
      have := serial_le_of_getLast? inOrder hl hx
      exact decide_eq_true (by omega)
    rw [whole, positionAfter_of_getLast? hl]
    exact (mem_entriesAfter.mp (inLog.subset (List.mem_of_getLast? hl))).2

/-- A page that is not full, or that goes beyond the end of a range, holds the whole rest of the
range. -/
theorem takeWhile_lastPage {old : List Entry} {start last : Int} {size : Nat}
    (sorted : Ordered log) (grown : old <+: log) (reaches : Reaches old last)
    (done : ((entriesAfter old start).take size).length < size ∨
      ∃ e ∈ (entriesAfter old start).take size, last < e.serial) :
    ((entriesAfter old start).take size).takeWhile (fun e => e.serial ≤ last) =
      window log start last := by
  have whole : ((entriesAfter old start).take size).takeWhile (fun e => e.serial ≤ last) =
      (entriesAfter old start).takeWhile (fun e => e.serial ≤ last) := by
    rcases done with short | ⟨e, he, beyond⟩
    · rw [List.length_take] at short
      rw [List.take_of_length_le (by omega)]
    · have stops := takeWhile_append_of_stop (p := fun e => e.serial ≤ last) he
        (decide_eq_false (by omega)) (List.drop size (entriesAfter old start))
      rw [List.take_append_drop] at stops
      exact stops.symm
  rw [whole, takeWhile_entriesAfter (sorted.sublist grown.sublist), reaches.window_eq sorted grown]

end RegistryFeed
