import Mathlib.Logic.Basic
import RegistryFeed.Settings

/-!
# Spans that do not fit

Reading a span ends the program at one place only: where the seconds are full and the
nanoseconds come to exactly one more second, which has to be carried last. Every other
number that is too great makes the text malformed, and malformed text has a default.
-/

namespace RegistryFeed

namespace SpanText

/-- Nanoseconds that complete a second behind the last second there can be. -/
structure FullSecond (total : Span) (nanos : Nat) : Prop where
  seconds : total.seconds = Text.maxNat64
  nanos : total.subsecond + nanos = Span.nanosPerSecond

/-- The total with the whole part of an item. -/
def addWhole (total : Span) (u : TimeUnit) (product : Nat) : Except Failure Span :=
  if u.belowSecond then increase total 0 product else increase total product 0

/-- The total with the fraction of an item. -/
def addFraction (total : Span) (u : TimeUnit) : Option (Nat × Nat) → Except Failure Span
  | none => .ok total
  | some (numerator, denominator) =>
    match u.fractionSize? with
    | none => .error .malformed
    | some (size, inNanos) => do
      let product ← bounded (numerator * size)
      if product % denominator ≠ 0 then .error .malformed
      else if inNanos then increase total 0 (product / denominator)
      else increase total (product / denominator) 0

/-- An item that completes such a second, by its whole part or by its fraction. -/
inductive ItemOverflows (total : Span) (whole : Nat) (u : TimeUnit) :
    Option (Nat × Nat) → Prop
  | whole {fraction : Option (Nat × Nat)} (small : u.belowSecond = true)
      (full : FullSecond total (whole * u.size)) : ItemOverflows total whole u fraction
  | fraction {numerator denominator size : Nat} {sum : Span}
      (fits : whole * u.size ≤ Text.maxNat64) (added : addWhole total u (whole * u.size) = .ok sum)
      (sized : u.fractionSize? = some (size, true)) (bounded : numerator * size ≤ Text.maxNat64)
      (exact : numerator * size % denominator = 0)
      (full : FullSecond sum (numerator * size / denominator)) :
      ItemOverflows total whole u (some (numerator, denominator))

/-- Somewhere in the text an item ends that completes such a second; what is before it is read. -/
inductive Overflows (text : String) : Prop
  | item {front rest letters : List Char} {s : State} {whole : Nat}
      {fraction : Option (Nat × Nat)} {u : TimeUnit} (split : text.toList = front ++ rest)
      (before : front.foldlM step .initial = .ok s) (place : s.place = .unit whole fraction letters)
      (ends : ∀ c, rest.head? = some c →
        isUnitLetter c = false ∧ (Text.isAsciiDigit c = true ∨ Text.isBlank c = true))
      (named : TimeUnit.ofName? (String.ofList letters) = some u)
      (overflows : ItemOverflows s.total whole u fraction)

theorem bounded_eq_ok_iff {n m : Nat} : bounded n = .ok m ↔ n ≤ Text.maxNat64 ∧ n = m := by
  rw [bounded]
  by_cases fits : n ≤ Text.maxNat64
  · simp [fits]
  · simp [fits]

theorem bounded_of_le {n : Nat} (h : n ≤ Text.maxNat64) : bounded n = .ok n :=
  if_pos h

theorem bounded_ne_overflow (n : Nat) : bounded n ≠ .error .overflow := by
  rw [bounded]
  split <;> simp

/-- Only exactly one second of nanoseconds over full seconds is no span. -/
theorem increase_eq_overflow_iff {total : Span} {seconds nanos : Nat} :
    increase total seconds nanos = .error .overflow ↔
      total.subsecond + nanos = Span.nanosPerSecond ∧ total.seconds + seconds = Text.maxNat64 := by
  constructor
  · intro h
    obtain wrong | ⟨sum, added, h⟩ := bind_eq_error_iff.mp h
    · exact absurd wrong (bounded_ne_overflow _)
    obtain ⟨-, rfl⟩ := bounded_eq_ok_iff.mp added
    by_cases many : Span.nanosPerSecond < total.subsecond + nanos
    · have part : (total.subsecond + nanos) % Span.nanosPerSecond ≠ Span.nanosPerSecond :=
        Nat.ne_of_lt (Nat.mod_lt _ (by decide))
      simp only [many, if_true] at h
      obtain wrong | ⟨carried, -, h⟩ := bind_eq_error_iff.mp h
      · exact absurd wrong (bounded_ne_overflow _)
      obtain wrong | ⟨last, -, h⟩ := bind_eq_error_iff.mp h
      · exact absurd wrong (bounded_ne_overflow _)
      · simp [part, pure, Except.pure] at h
    · simp only [many, if_false, pure_bind] at h
      obtain wrong | ⟨last, sum, h⟩ := bind_eq_error_iff.mp h
      · exact absurd wrong (bounded_ne_overflow _)
      obtain ⟨-, rfl⟩ := bounded_eq_ok_iff.mp sum
      split at h
      · next full => simpa using full
      · cases h
  · rintro ⟨full, last⟩
    have low : ¬ Span.nanosPerSecond < Span.nanosPerSecond := Nat.lt_irrefl _
    simp only [increase, full, last, bounded_of_le (n := Span.nanosPerSecond) (by decide),
      bounded_of_le (Nat.le_refl _), low, if_false, bind, Except.bind, pure, Except.pure,
      decide_true, Bool.and_self, if_true, throw, throwThe, MonadExceptOf.throw]

/-- Adding whole seconds leaves the nanoseconds below one second. -/
theorem increase_seconds_ne_overflow (total : Span) (seconds : Nat) :
    increase total seconds 0 ≠ .error .overflow := by
  intro h
  have full := (increase_eq_overflow_iff.mp h).1
  have part : total.subsecond < Span.nanosPerSecond := Nat.mod_lt _ (by decide)
  omega

theorem increase_nanos_eq_overflow_iff {total : Span} {nanos : Nat} :
    increase total 0 nanos = .error .overflow ↔ FullSecond total nanos := by
  rw [increase_eq_overflow_iff, Nat.add_zero]
  constructor
  · rintro ⟨full, last⟩
    exact ⟨last, full⟩
  · rintro ⟨last, full⟩
    exact ⟨full, last⟩

theorem FullSecond.nanos_le {total : Span} {nanos : Nat} (full : FullSecond total nanos) :
    nanos ≤ Text.maxNat64 := by
  have sum := full.nanos
  have small : Span.nanosPerSecond ≤ Text.maxNat64 := by decide
  omega

theorem addWhole_eq_overflow_iff {total : Span} {u : TimeUnit} {product : Nat} :
    addWhole total u product = .error .overflow ↔
      u.belowSecond = true ∧ FullSecond total product := by
  rw [addWhole]
  split
  · next small => simp [small, increase_nanos_eq_overflow_iff]
  · next large => simp [large, increase_seconds_ne_overflow]

theorem addFraction_eq_overflow_iff {total : Span} {u : TimeUnit} {fraction : Option (Nat × Nat)} :
    addFraction total u fraction = .error .overflow ↔
      ∃ numerator denominator size, fraction = some (numerator, denominator) ∧
        u.fractionSize? = some (size, true) ∧ numerator * size ≤ Text.maxNat64 ∧
        numerator * size % denominator = 0 ∧
        FullSecond total (numerator * size / denominator) := by
  cases fraction with
  | none => simp [addFraction]
  | some parts =>
    obtain ⟨numerator, denominator⟩ := parts
    rw [addFraction]
    cases sized : u.fractionSize? with
    | none => simp
    | some found =>
      obtain ⟨size, inNanos⟩ := found
      dsimp only
      constructor
      · intro h
        obtain wrong | ⟨product, bound, later⟩ := bind_eq_error_iff.mp h
        · exact absurd wrong (bounded_ne_overflow _)
        obtain ⟨fits, rfl⟩ := bounded_eq_ok_iff.mp bound
        split at later
        · cases later
        · next exact =>
          split at later
          · next small =>
            subst small
            have full := increase_nanos_eq_overflow_iff.mp later
            exact ⟨_, _, _, rfl, rfl, fits, not_not.mp exact, full⟩
          · exact absurd later (increase_seconds_ne_overflow _ _)
      · rintro ⟨n, d, m, same, found, fits, exact, full⟩
        cases same
        cases found
        rw [bounded_of_le fits]
        simp only [bind, Except.bind, exact, ne_eq, not_true_eq_false, if_false, if_true]
        exact increase_nanos_eq_overflow_iff.mpr full

theorem addItem_eq {total : Span} {whole : Nat} {fraction : Option (Nat × Nat)} {unit : String}
    {u : TimeUnit} (named : TimeUnit.ofName? unit = some u) :
    addItem total whole fraction unit = (do
      let product ← bounded (whole * u.size)
      let sum ← addWhole total u product
      addFraction sum u fraction) := by
  have last (sum : Span) : (match fraction with
      | none => pure sum
      | some (numerator, denominator) =>
        match u.fractionSize? with
        | none => throw Failure.malformed
        | some (size, inNanos) => do
          let product ← bounded (numerator * size)
          if product % denominator ≠ 0 then throw Failure.malformed
          let part := product / denominator
          if inNanos then increase sum 0 part else increase sum part 0) =
      addFraction sum u fraction := by
    rw [addFraction.eq_def]
    rfl
  simp only [addItem, named, addWhole]
  refine bind_congr fun product => ?_
  split
  · exact bind_congr last
  · exact bind_congr last

theorem addItem_eq_overflow_iff {total : Span} {whole : Nat} {fraction : Option (Nat × Nat)}
    {unit : String} : addItem total whole fraction unit = .error .overflow ↔
      ∃ u, TimeUnit.ofName? unit = some u ∧ ItemOverflows total whole u fraction := by
  cases named : TimeUnit.ofName? unit with
  | none =>
    rw [addItem, named]
    simp [throw, throwThe, MonadExceptOf.throw]
  | some u =>
    rw [addItem_eq named]
    simp only [Option.some.injEq, exists_eq_left']
    constructor
    · intro h
      obtain wrong | ⟨product, bound, later⟩ := bind_eq_error_iff.mp h
      · exact absurd wrong (bounded_ne_overflow _)
      obtain ⟨fits, rfl⟩ := bounded_eq_ok_iff.mp bound
      obtain wrong | ⟨sum, added, last⟩ := bind_eq_error_iff.mp later
      · obtain ⟨small, full⟩ := addWhole_eq_overflow_iff.mp wrong
        exact .whole small full
      · obtain ⟨n, d, size, rfl, sized, bounded, exact, full⟩ := addFraction_eq_overflow_iff.mp last
        exact .fraction fits added sized bounded exact full
    · intro overflows
      cases overflows with
      | whole small full =>
        refine bind_eq_error_iff.mpr (.inr ⟨_, bounded_of_le full.nanos_le, ?_⟩)
        exact bind_eq_error_iff.mpr (.inl (addWhole_eq_overflow_iff.mpr ⟨small, full⟩))
      | fraction fits added sized bounded exact full =>
        refine bind_eq_error_iff.mpr (.inr ⟨_, bounded_of_le fits, ?_⟩)
        refine bind_eq_error_iff.mpr (.inr ⟨_, added, ?_⟩)
        exact addFraction_eq_overflow_iff.mpr ⟨_, _, _, rfl, sized, bounded, exact, full⟩

theorem bounded_bind_ne_overflow {α : Type} (n : Nat) (f : Nat → α) :
    (do let m ← bounded n; return f m) ≠ .error .overflow := by
  intro h
  obtain wrong | ⟨m, -, h⟩ := bind_eq_error_iff.mp h
  · exact bounded_ne_overflow n wrong
  · cases h

/-- An item is added at the character behind its unit, and nowhere else while characters come. -/
theorem step_eq_overflow_iff {s : State} {c : Char} :
    step s c = .error .overflow ↔ ∃ whole fraction letters,
      s.place = .unit whole fraction letters ∧ isUnitLetter c = false ∧
        (Text.isAsciiDigit c = true ∨ Text.isBlank c = true) ∧
        addItem s.total whole fraction (String.ofList letters) = .error .overflow := by
  rw [step]
  cases s.place with
  | start => cases Text.isBlank c <;> cases Text.isAsciiDigit c <;> simp [pure, Except.pure, throw,
      throwThe, MonadExceptOf.throw]
  | whole n =>
    have digit := bounded_bind_ne_overflow (n * 10 + Text.digitValue c) fun n =>
      { s with place := .whole n }
    simp only [reduceCtorEq, false_and, exists_false, iff_false]
    split
    · exact digit
    · repeat' split
      all_goals simp [pure, Except.pure, throw, throwThe, MonadExceptOf.throw]
  | fraction n numerator denominator =>
    have digit := bounded_bind_ne_overflow (denominator * 10) fun denominator =>
      { s with place := .fraction n (numerator * 10 + Text.digitValue c) denominator }
    simp only [reduceCtorEq, false_and, exists_false, iff_false]
    split
    · exact digit
    · repeat' split
      all_goals simp [pure, Except.pure, throw, throwThe, MonadExceptOf.throw]
  | unit n fraction letters =>
    simp only [Place.unit.injEq, exists_and_left, and_assoc, exists_eq_left']
    cases isUnitLetter c <;> cases Text.isAsciiDigit c <;> cases Text.isBlank c <;>
      simp [bind_eq_error_iff, pure, Except.pure, throw, throwThe, MonadExceptOf.throw]

theorem foldlM_eq_error_iff {ε σ α : Type} {f : σ → α → Except ε σ} {xs : List α} {s : σ} {e : ε} :
    xs.foldlM f s = .error e ↔ ∃ front x rest s', xs = front ++ x :: rest ∧
      front.foldlM f s = .ok s' ∧ f s' x = .error e := by
  induction xs generalizing s with
  | nil => simp [pure, Except.pure]
  | cons x xs ih =>
    rw [List.foldlM_cons, bind_eq_error_iff]
    constructor
    · rintro (wrong | ⟨next, read, later⟩)
      · exact ⟨[], x, xs, s, rfl, rfl, wrong⟩
      · obtain ⟨front, y, rest, s', rfl, before, wrong⟩ := ih.mp later
        refine ⟨x :: front, y, rest, s', rfl, ?_, wrong⟩
        rw [List.foldlM_cons, read]
        exact before
    · rintro ⟨front, y, rest, s', split, before, wrong⟩
      cases front with
      | nil =>
        obtain ⟨rfl, rfl⟩ := List.cons.inj split
        obtain rfl := Except.ok.inj before
        exact .inl wrong
      | cons z front =>
        obtain ⟨rfl, rfl⟩ := List.cons.inj split
        rw [List.foldlM_cons] at before
        obtain ⟨next, read, before⟩ := bind_eq_ok_iff.mp before
        exact .inr ⟨next, read, ih.mpr ⟨front, y, rest, s', rfl, before, wrong⟩⟩

theorem finish_eq_overflow_iff {s : State} :
    finish s = .error .overflow ↔ ∃ whole fraction letters,
      s.place = .unit whole fraction letters ∧
        addItem s.total whole fraction (String.ofList letters) = .error .overflow := by
  rw [finish]
  cases s.place with
  | start => cases s.any <;> simp
  | whole n => simp
  | fraction n numerator denominator => simp
  | unit n fraction letters =>
    simp only [Place.unit.injEq, exists_and_left, and_assoc, exists_eq_left']

/-- A text ends the program exactly if one of its items completes a second that cannot be. -/
theorem read_eq_overflow_iff {text : String} : read text = .error .overflow ↔ Overflows text := by
  constructor
  · intro h
    rw [read] at h
    split at h
    · cases h
    · rcases bind_eq_error_iff.mp h with wrong | ⟨s, before, wrong⟩
      · obtain ⟨front, c, rest, s, split, before, wrong⟩ := foldlM_eq_error_iff.mp wrong
        obtain ⟨whole, fraction, letters, place, noLetter, ends, wrong⟩ :=
          step_eq_overflow_iff.mp wrong
        obtain ⟨u, named, overflows⟩ := addItem_eq_overflow_iff.mp wrong
        refine .item split before place ?_ named overflows
        rintro _ ⟨⟩
        exact ⟨noLetter, ends⟩
      · obtain ⟨whole, fraction, letters, place, wrong⟩ := finish_eq_overflow_iff.mp wrong
        obtain ⟨u, named, overflows⟩ := addItem_eq_overflow_iff.mp wrong
        exact .item (List.append_nil _).symm before place (fun _ none => nomatch none) named
          overflows
  · intro overflows
    obtain @⟨front, rest, letters, s, whole, fraction, u, split, before, place, ends, named,
      item⟩ := overflows
    have wrong := addItem_eq_overflow_iff.mpr ⟨_, named, item⟩
    -- the text that needs no unit has no place behind one
    have unit : text ≠ "0" := by
      rintro rfl
      rcases List.append_eq_cons_iff.mp split.symm with ⟨rfl, -⟩ | ⟨front, rfl, none⟩
      · cases before
        cases place
      · obtain ⟨rfl, -⟩ := List.append_eq_nil_iff.mp none.symm
        cases before
        cases place
    rw [read, if_neg unit, bind_eq_error_iff, split]
    cases rest with
    | nil =>
      rw [List.append_nil]
      exact .inr ⟨s, before, finish_eq_overflow_iff.mpr ⟨_, _, _, place, wrong⟩⟩
    | cons c rest =>
      obtain ⟨noLetter, ends⟩ := ends c rfl
      refine .inl (foldlM_eq_error_iff.mpr ⟨front, c, rest, s, rfl, before, ?_⟩)
      exact step_eq_overflow_iff.mpr ⟨_, _, _, place, noLetter, ends, wrong⟩

theorem exists_readOr_iff (fallback : Span) {text : String} :
    (∃ span, readOr fallback text = .ok span) ↔ ¬ Overflows text := by
  rw [← read_eq_overflow_iff, readOr]
  split <;> simp_all

end SpanText

end RegistryFeed
