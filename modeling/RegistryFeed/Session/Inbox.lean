import RegistryFeed.Text.Utf8

/-! # The inbox of a session

Bytes from the client, cut into lines. A line ends at a line feed, and a carriage return before it
does not belong to it; what the client leaves without a line feed when it closes is a last line. -/
namespace RegistryFeed

/-- Once it is closed the client sends nothing more. -/
structure Inbox where
  bytes : List UInt8
  closed : Bool
deriving DecidableEq, Repr

/-- What a reader of lines finds. -/
inductive Arrival
  | pending
  | line (text : String)
  | garbled (flaw : Utf8.Flaw)
  | closed
deriving DecidableEq, Repr

namespace Inbox

def empty : Inbox := ⟨[], false⟩

def receive (i : Inbox) (bytes : List UInt8) : Inbox :=
  if i.closed then i else { i with bytes := i.bytes ++ bytes }

def close (i : Inbox) : Inbox := { i with closed := true }

/-- The bytes up to the first line feed, with it, and those behind it. -/
def cutLine? : List UInt8 → Option (List UInt8 × List UInt8)
  | [] => none
  | b :: rest =>
    if b = 10 then some ([b], rest)
    else (cutLine? rest).map fun parts => (b :: parts.1, parts.2)

theorem cutLine?_eq_some {bytes line rest : List UInt8} (h : cutLine? bytes = some (line, rest)) :
    ∃ front, line = front ++ [10] ∧ 10 ∉ front ∧ bytes = line ++ rest := by
  induction bytes generalizing line with
  | nil => simp [cutLine?] at h
  | cons b bytes ih =>
    simp only [cutLine?] at h
    split at h
    · next feed =>
      simp only [Option.some.injEq, Prod.mk.injEq] at h
      obtain ⟨rfl, rfl⟩ := h
      exact ⟨[], by simp [feed], by simp, rfl⟩
    · next other =>
      simp only [Option.map_eq_some_iff, Prod.mk.injEq, Prod.exists] at h
      obtain ⟨line', rest', found, rfl, rfl⟩ := h
      obtain ⟨front, rfl, absent, rfl⟩ := ih found
      exact ⟨b :: front, rfl, by simp [absent, Ne.symm other], rfl⟩

/-- A line without its end. A carriage return belongs to the end only before a line feed. -/
def trimEnd (line : List UInt8) : List UInt8 :=
  match line.reverse with
  | 10 :: 13 :: rest => rest.reverse
  | 10 :: rest => rest.reverse
  | _ => line

@[simp]
theorem trimEnd_return_feed (front : List UInt8) : trimEnd (front ++ [13, 10]) = front := by
  simp [trimEnd]

theorem trimEnd_feed {front : List UInt8} (h : front.getLast? ≠ some 13) :
    trimEnd (front ++ [10]) = front := by
  have reversed : (front ++ [10]).reverse = 10 :: front.reverse := by simp
  rw [← List.head?_reverse] at h
  unfold trimEnd
  rw [reversed]
  cases tail : front.reverse with
  | nil => simpa using tail.symm
  | cons b rest =>
    have other : b ≠ 13 := by simpa [tail] using h
    have back : front = (b :: rest).reverse := by rw [← tail, List.reverse_reverse]
    split
    · next same => exact absurd (by simp_all) other
    · next rest' _ same =>
      obtain rfl : b :: rest = rest' := by simpa using same
      exact back.symm
    · next fails => exact absurd rfl (fails (b :: rest))

/-- What a line holds; its end is taken off before the bytes are read as text. -/
def arrivalOf (line : List UInt8) : Arrival :=
  match Utf8.decode (trimEnd line) with
  | .ok s => .line s
  | .error flaw => .garbled flaw

/-- Takes the next line. -/
def next (i : Inbox) : Arrival × Inbox :=
  match cutLine? i.bytes with
  | some (line, rest) => (arrivalOf line, { i with bytes := rest })
  | none =>
    if !i.closed then (.pending, i)
    else if i.bytes.isEmpty then (.closed, i)
    else (arrivalOf i.bytes, { i with bytes := [] })

end Inbox

end RegistryFeed
