import Mathlib.Data.String.Basic
import RegistryFeed.Text.Utf8

/-!
# The order of bytes

Texts are in the order of their characters exactly if their encodings are in the order of
their bytes. A longer encoding begins with a greater byte, and two encodings of one length
are compared digit by digit, in base sixty-four.
-/

namespace RegistryFeed.Utf8

theorem byte_cons_lt_iff {a b : Nat} (ha : a < 256) (hb : b < 256) (x y : List UInt8) :
    UInt8.ofNat a :: x < UInt8.ofNat b :: y ↔ a < b ∨ a = b ∧ x < y := by
  have value : ∀ {n : Nat}, n < 256 → (UInt8.ofNat n).toNat = n := Nat.mod_eq_of_lt
  rw [List.cons_lt_cons_iff, UInt8.lt_iff_toNat_lt, ← UInt8.toNat_inj, value ha, value hb]

/-- The encoding of a smaller character comes first, whatever follows the two. -/
theorem utf8EncodeChar_append_lt {c d : Char} (less : c < d) (x y : List UInt8) :
    String.utf8EncodeChar c ++ x < String.utf8EncodeChar d ++ y := by
  have order : c.val.toNat < d.val.toNat := less
  have bound : d.val.toNat < 0x110000 := by
    rcases d.valid with low | high
    · exact Nat.lt_trans low (by decide)
    · exact high.2
  unfold String.utf8EncodeChar
  generalize c.val.toNat = v at order ⊢
  generalize d.val.toNat = w at order bound ⊢
  dsimp only
  -- each digit is told from the one below it, so that the digits determine the number
  have third : ∀ n : Nat, n / 4096 = n / 64 / 64 := fun n => by omega
  have fourth : ∀ n : Nat, n / 262144 = n / 64 / 64 / 64 := fun n => by omega
  simp only [third, fourth]
  split_ifs <;>
    simp only [List.cons_append, List.nil_append] <;>
    simp (disch := omega) only [byte_cons_lt_iff] <;>
    omega

theorem flatMap_encode_lt {cs ds : List Char} (less : cs < ds) :
    cs.flatMap String.utf8EncodeChar < ds.flatMap String.utf8EncodeChar := by
  induction cs generalizing ds with
  | nil =>
    cases ds with
    | nil => exact absurd less (List.not_lt_nil _)
    | cons d ds =>
      obtain ⟨b, bytes, first⟩ := List.exists_cons_of_ne_nil (String.utf8EncodeChar_ne_nil (c := d))
      rw [List.flatMap_nil, List.flatMap_cons, first]
      exact List.nil_lt_cons _ _
  | cons c cs ih =>
    cases ds with
    | nil => exact absurd less (List.not_lt_nil _)
    | cons d ds =>
      rw [List.flatMap_cons, List.flatMap_cons]
      rcases List.cons_lt_cons_iff.mp less with first | ⟨rfl, later⟩
      · exact utf8EncodeChar_append_lt first _ _
      · exact List.append_left_lt (ih later)

theorem bytesOf_lt_iff {s t : String} : bytesOf s < bytesOf t ↔ s < t := by
  have encoded : ∀ {a b : String}, a < b → bytesOf a < bytesOf b := fun less =>
    flatMap_encode_lt (String.lt_iff_toList_lt.mp less)
  constructor
  · intro less
    rcases lt_trichotomy s t with lt | rfl | gt
    · exact lt
    · exact absurd less (List.lt_irrefl _)
    · exact absurd less (List.lt_asymm (encoded gt))
  · exact encoded

end RegistryFeed.Utf8
