import RegistryFeed.Json.Value.Reader
import RegistryFeed.Proofs.Json.Scalars

/-!
# Values that were written

The text of a value is read back as that value, down to the order of members and
the keys that come twice. The fuel of the reader is never used up, because each
item and each member is written in fewer characters than what it stands in. The
numbers must fit into 64 bits; nothing else is assumed.
-/

namespace RegistryFeed.Json

/-- Every number fits into 64 bits, with a sign or without. -/
inductive Value.Fits : Value → Prop
  | null : Fits .null
  | bool (b : Bool) : Fits (.bool b)
  | number {n : Int} (low : Text.minInt64 ≤ n) (high : n ≤ Text.maxNat64) : Fits (.number n)
  | string (s : String) : Fits (.string s)
  | list {vs : List Value} (all : ∀ v ∈ vs, v.Fits) : Fits (.list vs)
  | object {ms : List (String × Value)} (all : ∀ m ∈ ms, m.2.Fits) : Fits (.object ms)

/-! ## The text after a bracket or an item -/

/-- What stands before an item: a comma, unless it is the first one. -/
def lead (first : Bool) : List Char := if first then [] else [',']

/-- The items of a list that are still to come, and its bracket. -/
def itemsFrom (first : Bool) : List Value → List Char
  | [] => [']']
  | v :: vs => lead first ++ v.write ++ itemsFrom false vs

/-- The members of an object that are still to come, and its brace. -/
def membersFrom (first : Bool) : List (String × Value) → List Char
  | [] => ['\x7d']
  | (k, v) :: ms => lead first ++ writeString k ++ ':' :: v.write ++ membersFrom false ms

theorem writeItems_eq (vs : List Value) : writeItems vs = itemsFrom true vs := by
  induction vs with
  | nil => rfl
  | cons v vs ih =>
    cases vs with
    | nil => simp [writeItems, itemsFrom, lead]
    | cons w vs => simp [writeItems, ih, itemsFrom, lead]

theorem writeMembers_eq (ms : List (String × Value)) : writeMembers ms = membersFrom true ms := by
  induction ms with
  | nil => rfl
  | cons m ms ih =>
    cases ms with
    | nil => simp [writeMembers, membersFrom, lead]
    | cons w ms => simp [writeMembers, ih, membersFrom, lead]

theorem closes_itemsFrom (vs : List Value) (rest : List Char) :
    Closes (itemsFrom false vs ++ rest) := by
  cases vs with
  | nil => exact closes_cons (Or.inr (Or.inl rfl)) _
  | cons v vs => exact closes_cons (Or.inl rfl) _

theorem closes_membersFrom (ms : List (String × Value)) (rest : List Char) :
    Closes (membersFrom false ms ++ rest) := by
  cases ms with
  | nil => exact closes_cons (Or.inr (Or.inr rfl)) _
  | cons m ms => exact closes_cons (Or.inl rfl) _

/-- A value begins with a character that neither is a blank nor closes a list. -/
theorem write_head (v : Value) : ∃ c tail, v.write = c :: tail ∧ isGap c = false ∧ c ≠ ']' := by
  cases v with
  | null => exact ⟨'n', _, by rw [Value.write], rfl, by decide⟩
  | bool b => cases b <;> exact ⟨_, _, by rw [Value.write], rfl, by decide⟩
  | number n =>
    obtain ⟨c, tail, text, number⟩ := writeInt_head n
    refine ⟨c, tail, by rw [Value.write, text], not_gap_of_number number, ?_⟩
    rintro rfl
    cases number
  | string s => exact ⟨'"', _, by rw [Value.write, writeString, List.cons_append], rfl, by decide⟩
  | list vs => exact ⟨'[', _, by rw [Value.write], rfl, by decide⟩
  | object ms => exact ⟨'\x7b', _, by rw [Value.write], rfl, by decide⟩

/-! ## Lists and objects -/

/-- Items are read back if each of them is, whatever they are written as. -/
theorem readItems_itemsFrom {α : Type} {item : Reader α} {f : α → Value} {xs : List α}
    (each : ∀ x ∈ xs, ∀ rest, Closes rest → item ((f x).write ++ rest) = .ok (x, rest))
    {fuel : Nat} (enough : xs.length < fuel) (first : Bool) (rest : List Char) :
    readItems item fuel first (itemsFrom first (xs.map f) ++ rest) = .ok (xs, rest) := by
  induction xs generalizing fuel first with
  | nil =>
    obtain ⟨fuel, rfl⟩ := Nat.exists_eq_add_one_of_ne_zero (Nat.ne_zero_of_lt enough)
    rfl
  | cons x xs ih =>
    obtain ⟨fuel, rfl⟩ := Nat.exists_eq_add_one_of_ne_zero (Nat.ne_zero_of_lt enough)
    have one := each x List.mem_cons_self _ (closes_itemsFrom (xs.map f) rest)
    have more := ih (fun y hy => each y (List.mem_cons_of_mem x hy))
      (Nat.lt_of_succ_lt_succ enough) false
    obtain ⟨c, tail, text, visible, goesOn⟩ := write_head (f x)
    rw [text, List.cons_append] at one
    rw [List.map_cons]
    cases first with
    | true =>
      rw [itemsFrom, lead, if_pos rfl, List.nil_append, List.append_assoc, text, List.cons_append,
        readItems.eq_def]
      simp only [skipGap_cons visible, if_neg goesOn, if_true, one, bind, Except.bind, more]
      rfl
    | false =>
      have comma : ',' ≠ ']' := by decide
      rw [itemsFrom, lead, if_neg Bool.false_ne_true, List.append_assoc, List.append_assoc, text,
        List.singleton_append, List.cons_append, readItems.eq_def]
      simp only [skipGap_cons (show isGap ',' = false from rfl), skipGap_cons visible, if_neg comma,
        if_neg goesOn, Bool.false_eq_true, if_false, if_true, one, bind, Except.bind, more]
      rfl

/-- The opening quotation mark, the key and the colon of a member are passed over. -/
theorem readColon_cons (rest : List Char) : readColon (':' :: rest) = .ok rest := rfl

theorem readPairs_membersFrom {item : Reader Value} {ms : List (String × Value)}
    (each : ∀ m ∈ ms, ∀ rest, Closes rest → item (m.2.write ++ rest) = .ok (m.2, rest))
    {fuel : Nat} (enough : ms.length < fuel) (first : Bool) (rest : List Char) :
    readPairs item fuel first (membersFrom first ms ++ rest) = .ok (ms, rest) := by
  induction ms generalizing fuel first with
  | nil =>
    obtain ⟨fuel, rfl⟩ := Nat.exists_eq_add_one_of_ne_zero (Nat.ne_zero_of_lt enough)
    rfl
  | cons m ms ih =>
    obtain ⟨k, v⟩ := m
    obtain ⟨fuel, rfl⟩ := Nat.exists_eq_add_one_of_ne_zero (Nat.ne_zero_of_lt enough)
    have one := each (k, v) List.mem_cons_self _ (closes_membersFrom ms rest)
    have more := ih (fun n hn => each n (List.mem_cons_of_mem _ hn))
      (Nat.lt_of_succ_lt_succ enough) false
    have key := readQuoted_escaped k (':' :: (v.write ++ (membersFrom false ms ++ rest)))
    have text : membersFrom first ((k, v) :: ms) ++ rest = lead first ++ '"' ::
        (k.toList.flatMap escapeChar ++
          '"' :: ':' :: (v.write ++ (membersFrom false ms ++ rest))) := by
      simp [membersFrom, writeString]
    rw [text, readPairs.eq_def]
    cases first with
    | true =>
      rw [lead, if_pos rfl, List.nil_append]
      simp only [skipGap_cons (show isGap '"' = false from rfl), if_true, key, bind, Except.bind,
        readColon_cons, one, more]
      rfl
    | false =>
      rw [lead, if_neg Bool.false_ne_true, List.singleton_append]
      simp only [skipGap_cons (show isGap ',' = false from rfl),
        skipGap_cons (show isGap '"' = false from rfl), Bool.false_eq_true, if_false, key, bind,
        Except.bind, readColon_cons, one, more]
      rfl

/-! ## Whole values -/

theorem length_lt_itemsFrom (first : Bool) (vs : List Value) :
    vs.length < (itemsFrom first vs).length := by
  induction vs generalizing first with
  | nil => exact Nat.zero_lt_one
  | cons v vs ih =>
    obtain ⟨c, tail, text, -⟩ := write_head v
    have rest := ih false
    simp only [itemsFrom, text, List.length_append, List.length_cons]
    omega

theorem length_lt_membersFrom (first : Bool) (ms : List (String × Value)) :
    ms.length < (membersFrom first ms).length := by
  induction ms generalizing first with
  | nil => exact Nat.zero_lt_one
  | cons m ms ih =>
    have rest := ih false
    simp only [membersFrom, List.length_append, List.length_cons]
    omega

theorem write_lt_itemsFrom (first : Bool) {vs : List Value} {v : Value} (mem : v ∈ vs) :
    v.write.length < (itemsFrom first vs).length := by
  induction vs generalizing first with
  | nil => cases mem
  | cons w vs ih =>
    have rest := length_lt_itemsFrom false vs
    simp only [itemsFrom, List.length_append]
    rcases List.mem_cons.mp mem with rfl | mem
    · omega
    · have := ih false mem
      omega

theorem write_lt_membersFrom (first : Bool) {ms : List (String × Value)} {m : String × Value}
    (mem : m ∈ ms) : m.2.write.length < (membersFrom first ms).length := by
  induction ms generalizing first with
  | nil => cases mem
  | cons n ms ih =>
    have rest := length_lt_membersFrom false ms
    simp only [membersFrom, List.length_append, List.length_cons]
    rcases List.mem_cons.mp mem with rfl | mem
    · omega
    · have := ih false mem
      omega

/-- What begins like a number is read as one. -/
theorem readValue_number {c : Char} (number : (c = '-' || Text.isAsciiDigit c) = true) (fuel : Nat)
    (cs : List Char) : readValue (fuel + 1) (c :: cs) =
      (readInt Text.minInt64 Text.maxNat64 (c :: cs)).map fun p => (.number p.1, p.2) := by
  rw [readValue.eq_def]
  simp only [skipGap_cons (not_gap_of_number number)]
  split
  · next none => cases none
  · next same => obtain ⟨rfl, -⟩ := List.cons.inj same; cases number
  · next same => obtain ⟨rfl, -⟩ := List.cons.inj same; cases number
  · next same => obtain ⟨rfl, -⟩ := List.cons.inj same; cases number
  · next same => obtain ⟨rfl, -⟩ := List.cons.inj same; cases number
  · next same => obtain ⟨rfl, -⟩ := List.cons.inj same; cases number
  · next same => obtain ⟨rfl, -⟩ := List.cons.inj same; cases number
  · cases readInt Text.minInt64 Text.maxNat64 (c :: cs) <;> rfl

/-- The induction is on the fuel, which goes down with each list or object entered. -/
theorem readValue_write {v : Value} (fits : v.Fits) {fuel : Nat} (enough : v.write.length < fuel)
    {rest : List Char} (closes : Closes rest) :
    readValue fuel (v.write ++ rest) = .ok (v, rest) := by
  induction fuel generalizing v rest with
  | zero => cases enough
  | succ fuel ih =>
    cases fits with
    | null => rfl
    | bool b => cases b <;> rfl
    | @number n low high =>
      obtain ⟨c, tail, text, number⟩ := writeInt_head n
      have read := readInt_writeInt low high low high closes
      rw [text, List.cons_append] at read
      rw [Value.write, text, List.cons_append, readValue_number number, read]
      rfl
    | string s =>
      have read := readQuoted_escaped s rest
      rw [Value.write, writeString_append, readValue.eq_def]
      simp only [skipGap_cons (show isGap '"' = false from rfl), read, bind, Except.bind]
      rfl
    | @list vs all =>
      rw [Value.write, writeItems_eq] at *
      have each : ∀ v ∈ vs, ∀ rest, Closes rest →
          readValue fuel (v.write ++ rest) = .ok (v, rest) := by
        intro v mem rest closes
        have shorter := write_lt_itemsFrom true mem
        rw [List.length_cons] at enough
        exact ih (all v mem) (by omega) closes
      have long : vs.length < (itemsFrom true vs ++ rest).length + 1 := by
        have := length_lt_itemsFrom true vs
        rw [List.length_append]
        omega
      have read := readItems_itemsFrom (f := id) each long true rest
      rw [List.map_id] at read
      rw [List.cons_append, readValue.eq_def]
      simp only [skipGap_cons (show isGap '[' = false from rfl), read, bind, Except.bind]
      rfl
    | @object ms all =>
      rw [Value.write, writeMembers_eq] at *
      have each : ∀ m ∈ ms, ∀ rest, Closes rest →
          readValue fuel (m.2.write ++ rest) = .ok (m.2, rest) := by
        intro m mem rest closes
        have shorter := write_lt_membersFrom true mem
        rw [List.length_cons] at enough
        exact ih (all m mem) (by omega) closes
      have long : ms.length < (membersFrom true ms ++ rest).length + 1 := by
        have := length_lt_membersFrom true ms
        rw [List.length_append]
        omega
      have read := readPairs_membersFrom each long true rest
      rw [List.cons_append, readValue.eq_def]
      simp only [skipGap_cons (show isGap '\x7b' = false from rfl), read, bind, Except.bind]
      rfl

theorem readAll_eq_ok {α : Type} {reader : Reader α} {v : Value} {x : α}
    (read : reader (v.write ++ []) = .ok (x, [])) : readAll reader v.text = .ok x := by
  rw [List.append_nil] at read
  rw [readAll, Value.text, String.toList_ofList, read]
  rfl

/-- The text of a value is read back as the value. -/
theorem Value.ofText_text {v : Value} (fits : v.Fits) : Value.ofText v.text = .ok v := by
  apply readAll_eq_ok
  refine readValue_write fits ?_ closes_nil
  rw [Value.text, String.length_ofList]
  exact Nat.lt_succ_self _

theorem Value.text_injective {v w : Value} (fits : v.Fits) (other : w.Fits)
    (same : v.text = w.text) : v = w := by
  have read := Value.ofText_text fits
  rw [same, Value.ofText_text other] at read
  exact (Except.ok.inj read).symm

/-! ## Values of a wanted kind -/

theorem readBool_write (b : Bool) (rest : List Char) :
    readBool ((Value.bool b).write ++ rest) = .ok (b, rest) := by
  cases b <;> rfl

theorem readNat_write {bound n : Nat} (below : n ≤ bound) (fits : bound ≤ Text.maxNat64)
    {rest : List Char} (closes : Closes rest) :
    readNat bound ((Value.number n).write ++ rest) = .ok (n, rest) := by
  have low : Text.minInt64 ≤ n := Int.le_trans (by decide) (Int.natCast_nonneg n)
  have read := readInt_writeInt (Int.natCast_nonneg n) (Int.ofNat_le.mpr below) low
    (Int.ofNat_le.mpr (Nat.le_trans below fits)) closes
  rw [Value.write, readNat, read]
  rfl

theorem readString?_ofText? (text : Option String) (rest : List Char) :
    readString? ((Value.ofText? text).write ++ rest) = .ok (text, rest) := by
  cases text with
  | none => rfl
  | some s =>
    rw [Value.ofText?, Value.write]
    exact readString?_writeString s rest

/-- A list is read back if each of its items is. -/
theorem readList_write {α : Type} {item : Reader α} {f : α → Value} {xs : List α}
    (each : ∀ x ∈ xs, ∀ rest, Closes rest → item ((f x).write ++ rest) = .ok (x, rest))
    (rest : List Char) :
    readList item ((Value.list (xs.map f)).write ++ rest) = .ok (xs, rest) := by
  have long := length_lt_itemsFrom true (xs.map f)
  rw [List.length_map] at long
  rw [Value.write, writeItems_eq, List.cons_append, readList,
    skipGap_cons (show isGap '[' = false from rfl)]
  apply readItems_itemsFrom each
  rw [List.length_append]
  omega

end RegistryFeed.Json
