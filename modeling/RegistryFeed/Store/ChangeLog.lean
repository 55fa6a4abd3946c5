import RegistryFeed.Store.Basic

/-! # The change log of the store

Serials are counted for each source by itself: the first is one, and the next is one more than the
greatest. Reading answers in ascending order and fails at the first row whose operation is
corrupt. -/
namespace RegistryFeed

def SerialRow.entry (r : SerialRow) : Except EngineError Entry :=
  match Operation.ofText r.operation with
  | .ok operation =>
    .ok ⟨r.serial, operation, r.objectType, r.primaryKey, r.payload, r.committedAt⟩
  | .error cause => .error (.internal (.corruptOperation r.serial cause))

namespace Store

/-- The rows of a source. -/
def rowsOf (s : Store) (source : Source) : List SerialRow :=
  s.serials.filter fun r => r.source = source

/-- Puts a row before the first row of its source with a greater serial. -/
def insertRow (row : SerialRow) : List SerialRow → List SerialRow
  | [] => [row]
  | r :: rest =>
    if r.source = row.source ∧ row.serial < r.serial then row :: r :: rest
    else r :: insertRow row rest

/-- Puts in a row as it is; no two rows of a source have one serial. -/
def putRow (s : Store) (row : SerialRow) : Except EngineError Store :=
  if (s.rowsOf row.source).any (·.serial = row.serial) then
    .error (.store (.violated .serialTaken))
  else .ok { s with serials := insertRow row s.serials }

/-- The serial after the greatest one of a source. -/
def nextSerialOf (s : Store) (source : Source) : Int :=
  match (s.rowsOf source).getLast? with
  | some r => r.serial + 1
  | none => 1

/-- Records a committed change under the next serial of its source. -/
def append (s : Store) (source : Source) (operation : Operation) (objectType primaryKey : String)
    (payload : Option String) (now : Int) : Entry × Store :=
  let serial := s.nextSerialOf source
  (⟨serial, operation, objectType, primaryKey, payload, now⟩,
    { s with serials := s.serials ++
        [⟨source, serial, operation.text, objectType, primaryKey, payload, now⟩] })

theorem rowsOf_append (s : Store) (source other : Source) (operation : Operation)
    (objectType primaryKey : String) (payload : Option String) (now : Int) :
    (s.append source operation objectType primaryKey payload now).2.rowsOf other =
      if other = source then
        s.rowsOf source ++ [⟨source, s.nextSerialOf source, operation.text, objectType, primaryKey,
          payload, now⟩]
      else s.rowsOf other := by
  simp only [append, rowsOf, List.filter_append]
  split
  · next same => simp [same]
  · next different =>
    have : ¬ source = other := fun e => different e.symm
    simp [this]

/-- Takes out the rows of a source below a serial, and counts them. -/
def trim (s : Store) (source : Source) (before : Int) : Nat × Store :=
  let rest := s.serials.filter fun r => !(r.source = source && r.serial < before)
  (s.serials.length - rest.length, { s with serials := rest })

/-- The rows of a source after a position. -/
def rowsAfter (s : Store) (source : Source) (after : Int) : List SerialRow :=
  (s.rowsOf source).filter fun r => after < r.serial

def entriesSince (s : Store) (source : Source) (after : Int) : Except EngineError (List Entry) :=
  (s.rowsAfter source after).mapM SerialRow.entry

/-- The database takes the greatest number of rows as a signed number of 64 bits. -/
def pageLimit (max : Nat) : Nat := min max Text.maxInt64.toNat

/-- At most `max` entries after a position; only rows of the page are read. -/
def page (s : Store) (source : Source) (after : Int) (max : Nat) :
    Except EngineError (List Entry) :=
  ((s.rowsAfter source after).take (pageLimit max)).mapM SerialRow.entry

def range (s : Store) (source : Source) : Option SerialRange :=
  match (s.rowsOf source).head?, (s.rowsOf source).getLast? with
  | some a, some b => some ⟨a.serial, b.serial⟩
  | _, _ => none

def latestSerial (s : Store) (source : Source) : Option Int := (s.range source).map (·.last)

/-- No list of so few rows is cut at the bound of the database. -/
theorem take_pageLimit {α : Type} {rows : List α} (few : (rows.length : Int) ≤ Text.maxInt64)
    (max : Nat) : rows.take (pageLimit max) = rows.take max := by
  by_cases within : max ≤ Text.maxInt64.toNat
  · rw [pageLimit, Nat.min_eq_left within]
  · have all : rows.length ≤ pageLimit max := by
      rw [pageLimit]
      omega
    rw [List.take_of_length_le all, List.take_of_length_le (by omega)]

end Store

end RegistryFeed
