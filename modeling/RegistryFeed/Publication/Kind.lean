/-! # Kinds of published documents -/
namespace RegistryFeed

/-- A snapshot opens a version chain, deltas continue it. -/
inductive DocumentKind
  | snapshot
  | delta
deriving DecidableEq, Repr

def DocumentKind.all : List DocumentKind := [.snapshot, .delta]

def DocumentKind.text : DocumentKind → String
  | .snapshot => "snapshot"
  | .delta => "delta"

/-- A stored kind that is neither of the two words. -/
structure UnknownKind where
  text : String
deriving DecidableEq, Repr

def UnknownKind.message (e : UnknownKind) : String := "unknown document type: " ++ e.text

def DocumentKind.ofText (text : String) : Except UnknownKind DocumentKind :=
  if text = "snapshot" then .ok .snapshot
  else if text = "delta" then .ok .delta
  else .error ⟨text⟩

theorem DocumentKind.ofText_text (k : DocumentKind) : ofText k.text = .ok k := by
  cases k <;> rfl

end RegistryFeed
