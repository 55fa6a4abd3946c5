import RegistryFeed.Text.Uppercase

/-! # Operations

The three kinds of change. Stored and requested operations are read in any case, by the full
upper-case mapping; the short word for a deletion is understood and never written. -/
namespace RegistryFeed

inductive Operation
  | add
  | update
  | delete
deriving DecidableEq, Repr

def Operation.all : List Operation := [.add, .update, .delete]

def Operation.text : Operation → String
  | .add => "ADD"
  | .update => "UPDATE"
  | .delete => "DELETE"

def Operation.isDelete : Operation → Bool
  | .delete => true
  | _ => false

/-- A text that names no operation, in upper case. -/
structure UnknownOperation where
  upper : String
deriving DecidableEq, Repr

def UnknownOperation.message (e : UnknownOperation) : String := "unknown operation: " ++ e.upper

def Operation.ofText (text : String) : Except UnknownOperation Operation :=
  let upper := Text.uppercase text
  if upper = "ADD" then .ok .add
  else if upper = "UPDATE" then .ok .update
  else if upper = "DEL" || upper = "DELETE" then .ok .delete
  else .error ⟨upper⟩

theorem Operation.uppercase_text (op : Operation) : Text.uppercase op.text = op.text := by
  cases op <;> decide +kernel

theorem Operation.ofText_text (op : Operation) : ofText op.text = .ok op := by
  rw [ofText, uppercase_text]
  cases op <;> rfl

end RegistryFeed
