import RegistryFeed.Change.Operation
import RegistryFeed.Json.Record
import RegistryFeed.Json.Value

/-! # Published records

The items of the documents: a delta lists changes, a snapshot lists objects. A change that deletes
an object has no payload. -/
namespace RegistryFeed

open Json

structure DeltaChange where
  operation : Operation
  objectType : String
  primaryKey : String
  payload : Option String
deriving DecidableEq, Repr

structure SnapshotObject where
  objectType : String
  primaryKey : String
  payload : String
deriving DecidableEq, Repr

/-- A missing payload is left out. -/
def DeltaChange.toValue (c : DeltaChange) : Value :=
  .object ([("operation", .string c.operation.text), ("object_type", .string c.objectType),
    ("primary_key", .string c.primaryKey)] ++
    (c.payload.map fun p => ("payload", Value.string p)).toList)

def SnapshotObject.toValue (o : SnapshotObject) : Value :=
  .object [("object_type", .string o.objectType), ("primary_key", .string o.primaryKey),
    ("payload", .string o.payload)]

/-- The words of operations in documents, which are read in capitals only. -/
def operationOfWord? (s : String) : Option Operation :=
  if s = "ADD" then some .add
  else if s = "UPDATE" then some .update
  else if s = "DELETE" then some .delete
  else none

def readOperation : Reader Operation := readWord operationOfWord?

def DeltaChange.members : List (Member DeltaChange) :=
  [.ofReader "operation" true readOperation fun x c => { c with operation := x },
    .ofReader "object_type" true readString fun x c => { c with objectType := x },
    .ofReader "primary_key" true readString fun x c => { c with primaryKey := x },
    .ofReader "payload" false readString? fun x c => { c with payload := x }]

def DeltaChange.read : Reader DeltaChange := readRecord members ⟨.add, "", "", none⟩

def SnapshotObject.members : List (Member SnapshotObject) :=
  [.ofReader "object_type" true readString fun x o => { o with objectType := x },
    .ofReader "primary_key" true readString fun x o => { o with primaryKey := x },
    .ofReader "payload" true readString fun x o => { o with payload := x }]

def SnapshotObject.read : Reader SnapshotObject := readRecord members ⟨"", "", ""⟩

end RegistryFeed
