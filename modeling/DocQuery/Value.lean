import DocQuery.Double
import DocQuery.Entries
/-!
# Values and documents

A value is a scalar of one of many kinds, an array of values or a document.
A document is a keyed list of values: it keeps the order in which keys were
added, and inserting keeps its keys distinct. Values in which every document
has distinct keys are the well-formed ones.
-/


namespace DocQuery

/-- An object identifier: twelve bytes. -/
structure ObjectId where
  bytes : Vector UInt8 12
  deriving DecidableEq

/-- The identifier of twelve bytes. -/
def ObjectId.ofBytes? (bytes : List UInt8) : Option ObjectId :=
  if h : bytes.toArray.size = 12 then some ⟨⟨bytes.toArray, h⟩⟩ else none

/-- A 128-bit decimal number, as its sixteen bytes. -/
structure Decimal128 where
  bytes : Vector UInt8 16
  deriving DecidableEq

/-- The decimal number of sixteen bytes. -/
def Decimal128.ofBytes? (bytes : List UInt8) : Option Decimal128 :=
  if h : bytes.toArray.size = 16 then some ⟨⟨bytes.toArray, h⟩⟩ else none

/-- A value. Dates are milliseconds since 1970, timestamps seconds with a
counter; a pattern carries its option letters as written. -/
inductive Value where
  | null
  | undefined
  | minKey
  | maxKey
  | bool (b : Bool)
  | int32 (n : Int32)
  | int64 (n : Int64)
  | double (x : Double)
  | string (s : String)
  | symbol (s : String)
  | code (source : String)
  | codeWithScope (source : String) (scope : List (String × Value))
  | pattern (source options : String)
  | date (millis : Int64)
  | timestamp (time increment : UInt32)
  | objectId (id : ObjectId)
  | binary (subtype : UInt8) (bytes : List UInt8)
  | decimal128 (number : Decimal128)
  | pointer (collection : String) (id : ObjectId)
  | array (items : List Value)
  | document (entries : List (String × Value))

instance : Inhabited Value := ⟨.null⟩

/-- A document: keys with values, in order. -/
abbrev Document := List (String × Value)

/-! ## Well-formed values -/

mutual

/-- Every document within the value has distinct keys. -/
def Value.WellFormed : Value → Prop
  | .array items => Value.AllWellFormed items
  | .document entries => (Entries.keys entries).Nodup ∧ Value.EntriesWellFormed entries
  | .codeWithScope _ scope => (Entries.keys scope).Nodup ∧ Value.EntriesWellFormed scope
  | _ => True
  termination_by structural v => v

/-- Every value of a list is well-formed. -/
def Value.AllWellFormed : List Value → Prop
  | [] => True
  | v :: rest => v.WellFormed ∧ Value.AllWellFormed rest
  termination_by structural vs => vs

/-- Every value of a list of entries is well-formed. -/
def Value.EntriesWellFormed : List (String × Value) → Prop
  | [] => True
  | (_, v) :: rest => v.WellFormed ∧ Value.EntriesWellFormed rest
  termination_by structural entries => entries

end

/-- The keys of the document, and of every document within it, are
distinct. -/
def Document.WellFormed (d : Document) : Prop := (Value.document d).WellFormed

end DocQuery
