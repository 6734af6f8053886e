import DocQuery.Value
/-!
# Equality of values

Two equalities. `Value.identical` asks for the same kind and the same
contents, the order of keys apart. `Value.equals` is the one that queries
use: numbers are compared by value across their kinds, arrays item by item,
documents entry by entry in order, and everything else is compared by
`identical`. The scope of a piece of code counts as contents, so it is
compared by `identical` under both.
-/


namespace DocQuery

/-- A number as it is compared: whole, or a double. -/
inductive Number where
  | whole (n : Int64)
  | double (x : Double)

namespace Number

/-- The nearest double. -/
def toDouble : Number → Double
  | whole n => Double.ofInt64 n
  | double x => x

/-- Numeric comparison: exact between whole numbers, and by the nearest
doubles otherwise. A NaN compares with nothing. -/
def compare? : Number → Number → Option Ordering
  | whole m, whole n => some (compare m.toInt n.toInt)
  | m, n => m.toDouble.compare? n.toDouble

end Number

namespace Value

/-- The number that a value is, if it is one that has a double near it. -/
def number? : Value → Option Number
  | .int32 n => some (.whole n.toInt64)
  | .int64 n => some (.whole n)
  | .double x => some (.double x)
  | _ => none

mutual

/-- Whether two values have the same kind and the same contents; in
documents the order of keys does not count. -/
def identical : Value → Value → Bool
  | .null, .null => true
  | .undefined, .undefined => true
  | .minKey, .minKey => true
  | .maxKey, .maxKey => true
  | .bool a, .bool b => a == b
  | .int32 a, .int32 b => a == b
  | .int64 a, .int64 b => a == b
  | .double a, .double b => a.numEq b
  | .string a, .string b => a == b
  | .symbol a, .symbol b => a == b
  | .code a, .code b => a == b
  | .codeWithScope a s, .codeWithScope b t =>
    a == b && (s.length == t.length && identicalEntries s t)
  | .pattern a o, .pattern b p => a == b && o == p
  | .date a, .date b => a == b
  | .timestamp a i, .timestamp b j => a == b && i == j
  | .objectId a, .objectId b => a == b
  | .binary s a, .binary t b => s == t && a == b
  | .decimal128 a, .decimal128 b => a == b
  | .pointer a i, .pointer b j => a == b && i == j
  | .array a, .array b => identicalItems a b
  | .document a, .document b => a.length == b.length && identicalEntries a b
  | _, _ => false
  termination_by structural a => a

/-- Whether two lists hold identical values in the same places. -/
def identicalItems : List Value → List Value → Bool
  | [], [] => true
  | a :: as, b :: bs => identical a b && identicalItems as bs
  | _, _ => false
  termination_by structural as => as

/-- Whether a document holds identical values under the keys of a list of
entries. -/
def identicalEntries : List (String × Value) → List (String × Value) → Bool
  | [], _ => true
  | (key, a) :: rest, d =>
    (match Entries.get? key d with
      | some b => identical a b
      | none => false) && identicalEntries rest d
  termination_by structural entries => entries

end

/-- Whether two values that are not both arrays nor both documents are equal:
by value if both are numbers, and identical otherwise. -/
def equalScalars (a b : Value) : Bool :=
  match a.number?, b.number? with
  | some m, some n => m.compare? n == some .eq
  | _, _ => identical a b

mutual

/-- The equality of queries. -/
def equals : Value → Value → Bool
  | .array a, .array b => equalItems a b
  | .document a, .document b => equalEntries a b
  | a, b => equalScalars a b
  termination_by structural a => a

/-- Whether two lists hold equal values in the same places. -/
def equalItems : List Value → List Value → Bool
  | [], [] => true
  | a :: as, b :: bs => equals a b && equalItems as bs
  | _, _ => false
  termination_by structural as => as

/-- Whether two documents hold the same keys with equal values, in the same
order. -/
def equalEntries : List (String × Value) → List (String × Value) → Bool
  | [], [] => true
  | (k, a) :: as, (l, b) :: bs => k == l && (equals a b && equalEntries as bs)
  | _, _ => false
  termination_by structural as => as

end

/-- Whether a value equals a member of a list. -/
def memberOf (v : Value) (items : List Value) : Bool := items.any fun item => equals item v

end Value

end DocQuery
