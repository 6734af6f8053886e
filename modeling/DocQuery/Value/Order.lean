import DocQuery.Text.Collation
import DocQuery.Value.Equality
/-!
# Orders of values

Two orders. `Value.compareRange?` serves the range operators: it relates
numbers, strings and dates to their like, and nothing else. `Value.compare`
serves sorting and relates everything: values of different kinds by the rank
of their kind, values of one kind by their contents, and kinds without an
order of their own as ties. An absent value sorts as null does
(`Value.compareKeys`).
-/


namespace DocQuery

namespace Value

/-- The order of two numbers, two strings or two dates. -/
def compareRange? : Value → Value → Option Ordering
  | .string a, .string b => some (StringOrdering.compare .binary a b)
  | .date a, .date b => some (Ord.compare a.toInt b.toInt)
  | a, b =>
    match a.number?, b.number? with
    | some m, some n => m.compare? n
    | _, _ => none

/-- The rank of a value's kind in sorting. -/
def rank : Value → Nat
  | .null | .undefined => 0
  | .int32 _ | .int64 _ | .double _ => 1
  | .decimal128 _ => 2
  | .string _ | .symbol _ => 3
  | .document _ => 4
  | .array _ => 5
  | .binary _ _ => 6
  | .objectId _ => 7
  | .bool _ => 8
  | .date _ => 9
  | .timestamp _ _ => 10
  | .pattern _ _ => 11
  | .minKey | .maxKey | .code _ | .codeWithScope _ _ | .pointer _ _ => 12

/-- The order of bytes, first differing byte first. -/
def compareBytes (a b : List UInt8) : Ordering :=
  List.compareLex (fun x y => Ord.compare x.toNat y.toNat) a b

/-- The order of two numbers in sorting: exact between whole numbers, and the
order of all doubles otherwise. -/
def compareNumbers : Number → Number → Ordering
  | .whole m, .whole n => Ord.compare m.toInt n.toInt
  | m, n => m.toDouble.totalCompare n.toDouble

/-- The order of two values of equal rank that are neither arrays nor
documents. -/
def compareScalars (strings : StringOrdering) : Value → Value → Ordering
  | .string a, .string b => strings.compare a b
  | .symbol a, .symbol b => strings.compare a b
  | .bool a, .bool b => Ord.compare a.toNat b.toNat
  | .date a, .date b => Ord.compare a.toInt b.toInt
  | .timestamp a i, .timestamp b j =>
    (Ord.compare a.toNat b.toNat).then (Ord.compare i.toNat j.toNat)
  | .objectId a, .objectId b => compareBytes a.bytes.toList b.bytes.toList
  | .binary _ a, .binary _ b => compareBytes a b
  | .decimal128 a, .decimal128 b => compareBytes a.bytes.toList b.bytes.toList
  | a, b =>
    match a.number?, b.number? with
    | some m, some n => compareNumbers m n
    | _, _ => .eq

mutual

/-- The order of sorting. -/
def compare (strings : StringOrdering) : Value → Value → Ordering
  | .array a, .array b => compareItems strings a b
  | .document a, .document b => compareEntries strings a b
  | a, b => (Ord.compare a.rank b.rank).then (compareScalars strings a b)
  termination_by structural a => a

/-- The order of arrays: the first items that differ decide, and a proper
beginning comes first. -/
def compareItems (strings : StringOrdering) : List Value → List Value → Ordering
  | [], [] => .eq
  | [], _ :: _ => .lt
  | _ :: _, [] => .gt
  | a :: as, b :: bs => (compare strings a b).then (compareItems strings as bs)
  termination_by structural as => as

/-- The order of documents: the first entries that differ decide, keys before
values, and a proper beginning comes first. -/
def compareEntries (strings : StringOrdering) :
    List (String × Value) → List (String × Value) → Ordering
  | [], [] => .eq
  | [], _ :: _ => .lt
  | _ :: _, [] => .gt
  | (k, a) :: as, (l, b) :: bs =>
    (StringOrdering.compare .binary k l).then
      ((compare strings a b).then (compareEntries strings as bs))
  termination_by structural as => as

end

/-- The order of two sort keys; an absent one sorts as null does. -/
def compareKeys (strings : StringOrdering) (a b : Option Value) : Ordering :=
  compare strings (a.getD .null) (b.getD .null)

end Value

end DocQuery
