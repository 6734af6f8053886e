import DocQuery.Decimal.Shortest
import DocQuery.Text.Base64
import DocQuery.Text.Hex
import DocQuery.Value
import DocQuery.Value.Calendar
/-!
# Values in messages

The text by which a message shows a value. Strings stand in quotes but are
not escaped; numbers are written as plain decimals; kinds without a notation
of their own are shown as their name with their contents in parentheses.
-/


namespace DocQuery

namespace Decimal128

/-- The number that the bytes spell, least significant byte first. -/
def bits (d : Decimal128) : Nat :=
  d.bytes.toList.foldr (fun byte rest => byte.toNat + 256 * rest) 0

/-- The digits of a decimal number, written with an exponent when it is
positive or when the first digit lies more than six places behind the
point. -/
def finiteText (coefficient : Nat) (exponent : Int) : List Char :=
  let digits := Nat.toDigits 10 coefficient
  let lead : Int := exponent + digits.length - 1
  if exponent ≤ 0 ∧ -6 ≤ lead then
    let places := exponent.natAbs
    if places = 0 then digits
    else if digits.length ≤ places then
      ['0', '.'] ++ List.replicate (places - digits.length) '0' ++ digits
    else digits.take (digits.length - places) ++ '.' :: digits.drop (digits.length - places)
  else
    let mantissa :=
      match digits with
      | first :: second :: rest => first :: '.' :: second :: rest
      | short => short
    mantissa ++ 'E' :: (if 0 < lead then ['+'] else []) ++ (toString lead).toList

/-- The text of a 128-bit decimal. A coefficient of more than thirty-four
digits counts as zero. -/
def text (d : Decimal128) : String :=
  let n := d.bits
  let kind := n >>> 122 % 32
  if kind = 31 then "NaN"
  else
    let sign := if 1 <<< 127 ≤ n then "-" else ""
    if kind = 30 then sign ++ "Infinity"
    else if 24 ≤ kind then
      sign ++ String.ofList (finiteText 0 ((n >>> 111 % 1 <<< 14 : Nat) - 6176))
    else
      let coefficient := n % 1 <<< 113
      let coefficient := if coefficient < Nat.pow 10 34 then coefficient else 0
      sign ++ String.ofList (finiteText coefficient ((n >>> 113 % 1 <<< 14 : Nat) - 6176))

end Decimal128

/-- The hexadecimal digits of an object identifier. -/
def ObjectId.text (id : ObjectId) : String := String.ofList (Hex.ofBytes id.bytes.toList)

namespace Value

mutual

/-- The text of a value in a message. -/
def display : Value → String
  | .null => "null"
  | .undefined => "undefined"
  | .minKey => "MinKey"
  | .maxKey => "MaxKey"
  | .bool b => if b then "true" else "false"
  | .int32 n => toString n.toInt
  | .int64 n => toString n.toInt
  | .double x => x.text
  | .string s => "\"" ++ s ++ "\""
  | .symbol s => "Symbol(\"" ++ s ++ "\")"
  | .code source => source
  | .codeWithScope source _ => source
  | .pattern source options => "/" ++ source ++ "/" ++ options
  | .date millis => "DateTime(\"" ++ Calendar.dateText millis.toInt ++ "\")"
  | .timestamp time increment =>
    "Timestamp(" ++ toString time.toNat ++ ", " ++ toString increment.toNat ++ ")"
  | .objectId id => "ObjectId(\"" ++ id.text ++ "\")"
  | .binary subtype bytes =>
    "Binary(0x" ++ String.ofList (Hex.ofNat subtype.toNat) ++ ", " ++
      String.ofList (Base64.encode bytes) ++ ")"
  | .decimal128 number => number.text
  | .pointer collection id => "DbPointer(" ++ collection ++ ", " ++ id.text ++ ")"
  | .array items => "[" ++ ", ".intercalate (displayItems items) ++ "]"
  | .document [] => "\x7b\x7d"
  | .document entries => "\x7b " ++ ", ".intercalate (displayEntries entries) ++ " \x7d"
  termination_by structural v => v

/-- The texts of several values. -/
def displayItems : List Value → List String
  | [] => []
  | v :: rest => display v :: displayItems rest
  termination_by structural items => items

/-- The texts of several entries, each key in quotes. -/
def displayEntries : List (String × Value) → List String
  | [] => []
  | (key, v) :: rest => ("\"" ++ key ++ "\": " ++ display v) :: displayEntries rest
  termination_by structural entries => entries

end

end Value

end DocQuery
