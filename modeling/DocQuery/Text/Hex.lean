/-!
# Hexadecimal digits

Reading and writing numbers in base sixteen, small letters on output and
either case on input. `value?` reads a digit string most significant digit
first; `ofNat` writes without padding, `ofBytes` two digits a byte.
-/


namespace DocQuery

namespace Hex

/-- The value of a hexadecimal digit, of either case. -/
def digit? (c : Char) : Option Nat :=
  if '0' ≤ c ∧ c ≤ '9' then some (c.toNat - '0'.toNat)
  else if 'a' ≤ c ∧ c ≤ 'f' then some (c.toNat - 'a'.toNat + 10)
  else if 'A' ≤ c ∧ c ≤ 'F' then some (c.toNat - 'A'.toNat + 10)
  else none

/-- Reads digits onto a number read so far. -/
def extend? : Nat → List Char → Option Nat
  | n, [] => some n
  | n, c :: rest => (digit? c).bind fun d => extend? (16 * n + d) rest

/-- The value of a digit string; an empty one has none. -/
def value? : List Char → Option Nat
  | [] => none
  | digits => extend? 0 digits

/-- The digit of a value below sixteen. -/
def digit (n : Nat) : Char :=
  if n < 10 then Char.ofNat ('0'.toNat + n) else Char.ofNat ('a'.toNat + (n - 10))

/-- The digits of a number, none of them superfluous. -/
def ofNat (n : Nat) : List Char := (Nat.toDigits 16 n)

/-- The two digits of a byte. -/
def ofByte (b : UInt8) : List Char := [digit (b.toNat / 16), digit (b.toNat % 16)]

/-- The digits of a byte string. -/
def ofBytes (bytes : List UInt8) : List Char := bytes.flatMap ofByte

/-- Reads a byte string, two digits a byte. -/
def bytes? : List Char → Option (List UInt8)
  | [] => some []
  | [_] => none
  | a :: b :: rest => do
    let high ← digit? a
    let low ← digit? b
    let others ← bytes? rest
    return UInt8.ofNat (16 * high + low) :: others

end Hex

end DocQuery
