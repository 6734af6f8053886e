import DocQuery.Text.Hex
/-!
# Sets of characters

A set of characters is kept as ranges of code points, in ascending order and
apart from one another. `CharSet.ofRanges` brings any list of ranges into
that form, so that union, complement and the operations built from them can
be stated on ranges; `CharSet.contains` is the only test. `CharSet.ofText`
reads the spelling in which the tables of properties are written.
-/


namespace DocQuery

namespace Unicode

/-- A set of code points: inclusive ranges, ascending and apart. -/
structure CharSet where
  ranges : List (Nat × Nat)
  deriving DecidableEq

namespace CharSet

/-- The largest code point. -/
def top : Nat := 0x10ffff

/-- Whether a code point lies in ascending ranges. -/
def covers (n : Nat) : List (Nat × Nat) → Bool
  | [] => false
  | (low, high) :: rest => if n < low then false else n ≤ high || covers n rest

/-- Whether a character belongs to the set. -/
def contains (set : CharSet) (c : Char) : Bool := covers c.toNat set.ranges

/-- Joins the ranges of an ascending list that meet or overlap, given the
range that is being extended. -/
def joinFrom (low high : Nat) : List (Nat × Nat) → List (Nat × Nat)
  | [] => [(low, high)]
  | (a, b) :: rest =>
    if a ≤ high + 1 then joinFrom low (max high b) rest
    else (low, high) :: joinFrom a b rest

/-- The set that a list of ranges covers, in any order and overlapping as
they may. -/
def ofRanges (ranges : List (Nat × Nat)) : CharSet :=
  match ranges.mergeSort fun a b => a.1 ≤ b.1 with
  | [] => ⟨[]⟩
  | (low, high) :: rest => ⟨joinFrom low high rest⟩

/-- The set without members. -/
def empty : CharSet := ⟨[]⟩

/-- The set of all code points. -/
def full : CharSet := ⟨[(0, top)]⟩

/-- The set of one character. -/
def singleton (c : Char) : CharSet := ⟨[(c.toNat, c.toNat)]⟩

/-- The code points that belong to one of the sets. -/
def union (sets : List CharSet) : CharSet := ofRanges (sets.flatMap ranges)

/-- The gaps between ascending ranges, from a code point on. -/
def gaps (start : Nat) : List (Nat × Nat) → List (Nat × Nat)
  | [] => if start ≤ top then [(start, top)] else []
  | (low, high) :: rest =>
    if start < low then (start, low - 1) :: gaps (high + 1) rest else gaps (high + 1) rest

/-- The code points outside the set. -/
def compl (set : CharSet) : CharSet := ⟨gaps 0 set.ranges⟩

/-- The code points that belong to both sets. -/
def inter (a b : CharSet) : CharSet := (union [a.compl, b.compl]).compl

/-- The code points of the first set that are not in the second. -/
def diff (a b : CharSet) : CharSet := a.inter b.compl

/-- The code points that belong to exactly one of the sets. -/
def symmDiff (a b : CharSet) : CharSet := union [a.diff b, b.diff a]

/-- Whether the set has no code point from U+0080 on. -/
def isAscii (set : CharSet) : Bool := set.ranges.all fun range => range.2 < 0x80

/-! ## Reading tables

A table is made of lines of words: "41" is one code point, "41-5a" a range
and "100-12e/2" every second code point of a range. -/

/-- The ranges that a word of a table spells. -/
def wordRanges (word : String) : List (Nat × Nat) :=
  let number (s : String) : Nat := (Hex.value? s.toList).getD 0
  match word.splitOn "-" with
  | [one] => [(number one, number one)]
  | [low, rest] =>
    match rest.splitOn "/" with
    | [high] => [(number low, number high)]
    | high :: _ =>
      (List.range ((number high - number low) / 2 + 1)).map fun i =>
        (number low + 2 * i, number low + 2 * i)
    | [] => []
  | _ => []

/-- The set that a line of a table spells. -/
def ofText (text : String) : CharSet := ofRanges ((text.splitOn " ").flatMap wordRanges)

/-- The set that the lines of a table spell. -/
def ofLines (lines : List String) : CharSet :=
  ofRanges (lines.flatMap fun line => (line.splitOn " ").flatMap wordRanges)

end CharSet

end Unicode

end DocQuery
