import DocQuery.Unicode.CharSet
import DocQuery.Unicode.Property
/-!
# Regular expressions

The expressions that `$regex` tests use, once their pattern has been read:
every character class is a set of characters, and flags have been resolved.
An expression relates positions of a text. `ends` gives the positions that an
expression leads to from a set of positions, and a text matches when any
position can be reached from any other; how often and in which order is of no
interest to a test, so greed is not part of an expression.
-/


namespace DocQuery

/-- A test of one position of a text. Word tests ask whether the characters
before and after belong to words, in the sense of Unicode or of ASCII. -/
inductive Anchor where
  | textStart
  | textEnd
  | lineStart
  | lineEnd
  | crlfLineStart
  | crlfLineEnd
  | wordBoundary (unicode : Bool)
  | notWordBoundary (unicode : Bool)
  | wordStart (unicode : Bool)
  | wordEnd (unicode : Bool)
  | wordStartHalf (unicode : Bool)
  | wordEndHalf (unicode : Bool)
  deriving DecidableEq

/-- A regular expression. A group is only marked as such; `repeated` allows
from `least` to `most` rounds, or any number above `least`. -/
inductive Regex where
  | empty
  | oneOf (chars : Unicode.CharSet)
  | anchor (test : Anchor)
  | group (inner : Regex)
  | seq (first second : Regex)
  | alt (first second : Regex)
  | repeated (inner : Regex) (least : Nat) (most : Option Nat)
  deriving DecidableEq

namespace Anchor

/-- Whether a neighbouring character belongs to words; the end of the text
does not. -/
def isWord (unicode : Bool) : Option Char → Bool
  | none => false
  | some c =>
    if unicode then Unicode.Property.isWord c
    else c.toNat < 0x80 && (c.isAlphanum || c == '_')

/-- Whether the test holds between two characters, absent at the ends of the
text. -/
def holds (test : Anchor) (before after : Option Char) : Bool :=
  match test with
  | textStart => before.isNone
  | textEnd => after.isNone
  | lineStart => before.isNone || before == some '\n'
  | lineEnd => after.isNone || after == some '\n'
  | crlfLineStart =>
    before.isNone || before == some '\n' || (before == some '\r' && after != some '\n')
  | crlfLineEnd =>
    after.isNone || after == some '\r' || (after == some '\n' && before != some '\r')
  | wordBoundary u => isWord u before != isWord u after
  | notWordBoundary u => isWord u before == isWord u after
  | wordStart u => !isWord u before && isWord u after
  | wordEnd u => isWord u before && !isWord u after
  | wordStartHalf u => !isWord u before
  | wordEndHalf u => !isWord u after

end Anchor

namespace Regex

/-- Joins two ascending lists of positions. -/
def join (a b : List Nat) : List Nat := (List.merge a b (· ≤ ·)).eraseReps

/-- The positions of the first list that are not in the second. -/
def without (a b : List Nat) : List Nat := a.filter fun n => !b.contains n

/-- Applies a step a number of times, no longer than it changes anything. -/
def iterate (step : List Nat → List Nat) : Nat → List Nat → List Nat
  | 0, positions => positions
  | rounds + 1, positions =>
    let next := step positions
    if next = positions then positions else iterate step rounds next

/-- The positions that are reached by at most a number of steps: those in
`seen`, and those that lie ahead of the `latest` ones. -/
def spread (step : List Nat → List Nat) : Nat → (latest seen : List Nat) → List Nat
  | 0, _, seen => seen
  | rounds + 1, latest, seen =>
    let next := without (step latest) seen
    if next.isEmpty then seen else spread step rounds next (join seen next)

/-- The character before a position. -/
def before? (text : Array Char) (position : Nat) : Option Char :=
  if position = 0 then none else text[position - 1]?

/-- The positions that an expression leads to from ascending positions, in
ascending order. Without an upper bound, more rounds than there are positions
lead nowhere new. -/
def ends (text : Array Char) : Regex → List Nat → List Nat
  | empty => fun positions => positions
  | oneOf chars => fun positions => positions.filterMap fun n =>
    match text[n]? with
    | some c => if chars.contains c then some (n + 1) else none
    | none => none
  | anchor test => fun positions => positions.filter fun n =>
    test.holds (before? text n) text[n]?
  | group inner => ends text inner
  | seq first second => fun positions => ends text second (ends text first positions)
  | alt first second => fun positions =>
    join (ends text first positions) (ends text second positions)
  | repeated inner least most => fun positions =>
    let reached := iterate (ends text inner) least positions
    let rounds := match most with
      | some most => most - least
      | none => text.size + 1
    spread (ends text inner) rounds reached reached

/-- Whether an expression matches anywhere in a text. -/
def isMatch (regex : Regex) (text : String) : Bool :=
  let chars := text.toList.toArray
  !(ends chars regex (List.range (chars.size + 1))).isEmpty

/-! ## Size

An expression is refused when the automaton for it would need more memory
than is allowed. The estimate counts states of thirty-two bytes: one for a
character or an ASCII class, two for each range of a class that goes beyond
ASCII, and those that join the parts. -/

/-- Whether the expression is a plain string, which is searched for without
an automaton. -/
def isPlain : Regex → Bool
  | oneOf chars =>
    match chars.ranges with
    | [(low, high)] => low == high
    | _ => false
  | seq first second => isPlain first && isPlain second
  | _ => false

/-- The states for an expression. -/
def states : Regex → Nat
  | empty => 1
  | oneOf chars => if chars.isAscii then 1 else 2 * chars.ranges.length
  | anchor _ => 1
  | group inner => states inner + 2
  | seq first second => states first + states second
  | alt first second => states first + states second + 1
  | repeated inner least most =>
    match most with
    | some most => states inner * most + (most - least)
    | none => states inner * max least 1 + 1

/-- The bytes that an expression is estimated to need. -/
def size (regex : Regex) : Nat := if regex.isPlain then 0 else 32 * regex.states

end Regex

end DocQuery
