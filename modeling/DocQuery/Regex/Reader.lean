import DocQuery.Regex
import DocQuery.Regex.ClassName
import DocQuery.Unicode.Case
/-!
# Reading patterns

`Regex.read?` turns a pattern into a regular expression, or into nothing if
the pattern is not well-formed. Flags are resolved on the way: they hold from
where they are set to the end of the group. Classes may be nested and
combined by intersection, difference and symmetric difference; references
back to a group and looking around a position are not part of the language.

Reading is by descent, with a count of steps that the length of the pattern
bounds. The state is a `Cursor`: what is left to read, the flags in force and
the group names so far.
-/


namespace DocQuery

namespace Regex

open Unicode (CharSet)

/-- The flags in force at a place of a pattern. -/
structure Flags where
  ignoreCase : Bool := false
  multiLine : Bool := false
  dotAll : Bool := false
  extended : Bool := false
  crlf : Bool := false
  unicode : Bool := true
  deriving DecidableEq

/-- Sets the flag of a letter. The letter for greed changes nothing that a
test could show. -/
def Flags.set? (flags : Flags) (letter : Char) (on : Bool) : Option Flags :=
  if letter = 'i' then some { flags with ignoreCase := on }
  else if letter = 'm' then some { flags with multiLine := on }
  else if letter = 's' then some { flags with dotAll := on }
  else if letter = 'x' then some { flags with extended := on }
  else if letter = 'R' then some { flags with crlf := on }
  else if letter = 'u' then some { flags with unicode := on }
  else if letter = 'U' then some flags
  else none

/-- What is left of a pattern, the flags in force, and the group names so
far. -/
structure Cursor where
  rest : List Char
  flags : Flags
  names : List (List Char)

namespace Cursor

/-- Drops blanks, and comments from a hash to the end of the line. -/
def dropBlanks (inComment : Bool) : List Char → List Char
  | [] => []
  | c :: rest =>
    if inComment then dropBlanks (c != '\n') rest
    else if Unicode.Property.isBlank c then dropBlanks false rest
    else if c = '#' then dropBlanks true rest
    else c :: rest

/-- Moves behind blanks and comments, where the flags let them be ignored. -/
def skip (cursor : Cursor) : Cursor :=
  if cursor.flags.extended then { cursor with rest := dropBlanks false cursor.rest } else cursor

/-- Moves to another rest. -/
def withRest (cursor : Cursor) (rest : List Char) : Cursor := { cursor with rest }

/-- Reads characters while they satisfy a test, skipping behind each. -/
def collect (test : Char → Bool) : Nat → Cursor → List Char × Cursor
  | 0, cursor => ([], cursor)
  | steps + 1, cursor =>
    match cursor.rest with
    | [] => ([], cursor)
    | c :: rest =>
      if test c then
        let (chars, cursor) := collect test steps (cursor.withRest rest).skip
        (c :: chars, cursor)
      else ([], cursor)

/-- Reads characters while they satisfy a test, skipping behind each. -/
def span (cursor : Cursor) (test : Char → Bool) : List Char × Cursor :=
  collect test cursor.rest.length cursor

end Cursor

/-! ## Atoms

What an escape or a single character stands for. A character that is written
as a byte matters only where Unicode is switched off. -/

/-- A character, a class or a test of a position. -/
inductive Atom where
  | literal (c : Char) (asByte : Bool)
  | chars (set : CharSet)
  | anchor (test : Anchor)

/-- The set closed under case, if the flags ask for it. -/
def Flags.fold (flags : Flags) (set : CharSet) : CharSet :=
  if flags.ignoreCase then
    if flags.unicode then set.closeFold else set.closeAsciiCase
  else set

/-- The complement of a set, if asked for. Without Unicode a complement would
contain parts of characters, so there is none. -/
def Flags.negate? (flags : Flags) (negated : Bool) (set : CharSet) : Option CharSet :=
  if negated then
    if flags.unicode then some set.compl else none
  else some set

/-- The code point of a character in a class. -/
def Flags.codePoint? (flags : Flags) (c : Char) : Option Nat :=
  if flags.unicode || c.toNat < 0x80 then some c.toNat else none

/-- The expression for an atom that stands outside a class. -/
def Atom.toRegex? (flags : Flags) : Atom → Option Regex
  | .literal c asByte =>
    if !flags.unicode && asByte && 0x80 ≤ c.toNat then none
    else some (.oneOf (flags.fold (.singleton c)))
  | .chars set => some (.oneOf set)
  | .anchor test => some (.anchor test)

/-- The expression for a dot. -/
def Flags.dot? (flags : Flags) : Option Regex :=
  if !flags.unicode then none
  else if flags.dotAll then some (.oneOf .full)
  else if flags.crlf then some (.oneOf (CharSet.ofText "a d").compl)
  else some (.oneOf (CharSet.ofText "a").compl)

/-- The class that an abbreviation stands for. -/
def Flags.abbreviation? (flags : Flags) (letter : Char) : Option CharSet :=
  let unicode := flags.unicode
  let digits := if unicode then Unicode.Property.digits else .ofText "30-39"
  let blanks := if unicode then Unicode.Property.blanks else .ofText "9-d 20"
  let words := if unicode then Unicode.Property.words else .ofText "30-39 41-5a 5f 61-7a"
  if letter = 'd' then some digits
  else if letter = 's' then some blanks
  else if letter = 'w' then some words
  else if letter = 'D' then flags.negate? true digits
  else if letter = 'S' then flags.negate? true blanks
  else if letter = 'W' then flags.negate? true words
  else none

/-- The characters that have a meaning in patterns. -/
def isMeta (c : Char) : Bool := "\\.+*?()|[]\x7b\x7d^$#&-~".toList.contains c

/-- The characters that stand for themselves behind a backslash. -/
def isEscapable (c : Char) : Bool :=
  isMeta c || (c.toNat < 0x80 && !c.isAlphanum && c != '<' && c != '>')

/-- The character of a hexadecimal number. -/
def charOfHex? (digits : List Char) : Option Char := do
  let n ← Hex.value? digits
  if n < 1 <<< 32 ∧ n.isValidChar then some (Char.ofNat n) else none

/-- Reads exactly `count` hexadecimal digits, skipping between them. -/
def readHexDigits : (count : Nat) → Cursor → Option (List Char × Cursor)
  | 0, cursor => some ([], cursor)
  | count + 1, cursor =>
    match cursor.rest with
    | [] => none
    | c :: rest => do
      let _ ← Hex.digit? c
      let (digits, cursor) ← readHexDigits count (cursor.withRest rest).skip
      return (c :: digits, cursor)

/-- Reads a character given by number: a fixed count of digits, or any count
in braces. -/
def readHex (width : Nat) (cursor : Cursor) : Option (Atom × Cursor) :=
  match cursor.skip.rest with
  | '\x7b' :: rest => do
    let (digits, cursor) := ((cursor.withRest rest).skip).span (· != '\x7d')
    match cursor.rest with
    | [] => none
    | _ :: rest =>
      let c ← charOfHex? digits
      return (.literal c false, (cursor.withRest rest).skip)
  | _ => do
    let (digits, cursor) ← readHexDigits width cursor.skip
    let c ← charOfHex? digits
    return (.literal c (width == 2), cursor)

/-- Splits at the first place where a test of what follows holds. -/
def splitAt? (mark : List Char) : List Char → Option (List Char × List Char)
  | [] => none
  | c :: rest =>
    if mark.isPrefixOf (c :: rest) then some ([], (c :: rest).drop mark.length)
    else (splitAt? mark rest).map fun (before, after) => (c :: before, after)

/-- The set that the text between the braces of a property stands for. -/
def propertySet? (name : List Char) : Option CharSet :=
  match splitAt? ['!', '='] name with
  | some (property, value) => ClassName.valued? property value
  | none =>
    match splitAt? [':'] name with
    | some (property, value) => ClassName.valued? property value
    | none =>
      match splitAt? ['='] name with
      | some (property, value) => ClassName.valued? property value
      | none => ClassName.property? name

/-- Reads a class given by a property: one letter, or a name in braces. -/
def readProperty (negated : Bool) (cursor : Cursor) : Option (Atom × Cursor) := do
  let (name, cursor) ← match cursor.skip.rest with
    | [] => none
    | '\x7b' :: rest =>
      let (name, cursor) := ((cursor.withRest rest).skip).span (· != '\x7d')
      match cursor.rest with
      | [] => none
      | _ :: rest => some (name, cursor.withRest rest)
    | c :: rest => if c = '\\' then none else some ([c], (cursor.withRest rest).skip)
  if !cursor.flags.unicode then none
  else
    let set ← propertySet? name
    let set ← cursor.flags.negate? negated (cursor.flags.fold set)
    return (.chars set, cursor)

/-- Reads what may follow the letter of a word boundary: in braces, the name
of a one-sided test. Braces that do not begin with a letter or a hyphen are
left alone, as they count repetitions. -/
def readBoundary (cursor : Cursor) : Option (Atom × Cursor) :=
  let unicode := cursor.flags.unicode
  let isNameChar (c : Char) : Bool := c.isAlpha || c == '-'
  match cursor.rest with
  | '\x7b' :: rest =>
    match (cursor.withRest rest).skip.rest with
    | [] => none
    | c :: _ =>
      if isNameChar c then
        let (name, after) := ((cursor.withRest rest).skip).span isNameChar
        match after.rest with
        | '\x7d' :: rest =>
          let found (test : Anchor) := some (Atom.anchor test, cursor.withRest rest)
          if name = "start".toList then found (.wordStart unicode)
          else if name = "end".toList then found (.wordEnd unicode)
          else if name = "start-half".toList then found (.wordStartHalf unicode)
          else if name = "end-half".toList then found (.wordEndHalf unicode)
          else none
        | _ => none
      else some (.anchor (.wordBoundary unicode), cursor)
  | _ => some (.anchor (.wordBoundary unicode), cursor)

/-- Reads what follows a backslash. -/
def readEscape (cursor : Cursor) : Option (Atom × Cursor) :=
  match cursor.rest with
  | [] => none
  | c :: rest =>
    let unicode := cursor.flags.unicode
    let cursor := cursor.withRest rest
    let literal (c : Char) := some (Atom.literal c false, cursor)
    let anchor (test : Anchor) := some (Atom.anchor test, cursor)
    if c = 'x' then readHex 2 cursor
    else if c = 'u' then readHex 4 cursor
    else if c = 'U' then readHex 8 cursor
    else if c = 'p' then readProperty false cursor
    else if c = 'P' then readProperty true cursor
    else if c ∈ ['d', 's', 'w', 'D', 'S', 'W'] then do
      return (.chars (← cursor.flags.abbreviation? c), cursor)
    else if isEscapable c then literal c
    else if c = 'a' then literal '\x07'
    else if c = 'f' then literal '\x0c'
    else if c = 't' then literal '\t'
    else if c = 'n' then literal '\n'
    else if c = 'r' then literal '\r'
    else if c = 'v' then literal '\x0b'
    else if c = 'A' then anchor .textStart
    else if c = 'z' then anchor .textEnd
    else if c = 'b' then readBoundary cursor
    else if c = 'B' then anchor (.notWordBoundary unicode)
    else if c = '<' then anchor (.wordStart unicode)
    else if c = '>' then anchor (.wordEnd unicode)
    else none

/-! ## Classes in brackets -/

/-- The operations that combine classes. -/
inductive ClassOp where
  | intersection
  | difference
  | symmetricDifference

/-- The set that an operation makes of two sets. -/
def ClassOp.apply : ClassOp → CharSet → CharSet → CharSet
  | intersection, a, b => a.inter b
  | difference, a, b => a.diff b
  | symmetricDifference, a, b => a.symmDiff b

/-- A set with the depth of nesting at which it was written. -/
structure Nested where
  set : CharSet
  depth : Nat

/-- The members of a class that have been read since the last operation, the
latest first. -/
def unite : List Nested → Nested
  | [] => ⟨.empty, 0⟩
  | [one] => one
  | several =>
    ⟨.union (several.map (·.set)), 1 + (several.map (·.depth)).foldl max 0⟩

/-- Applies the operation that waits for its right side, if there is one. -/
def combine (flags : Flags) (waiting : Option (ClassOp × Nested)) (right : Nested) : Nested :=
  match waiting with
  | none => right
  | some (op, left) =>
    ⟨op.apply (flags.fold left.set) (flags.fold right.set), 1 + max left.depth right.depth⟩

/-- Reads a class that is named within colons, given what follows its
bracket. -/
def asciiClass? (flags : Flags) (rest : List Char) : Option (Option CharSet × List Char) :=
  match rest with
  | ':' :: rest =>
    let (negated, rest) := match rest with
      | '^' :: rest => (true, rest)
      | _ => (false, rest)
    let name := rest.takeWhile (· != ':')
    match rest.drop name.length with
    | ':' :: ']' :: rest =>
      (ClassName.ascii? (String.ofList name)).map fun set =>
        (flags.negate? negated (flags.fold set), rest)
    | _ => none
  | _ => none

/-- Reads a character or an escape within a class. -/
def readClassAtom (cursor : Cursor) : Option (Atom × Cursor) :=
  match cursor.rest with
  | [] => none
  | '\\' :: rest => readEscape (cursor.withRest rest)
  | c :: rest => some (.literal c false, cursor.withRest rest)

/-- The code point of an atom that ends a range. -/
def Atom.codePoint? (flags : Flags) : Atom → Option Nat
  | .literal c _ => flags.codePoint? c
  | _ => none

/-- The members that an atom adds to a class. -/
def Atom.members? (flags : Flags) : Atom → Option CharSet
  | .literal c _ => (flags.codePoint? c).map fun n => ⟨[(n, n)]⟩
  | .chars set => some set
  | .anchor _ => none

/-- Reads an atom or a range within a class. A hyphen before the closing
bracket or before another hyphen does not make a range. -/
def readClassMember (cursor : Cursor) : Option (CharSet × Cursor) := do
  let flags := cursor.flags
  let (first, cursor) ← readClassAtom cursor
  let cursor := cursor.skip
  match cursor.rest with
  | [] => none
  | '-' :: rest =>
    match (cursor.withRest rest).skip.rest with
    | [] => none
    | c :: _ =>
      if c = ']' ∨ c = '-' then
        return (← first.members? flags, cursor)
      else
        let (last, cursor) ← readClassAtom (cursor.withRest rest).skip
        let low ← first.codePoint? flags
        let high ← last.codePoint? flags
        if low ≤ high then some (⟨[(low, high)]⟩, cursor) else none
  | _ => return (← first.members? flags, cursor)

/-- The hyphens at the beginning of a class, which stand for themselves. -/
def readHyphens : Nat → Cursor → List Nested × Cursor
  | 0, cursor => ([], cursor)
  | steps + 1, cursor =>
    match cursor.rest with
    | '-' :: rest =>
      let (more, cursor) := readHyphens steps (cursor.withRest rest).skip
      (⟨.singleton '-', 0⟩ :: more, cursor)
    | _ => ([], cursor)

mutual

/-- Reads a class from behind its opening bracket. -/
def readClass : Nat → Cursor → Option (Nested × Cursor)
  | 0, _ => none
  | steps + 1, cursor =>
    let cursor := cursor.skip
    let (negated, cursor) := match cursor.rest with
      | '^' :: rest => (true, (cursor.withRest rest).skip)
      | _ => (false, cursor)
    let (members, cursor) := readHyphens cursor.rest.length cursor
    let (members, cursor) := match members, cursor.rest with
      | [], ']' :: rest => ([⟨.singleton ']', 0⟩], (cursor.withRest rest).skip)
      | _, _ => (members, cursor)
    readMembers steps negated none members cursor

/-- Reads the members of a class up to its closing bracket. -/
def readMembers : Nat → Bool → Option (ClassOp × Nested) → List Nested → Cursor →
    Option (Nested × Cursor)
  | 0, _, _, _, _ => none
  | steps + 1, negated, waiting, members, cursor =>
    let cursor := cursor.skip
    let flags := cursor.flags
    let operation (op : ClassOp) (rest : List Char) :=
      readMembers steps negated (some (op, combine flags waiting (unite members))) []
        (cursor.withRest rest)
    let single := do
      let (set, cursor) ← readClassMember cursor
      readMembers steps negated waiting (⟨set, 0⟩ :: members) cursor
    match cursor.rest with
    | [] => none
    | '[' :: rest =>
      match asciiClass? flags rest with
      | some (set, rest) => do
        readMembers steps negated waiting (⟨← set, 0⟩ :: members) (cursor.withRest rest)
      | none => do
        let (inner, cursor) ← readClass steps (cursor.withRest rest)
        readMembers steps negated waiting (inner :: members) cursor
    | ']' :: rest => do
      let whole := combine flags waiting (unite members)
      let set ← flags.negate? negated (flags.fold whole.set)
      return (⟨set, 1 + whole.depth⟩, cursor.withRest rest)
    | '&' :: '&' :: rest => operation .intersection rest
    | '-' :: '-' :: rest => operation .difference rest
    | '~' :: '~' :: rest => operation .symmetricDifference rest
    | _ => single

end

/-! ## Groups and repetitions -/

/-- An expression with the depth of nesting at which it was written. -/
structure Piece where
  regex : Regex
  depth : Nat

/-- What a branch consists of: pieces, and places where flags are set, which
cannot be repeated. -/
inductive Item where
  | piece (p : Piece)
  | setting

/-- The depth of an item. -/
def Item.depth : Item → Nat
  | piece p => p.depth
  | setting => 0

/-- The expression of an item. -/
def Item.regex : Item → Regex
  | piece p => p.regex
  | setting => .empty

/-- The expression of a list of items, first to last. -/
def sequence : List Item → Regex
  | [] => .empty
  | [one] => one.regex
  | first :: rest => .seq first.regex (sequence rest)

/-- The piece that a branch makes, given its items from last to first. -/
def branch (items : List Item) : Piece :=
  match items with
  | [] => ⟨.empty, 0⟩
  | [one] => ⟨one.regex, one.depth⟩
  | _ => ⟨sequence items.reverse, 1 + (items.map Item.depth).foldl max 0⟩

/-- The expression of several branches, first to last. -/
def choice : Piece → List Piece → Regex
  | first, [] => first.regex
  | first, second :: rest => .alt first.regex (choice second rest)

/-- The piece that branches make, given the last one and those before it from
last to first. -/
def alternatives (last : Piece) (earlier : List Piece) : Piece :=
  match earlier.reverse with
  | [] => last
  | first :: rest =>
    ⟨choice first (rest ++ [last]),
      1 + (earlier.map Piece.depth).foldl max last.depth⟩

/-- The letters of a flag setting up to its end, none twice; the end is a
colon or a closing parenthesis. -/
def readFlagLetters (seen : List Char) : List Char → Option (List Char × Char × List Char)
  | [] => none
  | c :: rest =>
    if c = ':' ∨ c = ')' then some (seen.reverse, c, rest)
    else if seen.contains c || !"-imsxRuU".toList.contains c then none
    else readFlagLetters (c :: seen) rest

/-- Applies flag letters: those behind a hyphen are switched off. -/
def applyFlags (flags : Flags) (letters : List Char) : Option Flags :=
  let on := letters.takeWhile (· != '-')
  let off := letters.drop (on.length + 1)
  if letters.getLast? = some '-' then none
  else do
    let flags ← on.foldlM (fun flags letter => flags.set? letter true) flags
    off.foldlM (fun flags letter => flags.set? letter false) flags

/-- Whether a character may stand in a group name. -/
def isNameChar (first : Bool) (c : Char) : Bool :=
  c == '_' || Unicode.Property.alphabetic.contains c ||
    (!first && (c == '.' || c == '[' || c == ']' || Unicode.Property.alphanumeric.contains c))

/-- Reads the name of a group up to the closing angle bracket; it must be new
and well-formed. -/
def readGroupName (cursor : Cursor) : Option Cursor :=
  let name := cursor.rest.takeWhile (· != '>')
  match name, cursor.rest.drop name.length with
  | first :: others, _ :: rest =>
    if isNameChar true first && others.all (isNameChar false) && !cursor.names.contains name then
      some { cursor with rest, names := name :: cursor.names }
    else none
  | _, _ => none

/-- How a group begins: by setting flags for what follows it, or by opening
an inner part under flags of its own. -/
inductive Opening where
  | setting (cursor : Cursor)
  | inner (captures : Bool) (cursor : Cursor)

/-- Whether a text begins in a given way. -/
def startsWith (start : String) (text : List Char) : Bool := start.toList.isPrefixOf text

/-- Reads the beginning of a group from behind its parenthesis. -/
def readOpening (cursor : Cursor) : Option Opening :=
  let cursor := cursor.skip
  let text := cursor.rest
  if ["?=", "?!", "?<=", "?<!"].any (startsWith · text) then none
  else if startsWith "?P<" text then
    (readGroupName (cursor.withRest (text.drop 3))).map (.inner true)
  else if startsWith "?<" text then
    (readGroupName (cursor.withRest (text.drop 2))).map (.inner true)
  else if startsWith "?" text then do
    let (letters, last, rest) ← readFlagLetters [] (text.drop 1)
    let flags ← applyFlags cursor.flags letters
    let cursor : Cursor := { cursor with rest, flags }
    if last = ':' then some (.inner false cursor)
    else if letters.isEmpty then none
    else some (.setting cursor)
  else some (.inner true cursor)

/-- Drops the mark of a lazy repetition. -/
def dropLazy (cursor : Cursor) : Cursor :=
  match cursor.rest with
  | '?' :: rest => cursor.withRest rest
  | _ => cursor

/-- Reads a decimal number below 2 ^ 32, with blanks around it. -/
def readCount (cursor : Cursor) : Option (Nat × Cursor) :=
  let cursor := cursor.withRest (cursor.rest.dropWhile Unicode.Property.isBlank)
  let (digits, cursor) := cursor.span Char.isDigit
  let (_, cursor) := cursor.span Unicode.Property.isBlank
  if digits.isEmpty then none
  else
    let n := digits.foldl (fun n c => 10 * n + (c.toNat - '0'.toNat)) 0
    if n < 1 <<< 32 then some (n, cursor) else none

/-- Reads a count of repetitions from behind its opening brace. -/
def readRange (cursor : Cursor) : Option (Nat × Option Nat × Cursor) := do
  let (least, cursor) ← readCount cursor.skip
  let (most, cursor) ← match cursor.rest with
    | ',' :: rest =>
      let cursor := (cursor.withRest rest).skip
      match cursor.rest with
      | '\x7d' :: _ => some (none, cursor)
      | _ => (readCount cursor).map fun (most, cursor) => (some most, cursor)
    | _ => some (some least, cursor)
  match cursor.rest with
  | '\x7d' :: rest =>
    if most.all (least ≤ ·) then some (least, most, dropLazy (cursor.withRest rest).skip)
    else none
  | _ => none

/-- An expression that can only match without moving need not be tried more
than once. -/
def neverMoves : Regex → Bool
  | .empty | .anchor _ => true
  | .oneOf _ => false
  | .group inner => neverMoves inner
  | .seq first second => neverMoves first && neverMoves second
  | .alt first second => neverMoves first && neverMoves second
  | .repeated inner _ most => neverMoves inner || most == some 0

/-- Repeats the last item of a branch, which must be a piece. -/
def repeatLast (least : Nat) (most : Option Nat) : List Item → Option (List Item)
  | .piece p :: rest =>
    let regex :=
      if neverMoves p.regex then .repeated p.regex (min least 1) (some (min (most.getD 1) 1))
      else .repeated p.regex least most
    some (.piece ⟨regex, 1 + p.depth⟩ :: rest)
  | _ => none

mutual

/-- Reads branches up to the end of a group or of the pattern, given those
already read, the latest first. -/
def readBranches : Nat → List Piece → Cursor → Option (Piece × Cursor)
  | 0, _, _ => none
  | steps + 1, earlier, cursor => do
    let (items, cursor) ← readItems steps [] cursor
    match cursor.rest with
    | '|' :: rest => readBranches steps (branch items :: earlier) (cursor.withRest rest)
    | _ => return (alternatives (branch items) earlier, cursor)

/-- Reads the items of a branch, given those already read, the latest
first. -/
def readItems : Nat → List Item → Cursor → Option (List Item × Cursor)
  | 0, _, _ => none
  | steps + 1, items, cursor =>
    let cursor := cursor.skip
    let flags := cursor.flags
    let repetition (least : Nat) (most : Option Nat) (rest : List Char) := do
      readItems steps (← repeatLast least most items) (dropLazy (cursor.withRest rest))
    let single (regex : Option Regex) (cursor : Cursor) := do
      readItems steps (.piece ⟨← regex, 0⟩ :: items) cursor
    match cursor.rest with
    | [] => some (items, cursor)
    | '|' :: _ => some (items, cursor)
    | ')' :: _ => some (items, cursor)
    | '(' :: rest => do
      match ← readOpening (cursor.withRest rest) with
      | .setting cursor => readItems steps (.setting :: items) cursor
      | .inner captures inside =>
        let (inner, after) ← readBranches steps [] inside
        match after.rest with
        | ')' :: rest =>
          let regex := if captures then .group inner.regex else inner.regex
          readItems steps (.piece ⟨regex, 1 + inner.depth⟩ :: items) { after with rest, flags }
        | _ => none
    | '[' :: rest => do
      let (set, cursor) ← readClass steps (cursor.withRest rest)
      readItems steps (.piece ⟨.oneOf set.set, set.depth⟩ :: items) cursor
    | '?' :: rest => repetition 0 (some 1) rest
    | '*' :: rest => repetition 0 none rest
    | '+' :: rest => repetition 1 none rest
    | '\x7b' :: rest => do
      let (least, most, cursor) ← readRange (cursor.withRest rest)
      readItems steps (← repeatLast least most items) cursor
    | '\\' :: rest => do
      let (atom, cursor) ← readEscape (cursor.withRest rest)
      single (atom.toRegex? flags) cursor
    | '.' :: rest => single flags.dot? (cursor.withRest rest)
    | '^' :: rest =>
      let test := if flags.multiLine then (if flags.crlf then Anchor.crlfLineStart else .lineStart)
        else .textStart
      single (some (.anchor test)) (cursor.withRest rest)
    | '$' :: rest =>
      let test := if flags.multiLine then (if flags.crlf then Anchor.crlfLineEnd else .lineEnd)
        else .textEnd
      single (some (.anchor test)) (cursor.withRest rest)
    | c :: rest => single ((Atom.literal c false).toRegex? flags) (cursor.withRest rest)

end

/-- The deepest nesting of a pattern that is accepted. -/
def nestLimit : Nat := 250

/-- Reads a whole pattern. Every step but one in three consumes a
character. -/
def read? (flags : Flags) (pattern : String) : Option Regex := do
  let text := pattern.toList
  let (piece, cursor) ← readBranches (3 * text.length + 3) [] ⟨text, flags, []⟩
  if cursor.rest.isEmpty ∧ piece.depth ≤ nestLimit then some piece.regex else none

/-- Why there is no expression for a pattern. -/
inductive PatternError where
  /-- The pattern is not well-formed. -/
  | malformed
  /-- The expression may need more bytes than are allowed. -/
  | tooLarge (sizeLimit : Nat)

/-- The message for an error in a pattern, given the text that says what is not
well-formed in it. -/
def PatternError.message (text : String) : PatternError → String
  | malformed => text
  | tooLarge sizeLimit =>
    "Compiled regex exceeds size limit of " ++ toString sizeLimit ++ " bytes."

/-- Reads a pattern whose expression may need at most `sizeLimit` bytes. -/
def compile (sizeLimit : Nat) (flags : Flags) (pattern : String) : Except PatternError Regex :=
  match read? flags pattern with
  | none => .error .malformed
  | some regex => if regex.size ≤ sizeLimit then .ok regex else .error (.tooLarge sizeLimit)

end Regex

end DocQuery
