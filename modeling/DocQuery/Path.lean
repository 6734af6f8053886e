import DocQuery.Text.Quoted
/-!
# Paths

A path leads from a document or a value to something inside it. It is written
as names separated by dots and groups in brackets, as in `posts[0].tags[*]`;
dots at the ends or next to one another do not matter. `Path.parse` reads a
path and reports the first thing that is wrong with it; `Path.render` writes
segments in the form with the fewest dots.
-/


namespace DocQuery

/-- A step of a path: to a field, to an item of an array, or to the array
itself. -/
inductive Segment where
  | named (name : String)
  | index (n : Nat)
  | wildcard
  deriving DecidableEq

/-- What is wrong with a path. Positions count the bytes of its UTF-8
form. -/
inductive PathError where
  | unclosedBracket (position : Nat)
  | unexpected (ch : Char) (position : Nat)
  | invalidIndex (content : String)
  deriving DecidableEq

/-- The message for an error in a path. -/
def PathError.message : PathError → String
  | unclosedBracket position => "unclosed '[' at byte " ++ toString position
  | unexpected ch position =>
    "unexpected '" ++ String.ofList [ch] ++ "' at byte " ++ toString position
  | invalidIndex content =>
    "bracket segment must be '*' or a non-negative integer, got " ++ Quoted.string content

/-- A path: its text as written, and its segments. -/
structure Path where
  text : String
  segments : List Segment
  deriving DecidableEq

namespace Path

/-- The number of an index: decimal digits, at least one, behind at most one
plus sign, and below 2 ^ 64. -/
def index? (content : List Char) : Option Nat :=
  let digits := match content with
    | '+' :: rest => rest
    | other => other
  if digits.isEmpty || !digits.all Char.isDigit then none
  else
    let n := digits.foldl (fun n c => 10 * n + (c.toNat - '0'.toNat)) 0
    if n < 1 <<< 64 then some n else none

/-- The segment of a group in brackets. -/
def groupSegment (content : List Char) : Except PathError Segment :=
  if content = ['*'] then .ok .wildcard
  else match index? content with
    | some n => .ok (.index n)
    | none => .error (.invalidIndex (String.ofList content))

/-- The segment of a name, unless the name is empty. -/
def nameSegment (name : List Char) : List Segment :=
  if name.isEmpty then [] else [.named (String.ofList name)]

mutual

/-- Reads from within a name, whose characters so far are `name` in reverse,
or from a place where one may begin. -/
def readName (name : List Char) (position : Nat) : List Char → Except PathError (List Segment)
  | [] => .ok (nameSegment name.reverse)
  | c :: rest =>
    if c = '.' then do
      return nameSegment name.reverse ++ (← readName [] (position + 1) rest)
    else if c = '[' then do
      return nameSegment name.reverse ++ (← readGroup position [] (position + 1) rest)
    else if c = ']' then .error (.unexpected c position)
    else readName (c :: name) (position + c.utf8Size) rest
  termination_by structural text => text

/-- Reads from within a group that was opened at `start`, whose characters so
far are `content` in reverse. -/
def readGroup (start : Nat) (content : List Char) (position : Nat) :
    List Char → Except PathError (List Segment)
  | [] => .error (.unclosedBracket start)
  | c :: rest =>
    if c = ']' then do
      let segment ← groupSegment content.reverse
      return segment :: (← readNext (position + 1) rest)
    else if c = '[' then .error (.unexpected c position)
    else readGroup start (c :: content) (position + c.utf8Size) rest
  termination_by structural text => text

/-- Reads from behind a group, where only a dot, another group or the end may
follow. -/
def readNext (position : Nat) : List Char → Except PathError (List Segment)
  | [] => .ok []
  | c :: rest =>
    if c = '.' then readName [] (position + 1) rest
    else if c = '[' then readGroup position [] (position + 1) rest
    else .error (.unexpected c position)
  termination_by structural text => text

end

/-- The segments of a path as written. -/
def segmentsOf (text : List Char) : Except PathError (List Segment) := readName [] 0 text

/-- Reads a path. -/
def parse (text : String) : Except PathError Path := do
  return { text, segments := ← segmentsOf text.toList }

/-! ## Writing paths -/

/-- The written form of a segment. -/
def renderSegment : Segment → List Char
  | .named name => name.toList
  | .index n => '[' :: Nat.toDigits 10 n ++ [']']
  | .wildcard => ['[', '*', ']']

/-- The written form of segments that follow another segment: names have a
dot before them. -/
def renderRest : List Segment → List Char
  | [] => []
  | .named name :: rest => '.' :: name.toList ++ renderRest rest
  | segment :: rest => renderSegment segment ++ renderRest rest

/-- The written form of a list of segments. -/
def render : List Segment → String
  | [] => ""
  | segment :: rest => String.ofList (renderSegment segment ++ renderRest rest)

/-! ## Parts

The parts of a path are what stands between the dots that are not in
brackets, empty parts dropped. They name the nested documents of a
projection. -/

/-- A part, unless it is empty. -/
def part (chars : List Char) : List String :=
  if chars.isEmpty then [] else [String.ofList chars]

/-- The parts of a text that is read from within a part, whose characters so
far are `current` in reverse, and within `depth` brackets. -/
def readParts (depth : Nat) (current : List Char) : List Char → List String
  | [] => part current.reverse
  | c :: rest =>
    if c = '.' ∧ depth = 0 then part current.reverse ++ readParts 0 [] rest
    else
      let depth := if c = '[' then depth + 1 else if c = ']' then depth - 1 else depth
      readParts depth (c :: current) rest

/-- The parts of a path as written. -/
def parts (text : String) : List String := readParts 0 [] text.toList

end Path

end DocQuery
