import DocQuery.Path.Reach
import DocQuery.Regex
import DocQuery.Text.Quoted
import DocQuery.Value.Order
/-!
# Matchers

A matcher is a query whose paths and patterns have been read. Its serial
number tells it apart from every other matcher, also from one for an equal
query. `Matcher.accepts` is the meaning of a matcher at a root: a field test
accepts if one of the values that its path reaches passes, and every check
says what it accepts for a present and for an absent value.
-/


namespace DocQuery

mutual

/-- A query that is ready for use. -/
inductive Matcher where
  | logical (serial : Nat) (all any : List Matcher) (custom : Option (Document → Bool))
  | fields (serial : Nat) (tests : List (Path × Test))

/-- A condition that is ready for use. -/
inductive Test where
  | literal (v : Value)
  | checks (checks : List Check)

/-- An operator that is ready for use. -/
inductive Check where
  | eq (v : Value)
  | ne (v : Value)
  /-- To compare with an operand in a way that is accepted. -/
  | compare (operand : Value) (accept : Ordering → Bool)
  | among (set : List Value)
  | notAmong (set : List Value)
  | present (expected : Bool)
  | regex (regex : Regex)
  | not (test : Test)
  | allOf (set : List Value)
  | someOf (set : List Value)
  | size (n : Nat)
  | elemMatch (matcher : Matcher)
  | never

end

namespace Value

/-- Whether a value is a member of a set, or is an array with an item that
is. -/
def isAmong (set : List Value) (v : Value) : Bool :=
  v.memberOf set || (v.items?.getD []).any (·.memberOf set)

end Value

mutual

/-- Whether a matcher accepts a root. The test of the caller's accepts
documents only. -/
def Matcher.accepts (root : Root) : Matcher → Bool
  | .logical _ all any custom =>
    Matcher.allAccept root all && (any.isEmpty || Matcher.anyAccepts root any) &&
      custom.all fun test => root.document?.any test
  | .fields _ tests => Test.allAccept root tests
  termination_by structural matcher => matcher

/-- Whether all matchers accept a root. -/
def Matcher.allAccept (root : Root) : List Matcher → Bool
  | [] => true
  | matcher :: rest => matcher.accepts root && Matcher.allAccept root rest
  termination_by structural matchers => matchers

/-- Whether any matcher accepts a root. -/
def Matcher.anyAccepts (root : Root) : List Matcher → Bool
  | [] => false
  | matcher :: rest => matcher.accepts root || Matcher.anyAccepts root rest
  termination_by structural matchers => matchers

/-- Whether every test accepts one of the values that its path reaches. -/
def Test.allAccept (root : Root) : List (Path × Test) → Bool
  | [] => true
  | (path, test) :: rest =>
    (root.reached path.segments).any (fun v => test.accepts v) && Test.allAccept root rest
  termination_by structural tests => tests

/-- Whether a test accepts a value, present or absent. -/
def Test.accepts (v : Option Value) : Test → Bool
  | .literal expected => v.any (·.equals expected)
  | .checks checks => Check.allAccept v checks
  termination_by structural test => test

/-- Whether all checks accept a value. -/
def Check.allAccept (v : Option Value) : List Check → Bool
  | [] => true
  | check :: rest => check.accepts v && Check.allAccept v rest
  termination_by structural checks => checks

/-- Whether a check accepts a value, present or absent. -/
def Check.accepts (v : Option Value) : Check → Bool
  | .eq expected => v.any (·.equals expected)
  | .ne expected => !v.any (·.equals expected)
  | .compare operand accept => (v.bind fun v => v.compareRange? operand).any accept
  | .among set => v.any (·.isAmong set)
  | .notAmong set => !v.any (·.isAmong set)
  | .present expected => v.isSome == expected
  | .regex regex =>
    match v with
    | some (.string s) => regex.isMatch s
    | _ => false
  | .not test => !test.accepts v
  | .allOf set => (v.bind Value.items?).any fun items => set.all (·.memberOf items)
  | .someOf set => (v.bind Value.items?).any fun items => items.any (·.memberOf set)
  | .size n => (v.bind Value.items?).any fun items => items.length == n
  | .elemMatch matcher =>
    (v.bind Value.items?).any fun items => items.any fun item => matcher.accepts (.value item)
  | .never => false
  termination_by structural check => check

end

namespace Matcher

/-- The number that tells a matcher apart. -/
def serial : Matcher → Nat
  | logical serial .. => serial
  | fields serial _ => serial

/-- Whether two matchers are the same one. -/
def isSame (a b : Matcher) : Bool := a.serial == b.serial

/-- Whether a matcher accepts a document. -/
def acceptsDocument (m : Matcher) (d : Document) : Bool := m.accepts (.document d)

/-- Whether a matcher accepts a value. -/
def acceptsValue (m : Matcher) (v : Value) : Bool := m.accepts (.value v)

/-- What a matcher tests, for the reader of a log: the paths of its fields,
or the numbers of its sub-queries. -/
def summary : Matcher → String
  | logical _ all any custom =>
    "Matcher::Logical \x7b and: " ++ toString all.length ++ ", or: " ++ toString any.length ++
      ", custom: " ++ (if custom.isSome then "true" else "false") ++ " \x7d"
  | fields _ tests =>
    "[" ++ ", ".intercalate (tests.map fun test => Quoted.string test.1.text) ++ "]"

end Matcher

end DocQuery
