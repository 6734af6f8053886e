import DocQuery.Query
import DocQuery.Query.ParseError
/-!
# Query documents

How a document is read as a query. A key of the document is a path with a
condition, or one of the two group keys with an array of query documents; a
document with a group key is a logical node, and its other entries are read,
so that an error in them is an error, and then dropped. A condition is a
document of operators if its first key begins with a dollar sign, and a
literal otherwise. `Query.ofDocument?` reports the first error in document
order.
-/


namespace DocQuery

namespace Query

/-- An entry of a query document. -/
inductive Entry where
  | all (queries : List (Query Unit))
  | any (queries : List (Query Unit))
  | field (path : String) (condition : Condition Unit)

namespace Entry

/-- Whether the entry makes its document a logical node. -/
def isGroup : Entry → Bool
  | all _ | any _ => true
  | field .. => false

/-- The queries of which all must hold, in the last such entry. -/
def lastAll (entries : List Entry) : List (Query Unit) :=
  entries.foldl (fun found entry => match entry with
    | all queries => queries
    | _ => found) []

/-- The queries of which any must hold, in the last such entry. -/
def lastAny (entries : List Entry) : List (Query Unit) :=
  entries.foldl (fun found entry => match entry with
    | any queries => queries
    | _ => found) []

/-- The paths with their conditions. -/
def conditions (entries : List Entry) : List (String × Condition Unit) :=
  entries.filterMap fun
    | field path condition => some (path, condition)
    | _ => none

/-- The query that entries make up. -/
def assemble (entries : List Entry) : Query Unit :=
  if entries.any isGroup then .logical () (lastAll entries) (lastAny entries) none
  else .fields () (Entries.ofList (conditions entries))

end Entry

end Query

namespace Grammar

/-- Whether a key is that of an operator. -/
def isOperatorKey (key : String) : Bool := key.toList.head? == some '$'

/-- Whether a document holds operators: its first key is that of one. -/
def holdsOperators (entries : List (String × Value)) : Bool :=
  match entries with
  | [] => false
  | (key, _) :: _ => isOperatorKey key

/-- The items of an array under a key. -/
def items (key : String) : Value → Except ParseError (List Value)
  | .array items => .ok items
  | _ => .error (.notArray key)

/-- The length that an operand asks for: a whole number, and none below zero.
A double beyond the range of 64-bit integers counts as the largest of
them. -/
def size (v : Value) : Except ParseError Nat := do
  let n ← match v with
    | .int32 n => .ok n.toInt
    | .int64 n => .ok n.toInt
    | .double x =>
      match x.whole? with
      | some n => .ok (min n (1 <<< 63 - 1 : Nat))
      | none => .error .sizeNotInteger
    | _ => .error .sizeNotInteger
  if n < 0 then .error .sizeNegative else .ok n.toNat

/-- The letters that an options entry gives, if there is one. -/
def options : Option Value → Except ParseError (Option String)
  | none => .ok none
  | some (.string s) => .ok (some s)
  | some _ => .error .optionsNotString

/-- The pattern of an operand and its option letters; an options entry beside
it takes precedence over letters of its own. -/
def regex (sibling : Option Value) (v : Value) : Except ParseError (Operator Unit) := do
  let explicit ← options sibling
  match v with
  | .string pattern => .ok (.regex pattern (explicit.getD ""))
  | .pattern source letters => .ok (.regex source (explicit.getD letters))
  | _ => .error .regexNotPattern

/-- Reads an operator that holds no condition and no query. An options entry
is no operator of its own, but needs a pattern beside it. -/
def plainOperator (siblings : List (String × Value)) (key : String) (v : Value) :
    Except ParseError (Option (Operator Unit)) :=
  if key = "$eq" then .ok (some (.eq v))
  else if key = "$ne" then .ok (some (.ne v))
  else if key = "$gt" then .ok (some (.gt v))
  else if key = "$gte" then .ok (some (.gte v))
  else if key = "$lt" then .ok (some (.lt v))
  else if key = "$lte" then .ok (some (.lte v))
  else if key = "$in" then return some (.among (← items key v))
  else if key = "$nin" then return some (.notAmong (← items key v))
  else if key = "$all" then return some (.allOf (← items key v))
  else if key = "$some" ∨ key = "$hasSome" then return some (.someOf (← items key v))
  else if key = "$exists" then
    match v with
    | .bool b => .ok (some (.present b))
    | _ => .error .presenceNotBoolean
  else if key = "$size" then return some (.size (← size v))
  else if key = "$regex" then return some (← regex (Entries.get? "$options" siblings) v)
  else if key = "$options" then
    if Entries.hasKey "$regex" siblings then .ok none else .error .optionsAlone
  else .ok (some (.unknown key))

mutual

/-- Reads the entries of a query document. -/
def queryEntries : List (String × Value) → Except ParseError (List Query.Entry)
  | [] => .ok []
  | (key, v) :: rest => do
    let entry ←
      if key = "$and" then Query.Entry.all <$> group key v
      else if key = "$or" then Query.Entry.any <$> group key v
      else if key = "$where" then .error .customTest
      else if isOperatorKey key then .error (.unknownTopLevel key)
      else Query.Entry.field key <$> condition v
    return entry :: (← queryEntries rest)
  termination_by structural entries => entries

/-- Reads the queries of a group. -/
def group (key : String) : Value → Except ParseError (List (Query Unit))
  | .array items => members key items
  | _ => .error (.notArray key)
  termination_by structural v => v

/-- Reads the members of a group. -/
def members (key : String) : List Value → Except ParseError (List (Query Unit))
  | [] => .ok []
  | .document entries :: rest => do
    let query ← Query.Entry.assemble <$> queryEntries entries
    return query :: (← members key rest)
  | _ :: _ => .error (.notDocuments key)
  termination_by structural items => items

/-- Reads a condition. -/
def condition : Value → Except ParseError (Condition Unit)
  | .document entries =>
    if holdsOperators entries then Condition.operators <$> operators entries entries
    else .ok (.literal (.document entries))
  | v => .ok (.literal v)
  termination_by structural v => v

/-- Reads the operators of a document, given all of its entries. -/
def operators (siblings : List (String × Value)) :
    List (String × Value) → Except ParseError (List (Operator Unit))
  | [] => .ok []
  | (key, v) :: rest => do
    let op ←
      if key = "$not" then (some ∘ Operator.not) <$> condition v
      else if key = "$elemMatch" then (some ∘ Operator.elemMatch) <$> subQuery v
      else plainOperator siblings key v
    return op.toList ++ (← operators siblings rest)
  termination_by structural entries => entries

/-- Reads a query that array elements have to match. -/
def subQuery : Value → Except ParseError (Query Unit)
  | .document entries => Query.Entry.assemble <$> queryEntries entries
  | _ => .error .subQueryNotDocument
  termination_by structural v => v

end

end Grammar

/-- Reads a query document. -/
def Query.ofDocument? (d : Document) : Except ParseError (Query Unit) :=
  Query.Entry.assemble <$> Grammar.queryEntries d

/-- Reads a condition. -/
def Condition.ofValue? (v : Value) : Except ParseError (Condition Unit) := Grammar.condition v

end DocQuery
