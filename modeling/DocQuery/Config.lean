import DocQuery.FindOptions
import DocQuery.Text.Collation
/-!
# Configuration

The three settings of an engine, and how they are read from a record of
settings: one that is missing keeps its default, one that is not known is
ignored, and one of the wrong kind is an error. A sort key can be read from
settings too, where both of its fields are required.
-/


namespace DocQuery

/-- A setting as it comes from outside. -/
inductive Setting where
  | null
  | flag (b : Bool)
  | count (n : Nat)
  | text (s : String)
  | list (items : List Setting)
  | record (fields : List (String × Setting))
  /-- A number that is no count. -/
  | otherNumber

instance : Inhabited Setting := ⟨.null⟩

/-- What an engine can be told. -/
structure Config where
  /-- How sort keys that are strings are ordered. -/
  stringOrdering : StringOrdering := .locale
  /-- The bytes that an expression may need. -/
  regexSizeLimit : Nat := 1048576
  /-- Whether matchers are kept for queries that are compiled again. -/
  cacheMatchers : Bool := true
  deriving DecidableEq

instance : Inhabited Config := ⟨{}⟩

namespace Setting

/-- A count, if the setting is one that fits into 64 bits. -/
def count? : Setting → Option Nat
  | count n => if n < 1 <<< 64 then some n else none
  | _ => none

/-- A flag, if the setting is one. -/
def flag? : Setting → Option Bool
  | flag b => some b
  | _ => none

/-- A text, if the setting is one. -/
def text? : Setting → Option String
  | text s => some s
  | _ => none

/-- The name of a choice: a text, or the one key of a record that holds
null. -/
def choice? : Setting → Option String
  | text s => some s
  | record [(name, null)] => some name
  | _ => none

/-- Reads a field that may be missing. -/
def orDefault {α : Type} (read : Setting → Option α) (default : α) :
    Option Setting → Option α
  | none => some default
  | some setting => read setting

/-- The fields of a structure, by name in a record or by place in a list,
which must not have more of them. -/
def fields? (names : List String) : Setting → Option (List (String × Setting))
  | record fields => some fields
  | list items => if items.length ≤ names.length then some (names.zip items) else none
  | _ => none

end Setting

namespace StringOrdering

/-- The name of an ordering. -/
def name : StringOrdering → String
  | locale => "locale"
  | binary => "binary"

/-- The ordering of a name. -/
def ofName? (name : String) : Option StringOrdering :=
  [locale, binary].find? fun ordering => ordering.name == name

end StringOrdering

namespace Direction

/-- The name of a direction. -/
def name : Direction → String
  | ascending => "asc"
  | descending => "desc"

/-- The direction of a name. -/
def ofName? (name : String) : Option Direction :=
  [ascending, descending].find? fun direction => direction.name == name

end Direction

/-- Reads a configuration. -/
def Config.ofSetting? (setting : Setting) : Option Config := do
  let fields ← setting.fields? ["string_ordering", "regex_size_limit", "cache_matchers"]
  let get (name : String) := Entries.get? name fields
  let initial : Config := {}
  return {
    stringOrdering := ← Setting.orDefault (fun s => s.choice?.bind StringOrdering.ofName?)
      initial.stringOrdering (get "string_ordering")
    regexSizeLimit := ← Setting.orDefault Setting.count? initial.regexSizeLimit
      (get "regex_size_limit")
    cacheMatchers := ← Setting.orDefault Setting.flag? initial.cacheMatchers
      (get "cache_matchers") }

/-- Reads a sort key. -/
def SortKey.ofSetting? (setting : Setting) : Option SortKey := do
  let fields ← setting.fields? ["field", "direction"]
  let field ← (← Entries.get? "field" fields).text?
  let direction ← (← Entries.get? "direction" fields).choice?.bind Direction.ofName?
  return ⟨field, direction⟩

end DocQuery
