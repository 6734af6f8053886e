import DocQuery.Unicode.Property
import DocQuery.Unicode.Script
/-!
# Names of character classes

Patterns name classes in two ways: by a property of Unicode, alone or as a
property with a value, and by a short name that stands for ASCII characters.
Property names are compared without regard to case, blanks, underscores and
hyphens, and an "is" in front of them is dropped.
-/


namespace DocQuery

namespace ClassName

open Unicode (CharSet)

/-- A property name in the form in which names are compared. -/
def normalize (name : List Char) : String :=
  let rest := match name with
    | a :: b :: rest =>
      if (a == 'i' || a == 'I') && (b == 's' || b == 'S') then rest else name
    | _ => name
  let letters := rest.filter fun c =>
    c.toNat < 0x80 && c != ' ' && c != '_' && c != '-'
  let short := String.ofList (letters.map Char.toLower)
  if short == "c" && rest.length < name.length then "isc" else short

/-- The code points of a general category, or of one of the sets that are
named like a category. The surrogates are no class, as no character is one. -/
def category? (name : String) : Option CharSet :=
  if name == "any" then some .full
  else if name == "assigned" then some Unicode.Category.unassigned.ranges.compl
  else if name == "ascii" then some (.ofText "0-7f")
  else if name ∈ Unicode.Category.surrogate.names then none
  else (Unicode.Category.group? name).map Unicode.Category.union

/-- The set that a property name stands for: a property, else a category,
else a script. Three short names are left to the categories. -/
def property? (name : List Char) : Option CharSet :=
  let name := normalize name
  let byProperty := if name ∈ ["cf", "sc", "lc"] then none else Unicode.Property.ranges? name
  byProperty <|> category? name <|> Unicode.Script.ranges? name

/-- The set that a property with a value stands for. -/
def valued? (name value : List Char) : Option CharSet :=
  let name := normalize name
  let value := normalize value
  if name ∈ ["gc", "generalcategory"] then category? value
  else if name ∈ ["sc", "script"] then Unicode.Script.ranges? value
  else if name ∈ ["scx", "scriptextensions"] then Unicode.Script.extended? value
  else none

/-- The ASCII characters that a short name stands for. -/
def ascii? (name : String) : Option CharSet :=
  let table : List (String × String) :=
    [("alnum", "30-39 41-5a 61-7a"), ("alpha", "41-5a 61-7a"), ("ascii", "0-7f"),
     ("blank", "9 20"), ("cntrl", "0-1f 7f"), ("digit", "30-39"), ("graph", "21-7e"),
     ("lower", "61-7a"), ("print", "20-7e"), ("punct", "21-2f 3a-40 5b-60 7b-7e"),
     ("space", "9-d 20"), ("upper", "41-5a"), ("word", "30-39 41-5a 5f 61-7a"),
     ("xdigit", "30-39 41-46 61-66")]
  (table.find? fun entry => entry.1 == name).map fun entry => .ofText entry.2

end ClassName

end DocQuery
