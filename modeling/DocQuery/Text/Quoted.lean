import DocQuery.Text.Hex
import DocQuery.Unicode.Property
/-!
# Quoted text

Strings and characters as messages show them: in quotes, with the quote and
the backslash escaped, five control characters by letter, and every other
character that has no form of its own (`needsNumber`) by its code point in
braces. All else stands verbatim.
-/


namespace DocQuery

namespace Quoted

/-- Whether a character is shown by number: it has no visible form, or it
would combine with the character before it. -/
def needsNumber (c : Char) : Bool :=
  Unicode.Property.isGraphemeExtend c || !Unicode.Property.isPrintable c

/-- A character between quotes of the given kind. -/
def escape (quote c : Char) : List Char :=
  if c == '\x00' then ['\\', '0']
  else if c == '\t' then ['\\', 't']
  else if c == '\r' then ['\\', 'r']
  else if c == '\n' then ['\\', 'n']
  else if c == '\\' || c == quote then ['\\', c]
  else if needsNumber c then ['\\', 'u', '\x7b'] ++ Hex.ofNat c.toNat ++ ['\x7d']
  else [c]

/-- A string in double quotes. -/
def string (s : String) : String :=
  String.ofList ('"' :: s.toList.flatMap (escape '"') ++ ['"'])

/-- A character in single quotes. -/
def char (c : Char) : String :=
  String.ofList ('\'' :: escape '\'' c ++ ['\''])

end Quoted

end DocQuery
