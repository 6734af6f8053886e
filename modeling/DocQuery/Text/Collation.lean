import DocQuery.Unicode.Case
import DocQuery.Unicode.Category
import DocQuery.Unicode.Property
import DocQuery.Unicode.Decomposition
/-!
# Collation

Two orders on strings. The binary one compares code points. The locale one
compares the canonical decompositions four times over: first the letters
alone, without marks and in small form; then the letters with their marks;
then their case, small before capital; and last the strings as they stand,
so that only identical strings are equal. Each comparison is lexicographic,
a proper beginning first.
-/


namespace DocQuery

/-- How strings are ordered. -/
inductive StringOrdering where
  | locale
  | binary
  deriving DecidableEq, Inhabited

namespace Collation

/-- The order of code points. -/
def compareChars (a b : Char) : Ordering := compare a.toNat b.toNat

/-- Small characters before capital ones, and each by code point. -/
def compareCased (a b : Bool × Char) : Ordering :=
  (compare a.1.toNat b.1.toNat).then (compareChars a.2 b.2)

/-- The letters of a text in small form, without their marks. -/
def baseLetters (text : List Char) : List Char :=
  ((Unicode.decompose text).filter fun c => !Unicode.isMark c).flatMap Unicode.Case.lowercase

/-- The letters of a text in small form, with their marks. -/
def accented (text : List Char) : List Char :=
  (Unicode.decompose text).flatMap Unicode.Case.lowercase

/-- The characters of a text, each with whether it is a capital. -/
def cased (text : List Char) : List (Bool × Char) :=
  (Unicode.decompose text).map fun c => (Unicode.Property.isUppercase c, c)

/-- The order of code point sequences. -/
def compareBinary (a b : List Char) : Ordering := List.compareLex compareChars a b

/-- The order by letters, then marks, then case, then code points. -/
def compareLocale (a b : List Char) : Ordering :=
  (List.compareLex compareChars (baseLetters a) (baseLetters b)).then <|
    (List.compareLex compareChars (accented a) (accented b)).then <|
      (List.compareLex compareCased (cased a) (cased b)).then <|
        compareBinary a b

end Collation

/-- The comparison of two strings under an ordering. -/
def StringOrdering.compare (ordering : StringOrdering) (a b : String) : Ordering :=
  match ordering with
  | .binary => Collation.compareBinary a.toList b.toList
  | .locale => Collation.compareLocale a.toList b.toList

end DocQuery
