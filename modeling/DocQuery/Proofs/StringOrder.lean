import Mathlib.Data.List.Lex
import Mathlib.Data.Prod.Lex
import DocQuery.Proofs.Comparisons
/-!
# The orders of strings

A comparison that says of two items which comes first says so of two lists, by
the first place where they differ (`compareLex_eq_lt_iff`). Texts are compared
by code points in this way, and it comes to the same if they are compared byte
by byte: the bytes of a character are ordered as the characters are, whatever
follows them (`lex_utf8EncodeChar`).

The locale order has four levels, and the first one that tells two texts apart
decides (`Precedes`). On the levels above the last one different texts may be
level; on the last one they are not, and that makes the order linear, whatever
is known of letters, marks and capitals.
-/


namespace DocQuery

/-- **Lists are ordered by the first place where they differ**, a proper
beginning first, if items are told apart by what comes first of them. -/
theorem compareLex_eq_lt_iff {α : Type} {cmp : α → α → Ordering} [Std.LawfulEqCmp cmp]
    {r : α → α → Prop} (h : ∀ a b, cmp a b = .lt ↔ r a b) {as bs : List α} :
    List.compareLex cmp as bs = .lt ↔ List.Lex r as bs := by
  induction as generalizing bs with
  | nil => cases bs with
    | nil => exact iff_of_false nofun nofun
    | cons b bs => exact iff_of_true rfl .nil
  | cons a as ih => cases bs with
    | nil => exact iff_of_false nofun nofun
    | cons b bs =>
      rw [List.compareLex_cons_cons, Ordering.then_eq_lt, List.cons_lex_cons_iff, h, ih,
        Std.LawfulEqCmp.compare_eq_iff_eq]

namespace Collation

variable {a b : List Char} {c d : Char}

/-! ## Code points and bytes -/

theorem compareChars_eq_lt_iff (c d : Char) : compareChars c d = .lt ↔ c < d := Nat.compare_eq_lt

theorem compareBinary_eq_lt_iff : compareBinary a b = .lt ↔ List.Lex (· < ·) a b :=
  compareLex_eq_lt_iff compareChars_eq_lt_iff

/-- **The bytes of a character come before those of a larger one**, whatever
follows them. -/
theorem lex_utf8EncodeChar (h : c < d) (as bs : List UInt8) :
    List.Lex (· < ·) (String.utf8EncodeChar c ++ as) (String.utf8EncodeChar d ++ bs) := by
  have hlt : c.val.toNat < d.val.toNat := h
  have hd : d.val.toNat < 1114112 := by
    rcases d.valid with h | h <;> omega
  unfold String.utf8EncodeChar
  generalize c.val.toNat = m, d.val.toNat = n at hlt hd
  -- but for the first byte, bytes hold the digits of the number to the base 64
  have htwo (k : Nat) : k / 4096 = k / 64 / 64 := (Nat.div_div_eq_div_mul k 64 64).symm
  have hthree (k : Nat) : k / 262144 = k / 64 / 64 / 64 := by
    rw [Nat.div_div_eq_div_mul, Nat.div_div_eq_div_mul]
  simp only [htwo, hthree]
  -- if one character has fewer bytes the first byte decides, and else the first digit that differs
  split_ifs
  all_goals
    simp only [List.cons_append, List.nil_append, List.cons_lex_cons_iff, UInt8.lt_iff_toNat_lt,
      ← UInt8.toNat_inj, UInt8.toNat_ofNat']
    omega

/-- So texts that come before others do so as bytes. -/
theorem lex_bytes (h : List.Lex (· < ·) a b) :
    List.Lex (· < ·) (a.flatMap String.utf8EncodeChar) (b.flatMap String.utf8EncodeChar) := by
  induction h with
  | @nil d rest =>
    obtain ⟨first, more, hd⟩ := List.exists_cons_of_ne_nil (String.utf8EncodeChar_ne_nil (c := d))
    rw [List.flatMap_nil, List.flatMap_cons, hd]
    exact .nil
  | rel hlt =>
    rw [List.flatMap_cons, List.flatMap_cons]
    exact lex_utf8EncodeChar hlt _ _
  | cons _ ih =>
    rw [List.flatMap_cons, List.flatMap_cons]
    exact List.Lex.append_left _ ih _

theorem bytes_eq (s : String) : s.toUTF8.data.toList = s.toList.flatMap String.utf8EncodeChar := by
  rw [String.toUTF8_eq_toByteArray, ← String.utf8Encode_toList, List.utf8Encode,
    List.toList_data_toByteArray]

/-! ## Levels -/

theorem compare_toNat_eq_lt_iff {x y : Bool} : compare x.toNat y.toNat = .lt ↔ x < y := by
  cases x <;> cases y <;> decide

theorem compare_toNat_eq_eq_iff {x y : Bool} : compare x.toNat y.toNat = .eq ↔ x = y := by
  cases x <;> cases y <;> decide

theorem compareCased_eq_lt_iff (x y : Bool × Char) :
    compareCased x y = .lt ↔ Prod.Lex (· < ·) (· < ·) x y := by
  rw [compareCased, Ordering.then_eq_lt, Prod.lex_def, compare_toNat_eq_lt_iff,
    compare_toNat_eq_eq_iff, compareChars_eq_lt_iff]

instance : Std.LawfulEqCmp compareCased where
  eq_of_compare {x y} h := by
    obtain ⟨hcase, hchar⟩ := Ordering.then_eq_eq.1 h
    exact Prod.ext (compare_toNat_eq_eq_iff.1 hcase) (Std.LawfulEqCmp.eq_of_compare hchar)

/-- A text comes before another one in the locale order: by the first of four
levels that tells the two apart. These are the letters of the canonical
decompositions in small form, without the marks; the same with the marks; the
decompositions with the case of each character, small before capital; and the
texts as they stand. -/
def Precedes (a b : List Char) : Prop :=
  let letters (text : List Char) : List Char :=
    ((Unicode.decompose text).filter fun c => !Unicode.isMark c).flatMap Unicode.Case.lowercase
  let marked (text : List Char) : List Char :=
    (Unicode.decompose text).flatMap Unicode.Case.lowercase
  let capitals (text : List Char) : List (Bool × Char) :=
    (Unicode.decompose text).map fun c => (Unicode.Property.isUppercase c, c)
  List.Lex (· < ·) (letters a) (letters b) ∨ letters a = letters b ∧
    (List.Lex (· < ·) (marked a) (marked b) ∨ marked a = marked b ∧
      (List.Lex (Prod.Lex (· < ·) (· < ·)) (capitals a) (capitals b) ∨ capitals a = capitals b ∧
        List.Lex (· < ·) a b))

/-- **The first level that tells texts apart decides.** -/
theorem compareLocale_eq_lt_iff : compareLocale a b = .lt ↔ Precedes a b := by
  have hchars {as bs : List Char} : List.compareLex compareChars as bs = .lt ↔
      List.Lex (· < ·) as bs := compareBinary_eq_lt_iff
  have hcased {as bs : List (Bool × Char)} : List.compareLex compareCased as bs = .lt ↔
      List.Lex (Prod.Lex (· < ·) (· < ·)) as bs := compareLex_eq_lt_iff compareCased_eq_lt_iff
  simp only [compareLocale, Ordering.then_eq_lt, Std.LawfulEqCmp.compare_eq_iff_eq, hchars, hcased,
    compareBinary_eq_lt_iff, Precedes, baseLetters, accented, cased]

/-- Texts are level in the locale order only with themselves, because of the
last level. -/
theorem compareLocale_eq_iff : compareLocale a b = .eq ↔ a = b := by
  constructor
  · intro h
    have hlast := (Ordering.then_eq_eq.1 (Ordering.then_eq_eq.1 (Ordering.then_eq_eq.1 h).2).2).2
    exact Std.LawfulEqCmp.eq_of_compare hlast
  · rintro rfl
    exact Std.ReflCmp.compare_self

end Collation

/-- Strings are level only with themselves. -/
theorem StringOrdering.compare_eq_iff (strings : StringOrdering) {s t : String} :
    strings.compare s t = .eq ↔ s = t := by
  cases strings with
  | binary => exact compare_binary_eq_iff
  | locale => exact Collation.compareLocale_eq_iff.trans String.toList_inj

/-- The binary order is that of the bytes. -/
theorem StringOrdering.compare_binary_eq_lt_iff {s t : String} :
    StringOrdering.compare .binary s t = .lt ↔
      List.Lex (· < ·) s.toUTF8.data.toList t.toUTF8.data.toList := by
  have hchars {s t : String} (h : StringOrdering.compare .binary s t = .lt) :
      List.Lex (· < ·) s.toUTF8.data.toList t.toUTF8.data.toList := by
    rw [Collation.bytes_eq, Collation.bytes_eq]
    exact Collation.lex_bytes (Collation.compareBinary_eq_lt_iff.1 h)
  refine ⟨hchars, fun h => ?_⟩
  -- the other way round, strings that do not come before are level or come behind
  cases hcompare : StringOrdering.compare .binary s t with
  | lt => rfl
  | eq =>
    rw [compare_binary_eq_iff.1 hcompare] at h
    exact absurd h (List.lex_irrefl (fun x => UInt8.lt_irrefl x) _)
  | gt =>
    have hbehind := hchars (Std.OrientedCmp.gt_iff_lt.1 hcompare)
    exact absurd h (List.lex_asymm (fun h h' => UInt8.lt_asymm h h') hbehind)

/-- **Strings are in a linear order**, whichever of the two it is. A string is
level with itself only; compared the other way round the comparison is reversed;
and it is transitive. The binary order is that of the bytes, and in the locale
order the first level that tells two strings apart decides. -/
theorem strings_linearly_ordered :
    (∀ (strings : StringOrdering) (s t : String), (strings.compare s t = .eq ↔ s = t) ∧
      strings.compare t s = (strings.compare s t).swap) ∧
    (∀ (strings : StringOrdering) (s t u : String), strings.compare s t ≠ .gt →
      strings.compare t u ≠ .gt → strings.compare s u ≠ .gt) ∧
    (∀ s t : String, StringOrdering.compare .binary s t = .lt ↔
      List.Lex (· < ·) s.toUTF8.data.toList t.toUTF8.data.toList) ∧
    (∀ s t : String, StringOrdering.compare .locale s t = .lt ↔
      Collation.Precedes s.toList t.toList) := by
  refine ⟨fun strings s t => ⟨strings.compare_eq_iff, Std.OrientedCmp.eq_swap⟩, ?_,
    fun _ _ => StringOrdering.compare_binary_eq_lt_iff,
    fun _ _ => Collation.compareLocale_eq_lt_iff⟩
  intro strings s t u hst htu
  exact (Coherent.of_transCmp strings.compare s t u).isLE hst htu

/-- A capital stands behind its small letter and before the next one. -/
theorem capital_before_next_letter :
    StringOrdering.compare .locale "a" "A" ≠ .gt ∧ StringOrdering.compare .locale "A" "b" ≠ .gt ∧
    StringOrdering.compare .locale "a" "b" ≠ .gt :=
  have hcapital : StringOrdering.compare .locale "a" "A" ≠ .gt := by decide
  have hnext : StringOrdering.compare .locale "A" "b" ≠ .gt := by decide
  ⟨hcapital, hnext, strings_linearly_ordered.2.1 .locale _ _ _ hcapital hnext⟩

end DocQuery
