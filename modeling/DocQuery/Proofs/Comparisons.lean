import Mathlib.Order.Compare
import DocQuery.Text.Collation
/-!
# Comparisons

A comparison orders by keys (`transCmp_on`), by one comparison and then by
another, or item by item; each of these is transitive if its parts are, and
so are both orders of strings.

An order that is transitive on some values only is no instance of that. What
can be said of it is said of three values at a time: the three comparisons
between them are `Coherent` if they could be those of a total preorder.
-/


namespace DocQuery

/-- Comparing by keys is transitive if comparing the keys is. -/
theorem transCmp_on {α β : Type} (cmp : β → β → Ordering) [Std.TransCmp cmp] (key : α → β) :
    Std.TransCmp fun a b => cmp (key a) (key b) where
  eq_swap := Std.OrientedCmp.eq_swap
  isLE_trans := Std.TransCmp.isLE_trans

/-- A second comparison does not count unless the first ties. -/
theorem then_of_ne_eq {o : Ordering} (h : o ≠ .eq) (o' : Ordering) : o.then o' = o := by
  cases o with
  | eq => exact absurd rfl h
  | lt | gt => rfl

/-! ## Lists, item by item -/

section Lists

variable {α : Type} {cmp : α → α → Ordering}

/-- Lists that are compared the other way round compare the other way round,
if their items do. -/
theorem compareLex_swap {as bs : List α} (h : ∀ a ∈ as, ∀ b ∈ bs, cmp b a = (cmp a b).swap) :
    List.compareLex cmp bs as = (List.compareLex cmp as bs).swap := by
  induction as generalizing bs with
  | nil => cases bs <;> rfl
  | cons a as ih => cases bs with
    | nil => rfl
    | cons b bs =>
      rw [List.compareLex_cons_cons, List.compareLex_cons_cons, Ordering.swap_then,
        h a (by simp) b (by simp),
        ih fun a ha b hb => h a (List.mem_cons_of_mem _ ha) b (List.mem_cons_of_mem _ hb)]

/-- Beginnings that are level leave the comparison to what follows them. -/
theorem compareLex_append {as bs as' bs' : List α} (h : List.compareLex cmp as bs = .eq) :
    List.compareLex cmp (as ++ as') (bs ++ bs') = List.compareLex cmp as' bs' := by
  induction as generalizing bs with
  | nil => cases bs with
    | nil => rfl
    | cons => cases h
  | cons a as ih => cases bs with
    | nil => cases h
    | cons b bs =>
      rw [List.compareLex_cons_cons, Ordering.then_eq_eq] at h
      rw [List.cons_append, List.cons_append, List.compareLex_cons_cons, h.1, ih h.2]
      rfl

end Lists

/-! ## Orders of strings -/

namespace Collation

instance : Std.TransCmp compareChars := transCmp_on compare Char.toNat

instance : Std.TransCmp compareCased :=
  have := transCmp_on (α := Bool × Char) compare (·.1.toNat)
  have := transCmp_on (α := Bool × Char) compareChars (·.2)
  inferInstanceAs (Std.TransCmp (compareLex (α := Bool × Char)
    (compare ·.1.toNat ·.1.toNat) (compareChars ·.2 ·.2)))

instance : Std.TransCmp compareBinary :=
  inferInstanceAs (Std.TransCmp (List.compareLex compareChars))

instance : Std.TransCmp compareLocale :=
  have := transCmp_on (List.compareLex compareChars) baseLetters
  have := transCmp_on (List.compareLex compareChars) accented
  have := transCmp_on (List.compareLex compareCased) cased
  inferInstanceAs <| Std.TransCmp <|
    compareLex (fun a b => List.compareLex compareChars (baseLetters a) (baseLetters b)) <|
    compareLex (fun a b => List.compareLex compareChars (accented a) (accented b)) <|
    compareLex (fun a b => List.compareLex compareCased (cased a) (cased b)) compareBinary

instance : Std.LawfulEqCmp compareChars where
  eq_of_compare h := Char.toNat_inj.1 (Nat.compare_eq_eq.1 h)

instance : Std.LawfulEqCmp compareBinary :=
  inferInstanceAs (Std.LawfulEqCmp (List.compareLex compareChars))

end Collation

/-- Strings are level in the binary order only with themselves. -/
theorem compare_binary_eq_iff {s t : String} : StringOrdering.compare .binary s t = .eq ↔ s = t := by
  rw [StringOrdering.compare, Std.LawfulEqCmp.compare_eq_iff_eq, String.toList_inj]

instance (strings : StringOrdering) : Std.TransCmp strings.compare :=
  match strings with
  | .binary => transCmp_on Collation.compareBinary String.toList
  | .locale => transCmp_on Collation.compareLocale String.toList

/-! ## Three values at a time -/

/-- Whether three comparisons, of a first value with a second, of the second
with a third and of the first with the third, could be those of a total
preorder: values that are level compare alike with everything else, and two
steps in one direction make one step in that direction. -/
structure Coherent (ab bc ac : Ordering) : Prop where
  of_left : ab = .eq → ac = bc
  of_right : bc = .eq → ac = ab
  of_same : ab = bc → ac = ab

namespace Coherent

variable {ab bc ac ab' bc' ac' : Ordering}

/-- Values that are not above one another in two steps are not in one. -/
theorem isLE (h : Coherent ab bc ac) (hab : ab ≠ .gt) (hbc : bc ≠ .gt) : ac ≠ .gt := by
  cases ab with
  | lt => cases bc with
    | lt => simp [h.of_same rfl]
    | eq => simp [h.of_right rfl]
    | gt => exact absurd rfl hbc
  | eq => rwa [h.of_left rfl]
  | gt => exact absurd rfl hab

/-- Values that are level in two steps are level in one. -/
theorem eq (h : Coherent ab bc ac) (hab : ab = .eq) (hbc : bc = .eq) : ac = .eq :=
  (h.of_left hab).trans hbc

/-- Three equal comparisons are coherent. -/
theorem refl (ab : Ordering) : Coherent ab ab ab :=
  ⟨fun _ => rfl, fun _ => rfl, fun _ => rfl⟩

/-- A comparison in two stages is coherent: the second stage counts only
where the first is level, and is coherent there. -/
theorem andThen (h : Coherent ab bc ac) (h' : ab = .eq → bc = .eq → Coherent ab' bc' ac') :
    Coherent (ab.then ab') (bc.then bc') (ac.then ac') := by
  cases ab with
  | eq =>
    obtain rfl := h.of_left rfl
    cases ac with
    | eq => exact h' rfl rfl
    | lt | gt => exact ⟨fun _ => rfl, nofun, Eq.symm⟩
  | lt => cases bc with
    | lt => obtain rfl := h.of_same rfl; exact refl .lt
    | eq => obtain rfl := h.of_right rfl; exact ⟨nofun, fun _ => rfl, fun _ => rfl⟩
    | gt => exact ⟨nofun, nofun, nofun⟩
  | gt => cases bc with
    | lt => exact ⟨nofun, nofun, nofun⟩
    | eq => obtain rfl := h.of_right rfl; exact ⟨nofun, fun _ => rfl, fun _ => rfl⟩
    | gt => obtain rfl := h.of_same rfl; exact refl .gt

/-- A transitive comparison is coherent everywhere. -/
theorem of_transCmp {α : Type} (cmp : α → α → Ordering) [Std.TransCmp cmp] (a b c : α) :
    Coherent (cmp a b) (cmp b c) (cmp a c) where
  of_left := Std.TransCmp.congr_left
  of_right h := (Std.TransCmp.congr_right h).symm
  of_same h := by
    cases hab : cmp a b with
    | lt => exact Std.TransCmp.lt_trans hab (h ▸ hab)
    | eq => exact Std.TransCmp.eq_trans hab (h ▸ hab)
    | gt => exact Std.TransCmp.gt_trans hab (h ▸ hab)

/-- Comparing lists is coherent if comparing their items is. -/
theorem compareLex {α : Type} {cmp : α → α → Ordering} {as bs cs : List α}
    (h : ∀ a ∈ as, ∀ b ∈ bs, ∀ c ∈ cs, Coherent (cmp a b) (cmp b c) (cmp a c)) :
    Coherent (List.compareLex cmp as bs) (List.compareLex cmp bs cs)
      (List.compareLex cmp as cs) := by
  induction as generalizing bs cs with
  | nil => cases bs with
    | nil => cases cs with
      | nil => exact refl .eq
      | cons => exact ⟨fun _ => rfl, nofun, nofun⟩
    | cons => cases cs with
      | nil => exact ⟨nofun, nofun, nofun⟩
      | cons => exact ⟨nofun, fun _ => rfl, fun _ => rfl⟩
  | cons a as ih => cases bs with
    | nil => cases cs with
      | nil => exact ⟨nofun, fun _ => rfl, nofun⟩
      | cons => exact ⟨nofun, nofun, nofun⟩
    | cons b bs => cases cs with
      | nil => exact ⟨fun _ => rfl, nofun, Eq.symm⟩
      | cons c cs =>
        simp only [List.compareLex_cons_cons]
        refine andThen (h a (by simp) b (by simp) c (by simp)) fun _ _ => ih ?_
        exact fun a ha b hb c hc => h a (List.mem_cons_of_mem _ ha) b (List.mem_cons_of_mem _ hb)
          c (List.mem_cons_of_mem _ hc)

end Coherent

end DocQuery
