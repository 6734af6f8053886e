import Mathlib.Data.List.FinRange
import Mathlib.Data.Set.Defs
import DocQuery.Proofs.Comparisons
import DocQuery.Sorting
/-!
# Stable sorting

An output is its input stably sorted (`StableSort`) if it is sorted, holds the
same items, and keeps the order of the items that tie. There is one such
output at most (`StableSort.unique`), and where the comparison is transitive
on the items, merge sort gives it (`stableSort_mergeSort`), and so does every
way of sorting (`Sorting.exists_sortBy`).

So an output can be changed for another by showing that it sorts stably: to
sort by one comparison and then by another is to sort by both, the later one
first (`StableSort.andThen`), and to sort the reversed list and reverse it
again is to sort the other way round (`StableSort.reverse`).
-/


namespace DocQuery

variable {α β : Type} {cmp cmp₁ cmp₂ : α → α → Ordering} {xs ys zs : List α}

/-- The items of a list that tie with an item. -/
def tying (cmp : α → α → Ordering) (a : α) (items : List α) : List α :=
  items.filter fun b => (cmp a b).isEq

/-- A list in the order of a comparison, ties in the order of the input. -/
structure StableSort (cmp : α → α → Ordering) (input output : List α) : Prop where
  sorted : output.Pairwise fun a b => (cmp a b).isLE
  perm : output.Perm input
  ties : ∀ a ∈ input, tying cmp a output = tying cmp a input

/-! ## One output at most -/

theorem tying_cons (a b : α) (items : List α) :
    tying cmp a (b :: items) = if cmp a b = .eq then b :: tying cmp a items
      else tying cmp a items := by
  simp [tying, List.filter_cons]

/-- The first items of two sorted lists with the same items tie. -/
theorem first_ties [Std.OrientedCmp cmp] {y z : α}
    (hy : (y :: ys).Pairwise fun a b => (cmp a b).isLE)
    (hz : (z :: zs).Pairwise fun a b => (cmp a b).isLE) (h : (y :: ys).Perm (z :: zs)) :
    cmp y z = .eq := by
  have first {a b : α} {items : List α} (hs : (a :: items).Pairwise fun a b => (cmp a b).isLE)
      (hb : b ∈ a :: items) : (cmp a b).isLE := by
    obtain rfl | hb := List.mem_cons.1 hb
    · have : cmp b b = .eq := Std.ReflCmp.compare_self
      simp [this]
    · exact List.rel_of_pairwise_cons hs hb
  have hyz : (cmp y z).isLE := first hy (h.mem_iff.2 List.mem_cons_self)
  have hzy : (cmp z y).isLE := first hz (h.mem_iff.1 List.mem_cons_self)
  exact Std.OrientedCmp.isLE_antisymm hyz hzy

/-- Sorted lists with the same items and the same order of ties are the
same. -/
theorem eq_of_sorted [Std.OrientedCmp cmp] (hy : ys.Pairwise fun a b => (cmp a b).isLE)
    (hz : zs.Pairwise fun a b => (cmp a b).isLE) (h : ys.Perm zs)
    (hties : ∀ a ∈ ys, tying cmp a ys = tying cmp a zs) : ys = zs := by
  induction ys generalizing zs with
  | nil => exact h.nil_eq
  | cons y ys ih => cases zs with
    | nil => exact absurd h.symm.nil_eq (by simp)
    | cons z zs =>
      have hyz : cmp y z = .eq := first_ties hy hz h
      -- Each list begins with the first of its items that tie with y, and these agree.
      have hfirst := hties y List.mem_cons_self
      rw [tying_cons, tying_cons, if_pos Std.ReflCmp.compare_self, if_pos hyz] at hfirst
      obtain rfl := (List.cons.inj hfirst).1
      rw [ih hy.of_cons hz.of_cons h.cons_inv fun a ha => ?_]
      have hrest := hties a (List.mem_cons_of_mem _ ha)
      rw [tying_cons, tying_cons] at hrest
      split at hrest
      · exact (List.cons.inj hrest).2
      · exact hrest

namespace StableSort

/-- Where everything ties, a list is stably sorted as it stands. -/
theorem refl (h : ∀ a b, cmp a b = .eq) : StableSort cmp xs xs where
  sorted := List.pairwise_of_forall fun a b => Ordering.isLE_of_eq_eq (h a b)
  perm := .refl xs
  ties _ _ := rfl

/-- **A list is stably sorted in one way at most.** -/
theorem unique [Std.OrientedCmp cmp] (hy : StableSort cmp xs ys) (hz : StableSort cmp xs zs) :
    ys = zs :=
  eq_of_sorted hy.sorted hz.sorted (hy.perm.trans hz.perm.symm) fun a ha =>
    (hy.ties a (hy.perm.mem_iff.1 ha)).trans (hz.ties a (hy.perm.mem_iff.1 ha)).symm

/-! ## Sorting again, and sorting the reversed list -/

/-- **Sorting twice is sorting by both**, what was sorted by last coming
first. -/
theorem andThen [Std.ReflCmp cmp₁] (h₂ : StableSort cmp₂ xs ys) (h₁ : StableSort cmp₁ ys zs) :
    StableSort (compareLex cmp₁ cmp₂) xs zs where
  sorted := by
    rw [List.pairwise_iff_forall_sublist]
    intro a b hab
    cases h : cmp₁ a b with
    | lt => simp [compareLex, h]
    | gt =>
      have := List.pairwise_iff_forall_sublist.1 h₁.sorted hab
      simp [h] at this
    | eq =>
      -- The two tie under the later comparison, so the earlier one has ordered them.
      have ha : a ∈ ys := h₁.perm.mem_iff.1 (hab.subset (by simp))
      have htie : [a, b].Sublist (tying cmp₁ a zs) := by
        have := hab.filter fun b => (cmp₁ a b).isEq
        simpa [tying, h, Std.ReflCmp.compare_self] using this
      rw [h₁.ties a ha] at htie
      have h₂ab := List.pairwise_iff_forall_sublist.1 h₂.sorted (htie.trans List.filter_sublist)
      simpa [compareLex, h] using h₂ab
  perm := h₁.perm.trans h₂.perm
  ties a ha := by
    have hlex (items : List α) :
        tying (compareLex cmp₁ cmp₂) a items = tying cmp₂ a (tying cmp₁ a items) := by
      simp only [tying, List.filter_filter, compareLex, Ordering.isEq_then, Bool.and_comm]
    have hcomm (items : List α) :
        tying cmp₂ a (tying cmp₁ a items) = tying cmp₁ a (tying cmp₂ a items) := by
      simp only [tying, List.filter_filter, Bool.and_comm]
    rw [hlex, hlex, h₁.ties a (h₂.perm.mem_iff.2 ha), hcomm, hcomm, h₂.ties a ha]

/-- **Sorting the reversed list and reversing it again** is sorting the other
way round. -/
theorem reverse [Std.OrientedCmp cmp] (h : StableSort cmp xs.reverse ys) :
    StableSort (fun a b => (cmp a b).swap) xs ys.reverse where
  sorted := by
    rw [List.pairwise_reverse]
    refine h.sorted.imp fun {a b} hab => ?_
    rwa [← (Std.OrientedCmp.eq_swap : cmp a b = (cmp b a).swap)]
  perm := ys.reverse_perm.trans (h.perm.trans xs.reverse_perm)
  ties a ha := by
    have hswap (items : List α) :
        tying (fun a b => (cmp a b).swap) a items = tying cmp a items := by
      simp only [tying, Ordering.isEq_swap]
    rw [hswap, hswap, tying, List.filter_reverse]
    change (tying cmp a ys).reverse = _
    rw [h.ties a (by simpa using ha), tying, List.filter_reverse, List.reverse_reverse, tying]

/-- Sorting the images of items. -/
theorem map {f : β → α} {cmp' : β → β → Ordering} (hcmp : ∀ a b, cmp (f a) (f b) = cmp' a b)
    {xs ys : List β} (h : StableSort cmp' xs ys) : StableSort cmp (xs.map f) (ys.map f) where
  sorted := List.pairwise_map.2 (h.sorted.imp fun {a b} hab => by rwa [hcmp])
  perm := h.perm.map f
  ties a ha := by
    obtain ⟨b, hb, rfl⟩ := List.mem_map.1 ha
    have hmap (items : List β) : tying cmp (f b) (items.map f) = (tying cmp' b items).map f := by
      simp only [tying, List.filter_map, Function.comp_def, hcmp]
    rw [hmap, hmap, h.ties b hb]

end StableSort

/-! ## Merge sort -/

theorem isLE_total [Std.OrientedCmp cmp] (a b : α) : (cmp a b).isLE || (cmp b a).isLE := by
  have hswap : cmp b a = (cmp a b).swap := Std.OrientedCmp.eq_swap
  rw [hswap]
  cases cmp a b <;> rfl

/-- Where the comparison is transitive, merge sort sorts stably. -/
theorem stableSort_mergeSort [Std.TransCmp cmp] (xs : List α) :
    StableSort cmp xs (xs.mergeSort fun a b => (cmp a b).isLE) where
  sorted := by
    exact List.pairwise_mergeSort (fun a b c => Std.TransCmp.isLE_trans) isLE_total xs
  perm := List.mergeSort_perm xs _
  ties a _ := by
    -- Items that tie with one item tie with each other, and such items stay in order.
    have htied : (tying cmp a xs).Pairwise fun b c => (cmp b c).isLE := by
      refine List.pairwise_of_forall_mem_list fun b hb c hc => ?_
      simp only [tying, List.mem_filter, Ordering.isEq_iff_eq_eq] at hb hc
      exact Ordering.isLE_of_eq_eq (Std.TransCmp.eq_trans (Std.OrientedCmp.eq_symm hb.2) hc.2)
    have hsub : (tying cmp a xs).Sublist (xs.mergeSort fun a b => (cmp a b).isLE) :=
      List.sublist_mergeSort (fun a b c => Std.TransCmp.isLE_trans) isLE_total htied
        List.filter_sublist
    have hties : (tying cmp a xs).Sublist
        (tying cmp a (xs.mergeSort fun a b => (cmp a b).isLE)) := by
      have := hsub.filter fun b => (cmp a b).isEq
      simpa only [tying, List.filter_filter, Bool.and_self] using this
    exact (hties.eq_of_length ((List.mergeSort_perm xs _).filter _).length_eq.symm).symm

/-- A comparison that is transitive on a set. -/
def TransitiveOn (cmp : α → α → Ordering) (s : Set α) : Prop :=
  ∀ a ∈ s, ∀ b ∈ s, ∀ c ∈ s, (cmp a b).isLE → (cmp b c).isLE → (cmp a c).isLE

namespace TransitiveOn

variable {s : Set α}

/-- Being transitive on a set is being transitive as a comparison of its
members. -/
theorem iff_transCmp [Std.OrientedCmp cmp] :
    TransitiveOn cmp s ↔ Std.TransCmp fun a b : {a // a ∈ s} => cmp a b := by
  constructor
  · intro h
    exact { eq_swap := Std.OrientedCmp.eq_swap, isLE_trans := fun {a b c} => h a a.2 b b.2 c c.2 }
  · intro h a ha b hb c hc
    exact h.isLE_trans (a := ⟨a, ha⟩) (b := ⟨b, hb⟩) (c := ⟨c, hc⟩)

/-- Comparing by one comparison and then by another is transitive where both
are. -/
theorem andThen [Std.OrientedCmp cmp₁] [Std.OrientedCmp cmp₂] (h₁ : TransitiveOn cmp₁ s)
    (h₂ : TransitiveOn cmp₂ s) : TransitiveOn (compareLex cmp₁ cmp₂) s := by
  rw [iff_transCmp] at *
  exact inferInstanceAs (Std.TransCmp (compareLex (fun a b : {a // a ∈ s} => cmp₁ a b)
    fun a b => cmp₂ a b))

/-- The other way round, a comparison is as transitive. -/
theorem swap [Std.OrientedCmp cmp] (h : TransitiveOn cmp s) :
    TransitiveOn (fun a b => (cmp a b).swap) s := by
  have hswap (a b : α) : (cmp a b).swap = cmp b a := Std.OrientedCmp.eq_swap.symm
  simp only [TransitiveOn, hswap]
  intro a ha b hb c hc hab hbc
  exact h c hc b hb a ha hbc hab

/-- Merge sort sorts stably if the comparison is transitive on the items. -/
theorem stableSort [Std.OrientedCmp cmp] (h : TransitiveOn cmp {a | a ∈ xs}) :
    StableSort cmp xs (xs.mergeSort fun a b => (cmp a b).isLE) := by
  have : Std.TransCmp fun a b : {a // a ∈ xs} => cmp a b := iff_transCmp.1 h
  -- Sort the items as members of the list, among which the comparison is transitive.
  have hattach : StableSort (fun a b : {a // a ∈ xs} => cmp a b) xs.attach _ :=
    stableSort_mergeSort xs.attach
  have hsort : StableSort cmp (xs.attach.map Subtype.val) _ := hattach.map fun _ _ => rfl
  have hmap : (xs.attach.mergeSort fun a b => (cmp a b).isLE).map Subtype.val =
      (xs.attach.map Subtype.val).mergeSort fun a b => (cmp a b).isLE :=
    List.map_mergeSort fun _ _ _ _ => rfl
  rwa [hmap, List.attach_map_subtype_val] at hsort

end TransitiveOn

/-! ## Any way of sorting -/

namespace Sorting

variable {sorting : Sorting}

/-- Every item comes out once. -/
theorem perm_of_sortBy (h : sorting.sortBy cmp xs = some ys) : ys.Perm xs := by
  obtain ⟨places, hplaces, rfl⟩ := Option.map_eq_some_iff.1 h
  exact ((sorting.perm hplaces).map _).trans (.of_eq (List.map_getElem_finRange xs))

/-- **Every way of sorting sorts stably** where the comparison is transitive on
the items. -/
theorem exists_sortBy [Std.OrientedCmp cmp] (h : TransitiveOn cmp {a | a ∈ xs}) :
    ∃ ys, sorting.sortBy cmp xs = some ys ∧ StableSort cmp xs ys := by
  have : Std.TransCmp fun i j : Fin xs.length => cmp xs[i] xs[j] :=
    { eq_swap := Std.OrientedCmp.eq_swap
      isLE_trans := h _ (List.getElem_mem _) _ (List.getElem_mem _) _ (List.getElem_mem _) }
  have hitems : (List.finRange xs.length).map (fun i => xs[i]) = xs := List.map_getElem_finRange xs
  have hmap : ((List.finRange xs.length).mergeSort fun i j => (cmp xs[i] xs[j]).isLE).map
        (fun i => xs[i]) =
      ((List.finRange xs.length).map fun i => xs[i]).mergeSort fun a b => (cmp a b).isLE :=
    List.map_mergeSort fun _ _ _ _ => rfl
  refine ⟨_, ?_, h.stableSort⟩
  rw [sortBy, sorting.stable, Option.map_some, hmap, hitems]

/-- Sorting the images of items is sorting the items by what they are sent
to. -/
theorem sortBy_map (f : β → α) (items : List β) :
    sorting.sortBy cmp (items.map f) =
      (sorting.sortBy (fun a b => cmp (f a) (f b)) items).map fun sorted => sorted.map f := by
  -- there are as many images as items, but only as a matter of proof
  have hplaces {count : Nat} (hcount : count = items.length) (image : Fin count → α)
      (himage : ∀ i, image i = f items[i]) :
      (sorting.sort count fun i j => cmp (image i) (image j)).map (fun places => places.map image) =
        (sorting.sortBy (fun a b => cmp (f a) (f b)) items).map fun sorted => sorted.map f := by
    subst hcount
    obtain rfl : image = fun i => f items[i] := funext himage
    simp [sortBy, Function.comp_def]
  exact hplaces (List.length_map f) (fun i => (items.map f)[i]) fun i => List.getElem_map f

end Sorting

end DocQuery
