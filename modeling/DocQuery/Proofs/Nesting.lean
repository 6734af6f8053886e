import DocQuery.Value
/-!
# Values within values

Arrays hold items and documents hold values under keys, to any depth.
`Value.contents_induction` is the induction over this nesting: what is proved
of a value from the same for the values within it holds of every value.
Well-formedness goes the same way: a document is well-formed if its keys are
distinct and the values in it are.
-/


namespace DocQuery

namespace Value

variable {v w : Value}

/-- The values right within a value: the items of an array, and the values of
a document or of the scope of a piece of code. -/
def contents : Value → List Value
  | .array items => items
  | .document entries | .codeWithScope _ entries => entries.map (·.2)
  | _ => []

theorem sizeOf_lt_of_mem_entries {entries : List (String × Value)}
    (h : w ∈ entries.map (·.2)) : sizeOf w < sizeOf entries := by
  obtain ⟨⟨key, w⟩, hmem, rfl⟩ := List.mem_map.1 h
  have hentry := List.sizeOf_lt_of_mem hmem
  simp only [Prod.mk.sizeOf_spec] at hentry
  show sizeOf w < _
  omega

/-- What is within a value is smaller. -/
theorem sizeOf_lt_of_mem_contents (h : w ∈ v.contents) : sizeOf w < sizeOf v := by
  cases v with
  | array items =>
    have : sizeOf w < sizeOf items := List.sizeOf_lt_of_mem h
    simp only [array.sizeOf_spec]
    omega
  | document entries =>
    have : sizeOf w < sizeOf entries := sizeOf_lt_of_mem_entries h
    simp only [document.sizeOf_spec]
    omega
  | codeWithScope source entries =>
    have : sizeOf w < sizeOf entries := sizeOf_lt_of_mem_entries h
    simp only [codeWithScope.sizeOf_spec]
    omega
  | _ => cases h

/-- To prove something of every value it is enough to prove it of a value if
the values within it have it. -/
theorem contents_induction {P : Value → Prop} (h : ∀ v, (∀ w ∈ v.contents, P w) → P v)
    (v : Value) : P v :=
  h v fun w _ => contents_induction h w
termination_by sizeOf v
decreasing_by exact sizeOf_lt_of_mem_contents ‹_›

/-- It is enough to go down to the items of arrays and to the values of
documents. -/
theorem nested_induction {P : Value → Prop}
    (h : ∀ v, (∀ items, v = .array items → ∀ item ∈ items, P item) →
      (∀ entries, v = .document entries → ∀ e ∈ entries, P e.2) → P v) (v : Value) : P v := by
  induction v using contents_induction with
  | h v ih =>
    refine h v (fun items hv item hmem => ih item ?_) fun entries hv e hmem => ih e.2 ?_
    · rw [hv]
      exact hmem
    · rw [hv]
      exact List.mem_map_of_mem hmem

/-- A value occurs in itself, and in what has it within, to any depth. -/
inductive Contained : Value → Value → Prop
  | self (v : Value) : Contained v v
  | within {w u v : Value} : u ∈ v.contents → Contained w u → Contained w v

/-- What occurs in a value is this value, or it occurs in one within it. -/
theorem forall_contained_iff {P : Value → Prop} : (∀ w, w.Contained v → P w) ↔
    P v ∧ ∀ u ∈ v.contents, ∀ w, w.Contained u → P w := by
  constructor
  · exact fun h => ⟨h v (.self v), fun u hu w hw => h w (.within hu hw)⟩
  · rintro ⟨hself, hwithin⟩ w hw
    cases hw with
    | self => exact hself
    | within hu hw => exact hwithin _ hu w hw

/-! ## Well-formed values -/

/-- The values of entries are well-formed if each is. -/
theorem entriesWellFormed_iff {entries : List (String × Value)} :
    EntriesWellFormed entries ↔ ∀ e ∈ entries, e.2.WellFormed := by
  induction entries with
  | nil => simp [EntriesWellFormed]
  | cons e rest ih => rw [EntriesWellFormed, ih, List.forall_mem_cons]

/-- Items are well-formed if each is. -/
theorem allWellFormed_iff {items : List Value} :
    AllWellFormed items ↔ ∀ item ∈ items, item.WellFormed := by
  induction items with
  | nil => simp [AllWellFormed]
  | cons item rest ih => rw [AllWellFormed, ih, List.forall_mem_cons]

/-- A document is well-formed if its keys are distinct and what they hold is
well-formed. -/
theorem wellFormed_document {entries : List (String × Value)} :
    (document entries).WellFormed ↔
      (Entries.keys entries).Nodup ∧ ∀ e ∈ entries, e.2.WellFormed := by
  rw [WellFormed, entriesWellFormed_iff]

/-- An array is well-formed if its items are. -/
theorem wellFormed_array {items : List Value} :
    (array items).WellFormed ↔ ∀ item ∈ items, item.WellFormed := by
  rw [WellFormed, allWellFormed_iff]

/-- A piece of code is well-formed if its scope is. -/
theorem wellFormed_codeWithScope {source : String} {scope : List (String × Value)} :
    (codeWithScope source scope).WellFormed ↔
      (Entries.keys scope).Nodup ∧ ∀ e ∈ scope, e.2.WellFormed := by
  rw [WellFormed, entriesWellFormed_iff]

/-- What is within a well-formed value is well-formed. -/
theorem WellFormed.of_mem_contents (h : v.WellFormed) (hw : w ∈ v.contents) : w.WellFormed := by
  cases v with
  | array items => exact wellFormed_array.1 h w hw
  | document entries =>
    obtain ⟨e, he, rfl⟩ := List.mem_map.1 hw
    exact (wellFormed_document.1 h).2 e he
  | codeWithScope source entries =>
    obtain ⟨e, he, rfl⟩ := List.mem_map.1 hw
    exact (wellFormed_codeWithScope.1 h).2 e he
  | _ => cases hw

end Value

end DocQuery
