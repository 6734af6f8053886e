import DocQuery.Proofs.Compilations
import DocQuery.Proofs.EqualValues
/-!
# The algebra of the set operators

The set operators ask in three ways how a value and a set meet: whether the
value is among the set, whether all of the set is in the value, and whether
some of it is. Each of them looks for equal values, but not all in the same
direction: one asks whether a member of the set equals what is looked at,
another whether an item equals the member. Equality is symmetric, so the
direction makes no difference (`exists_equal_comm`), and the operators can be
said in terms of one another (`set_operators_one_algebra`).

A set is a list. What stands in it twice counts once, and a set in two pieces
is met where one of the pieces is, or where both are.
-/


namespace DocQuery

variable {limit : Nat} {S T items : List Value} {v : Option Value} {x : Value}

/-! ## What each of them says -/

/-- An operator in which nothing is to be read accepts what it holds of. -/
theorem Operator.accepts_iff_of_readings {op : Operator Unit} (h : op.readings = []) :
    op.Accepts limit v ↔ op.Holds limit v := by
  have hread : ∀ r ∈ op.readings, ¬ r.Unreadable limit := by
    rw [h]
    exact fun _ => nofun
  exact Operator.accepts_iff hread

theorem accepts_eq_iff : (Operator.eq x : Operator Unit).Accepts limit v ↔
    ∃ y, v = some y ∧ y.equals x = true := by
  rw [Operator.accepts_iff_of_readings rfl, Operator.Holds]

theorem accepts_among_iff : (Operator.among S : Operator Unit).Accepts limit v ↔
    ∃ y, v = some y ∧ y.Among S := by
  rw [Operator.accepts_iff_of_readings rfl, Operator.Holds]

theorem accepts_notAmong_iff : (Operator.notAmong S : Operator Unit).Accepts limit v ↔
    ¬ (Operator.among S : Operator Unit).Accepts limit v := by
  rw [Operator.accepts_iff_of_readings rfl, Operator.Holds, accepts_among_iff]

theorem accepts_allOf_iff : (Operator.allOf S : Operator Unit).Accepts limit v ↔
    ∃ items, v = some (.array items) ∧ ∀ s ∈ S, ∃ item ∈ items, item.equals s = true := by
  rw [Operator.accepts_iff_of_readings rfl, Operator.Holds]

theorem accepts_someOf_iff : (Operator.someOf S : Operator Unit).Accepts limit v ↔
    ∃ items, v = some (.array items) ∧ ∃ item ∈ items, ∃ s ∈ S, s.equals item = true := by
  rw [Operator.accepts_iff_of_readings rfl, Operator.Holds]

/-- Of an array, the last two say this: -/
theorem array_accepts_allOf_iff :
    (Operator.allOf S : Operator Unit).Accepts limit (some (.array items)) ↔
      ∀ s ∈ S, ∃ item ∈ items, item.equals s = true := by
  simp only [accepts_allOf_iff, Option.some.injEq, Value.array.injEq, exists_eq_left']

/-- that each member has its equal, and that one of them has. -/
theorem array_accepts_someOf_iff :
    (Operator.someOf S : Operator Unit).Accepts limit (some (.array items)) ↔
      ∃ item ∈ items, ∃ s ∈ S, s.equals item = true := by
  simp only [accepts_someOf_iff, Option.some.injEq, Value.array.injEq, exists_eq_left']

/-! ## Sets in two pieces -/

theorem among_append_iff : x.Among (S ++ T) ↔ x.Among S ∨ x.Among T := by
  simp only [Value.Among, List.mem_append, or_and_right, exists_or, and_or_left]
  exact or_or_or_comm

theorem accepts_among_append_iff : (Operator.among (S ++ T) : Operator Unit).Accepts limit v ↔
    (Operator.among S : Operator Unit).Accepts limit v ∨
      (Operator.among T : Operator Unit).Accepts limit v := by
  simp only [accepts_among_iff, among_append_iff, and_or_left, exists_or]

theorem accepts_allOf_append_iff : (Operator.allOf (S ++ T) : Operator Unit).Accepts limit v ↔
    (Operator.allOf S : Operator Unit).Accepts limit v ∧
      (Operator.allOf T : Operator Unit).Accepts limit v := by
  simp only [accepts_allOf_iff, List.forall_mem_append]
  constructor
  · rintro ⟨items, hv, hS, hT⟩
    exact ⟨⟨items, hv, hS⟩, items, hv, hT⟩
  · rintro ⟨⟨items, hv, hS⟩, items', hv', hT⟩
    -- it is one array in which both pieces are
    obtain rfl : items = items' := by simpa [hv] using hv'
    exact ⟨items, hv, hS, hT⟩

theorem accepts_someOf_append_iff : (Operator.someOf (S ++ T) : Operator Unit).Accepts limit v ↔
    (Operator.someOf S : Operator Unit).Accepts limit v ∨
      (Operator.someOf T : Operator Unit).Accepts limit v := by
  simp only [accepts_someOf_iff, List.mem_append, or_and_right, exists_or, and_or_left]

/-! ## Either direction -/

/-- In which direction an equal is looked for makes no difference. -/
theorem exists_equal_comm (hx : x.WellFormed) (hS : ∀ s ∈ S, s.WellFormed) :
    (∃ s ∈ S, s.equals x = true) ↔ ∃ s ∈ S, x.equals s = true := by
  refine exists_congr fun s => and_congr_right fun hs => ?_
  rw [Value.equals_comm (hS s hs) hx]

/-- **An equal pair** is found from either side. -/
theorem exists_equal_pair_comm (hS : ∀ s ∈ S, s.WellFormed)
    (hitems : ∀ item ∈ items, item.WellFormed) :
    (∃ item ∈ items, ∃ s ∈ S, s.equals item = true) ↔
      ∃ s ∈ S, ∃ item ∈ items, item.equals s = true := by
  constructor
  · rintro ⟨item, hitem, s, hs, heq⟩
    have heq' : item.equals s = true := Value.equals_symm (hS s hs) (hitems item hitem) heq
    exact ⟨s, hs, item, hitem, heq'⟩
  · rintro ⟨s, hs, item, hitem, heq⟩
    have heq' : s.equals item = true := Value.equals_symm (hitems item hitem) (hS s hs) heq
    exact ⟨item, hitem, s, hs, heq'⟩

/-- A value is among a set if it equals a member, or has an item that does. -/
theorem accepts_among_iff_eq (hS : ∀ s ∈ S, s.WellFormed) (hv : ∀ y, v = some y → y.WellFormed) :
    (Operator.among S : Operator Unit).Accepts limit v ↔
      (∃ s ∈ S, (Operator.eq s : Operator Unit).Accepts limit v) ∨
      ∃ items, v = some (.array items) ∧
        ∃ item ∈ items, ∃ s ∈ S, (Operator.eq s : Operator Unit).Accepts limit (some item) := by
  have hitems (items : List Value) (h : v = some (.array items)) :
      ∀ item ∈ items, item.WellFormed :=
    Value.wellFormed_array.1 (hv _ h)
  simp only [accepts_among_iff, accepts_eq_iff, Option.some.injEq, exists_eq_left']
  constructor
  · rintro ⟨y, rfl, hy⟩
    rcases hy with hmember | ⟨items, rfl, item, hitem, hmember⟩
    · obtain ⟨s, hs, heq⟩ := (exists_equal_comm (hv y rfl) hS).1 hmember
      exact .inl ⟨s, hs, y, rfl, heq⟩
    · have hequal := (exists_equal_comm (hitems _ rfl item hitem) hS).1 hmember
      exact .inr ⟨items, rfl, item, hitem, hequal⟩
  · rintro (⟨s, hs, y, rfl, heq⟩ | ⟨items, rfl, item, hitem, hmember⟩)
    · exact ⟨y, rfl, .inl ((exists_equal_comm (hv y rfl) hS).2 ⟨s, hs, heq⟩)⟩
    · exact ⟨_, rfl, .inr ⟨items, rfl, item, hitem,
        (exists_equal_comm (hitems _ rfl item hitem) hS).2 hmember⟩⟩

/-- Some of a set is in an array if all of the set of one of its members is, -/
theorem array_accepts_someOf_iff_allOf (hS : ∀ s ∈ S, s.WellFormed)
    (hitems : ∀ item ∈ items, item.WellFormed) :
    (Operator.someOf S : Operator Unit).Accepts limit (some (.array items)) ↔
      ∃ s ∈ S, (Operator.allOf [s] : Operator Unit).Accepts limit (some (.array items)) := by
  simp only [array_accepts_someOf_iff, array_accepts_allOf_iff, List.forall_mem_singleton]
  exact exists_equal_pair_comm hS hitems

/-- and the array and the set may be exchanged. -/
theorem array_accepts_someOf_comm (hS : ∀ s ∈ S, s.WellFormed)
    (hitems : ∀ item ∈ items, item.WellFormed) :
    (Operator.someOf S : Operator Unit).Accepts limit (some (.array items)) ↔
      (Operator.someOf items : Operator Unit).Accepts limit (some (.array S)) := by
  simp only [array_accepts_someOf_iff]
  exact exists_equal_pair_comm hS hitems

/-- An array is among a set if some of the set is in it, or if it is a member
as a whole. -/
theorem array_accepts_among_iff (hS : ∀ s ∈ S, s.WellFormed)
    (hitems : ∀ item ∈ items, item.WellFormed) :
    (Operator.among S : Operator Unit).Accepts limit (some (.array items)) ↔
      (Operator.someOf S : Operator Unit).Accepts limit (some (.array items)) ∨
        ∃ s ∈ S, (Value.array items).equals s = true := by
  have harray : (Value.array items).WellFormed := Value.wellFormed_array.2 hitems
  rw [accepts_among_iff, array_accepts_someOf_iff, or_comm, ← exists_equal_comm harray hS]
  simp only [Option.some.injEq, exists_eq_left', Value.Among, Value.array.injEq]

/-! ## The algebra -/

/-- **The set operators form one algebra**, on values present and absent.

* A value is among a set in two pieces if it is among one of them, all of the
  set is in it if all of both pieces is, and some of the set if some of one is.
* It is not among a set if it is not.
* It is among a set if it equals a member, or is an array with an item that
  does.
* Some of a set is in an array if all of the set of one of the members is, and
  if some of the array is in the set as an array; and an array is among a set if
  some of the set is in it, or if it equals a member as a whole.
* No absent value is accepted but as one that is not among a set, and of the
  other values only arrays have all or some of a set in them.

The keys of a document are distinct by its type, which is what is asked of the
values where two of them are compared. -/
theorem set_operators_one_algebra (limit : Nat) :
    let accepts (op : Operator Unit) (v : Option Value) : Prop := op.Accepts limit v
    (∀ S T v, (accepts (.among (S ++ T)) v ↔ accepts (.among S) v ∨ accepts (.among T) v) ∧
      (accepts (.allOf (S ++ T)) v ↔ accepts (.allOf S) v ∧ accepts (.allOf T) v) ∧
      (accepts (.someOf (S ++ T)) v ↔ accepts (.someOf S) v ∨ accepts (.someOf T) v)) ∧
    (∀ S v, accepts (.notAmong S) v ↔ ¬ accepts (.among S) v) ∧
    (∀ S v, (∀ s ∈ S, s.WellFormed) → (∀ x, v = some x → x.WellFormed) →
      (accepts (.among S) v ↔ (∃ s ∈ S, accepts (.eq s) v) ∨
        ∃ items, v = some (.array items) ∧
          ∃ item ∈ items, ∃ s ∈ S, accepts (.eq s) (some item))) ∧
    (∀ S items, (∀ s ∈ S, s.WellFormed) → (∀ item ∈ items, item.WellFormed) →
      (accepts (.someOf S) (some (.array items)) ↔
        ∃ s ∈ S, accepts (.allOf [s]) (some (.array items))) ∧
      (accepts (.among S) (some (.array items)) ↔ accepts (.someOf S) (some (.array items)) ∨
        ∃ s ∈ S, (Value.array items).equals s = true) ∧
      (accepts (.someOf S) (some (.array items)) ↔ accepts (.someOf items) (some (.array S)))) ∧
    (∀ S, ¬ accepts (.among S) none ∧ ¬ accepts (.allOf S) none ∧ ¬ accepts (.someOf S) none) ∧
    ∀ S x, (∀ items, x ≠ .array items) →
      ¬ accepts (.allOf S) (some x) ∧ ¬ accepts (.someOf S) (some x) := by
  intro accepts
  refine ⟨fun S T v => ⟨accepts_among_append_iff, accepts_allOf_append_iff,
    accepts_someOf_append_iff⟩, fun S v => accepts_notAmong_iff, fun S v => accepts_among_iff_eq,
    fun S items hS hitems => ⟨array_accepts_someOf_iff_allOf hS hitems,
      array_accepts_among_iff hS hitems, array_accepts_someOf_comm hS hitems⟩, ?_, ?_⟩
  · intro S
    simp [accepts, accepts_among_iff, accepts_allOf_iff, accepts_someOf_iff]
  · intro S x hx
    simp [accepts, accepts_allOf_iff, accepts_someOf_iff, hx]

/-- Marks that a teacher has given, one of them missing and one a list, -/
def marks : List Value := [.double ⟨0x7ff8000000000000⟩, .array [.int64 1], .null]

/-- and marks to look for, one of them twice. -/
def soughtMarks : List Value := [.array [.double .one], .array marks, .array [.double .one]]

/-- The list of a single mark is found whatever kind of number it holds, so that
some of the marks are, either way round. The missing mark equals nothing, nor
do the marks as a whole equal themselves: they are among those that are sought
by one of them alone. -/
theorem single_mark_found :
    let accepts (op : Operator Unit) (v : Option Value) : Prop := op.Accepts 1048576 v
    (∀ s ∈ soughtMarks, s.WellFormed) ∧ (∀ mark ∈ marks, mark.WellFormed) ∧
      accepts (.someOf soughtMarks) (some (.array marks)) ∧
      accepts (.allOf [.array [.double .one]]) (some (.array marks)) ∧
      accepts (.someOf marks) (some (.array soughtMarks)) ∧
      accepts (.among soughtMarks) (some (.array marks)) ∧
      ¬ accepts (.notAmong soughtMarks) (some (.array marks)) ∧
      (∀ s ∈ soughtMarks, ¬ accepts (.eq s) (some (.array marks))) ∧
      (∃ mark ∈ marks, ∃ s ∈ soughtMarks, accepts (.eq s) (some mark)) ∧
      (∀ x, Value.int32 1 ≠ .array x) ∧ ¬ accepts (.someOf soughtMarks) (some (.int32 1)) := by
  intro accepts
  obtain ⟨-, hnot, hmembers, harrays, -, hothers⟩ := set_operators_one_algebra 1048576
  have hmarks : ∀ mark ∈ marks, mark.WellFormed := by
    simp [marks, Value.WellFormed, Value.AllWellFormed]
  have hsought : ∀ s ∈ soughtMarks, s.WellFormed := by
    simp [soughtMarks, marks, Value.WellFormed, Value.AllWellFormed]
  obtain ⟨hall, hamong, hcomm⟩ := harrays soughtMarks marks hsought hmarks
  have hone : accepts (.allOf [.array [.double .one]]) (some (.array marks)) :=
    array_accepts_allOf_iff.2 (List.forall_mem_singleton.2
      ⟨.array [.int64 1], List.mem_cons_of_mem _ List.mem_cons_self, by decide⟩)
  have hsome : accepts (.someOf soughtMarks) (some (.array marks)) :=
    hall.2 ⟨_, List.mem_cons_self, hone⟩
  have hfound : accepts (.among soughtMarks) (some (.array marks)) := hamong.2 (.inl hsome)
  have hunequal : ∀ s ∈ soughtMarks, ¬ accepts (.eq s) (some (.array marks)) := by
    simp only [accepts, accepts_eq_iff, Option.some.injEq, exists_eq_left']
    decide
  have hwhole : ∀ x, some (Value.array marks) = some x → x.WellFormed := by
    rintro x ⟨⟩
    exact Value.wellFormed_array.2 hmarks
  have hitem : ∃ mark ∈ marks, ∃ s ∈ soughtMarks, accepts (.eq s) (some mark) := by
    rcases (hmembers soughtMarks _ hsought hwhole).1 hfound with ⟨s, hs, heq⟩ | ⟨items, ⟨⟩, hitem⟩
    · exact absurd heq (hunequal s hs)
    · exact hitem
  have hinteger : ∀ x, Value.int32 1 ≠ .array x := by
    intro x h
    cases h
  exact ⟨hsought, hmarks, hsome, hone, hcomm.1 hsome, hfound,
    fun hnone => (hnot soughtMarks _).1 hnone hfound, hunequal, hitem, hinteger,
    (hothers soughtMarks (.int32 1) hinteger).2⟩

end DocQuery
