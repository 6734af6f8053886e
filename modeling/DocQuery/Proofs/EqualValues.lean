import DocQuery.Proofs.ExactComparison
import DocQuery.Proofs.IdenticalValues
/-!
# Equal values

The equality of queries, one level at a time (`Value.equals_iff`): numbers are
level, arrays are equal item by item and documents entry by entry, and all
else is identical. It is symmetric. A value equals itself unless a NaN occurs
in it. It is transitive as long as integers are small enough to be doubles:
numbers are equal then if they have one amount, and a larger integer may be
rounded to what another one is rounded to (`equals_equivalence`).
-/


namespace DocQuery

namespace Value

variable {a b c : Value} {r s : Value → Value → Prop}

/-! ## Numbers -/

/-- Every integer of sixty-four bits that occurs in a value is at most two to
the power of fifty-three, or at least minus that. -/
def SmallIntegers (v : Value) : Prop :=
  ∀ w : Value, w.Contained v → ∀ n : Int64, w = .int64 n → n.toInt.natAbs ≤ 2 ^ 53

theorem SmallIntegers.of_mem_contents {v w : Value} (h : v.SmallIntegers) (hw : w ∈ v.contents) :
    w.SmallIntegers := fun u hu => h u (.within hw hu)

/-- Small integers are no other numbers rounded. -/
theorem SmallIntegers.not_blurred (ha : a.SmallIntegers) (hb : b.SmallIntegers) : ¬ a.Blurred b := by
  intro h
  obtain ⟨-, n, x, ⟨rfl, -⟩ | ⟨-, rfl⟩, hbig, -⟩ := h.integer_and_double
  · have := ha _ (.self _) n rfl
    omega
  · have := hb _ (.self _) n rfl
    omega

/-- What is level with a number is a number. -/
theorem number?_of_level (h : a.numberOrder? b = some .eq) : a.number? ≠ none ∧ b.number? ≠ none := by
  obtain ⟨m, hm, h⟩ := Option.bind_eq_some_iff.1 h
  obtain ⟨n, hn, -⟩ := Option.bind_eq_some_iff.1 h
  exact ⟨by simp [hm], by simp [hn]⟩

theorem level_symm (h : a.numberOrder? b = some .eq) : b.numberOrder? a = some .eq := by
  rw [numberOrder?_swap, h]
  rfl

/-- **Numbers with small integers are level if they have one amount**, so that
what is level with one number is level. -/
theorem level_trans (ha : a.SmallIntegers) (hb : b.SmallIntegers) (hc : c.SmallIntegers)
    (hab : a.numberOrder? b = some .eq) (hbc : b.numberOrder? c = some .eq) :
    a.numberOrder? c = some .eq := by
  have hnumbers := number?_of_level hab
  have hlevel {v w : Value} (hv : v.number? ≠ none) :
      v.equals w = true ↔ v.numberOrder? w = some .eq := by
    rw [equals_of_number (.inl hv), beq_iff_eq]
  rw [← hlevel hnumbers.1] at hab ⊢
  rw [← hlevel hnumbers.2] at hbc
  cases hp : b.amount? with
  | none =>
    rw [(not_equals_of_amount?_none hp hnumbers.2 c).1] at hbc
    cases hbc
  | some p =>
    have hap : a.amount? = some p := (equals_iff_amount? hp (hb.not_blurred ha)).2.1 hab
    have hcp : c.amount? = some p := (equals_iff_amount? hp (hb.not_blurred hc)).1.1 hbc
    exact (equals_iff_amount? hap (ha.not_blurred hc)).1.2 hcp

/-! ## One level -/

/-- A value that is compared as a whole: no number, array or document. -/
def Whole : Value → Prop
  | .int32 _ | .int64 _ | .double _ | .array _ | .document _ => False
  | _ => True

/-- Values that are equal if the related ones within them are. -/
inductive EqualBy (r : Value → Value → Prop) : Value → Value → Prop
  | numbers {a b : Value} : a.numberOrder? b = some .eq → EqualBy r a b
  | array {as bs : List Value} : List.Forall₂ r as bs → EqualBy r (.array as) (.array bs)
  | document {d e : List (String × Value)} : Entries.Alike r d e →
      EqualBy r (.document d) (.document e)
  | whole {a b : Value} : a.Whole → b.Whole → identical a b = true → EqualBy r a b

/-- A whole value is no number. -/
theorem number?_of_whole (ha : a.Whole) : a.number? = none := by
  cases a with
  | int32 | int64 | double => exact ha.elim
  | _ => rfl

namespace EqualBy

variable {x y : Double} {as bs : List Value} {d e : List (String × Value)}

theorem double_iff : EqualBy r (.double x) (.double y) ↔ x.numEq y = true := by
  rw [Double.numEq, beq_iff_eq]
  refine ⟨fun h => ?_, fun hlevel => .numbers hlevel⟩
  cases h with
  | numbers hlevel => exact hlevel
  | whole hwhole => exact hwhole.elim

theorem array_iff : EqualBy r (.array as) (.array bs) ↔ List.Forall₂ r as bs := by
  refine ⟨fun h => ?_, .array⟩
  cases h with
  | numbers hlevel => cases hlevel
  | array hitems => exact hitems
  | whole hwhole => exact hwhole.elim

theorem document_iff : EqualBy r (.document d) (.document e) ↔ Entries.Alike r d e := by
  refine ⟨fun h => ?_, .document⟩
  cases h with
  | numbers hlevel => cases hlevel
  | document halike => exact halike
  | whole hwhole => exact hwhole.elim

/-- What follows for the values within two values follows for the two. -/
theorem imp (h : EqualBy r a b) (himp : ∀ v ∈ a.contents, ∀ w ∈ b.contents, r v w → s v w) :
    EqualBy s a b := by
  cases h with
  | numbers hlevel => exact .numbers hlevel
  | array hitems => exact .array (forall₂_imp_of_mem hitems himp)
  | document halike =>
    exact .document (halike.imp fun x hx y hy =>
      himp _ (List.mem_map_of_mem hx) _ (List.mem_map_of_mem hy))
  | whole ha hb hsame => exact .whole ha hb hsame

theorem symm (ha : a.WellFormed) (hb : b.WellFormed) (h : EqualBy r a b) :
    EqualBy (fun w v => r v w) b a := by
  cases h with
  | numbers hlevel => exact .numbers (level_symm hlevel)
  | array hitems => exact .array (List.Forall₂.flip hitems)
  | document halike => exact .document halike.symm
  | whole hwa hwb hsame => exact .whole hwb hwa (identical_symm ha hb hsame)

theorem comp (ha : a.SmallIntegers) (hb : b.SmallIntegers) (hc : c.SmallIntegers)
    (hwa : a.WellFormed) (hwb : b.WellFormed) (hwc : c.WellFormed) (h : EqualBy r a b)
    (h' : EqualBy s b c) : EqualBy (Relation.Comp r s) a c := by
  cases h with
  | numbers hlevel =>
    cases h' with
    | numbers hlevel' => exact .numbers (level_trans ha hb hc hlevel hlevel')
    | array | document => exact ((number?_of_level hlevel).2 rfl).elim
    | whole hb' => exact ((number?_of_level hlevel).2 (number?_of_whole hb')).elim
  | array hitems =>
    cases h' with
    | numbers hlevel' => exact ((number?_of_level hlevel').1 rfl).elim
    | array hitems' => exact .array (forall₂_comp hitems hitems')
    | whole hb' => exact hb'.elim
  | document halike =>
    cases h' with
    | numbers hlevel' => exact ((number?_of_level hlevel').1 rfl).elim
    | document halike' => exact .document (halike.comp halike')
    | whole hb' => exact hb'.elim
  | whole ha' hb' hsame =>
    cases h' with
    | numbers hlevel' => exact ((number?_of_level hlevel').1 (number?_of_whole hb')).elim
    | array | document => exact hb'.elim
    | whole _ hc' hsame' => exact .whole ha' hc' (identical_trans hwa hwb hwc hsame hsame')

/-- A value that is not compared as a whole equals itself if it is no NaN and
the values within it do. -/
theorem self_iff (ha : ¬ a.Whole) : EqualBy r a a ↔ ¬ a.IsNaN ∧ ∀ v ∈ a.contents, r v v := by
  cases a with
  | int32 n | int64 n =>
    exact iff_of_true (.numbers (congrArg some (compare_eq_iff_eq.2 rfl))) ⟨nofun, nofun⟩
  | double x =>
    rw [double_iff, Double.numEq_self_iff, not_isNaN_double_iff, iff_self_and]
    exact fun _ => nofun
  | array items =>
    rw [array_iff, List.forall₂_same]
    exact (and_iff_right nofun).symm
  | document d =>
    have hentries : (∀ v ∈ (Value.document d).contents, r v v) ↔ ∀ x ∈ d, r x.2 x.2 :=
      List.forall_mem_map
    rw [document_iff, Entries.Alike.self_iff, hentries]
    exact (and_iff_right nofun).symm
  | _ => exact (ha trivial).elim

end EqualBy

/-! ## Equality, one level at a time -/

theorem equalItems_iff {as bs : List Value} : equalItems as bs = true ↔
    List.Forall₂ (fun v w => equals v w = true) as bs := by
  induction as generalizing bs with
  | nil => cases bs <;> simp [equalItems]
  | cons v as ih =>
    cases bs with
    | nil => simp [equalItems]
    | cons w bs => rw [equalItems, Bool.and_eq_true, ih, List.forall₂_cons]

theorem equalEntries_iff {d e : List (String × Value)} : equalEntries d e = true ↔
    Entries.Alike (fun v w => equals v w = true) d e := by
  rw [Entries.Alike]
  induction d generalizing e with
  | nil => cases e <;> simp [equalEntries]
  | cons x d ih =>
    cases e with
    | nil => simp [equalEntries]
    | cons y e =>
      rw [equalEntries, Bool.and_eq_true, Bool.and_eq_true, beq_iff_eq, ih, List.forall₂_cons,
        and_assoc]

theorem equalScalars_iff : equalScalars a b = true ↔ a.numberOrder? b = some .eq ∨
    (a.number? = none ∨ b.number? = none) ∧ identical a b = true := by
  rw [equalScalars, numberOrder?]
  cases a.number? with
  | none => simp
  | some m => cases b.number? <;> simp

/-- Identical values that are not both numbers, arrays or documents are
compared as a whole. -/
theorem whole_of_identical (harrays : ∀ as bs, a = .array as → b = .array bs → False)
    (hdocuments : ∀ d e, a = .document d → b = .document e → False)
    (hnumber : a.number? = none ∨ b.number? = none) (h : identical a b = true) :
    a.Whole ∧ b.Whole := by
  revert h
  fun_cases identical a b with
  | case6 | case7 | case8 => simp [number?] at hnumber
  | case20 as bs => exact (harrays as bs rfl rfl).elim
  | case21 d e => exact (hdocuments d e rfl rfl).elim
  | case22 => exact fun hdifferent => absurd hdifferent Bool.false_ne_true
  | _ => exact fun _ => ⟨trivial, trivial⟩

/-- Whole values are equal if they are identical. -/
theorem equals_of_whole (ha : a.Whole) : a.equals b = identical a b := by
  fun_cases equals a b with
  | case1 | case2 => exact ha.elim
  | case3 => rw [equalScalars, number?_of_whole ha]

/-- **Values are equal** if they are level numbers, if the values within them
are equal, in arrays in the same places and in documents under the same keys in
the same order, or if they are identical. -/
theorem equals_iff : a.equals b = true ↔ EqualBy (fun v w => v.equals w = true) a b := by
  constructor
  · fun_cases equals a b with
    | case1 as bs => exact fun h => .array (equalItems_iff.1 h)
    | case2 d e => exact fun h => .document (equalEntries_iff.1 h)
    | case3 _ _ harrays hdocuments =>
      intro h
      rcases equalScalars_iff.1 h with hlevel | ⟨hnumber, hsame⟩
      · exact .numbers hlevel
      · obtain ⟨ha, hb⟩ := whole_of_identical harrays hdocuments hnumber hsame
        exact .whole ha hb hsame
  · intro h
    cases h with
    | numbers hlevel => rw [equals_of_number (.inl (number?_of_level hlevel).1), hlevel]; rfl
    | array hitems => exact equalItems_iff.2 hitems
    | document halike => exact equalEntries_iff.2 halike
    | whole ha _ hsame => rw [equals_of_whole ha, hsame]

/-! ## Equality -/

/-- **Equality is symmetric**, by induction over the nesting of values. -/
theorem equals_symm (ha : a.WellFormed) (hb : b.WellFormed) (h : a.equals b = true) :
    b.equals a = true := by
  induction a using contents_induction generalizing b with
  | h a ih =>
    rw [equals_iff] at h ⊢
    exact (h.symm ha hb).imp fun w hw v hv hvw =>
      ih v hv (ha.of_mem_contents hv) (hb.of_mem_contents hw) hvw

theorem equals_comm (ha : a.WellFormed) (hb : b.WellFormed) : a.equals b = b.equals a :=
  Bool.eq_iff_iff.2 ⟨equals_symm ha hb, equals_symm hb ha⟩

/-- **A value equals itself** unless a NaN occurs in it. -/
theorem equals_self_iff (ha : a.WellFormed) :
    a.equals a = true ↔ ∀ w : Value, w.Contained a → ¬ w.IsNaN := by
  induction a using contents_induction with
  | h a ih =>
    by_cases hwhole : a.Whole
    · rw [equals_of_whole hwhole, identical_self_iff ha]
    · rw [equals_iff, EqualBy.self_iff hwhole, forall_contained_iff]
      exact and_congr_right' (forall₂_congr fun v hv => ih v hv (ha.of_mem_contents hv))

/-- **Equality is transitive** where integers are small. -/
theorem equals_trans (ha : a.WellFormed) (hb : b.WellFormed) (hc : c.WellFormed)
    (hsa : a.SmallIntegers) (hsb : b.SmallIntegers) (hsc : c.SmallIntegers)
    (hab : a.equals b = true) (hbc : b.equals c = true) : a.equals c = true := by
  induction a using contents_induction generalizing b c with
  | h a ih =>
    rw [equals_iff] at hab hbc ⊢
    -- the values in between are well-formed and their integers small
    have hbetween := hab.imp
      (s := fun v w => (w.WellFormed ∧ w.SmallIntegers) ∧ v.equals w = true)
      fun v _ w hw hvw => ⟨⟨hb.of_mem_contents hw, hsb.of_mem_contents hw⟩, hvw⟩
    refine (hbetween.comp hsa hsb hsc ha hb hc hbc).imp fun v hv u hu hvu => ?_
    obtain ⟨w, ⟨⟨hw, hsw⟩, hvw⟩, hwu⟩ := hvu
    exact ih v hv (ha.of_mem_contents hv) hw (hc.of_mem_contents hu) (hsa.of_mem_contents hv) hsw
      (hsc.of_mem_contents hu) hvw hwu

end Value

/-- **Equality is an equivalence up to NaN and rounding.** It is symmetric, a
value equals itself unless a NaN occurs in it at any depth, in scopes of code
too, and it is transitive if no integer that occurs is larger than two to the
power of fifty-three. The keys of a document are distinct by its type, which is
what is asked of the values. -/
theorem equals_equivalence :
    (∀ a b : Value, a.WellFormed → b.WellFormed → a.equals b = b.equals a) ∧
    (∀ a : Value, a.WellFormed →
      (a.equals a = true ↔ ∀ w : Value, w.Contained a → ¬ w.IsNaN)) ∧
    ∀ a b c : Value, a.WellFormed → b.WellFormed → c.WellFormed →
      a.SmallIntegers → b.SmallIntegers → c.SmallIntegers →
      a.equals b = true → b.equals c = true → a.equals c = true :=
  ⟨fun _ _ => Value.equals_comm, fun _ => Value.equals_self_iff,
    fun _ _ _ => Value.equals_trans⟩

/-- Scopes are equal whatever the order of their keys, either way round; a NaN
in a scope makes it differ from itself; and ones of all kinds are equal. -/
theorem scopes_and_ones_equal :
    (Value.codeWithScope "f" [("x", .int32 1), ("y", .null)]).WellFormed ∧
    (Value.codeWithScope "f" [("y", .null), ("x", .int32 1)]).WellFormed ∧
    (Value.codeWithScope "f" [("y", .null), ("x", .int32 1)]).equals
      (.codeWithScope "f" [("x", .int32 1), ("y", .null)]) = true ∧
    (Value.codeWithScope "f" [("x", .double ⟨0x7ff8000000000000⟩)]).WellFormed ∧
    (Value.codeWithScope "f" [("x", .double ⟨0x7ff8000000000000⟩)]).equals
      (.codeWithScope "f" [("x", .double ⟨0x7ff8000000000000⟩)]) = false ∧
    (Value.array [.int32 1]).WellFormed ∧ (Value.array [.double .one]).WellFormed ∧
    (Value.array [.int64 1]).WellFormed ∧
    (Value.array [.int32 1]).SmallIntegers ∧ (Value.array [.double .one]).SmallIntegers ∧
    (Value.array [.int64 1]).SmallIntegers ∧
    (Value.array [.int32 1]).equals (.array [.int64 1]) = true := by
  obtain ⟨hsymm, hself, htrans⟩ := equals_equivalence
  have hscope : (Value.codeWithScope "f" [("x", .int32 1), ("y", .null)]).WellFormed := by
    simp [Entries.keys, Value.WellFormed, Value.EntriesWellFormed]
  have hscope' : (Value.codeWithScope "f" [("y", .null), ("x", .int32 1)]).WellFormed := by
    simp [Entries.keys, Value.WellFormed, Value.EntriesWellFormed]
  have hnan : (Value.codeWithScope "f" [("x", .double ⟨0x7ff8000000000000⟩)]).WellFormed := by
    simp [Entries.keys, Value.WellFormed, Value.EntriesWellFormed]
  have hitem {v : Value} (hv : v.WellFormed) : (Value.array [v]).WellFormed :=
    Value.wellFormed_array.2 (List.forall_mem_singleton.2 hv)
  have hsmall {v : Value} (hv : ∀ n : Int64, v = .int64 n → n.toInt.natAbs ≤ 2 ^ 53)
      (hflat : v.contents = []) : (Value.array [v]).SmallIntegers := by
    refine Value.forall_contained_iff.2 ⟨by simp, List.forall_mem_singleton.2 ?_⟩
    exact Value.forall_contained_iff.2 ⟨hv, by simp [hflat]⟩
  have hone : (Value.int32 1).WellFormed := by simp [Value.WellFormed]
  have hone' : (Value.double .one).WellFormed := by simp [Value.WellFormed]
  have hone'' : (Value.int64 1).WellFormed := by simp [Value.WellFormed]
  have hs : (Value.array [.int32 1]).SmallIntegers := hsmall (by simp) rfl
  have hs' : (Value.array [.double .one]).SmallIntegers := hsmall (by simp) rfl
  have hs'' : (Value.array [.int64 1]).SmallIntegers := by
    refine hsmall (fun n hn => ?_) rfl
    cases hn
    decide
  refine ⟨hscope, hscope', ?_, hnan, ?_, hitem hone, hitem hone', hitem hone'', hs, hs', hs'', ?_⟩
  · rw [hsymm _ _ hscope' hscope]
    decide
  · rw [← Bool.not_eq_true, hself _ hnan]
    intro hno
    exact hno _ (.within List.mem_cons_self (.self _)) ⟨_, rfl, by decide⟩
  · exact htrans _ _ _ (hitem hone) (hitem hone') (hitem hone'') hs hs' hs'' (by decide) (by decide)

/-- Larger integers may be rounded to one double and differ. -/
example : (Value.int64 9007199254740993).equals (.double twoPow53) = true ∧
    (Value.double twoPow53).equals (.int64 9007199254740992) = true ∧
    (Value.int64 9007199254740993).equals (.int64 9007199254740992) = false := by
  decide

end DocQuery
