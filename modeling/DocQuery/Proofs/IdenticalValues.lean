import DocQuery.Proofs.Amounts
import DocQuery.Proofs.KeyedLists
import DocQuery.Proofs.Nesting
/-!
# Identical values

Values are identical if they are of the same kind and have the same contents;
for documents the order of the keys does not count. Whether they are is
decided one level at a time (`Value.identical_iff`): the values within are
identical as well, item by item in arrays and under the same keys in
documents. So by induction over the nesting of values, identity is symmetric
and transitive, and a value is identical to itself unless a NaN occurs in it.
-/


namespace DocQuery

/-! ## Doubles -/

namespace Double

variable {x y z : Double}

/-- Doubles are equal if they are no NaNs and have one value. -/
theorem numEq_iff : x.numEq y = true ↔
    x.isNaN = false ∧ y.isNaN = false ∧ x.scaled = y.scaled := by
  rw [numEq, compare?, beq_iff_eq]
  cases x.isNaN with
  | true => simp
  | false =>
    cases y.isNaN with
    | true => simp
    | false => simp

theorem numEq_symm (h : x.numEq y = true) : y.numEq x = true := by
  rw [numEq_iff] at h ⊢
  exact ⟨h.2.1, h.1, h.2.2.symm⟩

theorem numEq_trans (hxy : x.numEq y = true) (hyz : y.numEq z = true) : x.numEq z = true := by
  rw [numEq_iff] at hxy hyz ⊢
  exact ⟨hxy.1, hyz.2.1, hxy.2.2.trans hyz.2.2⟩

theorem numEq_self_iff : x.numEq x = true ↔ x.isNaN = false := by
  simp [numEq_iff]

end Double

namespace Value

variable {a b c : Value} {r s : Value → Value → Prop}

/-! ## One level -/

/-- A value that is compared with nothing within it, and bit by bit. -/
def Plain : Value → Prop
  | .double _ | .array _ | .document _ | .codeWithScope _ _ => False
  | _ => True

/-- Values that are identical if the related ones within them are. -/
inductive IdenticalBy (r : Value → Value → Prop) : Value → Value → Prop
  | plain {v : Value} : v.Plain → IdenticalBy r v v
  | double {x y : Double} : x.numEq y = true → IdenticalBy r (.double x) (.double y)
  | array {as bs : List Value} : List.Forall₂ r as bs → IdenticalBy r (.array as) (.array bs)
  | document {d e : List (String × Value)} : Entries.Agree r d e →
      IdenticalBy r (.document d) (.document e)
  | codeWithScope {source : String} {d e : List (String × Value)} : Entries.Agree r d e →
      IdenticalBy r (.codeWithScope source d) (.codeWithScope source e)

namespace IdenticalBy

variable {x y : Double} {as bs : List Value} {d e : List (String × Value)} {source : String}

theorem double_iff : IdenticalBy r (.double x) (.double y) ↔ x.numEq y = true := by
  refine ⟨fun h => ?_, .double⟩
  cases h with
  | plain hplain => exact hplain.elim
  | double hxy => exact hxy

theorem array_iff : IdenticalBy r (.array as) (.array bs) ↔ List.Forall₂ r as bs := by
  refine ⟨fun h => ?_, .array⟩
  cases h with
  | plain hplain => exact hplain.elim
  | array hitems => exact hitems

theorem document_iff : IdenticalBy r (.document d) (.document e) ↔ Entries.Agree r d e := by
  refine ⟨fun h => ?_, .document⟩
  cases h with
  | plain hplain => exact hplain.elim
  | document hagree => exact hagree

theorem codeWithScope_iff : IdenticalBy r (.codeWithScope source d) (.codeWithScope source e) ↔
    Entries.Agree r d e := by
  refine ⟨fun h => ?_, .codeWithScope⟩
  cases h with
  | plain hplain => exact hplain.elim
  | codeWithScope hagree => exact hagree

/-- What follows for the values within two values follows for the two. -/
theorem imp (h : IdenticalBy r a b) (himp : ∀ v ∈ a.contents, ∀ w ∈ b.contents, r v w → s v w) :
    IdenticalBy s a b := by
  have hentries {d e : List (String × Value)}
      (himp : ∀ v ∈ d.map (·.2), ∀ w ∈ e.map (·.2), r v w → s v w) (x : String × Value)
      (hx : x ∈ d) (y : String × Value) (hy : y ∈ e) : r x.2 y.2 → s x.2 y.2 :=
    himp _ (List.mem_map_of_mem hx) _ (List.mem_map_of_mem hy)
  cases h with
  | plain hplain => exact .plain hplain
  | double hxy => exact .double hxy
  | array hitems => exact .array (forall₂_imp_of_mem hitems himp)
  | document hagree => exact .document (hagree.imp (hentries himp))
  | codeWithScope hagree => exact .codeWithScope (hagree.imp (hentries himp))

theorem symm (h : IdenticalBy r a b) : IdenticalBy (fun w v => r v w) b a := by
  cases h with
  | plain hplain => exact .plain hplain
  | double hxy => exact .double (Double.numEq_symm hxy)
  | array hitems => exact .array (List.Forall₂.flip hitems)
  | document hagree => exact .document hagree.symm
  | codeWithScope hagree => exact .codeWithScope hagree.symm

theorem comp (h : IdenticalBy r a b) (h' : IdenticalBy s b c) :
    IdenticalBy (Relation.Comp r s) a c := by
  cases h with
  | plain hplain =>
    cases h' with
    | plain => exact .plain hplain
    | double | array | document | codeWithScope => exact hplain.elim
  | double hxy =>
    cases h' with
    | plain hplain => exact hplain.elim
    | double hyz => exact .double (Double.numEq_trans hxy hyz)
  | array hitems =>
    cases h' with
    | plain hplain => exact hplain.elim
    | array hitems' => exact .array (forall₂_comp hitems hitems')
  | document hagree =>
    cases h' with
    | plain hplain => exact hplain.elim
    | document hagree' => exact .document (hagree.comp hagree')
  | codeWithScope hagree =>
    cases h' with
    | plain hplain => exact hplain.elim
    | codeWithScope hagree' => exact .codeWithScope (hagree.comp hagree')

/-- A well-formed value is identical to itself if it is no NaN and the values
within it are. -/
theorem self_iff (ha : a.WellFormed) :
    IdenticalBy r a a ↔ ¬ a.IsNaN ∧ ∀ v ∈ a.contents, r v v := by
  have hentries {d : List (String × Value)} (hd : (Entries.keys d).Nodup) :
      Entries.Agree r d d ↔ ∀ v ∈ d.map (·.2), r v v := by
    rw [Entries.Agree.self_iff hd, List.forall_mem_map]
  cases a with
  | double x =>
    rw [double_iff, Double.numEq_self_iff, not_isNaN_double_iff, iff_self_and]
    exact fun _ => nofun
  | array items =>
    rw [array_iff, List.forall₂_same]
    exact (and_iff_right nofun).symm
  | document d =>
    rw [document_iff, hentries (wellFormed_document.1 ha).1]
    exact (and_iff_right nofun).symm
  | codeWithScope source d =>
    rw [codeWithScope_iff, hentries (wellFormed_codeWithScope.1 ha).1]
    exact (and_iff_right nofun).symm
  | _ => exact iff_of_true (.plain trivial) ⟨nofun, nofun⟩

end IdenticalBy

/-! ## Identity, one level at a time -/

theorem identicalItems_iff {as bs : List Value} : identicalItems as bs = true ↔
    List.Forall₂ (fun v w => identical v w = true) as bs := by
  induction as generalizing bs with
  | nil => cases bs <;> simp [identicalItems]
  | cons v as ih =>
    cases bs with
    | nil => simp [identicalItems]
    | cons w bs => rw [identicalItems, Bool.and_eq_true, ih, List.forall₂_cons]

theorem identicalEntries_iff {d e : List (String × Value)} : identicalEntries d e = true ↔
    ∀ x ∈ d, ∃ w, Entries.get? x.1 e = some w ∧ identical x.2 w = true := by
  induction d with
  | nil => simp [identicalEntries]
  | cons x rest ih =>
    obtain ⟨key, v⟩ := x
    rw [identicalEntries, Bool.and_eq_true, ih, List.forall_mem_cons]
    cases Entries.get? key e with
    | none => simp
    | some w => simp

theorem agree_iff_identicalEntries {d e : List (String × Value)} (hd : (Entries.keys d).Nodup)
    (he : (Entries.keys e).Nodup) :
    Entries.Agree (fun v w => identical v w = true) d e ↔
      (d.length == e.length && identicalEntries d e) = true := by
  rw [Entries.Agree.iff_found hd he, Bool.and_eq_true, beq_iff_eq, identicalEntries_iff]

/-- **Values are identical** if they are of one kind, and the values within them
are identical, in arrays in the same places and in documents under the same
keys. -/
theorem identical_iff (ha : a.WellFormed) (hb : b.WellFormed) :
    identical a b = true ↔ IdenticalBy (fun v w => identical v w = true) a b := by
  constructor
  · fun_cases identical a b with
    | case8 x y => exact .double
    | case12 source d source' e =>
      intro h
      obtain ⟨hsource, hentries⟩ := (Bool.and_eq_true _ _).mp h
      obtain rfl := beq_iff_eq.1 hsource
      exact .codeWithScope ((agree_iff_identicalEntries (wellFormed_codeWithScope.1 ha).1
        (wellFormed_codeWithScope.1 hb).1).2 hentries)
    | case20 as bs => exact fun h => .array (identicalItems_iff.1 h)
    | case21 d e =>
      exact fun h => .document ((agree_iff_identicalEntries (wellFormed_document.1 ha).1
        (wellFormed_document.1 hb).1).2 h)
    | case22 => exact fun hdifferent => absurd hdifferent Bool.false_ne_true
    | case1 | case2 | case3 | case4 => exact fun _ => .plain trivial
    | _ =>
      -- of one kind, and level in all that is compared
      intro h
      simp only [Bool.and_eq_true, beq_iff_eq] at h
      simp only [h]
      exact .plain trivial
  · intro h
    cases h with
    | plain hplain => cases a <;> first | exact hplain.elim | simp [identical]
    | double hxy => exact hxy
    | array hitems => exact identicalItems_iff.2 hitems
    | document hagree =>
      exact (agree_iff_identicalEntries (wellFormed_document.1 ha).1
        (wellFormed_document.1 hb).1).1 hagree
    | @codeWithScope source d e hagree =>
      have hentries := (agree_iff_identicalEntries (wellFormed_codeWithScope.1 ha).1
        (wellFormed_codeWithScope.1 hb).1).1 hagree
      rw [identical, hentries, beq_self_eq_true]
      rfl

/-! ## Identity -/

/-- **Identity is symmetric**, by induction over the nesting of values. -/
theorem identical_symm (ha : a.WellFormed) (hb : b.WellFormed) (h : identical a b = true) :
    identical b a = true := by
  induction a using contents_induction generalizing b with
  | h a ih =>
    rw [identical_iff ha hb] at h
    rw [identical_iff hb ha]
    exact h.symm.imp fun w hw v hv hvw =>
      ih v hv (ha.of_mem_contents hv) (hb.of_mem_contents hw) hvw

/-- **Identity is transitive**. -/
theorem identical_trans (ha : a.WellFormed) (hb : b.WellFormed) (hc : c.WellFormed)
    (hab : identical a b = true) (hbc : identical b c = true) : identical a c = true := by
  induction a using contents_induction generalizing b c with
  | h a ih =>
    rw [identical_iff ha hb] at hab
    rw [identical_iff hb hc] at hbc
    rw [identical_iff ha hc]
    -- the values in between are well-formed too
    have hbetween := hab.imp (s := fun v w => w.WellFormed ∧ identical v w = true)
      fun v _ w hw hvw => ⟨hb.of_mem_contents hw, hvw⟩
    refine (hbetween.comp hbc).imp fun v hv u hu hvu => ?_
    obtain ⟨w, ⟨hw, hvw⟩, hwu⟩ := hvu
    exact ih v hv (ha.of_mem_contents hv) hw (hc.of_mem_contents hu) hvw hwu

/-- **A value is identical to itself** unless a NaN occurs in it. -/
theorem identical_self_iff (ha : a.WellFormed) :
    identical a a = true ↔ ∀ w : Value, w.Contained a → ¬ w.IsNaN := by
  induction a using contents_induction with
  | h a ih =>
    rw [identical_iff ha ha, IdenticalBy.self_iff ha, forall_contained_iff]
    exact and_congr_right' (forall₂_congr fun v hv => ih v hv (ha.of_mem_contents hv))

end Value

end DocQuery
