import DocQuery.Proofs.Compilations
import DocQuery.Proofs.Expansion
/-!
# A condition and its complement

Two conditions complement each other if one of them denies the other, so that
of every value, present or absent, exactly one of them holds
(`Condition.Complements.holds_iff`). Their field tests need not exclude each
other, since a test looks for one value among those that its path reaches.
Which of the tests accept is a question of how many values there are. None is
reached on a starved walk, and both tests reject. One is reached where no name
meets an array (`reaches_iff_of_not_meetsArray`), and the tests exclude each
other as the conditions do. For both to accept it takes two values
(`complements_by_what_is_reached`).
-/


namespace DocQuery

variable {ι : Type} {limit : Nat}

/-! ## Conditions -/

/-- A condition and one that denies it. -/
inductive Condition.Complements : Condition ι → Condition ι → Prop
  /-- Any condition, denied by a negation. -/
  | not (c : Condition ι) : Complements c (.operators [.not c])
  | eq (v : Value) : Complements (.operators [.eq v]) (.operators [.ne v])
  | among (set : List Value) : Complements (.operators [.among set]) (.operators [.notAmong set])
  | present : Complements (.operators [.present true]) (.operators [.present false])

namespace Condition.Complements

variable {c c' : Condition ι}

/-- **One holds where the other does not**, of present and of absent
values. -/
theorem holds_iff (h : c.Complements c') {v : Option Value} :
    c'.Holds limit v ↔ ¬ c.Holds limit v := by
  cases h with
  | not c => simp only [Condition.Holds, Operator.AllHold, Operator.Holds, and_true]
  | eq _ => simp only [Condition.Holds, Operator.AllHold, Operator.Holds, and_true]
  | among _ => simp only [Condition.Holds, Operator.AllHold, Operator.Holds, and_true]
  | present => simp [Condition.Holds, Operator.AllHold, Operator.Holds]

/-- They have the same to be read. -/
theorem readings_eq (h : c.Complements c') : c'.readings = c.readings := by
  cases h with
  | not c => simp only [Condition.readings, Operator.readingsOf, Operator.readings, List.append_nil]
  | eq _ => rfl
  | among _ => rfl
  | present => rfl

end Condition.Complements

/-! ## Walks that are not divided -/

/-- A name meets an array on the walk along a path. What becomes of the walk
behind the first array that is met plays no part. -/
inductive MeetsArray : Option Root → List Segment → Prop
  | here {root : Root} {segment : Segment} {rest : List Segment} {items : List Value} :
      root.spread? segment = some items → MeetsArray (some root) (segment :: rest)
  | later {root : Root} {segment : Segment} {rest : List Segment} :
      root.spread? segment = none → MeetsArray (root.next segment) rest →
      MeetsArray (some root) (segment :: rest)

/-- **Where no name meets an array** one value is reached, the one that the
resolver finds. -/
theorem reaches_iff_of_not_meetsArray {pos : Option Root} {path : List Segment}
    (h : ¬ MeetsArray pos path) {v : Option Value} :
    Reaches pos path v ↔ v = pos.bind (·.follow path) := by
  induction path generalizing pos with
  | nil =>
    cases pos with
    | none => exact reaches_none
    | some root => exact reaches_nil
  | cons segment rest ih =>
    cases pos with
    | none => exact reaches_none
    | some root =>
      cases hspread : root.spread? segment with
      | some items => exact absurd (.here hspread) h
      | none =>
        have hnext : ¬ MeetsArray (root.next segment) rest := fun hmeets =>
          h (.later hspread hmeets)
        rw [reaches_step hspread, ih hnext, Option.bind_some, follow_cons]

/-! ## Looking for a value and for one of the other kind -/

section

variable {pos : Option Root} {path : List Segment} {P : Option Value → Prop}

/-- Neither is found if and only if nothing is reached. -/
theorem neither_found_iff :
    (¬ ∃ v, Reaches pos path v ∧ P v) ∧ (¬ ∃ v, Reaches pos path v ∧ ¬ P v) ↔
      Starved pos path := by
  rw [starved_iff]
  constructor
  · rintro ⟨hno, hnoOther⟩ v hv
    by_cases hP : P v
    · exact hno ⟨v, hv, hP⟩
    · exact hnoOther ⟨v, hv, hP⟩
  · intro hnothing
    constructor
    · rintro ⟨v, hv, -⟩
      exact hnothing v hv
    · rintro ⟨v, hv, -⟩
      exact hnothing v hv

/-- Exactly one is found where no name meets an array. -/
theorem one_found (h : ¬ MeetsArray pos path) :
    Xor (∃ v, Reaches pos path v ∧ P v) (∃ v, Reaches pos path v ∧ ¬ P v) := by
  simp only [reaches_iff_of_not_meetsArray h, exists_eq_left]
  by_cases hP : P (pos.bind (·.follow path))
  · exact .inl ⟨hP, fun hnot => hnot hP⟩
  · exact .inr ⟨hP, hP⟩

/-- Where both are found they are not the same. -/
theorem two_reached (h : ∃ v, Reaches pos path v ∧ P v) (h' : ∃ v, Reaches pos path v ∧ ¬ P v) :
    ∃ v w, Reaches pos path v ∧ Reaches pos path w ∧ v ≠ w := by
  obtain ⟨v, hv, hP⟩ := h
  obtain ⟨w, hw, hnot⟩ := h'
  refine ⟨v, w, hv, hw, ?_⟩
  rintro rfl
  exact hnot hP

end

/-! ## Field tests -/

variable {config : Config}

/-- **Complementary tests**, `one` of a condition and `other` of its
complement, on one path; they may be compiled anywhere, and compile both or
neither. Both reject a root if and only if each branch of the walk ends at a
name that meets an empty array. Exactly one accepts if no name meets an array.
And if both accept, the path reaches two different values, an absent one
counted. -/
theorem complements_by_what_is_reached {text : String} {path : Path}
    (hparse : Path.parse text = .ok path) {c c' : Condition Unit} (h : c.Complements c')
    (one other : Compilation config) (hone : one.query.shape = .single text c)
    (hother : other.query.shape = .single text c') :
    (one.Compiles ↔ other.Compiles) ∧ (one.Compiles → ∀ root : Root,
      (¬ one.Accepts root ∧ ¬ other.Accepts root ↔ Starved (some root) path.segments) ∧
      (¬ MeetsArray (some root) path.segments → Xor (one.Accepts root) (other.Accepts root)) ∧
      (one.Accepts root → other.Accepts root →
        ∃ v ∈ root.reached path.segments, ∃ w ∈ root.reached path.segments, v ≠ w)) := by
  have hcompiles : one.Compiles ↔ other.Compiles := by
    rw [Compilation.single_compiles_iff hone, Compilation.single_compiles_iff hother,
      h.readings_eq]
  refine ⟨hcompiles, fun hcompiled root => ?_⟩
  have hfound := Compilation.single_accepts_iff hone hcompiled hparse root
  have hfound' : other.Accepts root ↔ ∃ v, Reaches (some root) path.segments v ∧
      ¬ c.Holds config.regexSizeLimit v := by
    rw [Compilation.single_accepts_iff hother (hcompiles.1 hcompiled) hparse root]
    simp only [h.holds_iff]
  rw [hfound, hfound']
  refine ⟨neither_found_iff, one_found, fun haccepts haccepts' => ?_⟩
  obtain ⟨v, w, hv, hw, hne⟩ := two_reached haccepts haccepts'
  exact ⟨v, mem_reached.2 hv, w, mem_reached.2 hw, hne⟩

/-- Players in arrays that hold none, -/
def noPlayers : Root := .document [("players", .array [.array [], .array [.array []]])]

/-- one that stands in no array, -/
def onePlayer : Root := .document [("players", .document [("name", .string "Ada")])]

/-- and two, one of whom has no name. -/
def twoPlayers : Root :=
  .document [("players", .array [.document [("name", .string "Ada")], .document []])]

/-- Asking for a player whose name is one of a list, and for one whose name is
not: none of the first players is either, the second is one of them, and among
the last there are both. -/
theorem named_and_nameless_players :
    ∃ one other : Compilation {},
      one.query.shape = .single "players.name" (.operators [.among [.string "Ada"]]) ∧
      other.query.shape = .single "players.name" (.operators [.notAmong [.string "Ada"]]) ∧
      (¬ one.Accepts noPlayers ∧ ¬ other.Accepts noPlayers) ∧
      Xor (one.Accepts onePlayer) (other.Accepts onePlayer) ∧
      (one.Accepts twoPlayers ∧ other.Accepts twoPlayers) ∧
      ∃ v ∈ twoPlayers.reached [.named "players", .named "name"],
        ∃ w ∈ twoPlayers.reached [.named "players", .named "name"], v ≠ w := by
  obtain ⟨one, hone⟩ := Compilation.exists_of_shape {}
    (.single "players.name" (.operators [.among [.string "Ada"]]))
  obtain ⟨other, hother⟩ := Compilation.exists_of_shape {}
    (.single "players.name" (.operators [.notAmong [.string "Ada"]]))
  have hparse : Path.parse "players.name" =
      .ok ⟨"players.name", [.named "players", .named "name"]⟩ := by decide +kernel
  obtain ⟨hcompiles, hjudged⟩ := complements_by_what_is_reached hparse
    (.among [.string "Ada"]) one other hone hother
  have hcompiled : one.Compiles :=
    (Compilation.single_compiles_iff hone).2 ⟨⟨_, hparse⟩, firstProblem?_eq_none.1 rfl⟩
  have hstarved : Starved (some noPlayers) [.named "players", .named "name"] := by
    rw [starved_iff]
    intro v hv
    exact List.not_mem_nil (mem_reached.2 hv)
  have hdirect : ¬ MeetsArray (some onePlayer) [.named "players", .named "name"] := by
    rintro (hspread | ⟨-, hspread | ⟨-, hend⟩⟩)
    · cases hspread
    · cases hspread
    · cases hend
  have hnamed : one.Accepts twoPlayers := by
    rw [Compilation.single_accepts_iff hone hcompiled hparse]
    have hamong : (Value.string "Ada").Among [.string "Ada"] :=
      .inl ⟨_, List.mem_singleton_self _, by decide⟩
    exact ⟨_, mem_reached.1 List.mem_cons_self, ⟨_, rfl, hamong⟩, trivial⟩
  have hnameless : other.Accepts twoPlayers := by
    rw [Compilation.single_accepts_iff hother (hcompiles.1 hcompiled) hparse]
    refine ⟨none, mem_reached.1 (List.mem_cons_of_mem _ List.mem_cons_self), ?_⟩
    simp [Condition.Holds, Operator.AllHold, Operator.Holds]
  exact ⟨one, other, hone, hother, (hjudged hcompiled noPlayers).1.2 hstarved,
    (hjudged hcompiled onePlayer).2.1 hdirect, ⟨hnamed, hnameless⟩,
    (hjudged hcompiled twoPlayers).2.2 hnamed hnameless⟩

end DocQuery
