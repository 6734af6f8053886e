import DocQuery.Path
import DocQuery.Path.Resolve
import DocQuery.Proofs.Results
/-!
# Paths written one after another

A path that has been read to its end can be continued: by a dot and another
path, or by groups in brackets. What is read is then the segments of the one
followed by those of the other (`readAppended`). The reader is in one of three
states, within a name, within a group or behind one; a path ends in the first
or the third, and there a dot or a bracket is read alike. Where in the text a
reader stands makes no difference to what it reads, only to what it reports as
wrong.

`Path.parse_joined` says it of texts, for two paths with any number of
wildcards between them.

The resolver goes along such a path in two steps: it follows the second path
from where the first one leads (`Root.resolve_append`).
-/


namespace DocQuery.Path

/-- Whatever a text is read as in one of the states, wherever it stands, it is
read as that followed by some segments when more text follows it. -/
structure Continues (more : List Char) (found : List Segment) (text : List Char) : Prop where
  name : ∀ {name pos segments}, readName name pos text = .ok segments →
    ∀ pos', readName name pos' (text ++ more) = .ok (segments ++ found)
  group : ∀ {start content pos segments}, readGroup start content pos text = .ok segments →
    ∀ start' pos', readGroup start' content pos' (text ++ more) = .ok (segments ++ found)
  next : ∀ {pos segments}, readNext pos text = .ok segments →
    ∀ pos', readNext pos' (text ++ more) = .ok (segments ++ found)

section

variable {more : List Char} {found : List Segment}

/-- At the end of a name stands what may stand behind a group. -/
theorem readName_of_readNext (h : ∀ pos, readNext pos more = .ok found) (name : List Char)
    (pos : Nat) : readName name pos more = .ok (nameSegment name.reverse ++ found) := by
  have hnext := h pos
  cases more with
  | nil =>
    cases hnext
    rw [readName, List.append_nil]
  | cons c rest =>
    rw [readNext] at hnext
    rw [readName]
    split at hnext
    · rw [if_pos ‹c = '.'›, hnext]
      rfl
    · rw [if_neg ‹¬ c = '.'›]
      split at hnext
      · rw [if_pos ‹c = '['›, hnext]
        rfl
      · cases hnext

/-- **Texts are read on**, in whichever state: by induction on the first of
them, character by character. -/
theorem continues (h : ∀ pos, readNext pos more = .ok found) (text : List Char) :
    Continues more found text := by
  induction text with
  | nil =>
    refine ⟨fun hread pos' => ?_, fun hread => ?_, fun hread pos' => ?_⟩
    · cases hread
      exact readName_of_readNext h _ pos'
    · cases hread
    · cases hread
      exact h pos'
  | cons c text ih =>
    constructor
    · intro name pos segments hread pos'
      rw [readName] at hread
      rw [List.cons_append, readName]
      split at hread
      · obtain ⟨segments', hrest, hsegments⟩ := bind_eq_ok hread
        cases hsegments
        rw [if_pos ‹c = '.'›, ih.name hrest, List.append_assoc]
        rfl
      · rw [if_neg ‹¬ c = '.'›]
        split at hread
        · obtain ⟨segments', hrest, hsegments⟩ := bind_eq_ok hread
          cases hsegments
          rw [if_pos ‹c = '['›, ih.group hrest, List.append_assoc]
          rfl
        · rw [if_neg ‹¬ c = '['›]
          split at hread
          · cases hread
          · rw [if_neg ‹¬ c = ']'›]
            exact ih.name hread _
    · intro start content pos segments hread start' pos'
      rw [readGroup] at hread
      rw [List.cons_append, readGroup]
      split at hread
      · obtain ⟨segment, hsegment, hread⟩ := bind_eq_ok hread
        obtain ⟨segments', hrest, hsegments⟩ := bind_eq_ok hread
        cases hsegments
        rw [if_pos ‹c = ']'›, hsegment, ih.next hrest]
        rfl
      · rw [if_neg ‹¬ c = ']'›]
        split at hread
        · cases hread
        · rw [if_neg ‹¬ c = '['›]
          exact ih.group hread _ _
    · intro pos segments hread pos'
      rw [readNext] at hread
      rw [List.cons_append, readNext]
      split at hread
      · rw [if_pos ‹c = '.'›]
        exact ih.name hread _
      · rw [if_neg ‹¬ c = '.'›]
        split at hread
        · rw [if_pos ‹c = '['›]
          exact ih.group hread _ _
        · cases hread

end

/-! ## Texts -/

/-- The written form of a number of wildcards. -/
def wildcards (n : Nat) : List Char := (List.replicate n ['[', '*', ']']).flatten

/-- Wildcards are read behind a group, one by one. -/
theorem readNext_wildcards {more : List Char} {found : List Segment}
    (h : ∀ pos, readNext pos more = .ok found) (n pos : Nat) :
    readNext pos (wildcards n ++ more) = .ok (List.replicate n .wildcard ++ found) := by
  induction n generalizing pos with
  | zero => exact h pos
  | succ n ih =>
    have hwildcard : readNext pos (wildcards (n + 1) ++ more) =
        (readNext (pos + 3) (wildcards n ++ more)).bind fun rest => .ok (.wildcard :: rest) := by
      rfl
    rw [hwildcard, ih]
    rfl

/-- One path, a number of wildcards and another path, written as one. -/
def joined (first : String) (n : Nat) (second : String) : String :=
  first ++ String.ofList (wildcards n) ++ "." ++ second

/-- A path that is read has the segments of its text. -/
theorem segmentsOf_of_parse {text : String} {path : Path} (h : parse text = .ok path) :
    readName [] 0 text.toList = .ok path.segments := by
  obtain ⟨segments, hsegments, hpath⟩ := bind_eq_ok h
  cases hpath
  exact hsegments

/-- **Paths are joined segment by segment.** -/
theorem parse_joined {first second : String} {p q : Path} (hp : parse first = .ok p)
    (hq : parse second = .ok q) (n : Nat) :
    parse (joined first n second) = .ok ⟨joined first n second,
      p.segments ++ (List.replicate n .wildcard ++ q.segments)⟩ := by
  have hsecond : ∀ pos, readNext pos ('.' :: second.toList) = .ok q.segments := by
    intro pos
    have hend : ∀ pos, readNext pos [] = .ok [] := fun _ => rfl
    have hread := (continues hend second.toList).name (segmentsOf_of_parse hq) (pos + 1)
    rwa [List.append_nil, List.append_nil] at hread
  have htext : (joined first n second).toList =
      first.toList ++ (wildcards n ++ '.' :: second.toList) := by
    simp [joined]
  have hread := (continues (readNext_wildcards hsecond n) first.toList).name
    (segmentsOf_of_parse hp) 0
  rw [parse, segmentsOf, htext, hread]
  rfl

end DocQuery.Path

namespace DocQuery

/-! ## Where joined paths lead -/

/-- Segments are followed from where those before them lead. -/
theorem Value.follow_append (v : Value) (path rest : List Segment) :
    v.follow (path ++ rest) = (v.follow path).bind fun next => next.follow rest := by
  induction path generalizing v with
  | nil => rfl
  | cons segment path ih =>
    rw [List.cons_append, Value.follow, Value.follow, Option.bind_assoc]
    exact congrArg _ (funext ih)

/-- **A path is resolved in two steps**, if the first has a segment. -/
theorem Root.resolve_append (root : Root) {path : List Segment} (h : path ≠ [])
    (rest : List Segment) :
    root.resolve (path ++ rest) = (root.resolve path).bind fun next => next.follow rest := by
  obtain ⟨segment, path, rfl⟩ := List.exists_cons_of_ne_nil h
  rw [List.cons_append, Root.resolve, Root.resolve, Option.bind_assoc]
  exact congrArg _ (funext fun next => next.follow_append path rest)

end DocQuery
