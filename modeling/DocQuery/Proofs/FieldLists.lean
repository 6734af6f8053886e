import DocQuery.Projection.Projector
import DocQuery.Proofs.FieldForests
import DocQuery.Proofs.JoinedPaths
import DocQuery.Proofs.PathGrammar
/-!
# Field lists without brackets

A path without brackets is a path whatever else is in it, and its segments are
the names that its parts are (`parse_of_bracketFree`). So the leaves of the
forest of such paths hold the keys that lead to them, and what stands in a
projected document is what stands in the same place in the document
(`FieldForest.kept_project`). Projecting a second time then changes nothing: each
leaf's path is asked for, and leads to the same in the projected document.
-/


namespace DocQuery

namespace Path

/-- No character of a text is a bracket. -/
def BracketFree (text : String) : Prop := IsContent text.toList

/-- Without brackets, the reader and the scan do the same: by induction on the
characters, from within the same name. -/
theorem readName_of_isContent {chars : List Char} (h : IsContent chars) (current : List Char)
    (pos : Nat) :
    readName current pos chars = .ok ((readParts 0 current chars).map .named) := by
  have hpart : ∀ name : List Char, nameSegment name = (part name).map .named := by
    intro name
    cases name <;> rfl
  induction chars generalizing current pos with
  | nil => rw [readName, readParts, hpart]
  | cons c rest ih =>
    obtain ⟨⟨hopen, hclose⟩, hrest⟩ := List.forall_mem_cons.1 h
    rw [readName, readParts]
    by_cases hdot : c = '.'
    · rw [if_pos hdot, if_pos ⟨hdot, rfl⟩, ih hrest, List.map_append, hpart]
      rfl
    · rw [if_neg hdot, if_neg hopen, if_neg hclose, if_neg fun hc => hdot hc.1]
      simp only [if_neg hopen, if_neg hclose]
      exact ih hrest (c :: current) _

/-- **A text without brackets is a path**, and its parts are its names. -/
theorem parse_of_bracketFree {text : String} (h : BracketFree text) :
    parse text = .ok ⟨text, (parts text).map .named⟩ :=
  parse_eq_ok_iff.2 ⟨_, readName_of_isContent h [] 0, rfl⟩

end Path

open DocQuery.Path (BracketFree parts)

namespace FieldForest

variable {texts : List String}

/-- A path with its parts, as the forest takes it. -/
def named (text : String) : List Segment × List String := ((parts text).map .named, parts text)

/-- The forest of paths that have no brackets. -/
def ofTexts (texts : List String) : FieldForest :=
  ofPaths (texts.map named)

/-- A path that has been read, with its parts. -/
def withParts (f : String → Path) (text : String) : List Segment × List String :=
  ((f text).segments, parts text)

/-- **A list of paths is read** as these with their parts. -/
theorem read_of_parse {f : String → Path} (h : ∀ text ∈ texts, Path.parse text = .ok (f text)) :
    read texts = .ok (ofPaths (texts.map (withParts f))) := by
  have hpaths : (texts.mapM fun text => do
      return ((← Path.read text).segments, parts text) : Except EngineError _) =
      .ok (texts.map (withParts f)) := by
    rw [mapM_eq_ok_iff, List.forall₂_map_right_iff, List.forall₂_same]
    intro text htext
    rw [Path.read, h text htext]
    rfl
  rw [read, hpaths]
  rfl

theorem read_of_bracketFree (h : ∀ text ∈ texts, BracketFree text) :
    read texts = .ok (ofTexts texts) := by
  have hparse : ∀ text ∈ texts, Path.parse text = .ok ⟨text, (parts text).map .named⟩ :=
    fun text htext => Path.parse_of_bracketFree (h text htext)
  exact read_of_parse hparse

/-- Some path of the list that has a part is met on the way of the keys. -/
def Asked (texts : List String) (keys : List String) : Prop :=
  ∃ text ∈ texts, parts text ≠ [] ∧ parts text <+: keys

/-- What a projected document has where keys lead. -/
inductive Kept (texts : List String) (d : Document) (keys : List String) : Option Value → Prop
  /-- What was asked for is kept, -/
  | asked : Asked texts keys → Kept texts d keys (d.resolve (keys.map .named))
  /-- what leads to it is a document, -/
  | above {sub : Document} : ¬ Asked texts keys → (∃ text ∈ texts, keys <+: parts text) →
      Kept texts d keys (some (.document sub))
  /-- and there is nothing else. -/
  | absent : ¬ Asked texts keys → (¬ ∃ text ∈ texts, keys <+: parts text) →
      Kept texts d keys none

/-- **Where keys lead in a projected document.** -/
theorem kept_project (texts : List String) (d : Document) {keys : List String} (hkeys : keys ≠ []) :
    Kept texts d keys ((project d (ofTexts texts)).resolve (keys.map .named)) := by
  have hnot : Uncovered (texts.map named) keys → ¬ Asked texts keys := by
    rintro hfree ⟨text, htext, hne, hbegins⟩
    exact hfree (named text) (List.mem_map_of_mem htext) hne hbegins
  have hleads := leads_ofPaths (texts.map named) hkeys
  have hresolve := resolve_project d (distinct_ofPaths (texts.map named)) hkeys
  generalize (FieldTree.branch (ofPaths (texts.map named))).descend keys = found
    at hleads hresolve
  rw [ofTexts, hresolve]
  cases hleads with
  | @leaf x left hx hne hleft =>
    obtain ⟨text, htext, rfl⟩ := List.mem_map.1 hx
    have hnamed : (named text).1 ≠ [] := by simpa [named] using hne
    have hasked : Kept texts d keys (d.resolve (keys.map .named)) :=
      .asked ⟨text, htext, hne, left, hleft.symm⟩
    have hkept : d.resolve (keys.map .named) =
        (d.resolve (named text).1).bind fun v => v.follow (left.map .named) := by
      rw [hleft, List.map_append]
      exact (Root.document d).resolve_append hnamed _
    exact hkept ▸ hasked
  | branch huncovered hx hbegins =>
    obtain ⟨text, htext, rfl⟩ := List.mem_map.1 hx
    exact .above (hnot huncovered) ⟨text, htext, hbegins⟩
  | nowhere huncovered hother =>
    refine .absent (hnot huncovered) fun ⟨text, htext, hbegins⟩ => ?_
    exact hother (named text) (List.mem_map_of_mem htext) hbegins

namespace Kept

variable {d : Document} {keys : List String} {v : Option Value}

theorem eq_of_asked (h : Kept texts d keys v) (hasked : Asked texts keys) :
    v = d.resolve (keys.map .named) := by
  cases h with
  | asked => rfl
  | above hnot => exact absurd hasked hnot
  | absent hnot => exact absurd hasked hnot

theorem exists_document (h : Kept texts d keys v) (hnot : ¬ Asked texts keys)
    (habove : ∃ text ∈ texts, keys <+: parts text) : ∃ sub, v = some (.document sub) := by
  cases h with
  | asked hasked => exact absurd hasked hnot
  | above => exact ⟨_, rfl⟩
  | absent _ hother => exact absurd habove hother

theorem eq_none (h : Kept texts d keys v) (hnot : ¬ Asked texts keys)
    (hother : ¬ ∃ text ∈ texts, keys <+: parts text) : v = none := by
  cases h with
  | asked hasked => exact absurd hasked hnot
  | above _ habove => exact absurd habove hother
  | absent => rfl

end Kept

/-- **A second projection changes nothing.** -/
theorem project_project (texts : List String) (d : Document) :
    project (project d (ofTexts texts)) (ofTexts texts) = project d (ofTexts texts) := by
  refine congrArg Entries.ofList (select_congr _ fun x hx path hcarries => ?_)
  obtain ⟨y, hy, hne, rfl⟩ := mem_of_carries_ofPaths (.branch hx hcarries)
  obtain ⟨text, htext, rfl⟩ := List.mem_map.1 hy
  exact (kept_project texts d hne).eq_of_asked ⟨text, htext, hne, List.prefix_refl _⟩

end FieldForest

/-- **A field list keeps what it asks for.** A list of paths without brackets is
always read. In the projected document, what a path of the list leads to is what
it leads to in the document, and so is everything below; what leads to it is a
document; and there is nothing else. Projecting again changes nothing. -/
theorem field_list_keeps_what_is_asked {texts : List String} (hne : texts ≠ [])
    (hfree : ∀ text ∈ texts, BracketFree text) :
    ∃ projector, Projector.ofProjection (.fields texts) = .ok projector ∧
      ∀ d : Document, ∃ out : Document, projector.apply d = .document out ∧
        projector.apply out = .document out ∧
        ∀ r : String, BracketFree r → ∃ path, Path.parse r = .ok path ∧
          (path.segments ≠ [] →
            ((∃ text ∈ texts, parts text ≠ [] ∧ parts text <+: parts r) →
              out.resolve path.segments = d.resolve path.segments) ∧
            ((¬ ∃ text ∈ texts, parts text ≠ [] ∧ parts text <+: parts r) →
              (∃ text ∈ texts, parts r <+: parts text ∧ parts r ≠ parts text) →
              ∃ sub, out.resolve path.segments = some (.document sub)) ∧
            ((¬ ∃ text ∈ texts, parts text ≠ [] ∧ parts text <+: parts r) →
              (¬ ∃ text ∈ texts, parts r <+: parts text ∧ parts r ≠ parts text) →
              out.resolve path.segments = none)) := by
  have hprojector : Projector.ofProjection (.fields texts) =
      .ok (.fields (FieldForest.ofTexts texts)) := by
    obtain ⟨text, rest, rfl⟩ := List.exists_cons_of_ne_nil hne
    rw [Projector.ofProjection, FieldForest.read_of_bracketFree hfree]
    · rfl
    · simp
  refine ⟨_, hprojector, fun d => ⟨_, rfl, ?_, fun r hr => ?_⟩⟩
  · exact congrArg Value.document (FieldForest.project_project texts d)
  refine ⟨_, Path.parse_of_bracketFree hr, fun hsegments => ?_⟩
  have hparts : parts r ≠ [] := by simpa using hsegments
  have hkept := FieldForest.kept_project texts d hparts
  refine ⟨hkept.eq_of_asked, fun hnot habove => ?_, fun hnot hother => ?_⟩
  · obtain ⟨text, htext, hbegins, -⟩ := habove
    exact hkept.exists_document hnot ⟨text, htext, hbegins⟩
  · refine hkept.eq_none hnot fun ⟨text, htext, hbegins⟩ => ?_
    -- a path that has the same parts would have been asked for
    have hproper : parts r ≠ parts text := by
      intro heq
      exact hnot ⟨text, htext, heq ▸ hparts, heq ▸ List.prefix_refl _⟩
    exact hother ⟨text, htext, hbegins, hproper⟩

/-- A list in which a parent comes behind its child: below it everything is
kept, beside the field that is asked for alone nothing is. -/
theorem team_and_goals_kept :
    ["team.name", "stats.goals", "team", "."] ≠ [] ∧
    (∀ text ∈ ["team.name", "stats.goals", "team", "."], BracketFree text) ∧
    ∃ projector, Projector.ofProjection (.fields ["team.name", "stats.goals", "team", "."]) =
        .ok projector ∧
      ∀ d : Document, ∃ out : Document, projector.apply d = .document out ∧
        projector.apply out = .document out ∧
        out.resolve [.named "team", .named "size"] = d.resolve [.named "team", .named "size"] ∧
        (∃ sub, out.resolve [.named "stats"] = some (.document sub)) ∧
        out.resolve [.named "stats", .named "cards"] = none := by
  have hfree : ∀ text ∈ ["team.name", "stats.goals", "team", "."], BracketFree text := by
    simp [BracketFree, Path.IsContent]
  have hsize : Path.parse "team.size" =
      .ok ⟨"team.size", [.named "team", .named "size"]⟩ := by decide +kernel
  have hstats : Path.parse "stats" = .ok ⟨"stats", [.named "stats"]⟩ := by decide +kernel
  have hcards : Path.parse "stats.cards" =
      .ok ⟨"stats.cards", [.named "stats", .named "cards"]⟩ := by decide +kernel
  obtain ⟨projector, hprojector, hkeeps⟩ :=
    field_list_keeps_what_is_asked (List.cons_ne_nil _ _) hfree
  refine ⟨List.cons_ne_nil _ _, hfree, projector, hprojector, fun d => ?_⟩
  obtain ⟨out, hout, hagain, hresolve⟩ := hkeeps d
  refine ⟨out, hout, hagain, ?_, ?_, ?_⟩
  · obtain ⟨path, hpath, hcases⟩ := hresolve "team.size" (by simp [BracketFree, Path.IsContent])
    obtain rfl := Except.ok.inj (hsize.symm.trans hpath)
    exact (hcases (by simp)).1 (by decide +kernel)
  · obtain ⟨path, hpath, hcases⟩ := hresolve "stats" (by simp [BracketFree, Path.IsContent])
    obtain rfl := Except.ok.inj (hstats.symm.trans hpath)
    exact (hcases (by simp)).2.1 (by decide +kernel) (by decide +kernel)
  · obtain ⟨path, hpath, hcases⟩ := hresolve "stats.cards" (by simp [BracketFree, Path.IsContent])
    obtain rfl := Except.ok.inj (hcards.symm.trans hpath)
    exact (hcases (by simp)).2.2 (by decide +kernel) (by decide +kernel)

end DocQuery
