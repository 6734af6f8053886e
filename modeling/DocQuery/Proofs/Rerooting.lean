import DocQuery.Proofs.JoinedPaths
import DocQuery.Template
/-!
# Templates at other roots

A template is rendered at a root, and its paths start there. When the root is a
value that a path leads to from some outer root, the same comes of the outer
root if that path is written before the template's paths (`Template.under`,
`render_under`). The paths in the element of an array start at the items and
stay as they are; the item is the same from both roots, since the array is.

So the items that an array makes are renderings at the root of the whole: the
element's, under the path of the array with an index behind it
(`render_array`). Paths need a segment for this, because the empty path leads
nowhere from a value while the path before it leads to the value itself.
-/


namespace DocQuery

/-! ## Roots -/

/-- A path that leads somewhere has a segment. -/
theorem Root.ne_nil_of_resolve {root : Root} {path : List Segment} {v : Value}
    (h : root.resolve path = some v) : path ≠ [] := by
  rintro rfl
  cases h

/-- From a value a path with a segment is followed. -/
theorem Value.resolve_of_ne_nil {path : List Segment} (h : path ≠ []) (v : Value) :
    (Root.value v).resolve path = v.follow path := by
  obtain ⟨segment, rest, rfl⟩ := List.exists_cons_of_ne_nil h
  rfl

/-- **A path goes on from the value that another one leads to**, as from a
root. -/
theorem Root.resolve_under {root : Root} {above path : List Segment} {v : Value}
    (h : root.resolve above = some v) (hpath : path ≠ []) :
    root.resolve (above ++ path) = (Root.value v).resolve path := by
  rw [root.resolve_append (root.ne_nil_of_resolve h), h, Option.bind_some,
    v.resolve_of_ne_nil hpath]

/-- An index goes on to the item of an array. -/
theorem Root.resolve_item {root : Root} {path : List Segment} {items : List Value}
    (h : root.resolve path = some (.array items)) (i : Nat) :
    root.resolve (path ++ [.index i]) = items[i]? := by
  rw [root.resolve_under h (List.cons_ne_nil _ _), Value.resolve_of_ne_nil (List.cons_ne_nil _ _)]
  exact Option.bind_fun_some _

namespace Template

section

variable {π : Type}

mutual

/-- The paths of a template, those in the elements of arrays included. -/
def paths : Template π → List π
  | .path p => [p]
  | .const _ => []
  | .object entries => pathsOf entries
  | .array p element => p :: paths element
  termination_by structural template => template

/-- The paths of the templates of entries. -/
def pathsOf : List (String × Template π) → List π
  | [] => []
  | (_, template) :: rest => paths template ++ pathsOf rest
  termination_by structural entries => entries

end

end

mutual

/-- A template with a path written before its own paths. The paths in an
element start at the items and stay. -/
def under (above : List Segment) : Template (List Segment) → Template (List Segment)
  | .path p => .path (above ++ p)
  | .const v => .const v
  | .object entries => .object (underEntries above entries)
  | .array p element => .array (above ++ p) element
  termination_by structural template => template

/-- The templates of entries with a path written before their own paths. -/
def underEntries (above : List Segment) :
    List (String × Template (List Segment)) → List (String × Template (List Segment))
  | [] => []
  | (key, template) :: rest => (key, under above template) :: underEntries above rest
  termination_by structural entries => entries

end

/-! ## Rendering -/

/-- What an array makes depends on what its path leads to. -/
theorem render_array_congr {root root' : Root} {p p' : List Segment}
    (h : root.resolve p = root'.resolve p') (element : Template (List Segment)) :
    render root (.array p element) = render root' (.array p' element) := by
  rw [render, render, h]

mutual

/-- **A template makes the same of a value as it makes, under the path to the
value, of the outer root**, by cases on the template. -/
theorem render_under {root : Root} {above : List Segment} {v : Value}
    (h : root.resolve above = some v) : ∀ template : Template (List Segment),
    (∀ p ∈ template.paths, p ≠ []) →
      render root (template.under above) = render (.value v) template
  | .path p, hpaths => by
    rw [under, render, render]
    exact root.resolve_under h (hpaths p List.mem_cons_self)
  | .const w, _ => by rw [under, render, render]
  | .object entries, hpaths => by
    rw [under, render, render, renderEntries_under h entries hpaths]
  | .array p element, hpaths => by
    -- the element has the items for roots, and they are the same
    rw [under]
    exact render_array_congr (root.resolve_under h (hpaths p List.mem_cons_self)) element

/-- So do the templates of entries. -/
theorem renderEntries_under {root : Root} {above : List Segment} {v : Value}
    (h : root.resolve above = some v) : ∀ entries : List (String × Template (List Segment)),
    (∀ p ∈ pathsOf entries, p ≠ []) →
      renderEntries root (underEntries above entries) = renderEntries (.value v) entries
  | [], _ => rfl
  | (key, template) :: rest, hpaths => by
    obtain ⟨htemplate, hrest⟩ := List.forall_mem_append.1 hpaths
    rw [underEntries, renderEntries, renderEntries, render_under h template htemplate,
      renderEntries_under h rest hrest]

end

/-- **An array makes its items as the whole would**: each is the element, under
the path of the array and the item's index, rendered at the same root. -/
theorem render_array {root : Root} {p : List Segment} {items : List Value}
    (h : root.resolve p = some (.array items)) {element : Template (List Segment)}
    (hpaths : ∀ q ∈ element.paths, q ≠ []) :
    render root (.array p element) = some (.array ((List.range items.length).map fun i =>
      (render root (element.under (p ++ [.index i]))).getD .null)) := by
  have hitems : (items.map fun item => (render (.value item) element).getD .null) =
      (List.range items.length).map fun i =>
        (render root (element.under (p ++ [.index i]))).getD .null := by
    refine List.ext_getElem (by simp) fun i hi _ => ?_
    have hlt : i < items.length := by simpa using hi
    have hitem : root.resolve (p ++ [.index i]) = some items[i] :=
      (root.resolve_item h i).trans (List.getElem?_eq_getElem hlt)
    rw [List.getElem_map, List.getElem_map, List.getElem_range, render_under hitem element hpaths]
  rw [render, h]
  exact congrArg (fun made => some (Value.array made)) hitems

/-- What is no array has no items. -/
theorem render_array_of_no_array {root : Root} {p : List Segment}
    (h : ∀ items, root.resolve p ≠ some (.array items)) (element : Template (List Segment)) :
    render root (.array p element) = some (.array []) := by
  rw [render]
  split
  · exact absurd ‹_› (h _)
  · rfl

end Template

/-- **Rendering goes along with the root.** A template makes the same of a value
as it makes of an outer root, once the path that leads from there to the value
stands before the template's paths, and it is left out of both or of neither.
So the items that an array makes are made at the root of the whole, one for each
item of the array in the source, and null for one that is left out; where there
is no array, there are no items. -/
theorem rendering_goes_along_with_root :
    (∀ (root : Root) (above : List Segment) (v : Value) (template : Template (List Segment)),
      root.resolve above = some v → (∀ p ∈ template.paths, p ≠ []) →
      (template.under above).render root = template.render (.value v)) ∧
    (∀ (root : Root) (p : List Segment) (element : Template (List Segment)) (items : List Value),
      root.resolve p = some (.array items) → (∀ q ∈ element.paths, q ≠ []) →
      ∃ made, (Template.array p element).render root = some (.array made) ∧
        made.length = items.length ∧
        ∀ i, i < items.length →
          made[i]? = some (((element.under (p ++ [.index i])).render root).getD .null)) ∧
    ∀ (root : Root) (p : List Segment) (element : Template (List Segment)),
      (∀ items, root.resolve p ≠ some (.array items)) →
      (Template.array p element).render root = some (.array []) := by
  refine ⟨fun _ _ _ template h hpaths => Template.render_under h template hpaths, ?_,
    fun _ _ element h => Template.render_array_of_no_array h element⟩
  intro root p element items h hpaths
  exact ⟨_, Template.render_array h hpaths, by simp, fun i hi => by simp [hi]⟩

/-- An author with two posts, one of which has no title. -/
def author : Value :=
  .document [("name", .string "ann"),
    ("posts", .array [.document [("title", .string "first")], .document []])]

/-- The name, a field that is missing, and the titles of the posts. -/
def byline : Template (List Segment) :=
  .object [("by", .path [.named "name"]), ("zip", .path [.named "zip"]),
    ("titles", .array [.named "posts"] (.path [.named "title"]))]

/-- A byline is made of the author or of the page with the author in it; a title
that is missing is null, and a name is no array of posts. -/
theorem byline_made_at_either_root :
    (Root.document [("author", author)]).resolve [.named "author"] = some author ∧
    (∀ p ∈ byline.paths, p ≠ []) ∧
    (byline.under [.named "author"]).render (.document [("author", author)]) =
      byline.render (.value author) ∧
    byline.render (.value author) =
      some (.document [("by", .string "ann"), ("titles", .array [.string "first", .null])]) ∧
    (∃ made, (Template.array [.named "author", .named "posts"]
        (.path [.named "title"])).render (.document [("author", author)]) =
        some (.array made) ∧
      made.length = 2 ∧
      made[1]? = some (((Template.path [.named "title"]).under
        [.named "author", .named "posts", .index 1]).render
          (.document [("author", author)]) |>.getD .null)) ∧
    (Template.array [.named "author", .named "name"] (.path [.named "title"])).render
      (.document [("author", author)]) = some (.array []) := by
  have hauthor : (Root.document [("author", author)]).resolve [.named "author"] = some author :=
    rfl
  have hpaths : ∀ p ∈ byline.paths, p ≠ [] := by
    simp [byline, Template.paths, Template.pathsOf]
  refine ⟨hauthor, hpaths, rendering_goes_along_with_root.1 _ _ _ _ hauthor hpaths, rfl, ?_, ?_⟩
  · obtain ⟨made, hmade, hlength, hitems⟩ := rendering_goes_along_with_root.2.1
      (.document [("author", author)]) [.named "author", .named "posts"]
      (.path [.named "title"]) _ rfl (by simp [Template.paths])
    exact ⟨made, hmade, hlength, hitems 1 (by decide)⟩
  · refine rendering_goes_along_with_root.2.2 _ _ _ fun items hitems => ?_
    have hname : (Root.document [("author", author)]).resolve [.named "author", .named "name"] =
        some (.string "ann") := rfl
    rw [hname] at hitems
    cases hitems

end DocQuery
