import Mathlib.Data.List.Induction
import DocQuery.FieldTree
import DocQuery.Proofs.KeyedLists
/-!
# Field forests and where keys lead in them

Keys are followed through a tree until they end or a leaf is met
(`FieldTree.descend`). A path that is added to a forest is planted under its
first part, and what this does to the keys that are followed is one of three
things (`Planting`): they meet the new leaf, or they end at a branch on the way
to it, or nothing changes for them, because they met a leaf before or lead
elsewhere.

From this it follows by induction on the paths where keys lead in the forest of
them (`leads_ofPaths`): to a leaf of some path whose parts they begin with, else
to a branch if they begin some path's parts, else nowhere. In whatever order the
paths come, and whatever they have in common, nothing else is possible.

What a forest selects from a document is then found under the keys that lead to
it (`resolve_project`), since at each branch keys are distinct.
-/


namespace DocQuery

/-! ## Where keys lead in a tree -/

namespace FieldTree

/-- Where keys lead, and the keys that are left over there: a leaf is not left
again. -/
def descend : FieldTree → List String → Option (FieldTree × List String)
  | .leaf path, keys => some (.leaf path, keys)
  | .branch children, [] => some (.branch children, [])
  | .branch children, key :: rest =>
    (Entries.get? key children).bind fun tree => tree.descend rest
  termination_by structural _ keys => keys

/-- Keys are distinct at each branch. -/
inductive Distinct : FieldTree → Prop
  | leaf (path : List Segment) : Distinct (.leaf path)
  | branch {children : FieldForest} : (Entries.keys children).Nodup →
      (∀ x ∈ children, Distinct x.2) → Distinct (.branch children)

/-- A path stands at some leaf. -/
inductive Carries : FieldTree → List Segment → Prop
  | leaf (path : List Segment) : Carries (.leaf path) path
  | branch {children : FieldForest} {x : String × FieldTree} {path : List Segment} :
      x ∈ children → Carries x.2 path → Carries (.branch children) path

end FieldTree

namespace FieldForest

open FieldTree (Distinct Carries)

variable {path : List Segment} {keys : List String}

/-! ## Planting a path -/

/-- What stands under the first part of a path after the path has been added,
given its other parts and what stood there before. -/
def planted (path : List Segment) : List String → Option FieldTree → FieldTree
  | [], _ => .leaf path
  | _ :: _, some (.leaf other) => .leaf other
  | part :: rest, some (.branch children) => .branch (insert path (part :: rest) children)
  | part :: rest, none => .branch (insert path (part :: rest) [])

/-- **A path is added under its first part**, and nowhere else. -/
theorem insert_cons (path : List Segment) (first : String) (rest : List String)
    (forest : FieldForest) :
    insert path (first :: rest) forest =
      Entries.insert first (planted path rest (Entries.get? first forest)) forest := by
  cases rest with
  | nil => rfl
  | cons part rest =>
    cases hfirst : Entries.get? first forest with
    | none => simp only [insert, hfirst, planted]
    | some tree =>
      cases tree with
      | leaf other =>
        simp only [insert, hfirst, planted]
        exact (Entries.insert_of_get? hfirst).symm
      | branch children => simp only [insert, hfirst, planted]

/-- Beyond its first part, a path is planted among some children, unless a leaf
stands in its place. -/
theorem planted_cons (path : List Segment) (part : String) (rest : List String)
    (old : Option FieldTree) :
    (∃ other, old = some (.leaf other) ∧ planted path (part :: rest) old = .leaf other) ∨
      ∃ children, (old = none ∧ children = [] ∨ old = some (.branch children)) ∧
        planted path (part :: rest) old = .branch (insert path (part :: rest) children) := by
  cases old with
  | none => exact .inr ⟨[], .inl ⟨rfl, rfl⟩, rfl⟩
  | some tree =>
    cases tree with
    | leaf other => exact .inl ⟨other, rfl, rfl⟩
    | branch children => exact .inr ⟨children, .inr rfl, rfl⟩

/-- What planting a path under some parts does to where keys lead. -/
inductive Planting (path : List Segment) (parts keys : List String) :
    Option (FieldTree × List String) → Option (FieldTree × List String) → Prop
  /-- The keys had met a leaf. -/
  | met {other : List Segment} {left : List String} :
      Planting path parts keys (some (.leaf other, left)) (some (.leaf other, left))
  /-- The keys lead elsewhere. -/
  | elsewhere {found : Option (FieldTree × List String)} :
      ¬ parts <+: keys → ¬ keys <+: parts → Planting path parts keys found found
  /-- The keys meet the new leaf. -/
  | leaf {found : Option (FieldTree × List String)} {left : List String} :
      keys = parts ++ left → Planting path parts keys found (some (.leaf path, left))
  /-- The keys end on the way to the new leaf. -/
  | branch {found : Option (FieldTree × List String)} {children : FieldForest} :
      (∀ other left, found ≠ some (.leaf other, left)) → keys <+: parts → keys ≠ parts →
      Planting path parts keys found (some (.branch children, []))

theorem Planting.cons {parts : List String} {found found' : Option (FieldTree × List String)}
    (h : Planting path parts keys found found') (key : String) :
    Planting path (key :: parts) (key :: keys) found found' := by
  cases h with
  | met => exact .met
  | elsewhere hparts hkeys =>
    exact .elsewhere (mt (List.prefix_cons_inj key).1 hparts)
      (mt (List.prefix_cons_inj key).1 hkeys)
  | leaf hkeys => exact .leaf (congrArg _ hkeys)
  | branch hfound hkeys hne =>
    exact .branch hfound ((List.prefix_cons_inj key).2 hkeys) fun h => hne (List.cons.inj h).2

/-- **How planting goes**, by induction on the parts: at each one, the keys have
ended, or go the same way, or part from it. -/
theorem planting_planted (path : List Segment) (parts : List String) (old : Option FieldTree)
    (keys : List String) :
    Planting path parts keys (old.bind (·.descend keys))
      ((planted path parts old).descend keys) := by
  induction parts generalizing old keys with
  | nil =>
    rw [planted, FieldTree.descend]
    exact .leaf rfl
  | cons part rest ih =>
    obtain ⟨other, rfl, hplanted⟩ | ⟨children, hold, hplanted⟩ := planted_cons path part rest old
    · rw [hplanted, Option.bind_some, FieldTree.descend]
      exact .met
    rw [hplanted]
    cases keys with
    | nil =>
      refine .branch (fun other left => ?_) List.nil_prefix (List.cons_ne_nil part rest).symm
      obtain ⟨rfl, -⟩ | rfl := hold
      · simp
      · simp [FieldTree.descend]
    | cons key keys =>
      have hfound : (old.bind fun tree => tree.descend (key :: keys)) =
          (Entries.get? key children).bind fun tree => tree.descend keys := by
        obtain ⟨rfl, rfl⟩ | rfl := hold
        · rfl
        · rfl
      rw [hfound, FieldTree.descend, insert_cons]
      by_cases hkey : key = part
      · subst hkey
        rw [Entries.get?_insert_self]
        exact (ih _ keys).cons key
      · rw [Entries.get?_insert_of_ne hkey]
        refine .elsewhere (fun h => hkey ?_) (fun h => hkey ?_)
        · exact (List.cons_prefix_cons.1 h).1.symm
        · exact (List.cons_prefix_cons.1 h).1

/-- So it goes with a path that is added to a forest. -/
theorem planting_insert (path : List Segment) {parts : List String} (h : parts ≠ [])
    (forest : FieldForest) (keys : List String) :
    Planting path parts keys ((FieldTree.branch forest).descend keys)
      ((FieldTree.branch (insert path parts forest)).descend keys) := by
  obtain ⟨part, rest, rfl⟩ := List.exists_cons_of_ne_nil h
  exact planting_planted path (part :: rest) (some (.branch forest)) keys

/-! ## The forest of a list of paths -/

variable {paths : List (List Segment × List String)}

/-- Keys begin with no path's parts, if it has any. -/
def Uncovered (paths : List (List Segment × List String)) (keys : List String) : Prop :=
  ∀ x ∈ paths, x.2 ≠ [] → ¬ x.2 <+: keys

/-- Where keys lead in the forest of some paths. -/
inductive Leads (paths : List (List Segment × List String)) (keys : List String) :
    Option (FieldTree × List String) → Prop
  /-- To the leaf of a path that they begin with. -/
  | leaf {x : List Segment × List String} {left : List String} : x ∈ paths → x.2 ≠ [] →
      keys = x.2 ++ left → Leads paths keys (some (.leaf x.1, left))
  /-- To a branch, if there is a path that begins with them. -/
  | branch {x : List Segment × List String} {children : FieldForest} : Uncovered paths keys →
      x ∈ paths → keys <+: x.2 → Leads paths keys (some (.branch children, []))
  /-- Nowhere otherwise. -/
  | nowhere : Uncovered paths keys → (∀ x ∈ paths, ¬ keys <+: x.2) → Leads paths keys none

theorem ofPaths_concat (paths : List (List Segment × List String))
    (x : List Segment × List String) :
    ofPaths (paths ++ [x]) = insert x.1 x.2 (ofPaths paths) := by
  rw [ofPaths, List.foldl_append]
  rfl

theorem uncovered_concat {x : List Segment × List String} :
    Uncovered (paths ++ [x]) keys ↔ Uncovered paths keys ∧ (x.2 ≠ [] → ¬ x.2 <+: keys) := by
  simp [Uncovered, or_imp, forall_and]

/-- A path that neither begins keys nor begins with them is no matter to
them. -/
theorem Leads.concat {x : List Segment × List String} {found : Option (FieldTree × List String)}
    (h : Leads paths keys found) (hparts : x.2 ≠ [] → ¬ x.2 <+: keys)
    (hkeys : ¬ keys <+: x.2) : Leads (paths ++ [x]) keys found := by
  cases h with
  | leaf hy hne hleft => exact .leaf (List.mem_append_left [x] hy) hne hleft
  | branch hfree hy hbegins =>
    exact .branch (uncovered_concat.2 ⟨hfree, hparts⟩) (List.mem_append_left [x] hy) hbegins
  | nowhere hfree hother =>
    refine .nowhere (uncovered_concat.2 ⟨hfree, hparts⟩) fun y hy => ?_
    obtain hy | rfl := by simpa using hy
    · exact hother y hy
    · exact hkeys

/-- **One path more** leads keys as planting does. -/
theorem Leads.planting {x : List Segment × List String} (hx : x.2 ≠ [])
    {found found' : Option (FieldTree × List String)} (h : Leads paths keys found)
    (hplanting : Planting x.1 x.2 keys found found') : Leads (paths ++ [x]) keys found' := by
  cases hplanting with
  | met =>
    cases h with
    | leaf hy hne hleft => exact .leaf (List.mem_append_left [x] hy) hne hleft
  | elsewhere hparts hkeys => exact h.concat (fun _ => hparts) hkeys
  | leaf hleft => exact .leaf (by simp) hx hleft
  | branch hfound hbegins hne =>
    have hfree : Uncovered paths keys := by
      cases h with
      | leaf hy hne hleft => exact absurd rfl (hfound _ _)
      | branch hfree _ _ => exact hfree
      | nowhere hfree _ => exact hfree
    have hparts : ¬ x.2 <+: keys := fun h => hne (hbegins.eq_of_length_le h.length_le)
    exact .branch (uncovered_concat.2 ⟨hfree, fun _ => hparts⟩) (by simp) hbegins

/-- **Where keys lead in the forest of any paths**, in whatever order they
come. -/
theorem leads_ofPaths (paths : List (List Segment × List String)) (hkeys : keys ≠ []) :
    Leads paths keys ((FieldTree.branch (ofPaths paths)).descend keys) := by
  induction paths using List.reverseRecOn with
  | nil =>
    obtain ⟨key, rest, rfl⟩ := List.exists_cons_of_ne_nil hkeys
    exact .nowhere (by simp [Uncovered]) (by simp)
  | append_singleton paths x ih =>
    rw [ofPaths_concat]
    by_cases hx : x.2 = []
    · have hnone : ¬ keys <+: x.2 := by
        rw [hx]
        exact fun hbegins => hkeys (List.prefix_nil.1 hbegins)
      have hinsert : insert x.1 x.2 (ofPaths paths) = ofPaths paths := by
        rw [hx]
        rfl
      rw [hinsert]
      exact ih.concat (absurd hx) hnone
    · exact ih.planting hx (planting_insert x.1 hx (ofPaths paths) keys)

/-! ## What is kept -/

/-- Planting keeps keys distinct, -/
theorem distinct_planted (path : List Segment) (parts : List String) {old : Option FieldTree}
    (h : ∀ tree ∈ old, Distinct tree) : Distinct (planted path parts old) := by
  induction parts generalizing old with
  | nil => exact .leaf path
  | cons part rest ih =>
    obtain ⟨other, -, hplanted⟩ | ⟨children, hold, hplanted⟩ := planted_cons path part rest old
    · rw [hplanted]
      exact .leaf other
    have hchildren : Distinct (.branch children) := by
      obtain ⟨-, rfl⟩ | rfl := hold
      · exact .branch List.nodup_nil (by simp)
      · exact h _ rfl
    cases hchildren with
    | branch hkeys htrees =>
      rw [hplanted, insert_cons]
      refine .branch (Entries.nodup_keys_insert hkeys _) fun x hx => ?_
      rcases Entries.mem_of_mem_insert hx with rfl | hx
      · exact ih fun tree htree => htrees _ (Entries.mem_of_get? htree)
      · exact htrees x hx

/-- and brings in no other path. -/
theorem carries_planted {other : List Segment} {parts : List String} {old : Option FieldTree}
    (h : Carries (planted path parts old) other) :
    other = path ∨ ∃ tree ∈ old, Carries tree other := by
  induction parts generalizing old with
  | nil =>
    cases h
    exact .inl rfl
  | cons part rest ih =>
    obtain ⟨leaf, rfl, hplanted⟩ | ⟨children, hold, hplanted⟩ := planted_cons path part rest old
    · rw [hplanted] at h
      exact .inr ⟨_, rfl, h⟩
    rw [hplanted, insert_cons] at h
    cases h with
    | @branch _ x _ hx hcarries =>
      have hchild : other = path ∨ ∃ y ∈ children, Carries y.2 other := by
        rcases Entries.mem_of_mem_insert hx with rfl | hx
        · refine (ih hcarries).imp_right fun ⟨tree, htree, hother⟩ => ?_
          exact ⟨_, Entries.mem_of_get? htree, hother⟩
        · exact .inr ⟨x, hx, hcarries⟩
      refine hchild.imp_right fun ⟨y, hy, hother⟩ => ?_
      obtain ⟨-, rfl⟩ | rfl := hold
      · cases hy
      · exact ⟨_, rfl, .branch hy hother⟩

theorem distinct_ofPaths (paths : List (List Segment × List String)) :
    Distinct (.branch (ofPaths paths)) := by
  induction paths using List.reverseRecOn with
  | nil => exact .branch List.nodup_nil (by simp [ofPaths])
  | append_singleton paths x ih =>
    rw [ofPaths_concat]
    obtain ⟨path, parts⟩ := x
    cases parts with
    | nil => exact ih
    | cons part rest =>
      have hroot : Distinct (planted path (part :: rest) (some (.branch (ofPaths paths)))) :=
        distinct_planted path _ fun tree htree => Option.some.inj htree ▸ ih
      exact hroot

/-- The paths at the leaves are those of the list that have parts. -/
theorem mem_of_carries_ofPaths (h : Carries (.branch (ofPaths paths)) path) :
    ∃ x ∈ paths, x.2 ≠ [] ∧ x.1 = path := by
  induction paths using List.reverseRecOn with
  | nil =>
    cases h with
    | branch hx _ => cases hx
  | append_singleton paths x ih =>
    have hpaths : Carries (.branch (ofPaths paths)) path → ∃ y ∈ paths ++ [x],
        y.2 ≠ [] ∧ y.1 = path := by
      intro hcarries
      obtain ⟨y, hy, hyx⟩ := ih hcarries
      exact ⟨y, List.mem_append_left _ hy, hyx⟩
    rw [ofPaths_concat] at h
    obtain ⟨other, parts⟩ := x
    cases parts with
    | nil => exact hpaths h
    | cons part rest =>
      have hplanted :
          Carries (planted other (part :: rest) (some (.branch (ofPaths paths)))) path := h
      obtain rfl | ⟨tree, htree, hcarries⟩ := carries_planted hplanted
      · exact ⟨(path, part :: rest), by simp, List.cons_ne_nil part rest, rfl⟩
      · exact hpaths (Option.some.inj htree ▸ hcarries)

/-! ## What is selected -/

/-- The keys of what is selected are keys of the forest. -/
theorem keys_select_sublist (d : Document) (forest : FieldForest) :
    (Entries.keys (select d forest)).Sublist (Entries.keys forest) := by
  induction forest with
  | nil => exact .slnil
  | cons x rest ih =>
    rw [select]
    split
    · exact ih.cons_cons x.1
    · exact ih.cons x.1

theorem project_eq_select (d : Document) {forest : FieldForest}
    (h : (Entries.keys forest).Nodup) : project d forest = select d forest :=
  Entries.ofList_eq_self (h.sublist (keys_select_sublist d forest))

/-- Under a key stands what its tree selects. -/
theorem get?_project (d : Document) {forest : FieldForest} (h : (Entries.keys forest).Nodup)
    (key : String) :
    Entries.get? key (project d forest) = (Entries.get? key forest).bind (selectTree d) := by
  rw [project_eq_select d h]
  induction forest with
  | nil => rfl
  | cons x rest ih =>
    obtain ⟨name, tree⟩ := x
    obtain ⟨hnew, hrest⟩ := List.nodup_cons.1 h
    have hname : Entries.get? name (select d rest) = none := by
      cases hget : Entries.get? name (select d rest) with
      | none => rfl
      | some v =>
        have hmem := List.mem_map_of_mem (f := Prod.fst) (Entries.mem_of_get? hget)
        exact absurd ((keys_select_sublist d rest).subset hmem) hnew
    cases hselect : selectTree d tree with
    | none =>
      simp only [select, hselect, Entries.get?]
      split
      · subst ‹name = key›
        rw [hname, Option.bind_some, hselect]
      · exact ih hrest
    | some v =>
      simp only [select, hselect, Entries.get?]
      split
      · rw [Option.bind_some, hselect]
      · exact ih hrest

/-- **What a tree selects is found where keys lead in it**: by induction on the
keys. -/
theorem follow_selectTree (d : Document) {tree : FieldTree} (h : Distinct tree)
    (keys : List String) :
    ((selectTree d tree).bind fun v => v.follow (keys.map .named)) =
      (tree.descend keys).bind fun found =>
        (selectTree d found.1).bind fun v => v.follow (found.2.map .named) := by
  induction keys generalizing tree with
  | nil => cases tree <;> rfl
  | cons key rest ih =>
    cases h with
    | leaf path => rfl
    | @branch children hkeys htrees =>
      have hstep : ((selectTree d (.branch children)).bind fun v =>
          v.follow ((key :: rest).map .named)) =
          (Entries.get? key (project d children)).bind fun v => v.follow (rest.map .named) := rfl
      rw [hstep, get?_project d hkeys, FieldTree.descend]
      cases hget : Entries.get? key children with
      | none => rfl
      | some child => exact ih (htrees _ (Entries.mem_of_get? hget))

/-- **Where keys lead in a projected document.** -/
theorem resolve_project (d : Document) {forest : FieldForest} (h : Distinct (.branch forest))
    (hkeys : keys ≠ []) :
    (project d forest).resolve (keys.map .named) =
      ((FieldTree.branch forest).descend keys).bind fun found =>
        (selectTree d found.1).bind fun v => v.follow (found.2.map .named) := by
  obtain ⟨key, rest, rfl⟩ := List.exists_cons_of_ne_nil hkeys
  exact follow_selectTree d h (key :: rest)

mutual

/-- Two documents have the same selected from them if the paths at the leaves
lead to the same in both. -/
theorem select_congr {d d' : Document} : ∀ forest : FieldForest,
    (∀ x ∈ forest, ∀ path, Carries x.2 path → d.resolve path = d'.resolve path) →
    select d forest = select d' forest
  | [], _ => rfl
  | (key, tree) :: rest, h => by
    obtain ⟨htree, hrest⟩ := List.forall_mem_cons.1 h
    rw [select, select, selectTree_congr tree htree, select_congr rest hrest]

theorem selectTree_congr {d d' : Document} : ∀ tree : FieldTree,
    (∀ path, Carries tree path → d.resolve path = d'.resolve path) →
    selectTree d tree = selectTree d' tree
  | .leaf path, h => h path (.leaf path)
  | .branch children, h => by
    have hchildren := select_congr children fun x hx path hpath => h path (.branch hx hpath)
    rw [selectTree, selectTree, hchildren]

end

end FieldForest

end DocQuery
