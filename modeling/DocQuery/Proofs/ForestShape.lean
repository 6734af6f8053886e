import DocQuery.Proofs.FieldLists
import DocQuery.Proofs.PathParts
/-!
# The shape of field forests

The tree that a forest is has nothing in it but its paths. Whatever the order
they come in, it is as small as they allow: its leaves stand under the parts
that no other path's parts begin (`descend_eq_leaf_iff`), a branch leads to a
leaf, and its keys are what the paths of the list go on with, in the order of
their first appearance (`keys_children`).

The last is the invariant of adding paths, and it holds at keys as long as no
path ends there or above: below a leaf nothing is added, and what has been there
goes. A list and a permutation of it then have the same leaves and the same
child keys, and only the order of these may differ. So the documents that are
made differ in the order of keys at most (`Value.Rearranged`), and what has been
asked for is the same in both.
-/


namespace DocQuery

/-! ## Trees within trees -/

namespace FieldTree

/-- A tree stands in another one under some keys. -/
inductive At : FieldTree → List String → FieldTree → Prop
  | here (tree : FieldTree) : At tree [] tree
  | child {children : FieldForest} {x : String × FieldTree} {keys : List String}
      {tree : FieldTree} : x ∈ children → At x.2 keys tree →
      At (.branch children) (x.1 :: keys) tree

variable {tree sub : FieldTree} {keys : List String}

/-- Where keys are distinct, what stands under some keys is what they lead to. -/
theorem at_iff_descend (h : Distinct tree) :
    tree.At keys sub ↔ tree.descend keys = some (sub, []) := by
  constructor
  · intro hat
    induction hat with
    | here tree => cases tree <;> rfl
    | child hx _ ih =>
      cases h with
      | branch hkeys htrees =>
        rw [descend, Entries.get?_of_mem hkeys hx]
        exact ih (htrees _ hx)
  · intro hdescend
    induction keys generalizing tree with
    | nil => cases tree <;> cases hdescend <;> exact .here _
    | cons key rest ih =>
      cases h with
      | leaf path => cases hdescend
      | branch hkeys htrees =>
        obtain ⟨child, hchild, hdescend⟩ := Option.bind_eq_some_iff.1 hdescend
        have hmem := Entries.mem_of_get? hchild
        exact .child hmem (ih (htrees _ hmem) hdescend)

theorem Distinct.nodup_keys {children : FieldForest} (h : Distinct (.branch children)) :
    (Entries.keys children).Nodup := by
  cases h with
  | branch hkeys _ => exact hkeys

/-- What stands in a tree with distinct keys has distinct keys. -/
theorem At.distinct (h : tree.At keys sub) (htree : Distinct tree) : Distinct sub := by
  induction h with
  | here => exact htree
  | child hx _ ih =>
    cases htree with
    | branch _ htrees => exact ih (htrees _ hx)

/-- More keys lead on from where keys have led. -/
theorem descend_append (tree : FieldTree) (keys more : List String) :
    tree.descend (keys ++ more) =
      (tree.descend keys).bind fun found => found.1.descend (found.2 ++ more) := by
  induction keys generalizing tree with
  | nil => cases tree <;> rfl
  | cons key rest ih =>
    cases tree with
    | leaf path => rfl
    | branch children =>
      rw [List.cons_append, descend, descend, Option.bind_assoc]
      exact congrArg _ (funext fun child => ih child)

theorem descend_append_of_leaf {path : List Segment}
    (h : tree.descend keys = some (.leaf path, [])) (more : List String) :
    tree.descend (keys ++ more) = some (.leaf path, more) := by
  rw [descend_append, h, Option.bind_some, descend]
  rfl

/-- One key more leads from a branch to a child of it. -/
theorem descend_concat {children : FieldForest}
    (h : tree.descend keys = some (.branch children, [])) (key : String) :
    tree.descend (keys ++ [key]) = (Entries.get? key children).map (·, []) := by
  rw [descend_append, h, Option.bind_some, List.nil_append, descend]
  cases Entries.get? key children with
  | none => rfl
  | some child => cases child <;> rfl

end FieldTree

namespace FieldForest

open FieldTree (Distinct)

variable {paths paths' : List (List Segment × List String)} {keys parts : List String}
  {key : String} {path : List Segment}

/-! ## Keys of children -/

/-- The part of a path behind keys that it begins with. -/
def nextPart : List String → List String → Option String
  | [], parts => parts.head?
  | _ :: _, [] => none
  | key :: keys, part :: parts => if part = key then nextPart keys parts else none

theorem nextPart_eq_some_iff : nextPart keys parts = some key ↔ keys ++ [key] <+: parts := by
  induction keys generalizing parts with
  | nil => cases parts <;> simp [nextPart, eq_comm]
  | cons first keys ih =>
    cases parts with
    | nil => simp [nextPart]
    | cons part parts =>
      rw [nextPart, List.cons_append, List.cons_prefix_cons, ← ih]
      split
      · exact (and_iff_right ‹part = first›.symm).symm
      · have hne : ¬ first = part := fun h => ‹¬ part = first› h.symm
        simp [hne]

/-- Keys with one more at the end, if there is one and it is new. -/
def withKey (keys : List String) : Option String → List String
  | none => keys
  | some key => if key ∈ keys then keys else keys ++ [key]

theorem withKey_eraseDups (keys : List String) (key : Option String) :
    withKey keys.eraseDups key = (keys ++ key.toList).eraseDups := by
  cases key with
  | none => simp [withKey]
  | some key => exact (eraseDups_concat keys key).symm

/-- The keys of the branch that has been found. -/
def keysFound : Option (FieldTree × List String) → List String
  | some (.branch children, _) => Entries.keys children
  | _ => []

/-- **A path that is planted adds a key where it goes on**, unless it is there: by
induction on the parts. -/
theorem keysFound_planted (path : List Segment) {old : Option FieldTree}
    (hparts : ¬ parts <+: keys)
    (hold : ∀ other left, (old.bind (·.descend keys)) ≠ some (.leaf other, left)) :
    keysFound ((planted path parts old).descend keys) =
      withKey (keysFound (old.bind (·.descend keys))) (nextPart keys parts) := by
  induction parts generalizing old keys with
  | nil => exact absurd List.nil_prefix hparts
  | cons part rest ih =>
    obtain ⟨other, rfl, -⟩ | ⟨children, hchildren, hplanted⟩ := planted_cons path part rest old
    · exact absurd (by rw [Option.bind_some, FieldTree.descend]) (hold other keys)
    rw [hplanted, insert_cons]
    cases keys with
    | nil =>
      have hfound : keysFound (old.bind (·.descend [])) = Entries.keys children := by
        obtain ⟨rfl, rfl⟩ | rfl := hchildren <;> rfl
      rw [hfound]
      exact Entries.keys_insert part _ children
    | cons key keys =>
      have hfound : old.bind (·.descend (key :: keys)) =
          (Entries.get? key children).bind (·.descend keys) := by
        obtain ⟨rfl, rfl⟩ | rfl := hchildren <;> rfl
      rw [hfound] at hold ⊢
      rw [FieldTree.descend, nextPart]
      by_cases hkey : part = key
      · subst hkey
        rw [Entries.get?_insert_self, if_pos rfl]
        exact ih (mt (List.prefix_cons_inj part).2 hparts) hold
      · rw [Entries.get?_insert_of_ne (Ne.symm hkey), if_neg hkey]
        rfl

/-- Keys that begin with no path's parts lead to no leaf. -/
theorem Uncovered.descend_ne (h : Uncovered paths keys) (path : List Segment)
    (left : List String) :
    (FieldTree.branch (ofPaths paths)).descend keys ≠ some (.leaf path, left) := by
  intro hleaf
  rcases eq_or_ne keys [] with rfl | hkeys
  · cases hleaf
  · have hleads := leads_ofPaths paths hkeys
    rw [hleaf] at hleads
    cases hleads with
    | leaf hx hne hleft => exact h _ hx hne ⟨_, hleft.symm⟩

/-- **Children stand in the order of their first appearance**: by induction on the
paths, from the last one. -/
theorem keysFound_ofPaths (h : Uncovered paths keys) :
    keysFound ((FieldTree.branch (ofPaths paths)).descend keys) =
      (paths.filterMap fun x => nextPart keys x.2).eraseDups := by
  induction paths using List.reverseRecOn with
  | nil => cases keys <;> rfl
  | append_singleton paths x ih =>
    obtain ⟨hpaths, hx⟩ := uncovered_concat.1 h
    have hnext : ((paths ++ [x]).filterMap fun x => nextPart keys x.2) =
        (paths.filterMap fun x => nextPart keys x.2) ++ (nextPart keys x.2).toList := by
      rw [List.filterMap_append]
      cases hpart : nextPart keys x.2 <;> simp [hpart]
    rw [ofPaths_concat, hnext, ← withKey_eraseDups, ← ih hpaths]
    obtain ⟨path, parts⟩ := x
    cases parts with
    | nil => cases keys <;> rfl
    | cons part rest =>
      have hroot : ∀ other left, ((some (FieldTree.branch (ofPaths paths))).bind
          (·.descend keys)) ≠ some (.leaf other, left) := hpaths.descend_ne
      exact keysFound_planted path (hx (List.cons_ne_nil part rest)) hroot

/-- Keys that begin with some path's parts lead to a leaf. -/
theorem descend_of_covered {x : List Segment × List String} (hx : x ∈ paths) (hne : x.2 ≠ [])
    (hbegins : x.2 <+: keys) : ∃ y ∈ paths, y.2 ≠ [] ∧ ∃ left, keys = y.2 ++ left ∧
      (FieldTree.branch (ofPaths paths)).descend keys = some (.leaf y.1, left) := by
  have hkeys : keys ≠ [] := fun h => hne (List.prefix_nil.1 (h ▸ hbegins))
  have hleads := leads_ofPaths paths hkeys
  generalize (FieldTree.branch (ofPaths paths)).descend keys = found at hleads
  cases hleads with
  | leaf hy hne hleft => exact ⟨_, hy, hne, _, hleft, rfl⟩
  | branch hfree => exact absurd hbegins (hfree x hx hne)
  | nowhere hfree => exact absurd hbegins (hfree x hx hne)

theorem uncovered_of_descend {children : FieldForest} {left : List String}
    (h : (FieldTree.branch (ofPaths paths)).descend keys = some (.branch children, left)) :
    Uncovered paths keys := by
  intro x hx hne hbegins
  obtain ⟨y, -, -, left', -, hleaf⟩ := descend_of_covered hx hne hbegins
  rw [hleaf] at h
  cases h

/-- **The keys of a branch are what the paths go on with.** -/
theorem keys_children {children : FieldForest} {left : List String}
    (h : (FieldTree.branch (ofPaths paths)).descend keys = some (.branch children, left)) :
    Entries.keys children = (paths.filterMap fun x => nextPart keys x.2).eraseDups := by
  rw [← keysFound_ofPaths (uncovered_of_descend h), h]
  rfl

/-- A branch has been made for a path that goes on there. -/
theorem children_ne_nil {children : FieldForest} {left : List String} (hkeys : keys ≠ [])
    (h : (FieldTree.branch (ofPaths paths)).descend keys = some (.branch children, left)) :
    children ≠ [] := by
  have hleads := leads_ofPaths paths hkeys
  rw [h] at hleads
  cases hleads with
  | @branch x _ hfree hx hbegins =>
    obtain ⟨rest, hrest⟩ := hbegins
    cases rest with
    | nil =>
      rw [List.append_nil] at hrest
      exact absurd (hrest ▸ List.prefix_refl _) (hfree x hx (hrest ▸ hkeys))
    | cons part rest =>
      have hnext : nextPart keys x.2 = some part :=
        nextPart_eq_some_iff.2 ⟨rest, by rw [← hrest, List.append_assoc]; rfl⟩
      have hmem : part ∈ Entries.keys children := by
        rw [keys_children h, List.mem_eraseDups]
        exact List.mem_filterMap.2 ⟨x, hx, hnext⟩
      rintro rfl
      cases hmem

/-! ## Leaves -/

/-- Parts, at least one, that no other parts of a list begin. -/
structure PrefixMinimal (all : List (List String)) (keys : List String) : Prop where
  mem : keys ∈ all
  ne_nil : keys ≠ []
  minimal : ∀ parts ∈ all, parts ≠ [] → parts <+: keys → parts = keys

theorem PrefixMinimal.of_perm {all all' : List (List String)} (h : PrefixMinimal all keys)
    (hperm : all.Perm all') : PrefixMinimal all' keys :=
  ⟨hperm.mem_iff.1 h.mem, h.ne_nil, fun parts hparts => h.minimal parts (hperm.mem_iff.2 hparts)⟩

/-- Above keys that begin with some path's parts there is a leaf. -/
theorem exists_leaf_above {x : List Segment × List String} (hx : x ∈ paths) (hne : x.2 ≠ [])
    (hbegins : x.2 <+: keys) : ∃ path parts left, keys = parts ++ left ∧
      (FieldTree.branch (ofPaths paths)).descend parts = some (.leaf path, []) := by
  obtain ⟨y, hy, hne, left, rfl, hleaf⟩ := descend_of_covered hx hne hbegins
  -- the parts of `y` lead to a leaf too, and the rest of the keys does not leave it
  obtain ⟨z, -, -, left', -, habove⟩ := descend_of_covered hy hne (List.prefix_refl y.2)
  rw [FieldTree.descend_append, habove, Option.bind_some, FieldTree.descend] at hleaf
  have hleft : left' ++ left = left := (Prod.mk.inj (Option.some.inj hleaf)).2
  rw [List.append_left_eq_self.1 hleft] at habove
  exact ⟨z.1, y.2, left, rfl, habove⟩

/-- A leaf holds the path with its parts, and no other path's parts begin
these. -/
theorem prefixMinimal_of_leaf
    (h : (FieldTree.branch (ofPaths paths)).descend keys = some (.leaf path, [])) :
    (path, keys) ∈ paths ∧ PrefixMinimal (paths.map (·.2)) keys := by
  have hkeys : keys ≠ [] := by
    rintro rfl
    cases h
  have hleads := leads_ofPaths paths hkeys
  rw [h] at hleads
  cases hleads with
  | @leaf x _ hx hne hleft =>
    rw [List.append_nil] at hleft
    subst hleft
    refine ⟨hx, List.mem_map_of_mem hx, hne, fun parts hparts hne' hbegins => ?_⟩
    obtain ⟨y, hy, rfl⟩ := List.mem_map.1 hparts
    obtain ⟨more, hmore⟩ := hbegins
    obtain ⟨other, above, left, habove, hother⟩ := exists_leaf_above hy hne' (List.prefix_refl y.2)
    rw [← hmore, habove, List.append_assoc, FieldTree.descend_append_of_leaf hother] at h
    have hnil : left ++ more = [] := (Prod.mk.inj (Option.some.inj h)).2
    rw [(List.append_eq_nil_iff.1 hnil).2, List.append_nil] at hmore
    exact hmore

theorem exists_leaf_of_prefixMinimal (h : PrefixMinimal (paths.map (·.2)) keys) :
    ∃ path, (FieldTree.branch (ofPaths paths)).descend keys = some (.leaf path, []) := by
  obtain ⟨x, hx, rfl⟩ := List.mem_map.1 h.mem
  obtain ⟨path, parts, left, hkeys, hleaf⟩ := exists_leaf_above hx h.ne_nil (List.prefix_refl x.2)
  obtain ⟨-, hparts⟩ := prefixMinimal_of_leaf hleaf
  rw [h.minimal parts hparts.mem hparts.ne_nil ⟨left, hkeys.symm⟩] at hleaf
  exact ⟨path, hleaf⟩

/-- Paths with the same parts are the same. -/
def Consistent (paths : List (List Segment × List String)) : Prop :=
  ∀ x ∈ paths, ∀ y ∈ paths, x.2 = y.2 → x.1 = y.1

theorem Consistent.of_perm (h : Consistent paths) (hperm : paths.Perm paths') :
    Consistent paths' :=
  fun x hx y hy => h x (hperm.mem_iff.2 hx) y (hperm.mem_iff.2 hy)

/-- **Leaves stand under the prefix-minimal parts.** -/
theorem descend_eq_leaf_iff (hsame : Consistent paths) :
    (FieldTree.branch (ofPaths paths)).descend keys = some (.leaf path, []) ↔
      (path, keys) ∈ paths ∧ PrefixMinimal (paths.map (·.2)) keys := by
  refine ⟨prefixMinimal_of_leaf, fun ⟨hmem, hminimal⟩ => ?_⟩
  obtain ⟨other, hother⟩ := exists_leaf_of_prefixMinimal hminimal
  have hpath : other = path := hsame _ (prefixMinimal_of_leaf hother).1 _ hmem rfl
  rwa [hpath] at hother

/-! ## The same paths in another order -/

theorem descend_leaf_of_perm (hsame : Consistent paths) (hperm : paths.Perm paths')
    (h : (FieldTree.branch (ofPaths paths)).descend keys = some (.leaf path, [])) :
    (FieldTree.branch (ofPaths paths')).descend keys = some (.leaf path, []) := by
  rw [descend_eq_leaf_iff hsame] at h
  rw [descend_eq_leaf_iff (hsame.of_perm hperm)]
  exact ⟨hperm.mem_iff.1 h.1, h.2.of_perm (hperm.map _)⟩

theorem mem_keys_children_of_perm (hperm : paths.Perm paths') {children children' : FieldForest}
    {left left' : List String}
    (h : (FieldTree.branch (ofPaths paths)).descend keys = some (.branch children, left))
    (h' : (FieldTree.branch (ofPaths paths')).descend keys = some (.branch children', left')) :
    key ∈ Entries.keys children ↔ key ∈ Entries.keys children' := by
  rw [keys_children h, keys_children h', List.mem_eraseDups, List.mem_eraseDups]
  exact (hperm.filterMap _).mem_iff

end FieldForest

namespace Value

/-- Values that differ in the order of keys at most. -/
inductive Rearranged : Value → Value → Prop
  | same (v : Value) : Rearranged v v
  | document {d d' : Document} : (Entries.keys d).Perm (Entries.keys d') →
      (∀ key, Option.Rel Rearranged (Entries.get? key d) (Entries.get? key d')) →
      Rearranged (.document d) (.document d')

theorem rearranged_same : ∀ v : Option Value, Option.Rel Rearranged v v
  | none => .none
  | some v => .some (.same v)

/-- So do the values that keys lead to in them. -/
theorem Rearranged.follow {v w : Value} (h : Rearranged v w) (names : List String) :
    Option.Rel Rearranged (v.follow (names.map .named)) (w.follow (names.map .named)) := by
  induction names generalizing v w with
  | nil => exact .some h
  | cons name rest ih =>
    cases h with
    | same => exact rearranged_same _
    | @document d d' _ hvalues =>
      have hstep (d : Document) : (Value.document d).follow ((name :: rest).map .named) =
          (Entries.get? name d).bind fun v => v.follow (rest.map .named) := rfl
      have hname := hvalues name
      rw [hstep, hstep]
      generalize Entries.get? name d = v, Entries.get? name d' = w at hname
      cases hname with
      | none => exact .none
      | some hvw => exact ih hvw

/-- Where keys are distinct it is enough to compare what stands under each. -/
theorem rearranged_of_get? {d d' : Document} (hkeys : (Entries.keys d).Nodup)
    (hkeys' : (Entries.keys d').Nodup)
    (h : ∀ key, Option.Rel Rearranged (Entries.get? key d) (Entries.get? key d')) :
    Rearranged (.document d) (.document d') := by
  refine .document ((List.perm_ext_iff_of_nodup hkeys hkeys').2 fun key => ?_) h
  have hkey := h key
  rw [← Entries.isSome_get?_iff, ← Entries.isSome_get?_iff]
  generalize Entries.get? key d = v, Entries.get? key d' = w at hkey
  cases hkey <;> rfl

end Value

namespace FieldForest

open DocQuery.Path (parts)
open FieldTree (Distinct)
open Value (Rearranged)

variable {paths paths' : List (List Segment × List String)} {keys : List String}

/-- What two branches select under a key is rearranged if it is between the
children there, and if both have the key or neither. -/
theorem rearranged_get?_project (d : Document) {children children' : FieldForest}
    (hkeys : (Entries.keys children).Nodup) (hkeys' : (Entries.keys children').Nodup)
    {key : String} (hsome : key ∈ Entries.keys children ↔ key ∈ Entries.keys children')
    (h : ∀ child child', Entries.get? key children = some child →
      Entries.get? key children' = some child' →
      Option.Rel Rearranged (selectTree d child) (selectTree d child')) :
    Option.Rel Rearranged (Entries.get? key (project d children))
      (Entries.get? key (project d children')) := by
  rw [← Entries.isSome_get?_iff, ← Entries.isSome_get?_iff] at hsome
  rw [get?_project d hkeys, get?_project d hkeys']
  cases hchild : Entries.get? key children with
  | none =>
    have hchild' : Entries.get? key children' = none := by simpa [hchild] using hsome
    rw [hchild']
    exact .none
  | some child =>
    obtain ⟨child', hchild'⟩ := Option.isSome_iff_exists.1 (hsome.1 (by rw [hchild]; rfl))
    rw [hchild']
    exact h child child' hchild hchild'

/-- **In another order the same is selected**, except for the order of keys: by
induction on the tree. -/
theorem rearranged_selectTree (hsame : Consistent paths) (hperm : paths.Perm paths')
    (d : Document) {tree tree' : FieldTree} (h : Distinct tree) (h' : Distinct tree')
    (hleads : (FieldTree.branch (ofPaths paths)).descend keys = some (tree, []))
    (hleads' : (FieldTree.branch (ofPaths paths')).descend keys = some (tree', [])) :
    Option.Rel Rearranged (selectTree d tree) (selectTree d tree') := by
  induction h generalizing keys tree' with
  | leaf path =>
    have hleaf := descend_leaf_of_perm hsame hperm hleads
    obtain rfl : tree' = .leaf path := by simpa [hleads'] using hleaf
    exact Value.rearranged_same _
  | @branch children hkeys _ ih =>
    cases h' with
    | leaf path =>
      have hleaf := descend_leaf_of_perm (hsame.of_perm hperm) hperm.symm hleads'
      simp [hleads] at hleaf
    | @branch children' hkeys' htrees' =>
      refine .some (Value.rearranged_of_get? (Entries.nodup_keys_ofList _)
        (Entries.nodup_keys_ofList _) fun key => ?_)
      refine rearranged_get?_project d hkeys hkeys' (mem_keys_children_of_perm hperm hleads hleads')
        fun child child' hchild hchild' => ?_
      have hnext := FieldTree.descend_concat hleads key
      have hnext' := FieldTree.descend_concat hleads' key
      rw [hchild] at hnext
      rw [hchild'] at hnext'
      exact ih _ (Entries.mem_of_get? hchild) (htrees' _ (Entries.mem_of_get? hchild')) hnext hnext'

theorem rearranged_project (hsame : Consistent paths) (hperm : paths.Perm paths')
    (d : Document) : Rearranged (.document (project d (ofPaths paths)))
      (.document (project d (ofPaths paths'))) := by
  have hroot (paths : List (List Segment × List String)) :
      (FieldTree.branch (ofPaths paths)).descend [] = some (.branch (ofPaths paths), []) := rfl
  have hselect : Option.Rel Rearranged (some (.document (project d (ofPaths paths))))
      (some (.document (project d (ofPaths paths')))) :=
    rearranged_selectTree hsame hperm d (distinct_ofPaths paths) (distinct_ofPaths paths')
      (hroot paths) (hroot paths')
  cases hselect with
  | some h => exact h

/-- What has been asked for is the same, and in the same order. -/
theorem follow_project_of_perm (hsame : Consistent paths) (hperm : paths.Perm paths')
    (d : Document) {x : List Segment × List String} (hx : x ∈ paths) (hne : x.2 ≠ [])
    (hbegins : x.2 <+: keys) :
    (Value.document (project d (ofPaths paths))).follow (keys.map .named) =
      (Value.document (project d (ofPaths paths'))).follow (keys.map .named) := by
  have hfollow (paths : List (List Segment × List String)) :
      (Value.document (project d (ofPaths paths))).follow (keys.map .named) = _ :=
    follow_selectTree d (distinct_ofPaths paths) keys
  obtain ⟨path, parts, left, rfl, hleaf⟩ := exists_leaf_above hx hne hbegins
  rw [hfollow, hfollow, FieldTree.descend_append_of_leaf hleaf,
    FieldTree.descend_append_of_leaf (descend_leaf_of_perm hsame hperm hleaf)]

/-! ## Field lists -/

variable {texts : List String} {f : String → Path}

theorem consistent_withParts (h : ∀ text ∈ texts, Path.parse text = .ok (f text)) :
    Consistent (texts.map (withParts f)) := by
  intro x hx y hy hparts
  obtain ⟨text, htext, rfl⟩ := List.mem_map.1 hx
  obtain ⟨text', htext', rfl⟩ := List.mem_map.1 hy
  exact Path.segments_eq_of_parts_eq (h text htext) (h text' htext') hparts

/-- **The forest of a field list is the prefix-minimal tree of its paths.** A list
of paths is always read. In its forest:

* at each branch keys are distinct, and they are what the paths go on with there,
  in the order of their first appearance; below the root no branch is empty; and
  no key is selected twice, so that none takes the place of another in what is
  made;
* leaves stand under the parts that no other path's parts begin, and nowhere
  else;
* a leaf holds the segments of the paths that have its parts.

In another order the list makes documents that differ in the order of keys at
most, whatever keys lead into them, and not even so in what has been asked for. -/
theorem field_forest_prefix_minimal
    (hpaths : ∀ text ∈ texts, ∃ path, Path.parse text = .ok path) :
    ∃ forest, read texts = .ok forest ∧
      (∀ keys children, (FieldTree.branch forest).At keys (.branch children) →
        (Entries.keys children).Nodup ∧ (keys ≠ [] → children ≠ []) ∧
        Entries.keys children =
          (texts.filterMap fun text => nextPart keys (parts text)).eraseDups ∧
        ∀ d : Document, (Entries.keys (select d children)).Nodup) ∧
      (∀ keys, (∃ path, (FieldTree.branch forest).At keys (.leaf path)) ↔
        PrefixMinimal (texts.map parts) keys) ∧
      (∀ keys path, (FieldTree.branch forest).At keys (.leaf path) →
        ∀ text ∈ texts, parts text = keys →
          ∃ p, Path.parse text = .ok p ∧ p.segments = path) ∧
      ∀ texts', texts.Perm texts' → ∃ forest', read texts' = .ok forest' ∧
        ∀ (d : Document) (keys : List String),
          Option.Rel Rearranged
            ((Value.document (project d forest)).follow (keys.map .named))
            ((Value.document (project d forest')).follow (keys.map .named)) ∧
          (Asked texts keys →
            (Value.document (project d forest)).follow (keys.map .named) =
              (Value.document (project d forest')).follow (keys.map .named)) := by
  have : Nonempty Path := ⟨⟨"", []⟩⟩
  choose! f hf using hpaths
  have hsame := consistent_withParts hf
  have hdistinct := distinct_ofPaths (texts.map (withParts f))
  have hparts : (texts.map (withParts f)).map (·.2) = texts.map parts := by simp [withParts]
  refine ⟨_, read_of_parse hf, fun keys children hat => ?_, fun keys => ?_,
    fun keys path hat text htext htextparts => ?_, fun texts' hperm => ?_⟩
  · have hleads := (FieldTree.at_iff_descend hdistinct).1 hat
    have hkeys := (hat.distinct hdistinct).nodup_keys
    refine ⟨hkeys, fun hne => children_ne_nil hne hleads, ?_,
      fun d => hkeys.sublist (keys_select_sublist d children)⟩
    rw [keys_children hleads, List.filterMap_map]
    rfl
  · simp only [FieldTree.at_iff_descend hdistinct, ← hparts]
    constructor
    · rintro ⟨path, hpath⟩
      exact (prefixMinimal_of_leaf hpath).2
    · exact exists_leaf_of_prefixMinimal
  · have hleaf := (FieldTree.at_iff_descend hdistinct).1 hat
    have hmem : withParts f text ∈ texts.map (withParts f) := List.mem_map_of_mem htext
    exact ⟨f text, hf text htext, hsame _ hmem _ (prefixMinimal_of_leaf hleaf).1 htextparts⟩
  · have hperm' := hperm.map (withParts f)
    refine ⟨_, read_of_parse fun text htext => hf text (hperm.mem_iff.2 htext), fun d keys => ?_⟩
    refine ⟨(rearranged_project hsame hperm' d).follow keys, ?_⟩
    rintro ⟨text, htext, hne, hbegins⟩
    exact follow_project_of_perm hsame hperm' d (List.mem_map_of_mem htext) hne hbegins

/-- Paths that overlap, with a group in a part: a parent behind its child and in
front of it, a path without parts, and the same in another order. -/
theorem tagged_team_forest :
    let texts := ["team.name", "tags[0].id", "team", ".", "tags[0].by", "tags[0].by.name"]
    let texts' := ["tags[0].by.name", "tags[0].by", ".", "team", "tags[0].id", "team.name"]
    (∀ text ∈ texts, ∃ path, Path.parse text = .ok path) ∧ texts.Perm texts' ∧
    ∃ forest forest', read texts = .ok forest ∧ read texts' = .ok forest' ∧
      Entries.keys forest = ["team", "tags[0]"] ∧
      (FieldTree.branch forest).At ["tags[0]", "by"]
        (.leaf [.named "tags", .index 0, .named "by"]) ∧
      (¬ ∃ path, (FieldTree.branch forest).At ["team", "name"] (.leaf path)) ∧
      ∀ d : Document,
        Rearranged (.document (project d forest)) (.document (project d forest')) ∧
        (Value.document (project d forest)).follow [.named "team"] =
          (Value.document (project d forest')).follow [.named "team"] := by
  intro texts texts'
  have hvalid : ∀ text ∈ texts, ∃ path, Path.parse text = .ok path := by
    have hok : ∀ text ∈ texts, (Path.parse text).isOk = true := by decide +kernel
    intro text htext
    have hread := hok text htext
    cases hparse : Path.parse text with
    | ok path => exact ⟨path, rfl⟩
    | error e =>
      rw [hparse] at hread
      cases hread
  have hperm : texts.Perm texts' := by decide +kernel
  have hby : PrefixMinimal (texts.map parts) ["tags[0]", "by"] :=
    ⟨by decide +kernel, by decide, by decide +kernel⟩
  obtain ⟨forest, hread, hbranch, hleaf, hpath, horder⟩ := field_forest_prefix_minimal hvalid
  obtain ⟨forest', hread', hsame⟩ := horder texts' hperm
  refine ⟨hvalid, hperm, forest, forest', hread, hread', ?_, ?_, ?_, fun d => ⟨?_, ?_⟩⟩
  · rw [(hbranch [] forest (.here _)).2.2.1]
    decide +kernel
  · obtain ⟨path, hat⟩ := (hleaf _).2 hby
    obtain ⟨p, hp, rfl⟩ := hpath _ _ hat "tags[0].by" (by simp [texts]) (by decide +kernel)
    have hread : Path.parse "tags[0].by" =
        .ok ⟨"tags[0].by", [.named "tags", .index 0, .named "by"]⟩ := by decide +kernel
    obtain rfl := Except.ok.inj (hread.symm.trans hp)
    exact hat
  · intro hname
    have hshorter := ((hleaf _).1 hname).minimal ["team"] (by decide +kernel) (by decide)
      (by decide)
    exact absurd hshorter (by decide)
  · cases (hsame d []).1 with
    | some h => exact h
  · exact (hsame d ["team"]).2 ⟨"team", by simp [texts], by decide +kernel, by decide +kernel⟩

end FieldForest

end DocQuery
