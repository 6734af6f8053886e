import DocQuery.Proofs.Compilations
import DocQuery.Proofs.FlatKeys
import DocQuery.Proofs.ForestShape
import DocQuery.Proofs.Pipeline
/-!
# Documents projected on their own keys

The flat keys of a document list its keys, and behind each the keys below it. In
a forest the key itself is prefix-minimal, and whatever lies below it goes: what
is left is a leaf for each key of the document, in its order
(`FieldForest.ofTexts_flatKeys`). So a projection on the flat keys makes the
document again, to whatever level they go down. A document without flat keys is
not projected at all, which comes to the same.
-/


namespace DocQuery

/-- Copies of the first member count once. -/
theorem eraseDups_group {key : String} {copies rest : List String} (hcopies : ∀ x ∈ copies, x = key)
    (hrest : key ∉ rest) : (key :: (copies ++ rest)).eraseDups = key :: rest.eraseDups := by
  have hgone : copies.filter (fun x => !x == key) = [] :=
    List.filter_eq_nil_iff.2 fun x hx => by simp [hcopies x hx]
  have hkept : rest.filter (fun x => !x == key) = rest := by
    refine List.filter_eq_self.2 fun x hx => ?_
    have hne : x ≠ key := fun h => hrest (h ▸ hx)
    simpa using hne
  rw [List.eraseDups_cons, List.filter_append, hgone, hkept, List.nil_append]

namespace Value

variable {v : Value}

theorem filterMap_head?_under (key : String) (below : List (List String)) :
    (under key below).filterMap List.head? = key :: below.map fun _ => key := by
  rw [under, List.filterMap_cons, List.filterMap_map]
  exact congrArg (key :: ·) (congrFun List.filterMap_eq_map' below)

/-- **The first of the names within a value are its keys**: by induction on the
entries. -/
theorem heads_namesWithin (h : (Entries.keys v.entries).Nodup) (n : Nat) :
    ((namesWithin (n + 1) v).filterMap List.head?).eraseDups = Entries.keys v.entries := by
  rw [namesWithin]
  generalize v.entries = entries at h
  induction entries with
  | nil => rfl
  | cons e rest ih =>
    obtain ⟨hnew, hrest⟩ := List.nodup_cons.1 h
    have hheads := ih hrest
    rw [List.flatMap_cons, List.filterMap_append, filterMap_head?_under, List.cons_append,
      eraseDups_group (by simp), hheads]
    · rfl
    · rwa [← List.mem_eraseDups, hheads]

end Value

namespace FieldForest

variable {d : Document}

theorem select_eq_filterMap (d : Document) (forest : FieldForest) :
    select d forest = forest.filterMap fun x => (selectTree d x.2).map (x.1, ·) := by
  induction forest with
  | nil => rfl
  | cons x rest ih =>
    obtain ⟨key, tree⟩ := x
    rw [List.filterMap_cons, select, ih]
    cases selectTree d tree <;> rfl

/-- The forest with a leaf for each key of a document, and nothing else. -/
def ofKeys (d : Document) : FieldForest := d.map fun e => (e.1, .leaf [.named e.1])

/-- It selects the document. -/
theorem project_ofKeys (h : (Entries.keys d).Nodup) : project d (ofKeys d) = d := by
  have hentry : ∀ e ∈ d, (selectTree d (.leaf [.named e.1])).map (e.1, ·) = some e := by
    intro e he
    have hleaf : selectTree d (.leaf [.named e.1]) = (Entries.get? e.1 d).bind some := rfl
    rw [hleaf, Entries.get?_of_mem h he]
    rfl
  have hselect : select d (ofKeys d) = d := by
    rw [select_eq_filterMap, ofKeys, List.filterMap_map]
    exact (List.filterMap_congr hentry).trans List.filterMap_some
  rw [project, hselect, Entries.ofList_eq_self h]

/-- No names go before a key. -/
theorem prefixMinimal_key {v : Value} {key : String} (h : key ∈ Entries.keys v.entries) (n : Nat) :
    PrefixMinimal (v.namesWithin (n + 1)) [key] := by
  obtain ⟨e, he, rfl⟩ := List.mem_map.1 h
  refine ⟨Value.mem_namesWithin.2 ⟨List.cons_ne_nil _ _, by simp, e.2, .within he (.here _)⟩,
    List.cons_ne_nil _ _, fun names _ hne hbegins => ?_⟩
  obtain ⟨name, rest, rfl⟩ := List.exists_cons_of_ne_nil hne
  obtain ⟨rfl, hrest⟩ := List.cons_prefix_cons.1 hbegins
  rw [List.prefix_nil.1 hrest]

/-- The parts of flat keys are the names within the document. -/
theorem parts_flatKeys (h : d.PlainKeys) (n : Nat) :
    ((d.flatKeys n).map named).map (·.2) = (Value.document d).namesWithin n := by
  rw [Document.flatKeys_eq h, List.map_map, List.map_map]
  refine (List.map_congr_left fun names hmem => ?_).trans (List.map_id _)
  exact Path.parts_dotted (Document.writable_of_mem_namesWithin h hmem)

/-- At the root of their forest stand the keys of the document, in its order, -/
theorem keys_ofTexts_flatKeys (hwell : d.WellFormed) (hplain : d.PlainKeys) (n : Nat) :
    Entries.keys (ofTexts (d.flatKeys (n + 1))) = Entries.keys d := by
  have hroot : (FieldTree.branch (ofTexts (d.flatKeys (n + 1)))).descend [] =
      some (.branch (ofTexts (d.flatKeys (n + 1))), []) := rfl
  have hkeys : (Entries.keys d).Nodup := (Value.wellFormed_document.1 hwell).1
  calc Entries.keys (ofTexts (d.flatKeys (n + 1)))
      = (((d.flatKeys (n + 1)).map named).filterMap fun x => nextPart [] x.2).eraseDups :=
        keys_children hroot
    _ = (((d.flatKeys (n + 1)).map named).map (·.2) |>.filterMap List.head?).eraseDups := by
        rw [List.filterMap_map, List.filterMap_map, List.filterMap_map]
        rfl
    _ = (((Value.document d).namesWithin (n + 1)).filterMap List.head?).eraseDups := by
        rw [parts_flatKeys hplain]
    _ = Entries.keys d := Value.heads_namesWithin (v := .document d) hkeys n

/-- and each holds its leaf. -/
theorem leaf_of_mem_ofTexts_flatKeys (hwell : d.WellFormed) (hplain : d.PlainKeys) {n : Nat}
    {x : String × FieldTree} (hx : x ∈ ofTexts (d.flatKeys (n + 1))) :
    x.2 = .leaf [.named x.1] := by
  have hkey : x.1 ∈ Entries.keys d :=
    keys_ofTexts_flatKeys hwell hplain n ▸ List.mem_map_of_mem hx
  have hminimal : PrefixMinimal (((d.flatKeys (n + 1)).map named).map (·.2)) [x.1] := by
    rw [parts_flatKeys hplain]
    exact prefixMinimal_key hkey n
  obtain ⟨path, hpath⟩ := exists_leaf_of_prefixMinimal hminimal
  -- the path of the leaf is the one name that its parts are
  obtain ⟨text, -, htext⟩ := List.mem_map.1 (prefixMinimal_of_leaf hpath).1
  obtain ⟨hsegments, hparts⟩ := Prod.mk.inj htext
  have hname : path = [.named x.1] := by
    rw [← hsegments, hparts]
    rfl
  have hchild := (FieldTree.at_iff_descend (distinct_ofPaths _)).1 (.child hx (.here x.2))
  have hsame := Option.some.inj (hchild.symm.trans hpath)
  rw [← hname]
  exact (Prod.mk.inj hsame).1

/-- **The forest of the flat keys of a document** is the one of its keys: the rest
lies below. -/
theorem ofTexts_flatKeys (hwell : d.WellFormed) (hplain : d.PlainKeys) (n : Nat) :
    ofTexts (d.flatKeys (n + 1)) = ofKeys d := by
  have hleaf : ∀ x ∈ ofTexts (d.flatKeys (n + 1)), x = (x.1, .leaf [.named x.1]) := fun x hx =>
    Prod.ext rfl (leaf_of_mem_ofTexts_flatKeys hwell hplain hx)
  calc ofTexts (d.flatKeys (n + 1))
      = (ofTexts (d.flatKeys (n + 1))).map fun x => (x.1, .leaf [.named x.1]) := by
        exact (List.map_id _).symm.trans (List.map_congr_left hleaf)
    _ = (Entries.keys (ofTexts (d.flatKeys (n + 1)))).map fun key =>
        (key, .leaf [.named key]) := by
        rw [Entries.keys, List.map_map]
        rfl
    _ = ofKeys d := by
        rw [keys_ofTexts_flatKeys hwell hplain, Entries.keys, List.map_map]
        rfl

end FieldForest

namespace Projector

variable {d : Document}

/-- **A projection on its own flat keys is the identity on a document.** -/
theorem exists_of_flatKeys (hwell : d.WellFormed) (hplain : d.PlainKeys) (n : Nat) :
    ∃ projector, ofProjection (.fields (d.flatKeys n)) = .ok projector ∧
      projector.apply d = .document d := by
  have hfree : ∀ text ∈ d.flatKeys n, Path.BracketFree text := by
    rw [Document.flatKeys_eq hplain]
    intro text htext
    obtain ⟨names, hnames, rfl⟩ := List.mem_map.1 htext
    exact Path.bracketFree_dotted (Document.writable_of_mem_namesWithin hplain hnames)
  have hread := FieldForest.read_of_bracketFree hfree
  cases hkeys : d.flatKeys n with
  | nil => exact ⟨.identity, rfl, rfl⟩
  | cons text rest =>
    obtain ⟨n, rfl⟩ : ∃ m, n = m + 1 := by
      cases n with
      | zero =>
        rw [Document.flatKeys_eq hplain, Value.namesWithin] at hkeys
        cases hkeys
      | succ m => exact ⟨m, rfl⟩
    rw [FieldForest.ofTexts_flatKeys hwell hplain, hkeys] at hread
    refine ⟨.fields (FieldForest.ofKeys d), ?_, ?_⟩
    · rw [ofProjection, hread]
      · rfl
      · simp
    · rw [apply, FieldForest.project_ofKeys (Value.wellFormed_document.1 hwell).1]

end Projector

namespace Compilation

variable {config : Config} {c : Compilation config}

/-- The query that every document matches compiles, and every document does match
it. -/
theorem exists_of_everything (h : c.query.shape = .everything ()) :
    ∃ m, c.result = .ok m ∧ ∀ d : Document, m.acceptsDocument d = true := by
  obtain ⟨m, hm⟩ : c.Compiles := by
    rw [c.compiles_iff, h, Query.everything]
    simp [Query.readings, Condition.readingsOf]
  refine ⟨m, hm, fun d => (accepts_iff_of_result hm _).2 ?_⟩
  rw [h, Query.everything, Query.Holds]
  trivial

end Compilation

/-- **Projected on its own flat keys, a document stays as it is.** Let every key
of a document, and of the documents within documents in it, be writable as a
name: not empty, and without dots and brackets. Then a find with the query that
everything matches, over this document alone and with a projection on its flat
keys, gives the document, whatever the number of levels they go down and whatever
has happened in the session before. -/
theorem own_keys_keep_document {α : Type} {config : Config} (c : Compilation config)
    (heverything : c.query.shape = .everything ()) (document : α → Document) (row : α)
    (hwell : (document row).WellFormed) (hplain : (document row).PlainKeys) (n : Nat) :
    (c.session.engine.find c.alive c.query
      (FindOptions.empty.project (.fields ((document row).flatKeys n))) document [row]).1 =
      .ok (some [.document (document row)]) := by
  obtain ⟨m, hm, haccepts⟩ := Compilation.exists_of_everything heverything
  obtain ⟨projector, hprojector, hsame⟩ := Projector.exists_of_flatKeys hwell hplain n
  have hread : Stages.ofOptions (FindOptions.empty.project (.fields ((document row).flatKeys n))) =
      .ok ⟨[], none, some projector⟩ := by
    unfold Stages.ofOptions FindOptions.project FindOptions.empty
    rw [Option.mapM_some, hprojector]
    rfl
  have hkept : m.kept document [row] = [row] := List.filter_eq_self.2 (by simp [haccepts])
  rw [Engine.find_of_ok hm hread, Stages.values, Stages.chosen, hkept]
  exact congrArg (fun v => Except.ok (some [v])) hsame

/-- Two levels of a document with three, with an empty document and an array in
it. -/
theorem team_kept_whole :
    let home : Document := [("city", .string "Oslo"), ("seats", .array [.int32 3, .null])]
    let team : Document := [("name", .string "Lions"), ("home", .document home),
      ("sponsor", .document [])]
    let d : Document := [("team", .document team), ("größe", .int64 7)]
    d.WellFormed ∧ d.PlainKeys ∧
      d.flatKeys 2 = ["team", "team.name", "team.home", "team.sponsor", "größe"] ∧
      ∃ c : Compilation {}, c.query.shape = .everything () ∧
        ∀ n ∈ [0, 2], (c.session.engine.find c.alive c.query
          (FindOptions.empty.project (.fields (d.flatKeys n))) id [d]).1 =
            .ok (some [.document d]) := by
  intro home team d
  have hwell : d.WellFormed := by
    simp [d, team, home, Document.WellFormed, Value.WellFormed, Value.EntriesWellFormed,
      Value.AllWellFormed, Entries.keys]
  have hwritable : ∀ name ∈ ["team", "name", "home", "city", "seats", "sponsor", "größe"],
      Path.Writable (.named name) := by
    simp [Path.Writable, Path.IsNameChar]
  have hnone {v : Value} (h : v.entries = []) : v.EachKey fun key => Path.Writable (.named key) :=
    Value.eachKey_of_entries_eq_nil h
  have hhome : (Value.document home).EachKey fun key => Path.Writable (.named key) :=
    Value.eachKey_of_entries (List.forall_mem_cons.2 ⟨⟨hwritable _ (by simp), hnone rfl⟩,
      List.forall_mem_singleton.2 ⟨hwritable _ (by simp), hnone rfl⟩⟩)
  have hteam : (Value.document team).EachKey fun key => Path.Writable (.named key) :=
    Value.eachKey_of_entries (List.forall_mem_cons.2 ⟨⟨hwritable _ (by simp), hnone rfl⟩,
      List.forall_mem_cons.2 ⟨⟨hwritable _ (by simp), hhome⟩,
        List.forall_mem_singleton.2 ⟨hwritable _ (by simp), hnone rfl⟩⟩⟩)
  have hplain : d.PlainKeys :=
    Value.eachKey_of_entries (List.forall_mem_cons.2 ⟨⟨hwritable _ (by simp), hteam⟩,
      List.forall_mem_singleton.2 ⟨hwritable _ (by simp), hnone rfl⟩⟩)
  obtain ⟨c, hc⟩ := Compilation.exists_of_shape {} (.everything ())
  exact ⟨hwell, hplain, by decide +kernel, c, hc,
    fun n _ => own_keys_keep_document c hc id d hwell hplain n⟩

end DocQuery
