import DocQuery.Path.FlatKeys
import DocQuery.Proofs.FieldLists
import DocQuery.Proofs.NestedNames
import DocQuery.Proofs.PathParts
/-!
# Flat keys are paths

The flat keys of a document are the names that lead to values in it, each
written with dots in between (`Document.flatKeys_eq`). If every key can be
written as a name, nothing is lost by that: what has been joined by dots is a
path of just these names, and its parts are the names again
(`Path.parse_dotted`, `Path.parts_dotted`). So flat keys come as the names do,
once each and in the same order.
-/


namespace DocQuery

namespace Path

variable {name : String} {names : List String}

/-- Names with dots in between. -/
def dotted (names : List String) : String := ".".intercalate names

@[simp] theorem dotted_singleton (name : String) : dotted [name] = name := String.intercalate_singleton

theorem dotted_cons (h : names ≠ []) (name : String) :
    dotted (name :: names) = name ++ "." ++ dotted names :=
  String.intercalate_cons_of_ne_nil h

theorem dotted_concat (h : names ≠ []) (name : String) :
    dotted (names ++ [name]) = dotted names ++ "." ++ name := by
  rw [dotted, String.intercalate_append_of_ne_nil h (List.cons_ne_nil name []),
    String.intercalate_singleton]
  rfl

/-- A name that can be written is free of brackets, -/
theorem bracketFree_of_writable (h : Writable (.named name)) : BracketFree name :=
  fun c hc => (h.2 c hc).2

/-- and is a part of its own. -/
theorem parts_of_writable (h : Writable (.named name)) : parts name = [name] := by
  have hdot : '.' ∉ name.toList := fun hmem => (h.2 _ hmem).1 rfl
  have hne : name.toList ≠ [] := by simpa using h.1
  have hread := readParts_append (bracketFree_of_writable h) (fun _ : 0 = 0 => hdot) [] []
  rw [List.append_nil, List.append_nil, readParts, List.reverse_reverse, part,
    if_neg (by simpa using hne), String.ofList_toList] at hread
  exact hread

theorem bracketFree_dotted (h : ∀ name ∈ names, Writable (.named name)) :
    BracketFree (dotted names) := by
  induction names with
  | nil => simp [dotted, BracketFree, IsContent]
  | cons name rest ih =>
    obtain ⟨hname, hrest⟩ := List.forall_mem_cons.1 h
    by_cases hnil : rest = []
    · subst hnil
      rw [dotted_singleton]
      exact bracketFree_of_writable hname
    · rw [dotted_cons hnil, BracketFree, toList_join]
      refine List.forall_mem_append.2 ⟨bracketFree_of_writable hname, ?_⟩
      exact List.forall_mem_cons.2 ⟨by decide, ih hrest⟩

/-- **Names that are joined are parted again.** -/
theorem parts_dotted (h : ∀ name ∈ names, Writable (.named name)) :
    parts (dotted names) = names := by
  induction names with
  | nil => rfl
  | cons name rest ih =>
    obtain ⟨hname, hrest⟩ := List.forall_mem_cons.1 h
    by_cases hnil : rest = []
    · subst hnil
      rw [dotted_singleton, parts_of_writable hname]
    · rw [dotted_cons hnil, parts_join (parse_of_bracketFree (bracketFree_of_writable hname))
        (parse_of_bracketFree (bracketFree_dotted hrest)), parts_of_writable hname, ih hrest]
      rfl

/-- **And they are a path of these names.** -/
theorem parse_dotted (h : ∀ name ∈ names, Writable (.named name)) :
    parse (dotted names) = .ok ⟨dotted names, names.map .named⟩ := by
  rw [parse_of_bracketFree (bracketFree_dotted h), parts_dotted h]

end Path

open DocQuery.Path (dotted)

namespace FlatKeys

variable {names : List String}

/-- A key is written below names as one more name. -/
theorem below_dotted (h : ∀ name ∈ names, name ≠ "") (key : String) :
    below (dotted names) key = dotted (names ++ [key]) := by
  cases names with
  | nil => simp [below, dotted]
  | cons name rest =>
    -- only behind the empty text there would be no dot
    have hname : name ≠ "" := h name List.mem_cons_self
    have hne : (dotted (name :: rest)).isEmpty = false := by
      cases rest with
      | nil => simpa [dotted] using hname
      | cons next rest => simp [dotted, hname]
    rw [below, hne, if_neg Bool.false_ne_true, Path.dotted_concat (List.cons_ne_nil name rest)]

theorem ofValue_zero (above : String) (v : Value) : ofValue 0 above v = [] := by
  cases v with
  | document entries => cases entries <;> rfl
  | _ => rfl

/-- A level of keys: each, and what lies below it. -/
theorem ofValue_succ (n : Nat) (above : String) (v : Value) :
    ofValue (n + 1) above v = v.entries.flatMap fun e =>
      below above e.1 :: ofValue n (below above e.1) e.2 := by
  have hentries (entries : List (String × Value)) : ofEntries (n + 1) above entries =
      entries.flatMap fun e => below above e.1 :: ofValue n (below above e.1) e.2 := by
    induction entries with
    | nil => rfl
    | cons e rest ih =>
      rw [ofEntries, if_neg (Nat.succ_ne_zero n), ih, Nat.add_sub_cancel]
      rfl
  cases v with
  | document entries => exact hentries entries
  | _ => rfl

/-- **Flat keys are written names**: by induction on the levels. -/
theorem ofValue_eq {v : Value} (hkeys : v.EachKey fun key => key ≠ "")
    (h : ∀ name ∈ names, name ≠ "") (n : Nat) :
    ofValue n (dotted names) v =
      (v.namesWithin n).map fun more => dotted (names ++ more) := by
  induction n generalizing v names with
  | zero => exact ofValue_zero _ v
  | succ n ih =>
    rw [ofValue_succ, Value.namesWithin, List.map_flatMap]
    refine List.flatMap_congr fun e he => ?_
    have hkey : e.1 ≠ "" := hkeys [] v (.here v) _ (List.mem_map_of_mem he)
    have hnames : ∀ name ∈ names ++ [e.1], name ≠ "" :=
      List.forall_mem_append.2 ⟨h, List.forall_mem_singleton.2 hkey⟩
    rw [below_dotted h, ih (hkeys.below he) hnames, Value.under, List.map_cons, List.map_map]
    refine congrArg (_ :: ·) (List.map_congr_left fun more _ => ?_)
    rw [List.append_assoc]
    rfl

end FlatKeys

namespace Document

/-- Every key of a document, and of the documents within documents in it, can be
written as a name. -/
def PlainKeys (d : Document) : Prop :=
  (Value.document d).EachKey fun key => Path.Writable (.named key)

variable {d : Document} {names : List String}

theorem flatKeys_eq (h : d.PlainKeys) (n : Nat) :
    d.flatKeys n = ((Value.document d).namesWithin n).map dotted := by
  have hkeys : (Value.document d).EachKey fun key => key ≠ "" :=
    fun names u hu key hkey => (h names u hu key hkey).1
  have hnames : ∀ name ∈ ([] : List String), name ≠ "" := by simp
  exact FlatKeys.ofValue_eq hkeys hnames n

/-- Names within the document are what is written. -/
theorem writable_of_mem_namesWithin (h : d.PlainKeys) {n : Nat}
    (hmem : names ∈ (Value.document d).namesWithin n) :
    ∀ name ∈ names, Path.Writable (.named name) := by
  obtain ⟨-, -, v, hv⟩ := Value.mem_namesWithin.1 hmem
  exact h.of_leads hv

/-- A path of names is followed from the document as from the value. -/
theorem resolve_named (d : Document) (hne : names ≠ []) :
    d.resolve (names.map .named) = (Value.document d).follow (names.map .named) := by
  obtain ⟨name, rest, rfl⟩ := List.exists_cons_of_ne_nil hne
  rfl

end Document

/-- **Flat keys are the paths of names in a document**, if every key can be
written as a name:

* each comes once;
* they are the names, at least one and no more than there are levels, that lead
  to a value, with dots in between;
* each is a path, of these names, and leads to that value;
* each comes before those that go on from it, and the keys of each document come
  in its order;
* with a level less, those with too many names are left out. -/
theorem flatKeys_enumerate_names (d : Document) (hwell : d.WellFormed) (hplain : d.PlainKeys)
    (n : Nat) :
    (d.flatKeys n).Nodup ∧
    (∀ s : String, s ∈ d.flatKeys n ↔ ∃ names v, names ≠ [] ∧ names.length ≤ n ∧
      (Value.document d).Leads names v ∧ s = dotted names) ∧
    (∀ names v, names ≠ [] → (Value.document d).Leads names v →
      Path.parse (dotted names) = .ok ⟨dotted names, names.map .named⟩ ∧
      Path.parts (dotted names) = names ∧ d.resolve (names.map .named) = some v) ∧
    (∀ names more v, names ≠ [] → more ≠ [] → (names ++ more).length ≤ n →
      (Value.document d).Leads (names ++ more) v →
      [dotted names, dotted (names ++ more)].Sublist (d.flatKeys n)) ∧
    (∀ names sub, (Value.document d).Leads names (.document sub) → names.length < n →
      ((Entries.keys sub).map fun key => dotted (names ++ [key])).Sublist (d.flatKeys n)) ∧
    d.flatKeys n = (d.flatKeys (n + 1)).filter fun s => (Path.parts s).length ≤ n := by
  have hdistinct := Value.distinctKeys_of_wellFormed hwell
  have hparts (names : List String) {n : Nat}
      (hmem : names ∈ (Value.document d).namesWithin n) : Path.parts (dotted names) = names :=
    Path.parts_dotted (Document.writable_of_mem_namesWithin hplain hmem)
  rw [Document.flatKeys_eq hplain, Document.flatKeys_eq hplain]
  refine ⟨?_, fun s => ?_, fun names v hne hv => ?_, fun names more v hne hmore hlength hv => ?_,
    fun names sub hsub hlength => ?_, ?_⟩
  · -- names can be told from what is written
    refine (Value.nodup_namesWithin hdistinct n).map_on fun names hmem names' hmem' heq => ?_
    rw [← hparts names hmem, heq, hparts names' hmem']
  · simp only [List.mem_map, Value.mem_namesWithin]
    constructor
    · rintro ⟨names, ⟨hne, hlength, v, hv⟩, rfl⟩
      exact ⟨names, v, hne, hlength, hv, rfl⟩
    · rintro ⟨names, v, hne, hlength, hv, rfl⟩
      exact ⟨names, ⟨hne, hlength, v, hv⟩, rfl⟩
  · have hwritable := hplain.of_leads hv
    refine ⟨Path.parse_dotted hwritable, Path.parts_dotted hwritable, ?_⟩
    rw [d.resolve_named hne]
    exact Value.follow_of_leads hdistinct hv
  · have hmem : names ++ more ∈ (Value.document d).namesWithin n :=
      Value.mem_namesWithin.2 ⟨by simp [hne], hlength, v, hv⟩
    exact (Value.pair_sublist_namesWithin hne hmore hmem).map dotted
  · have hsiblings := (Value.siblings_sublist_namesWithin hsub hlength).map dotted
    rwa [List.map_map] at hsiblings
  · rw [Value.namesWithin_eq_filter, List.filter_map]
    refine congrArg (List.map dotted) (List.filter_congr fun names hmem => ?_)
    simp only [Function.comp_apply, hparts names hmem]

/-- Two levels of a document with three: the keys in an array are none of its
own, and the city lies too deep. -/
theorem home_listed_without_city :
    let home : Document := [("city", .string "Oslo")]
    let team : Document := [("name", .string "Lions"), ("home", .document home)]
    let d : Document := [("team", .document team), ("tags", .array [.document home])]
    d.WellFormed ∧ d.PlainKeys ∧
      d.flatKeys 2 = ["team", "team.name", "team.home", "tags"] ∧ (d.flatKeys 2).Nodup ∧
      "team.home" ∈ d.flatKeys 2 ∧
      Path.parse "team.home" = .ok ⟨"team.home", [.named "team", .named "home"]⟩ ∧
      d.resolve [.named "team", .named "home"] = some (.document home) ∧
      ["team", "team.home"].Sublist (d.flatKeys 2) ∧
      ["team.name", "team.home"].Sublist (d.flatKeys 2) ∧
      d.flatKeys 2 = (d.flatKeys 3).filter fun s => (Path.parts s).length ≤ 2 := by
  intro home team d
  have hwell : d.WellFormed := by
    simp [d, team, home, Document.WellFormed, Value.WellFormed, Value.EntriesWellFormed,
      Value.AllWellFormed, Entries.keys]
  have hwritable : ∀ name ∈ ["team", "name", "home", "city", "tags"],
      Path.Writable (.named name) := by
    simp [Path.Writable, Path.IsNameChar]
  -- what is no document has no keys
  have hnone {v : Value} (h : v.entries = []) :
      v.EachKey fun key => Path.Writable (.named key) :=
    Value.eachKey_of_entries (by simp [h])
  have hhome : (Value.document home).EachKey fun key => Path.Writable (.named key) :=
    Value.eachKey_of_entries (List.forall_mem_singleton.2 ⟨hwritable _ (by simp), hnone rfl⟩)
  have hteam : (Value.document team).EachKey fun key => Path.Writable (.named key) :=
    Value.eachKey_of_entries (List.forall_mem_cons.2 ⟨⟨hwritable _ (by simp), hnone rfl⟩,
      List.forall_mem_singleton.2 ⟨hwritable _ (by simp), hhome⟩⟩)
  have hplain : d.PlainKeys :=
    Value.eachKey_of_entries (List.forall_mem_cons.2 ⟨⟨hwritable _ (by simp), hteam⟩,
      List.forall_mem_singleton.2 ⟨hwritable _ (by simp), hnone rfl⟩⟩)
  have hlead : (Value.document d).Leads ["team"] (.document team) :=
    .within List.mem_cons_self (.here _)
  have hleads : (Value.document d).Leads ["team", "home"] (.document home) :=
    .within List.mem_cons_self (.within (by simp [team]) (.here _))
  obtain ⟨hnodup, hmem, hpath, hbelow, hsiblings, hless⟩ :=
    flatKeys_enumerate_names d hwell hplain 2
  obtain ⟨hparse, -, hresolve⟩ := hpath _ _ (List.cons_ne_nil _ _) hleads
  exact ⟨hwell, hplain, by decide +kernel, hnodup,
    (hmem _).2 ⟨_, _, List.cons_ne_nil _ _, by decide, hleads, rfl⟩, hparse, hresolve,
    hbelow ["team"] ["home"] _ (by decide) (by decide) (by decide) hleads,
    hsiblings _ _ hlead (by decide), hless⟩

end DocQuery
