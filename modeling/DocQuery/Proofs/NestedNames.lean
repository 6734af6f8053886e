import Mathlib.Data.List.Flatten
import Mathlib.Data.List.Nodup
import DocQuery.Path.Resolve
import DocQuery.Proofs.KeyedLists
import DocQuery.Proofs.Nesting
/-!
# Names that lead into documents

Names lead from a document to the values under its keys, and through documents
within documents to the values in those (`Value.Leads`). They do not lead into
arrays.

`Value.namesWithin` lists all names that lead somewhere, down to a number of
levels: each key, and behind it the names that go on from its value. The lists
are told apart by what they hold (`mem_namesWithin`, `nodup_namesWithin`), and
placed by two rules: names come before those that go on from them
(`pair_sublist_namesWithin`), and the keys of each document come in its order
(`siblings_sublist_namesWithin`). A list that goes down less far is part of one
that goes further (`namesWithin_eq_filter`).
-/


namespace DocQuery

namespace Value

variable {v w : Value} {names : List String} {n : Nat}

/-- The entries of a value: a document has them, and nothing else does. -/
def entries (v : Value) : List (String × Value) := v.document?.getD []

@[simp] theorem entries_document (d : Document) : (document d).entries = d := rfl

/-- Names lead from a value, through documents within documents, to a value. -/
inductive Leads : Value → List String → Value → Prop
  | here (v : Value) : Leads v [] v
  | within {v u w : Value} {key : String} {names : List String} : (key, u) ∈ v.entries →
      Leads u names w → Leads v (key :: names) w

/-- The keys of a value, and of the documents within documents in it, have a
property. -/
def EachKey (P : String → Prop) (v : Value) : Prop :=
  ∀ names u, v.Leads names u → ∀ key ∈ Entries.keys u.entries, P key

/-- No document that names lead to has a key twice. -/
def DistinctKeys (v : Value) : Prop :=
  ∀ names u, v.Leads names u → (Entries.keys u.entries).Nodup

theorem EachKey.below {P : String → Prop} (h : v.EachKey P) {e : String × Value}
    (he : e ∈ v.entries) : e.2.EachKey P :=
  fun _ u hu => h _ u (.within he hu)

/-- It is enough to look at the entries of a value, and at the values in them. -/
theorem eachKey_of_entries {P : String → Prop} (h : ∀ e ∈ v.entries, P e.1 ∧ e.2.EachKey P) :
    v.EachKey P := by
  intro names u hleads key hkey
  cases hleads with
  | here =>
    obtain ⟨e, he, rfl⟩ := List.mem_map.1 hkey
    exact (h e he).1
  | within hmem hrest => exact (h _ hmem).2 _ u hrest key hkey

/-- What is no document has no keys. -/
theorem eachKey_of_entries_eq_nil {P : String → Prop} (h : v.entries = []) : v.EachKey P :=
  eachKey_of_entries (by simp [h])

theorem DistinctKeys.below (h : v.DistinctKeys) {e : String × Value} (he : e ∈ v.entries) :
    e.2.DistinctKeys :=
  fun _ u hu => h _ u (.within he hu)

/-- Names that lead somewhere are keys. -/
theorem EachKey.of_leads {P : String → Prop} (h : v.EachKey P) (hleads : v.Leads names w) :
    ∀ name ∈ names, P name := by
  induction hleads with
  | here => simp
  | within hmem _ ih =>
    exact List.forall_mem_cons.2
      ⟨h [] _ (.here _) _ (List.mem_map_of_mem hmem), ih (h.below hmem)⟩

/-- A value with entries is the document of them. -/
theorem document?_of_mem_entries {e : String × Value} (h : e ∈ v.entries) :
    v.document? = some v.entries := by
  unfold entries at h ⊢
  cases hv : v.document? with
  | none =>
    rw [hv] at h
    cases h
  | some d => rfl

/-- The keys of well-formed values are distinct, at every level. -/
theorem distinctKeys_of_wellFormed (h : v.WellFormed) : v.DistinctKeys := by
  intro names u hleads
  have hu : u.WellFormed := by
    induction hleads with
    | here => exact h
    | @within v u w key names hmem _ ih =>
      cases v with
      | document d => exact ih ((wellFormed_document.1 h).2 _ hmem)
      | _ => cases hmem
  cases u with
  | document d => exact (wellFormed_document.1 hu).1
  | _ => exact List.nodup_nil

/-- **The resolver goes where names lead.** -/
theorem follow_of_leads (hdistinct : v.DistinctKeys) (h : v.Leads names w) :
    v.follow (names.map .named) = some w := by
  induction h with
  | here => rfl
  | @within v u w key names hmem _ ih =>
    have hstep : (Root.value v).step (.named key) = some u := by
      have hget := Entries.get?_of_mem (hdistinct [] v (.here v)) hmem
      rw [Root.step, Root.document?, document?_of_mem_entries hmem]
      exact hget
    rw [List.map_cons, follow, hstep]
    exact ih (hdistinct.below hmem)

/-! ## All names down to some level -/

/-- A key, and what lies below it. -/
def under (key : String) (below : List (List String)) : List (List String) :=
  [key] :: below.map (key :: ·)

/-- The names that lead from a value somewhere else, down to a number of
levels. -/
def namesWithin : Nat → Value → List (List String)
  | 0, _ => []
  | n + 1, v => v.entries.flatMap fun e => under e.1 (namesWithin n e.2)

theorem mem_under {key : String} {below : List (List String)} :
    names ∈ under key below ↔ names = [key] ∨ ∃ rest ∈ below, names = key :: rest := by
  simp only [under, List.mem_cons, List.mem_map, eq_comm]

/-- **The names within a value** are those that lead somewhere, at least one and
not too many. -/
theorem mem_namesWithin :
    names ∈ namesWithin n v ↔ names ≠ [] ∧ names.length ≤ n ∧ ∃ w, v.Leads names w := by
  induction n generalizing v names with
  | zero =>
    cases names with
    | nil => simp [namesWithin]
    | cons key rest => simp [namesWithin]
  | succ n ih =>
    simp only [namesWithin, List.mem_flatMap, mem_under, ih]
    constructor
    · rintro ⟨e, he, rfl | ⟨rest, ⟨-, hlength, w, hw⟩, rfl⟩⟩
      · exact ⟨List.cons_ne_nil _ _, by simp, e.2, .within he (.here _)⟩
      · exact ⟨List.cons_ne_nil _ _, Nat.succ_le_succ hlength, w, .within he hw⟩
    · rintro ⟨hne, hlength, w, hw⟩
      cases hw with
      | here => exact absurd rfl hne
      | @within _ u _ key rest hmem hrest =>
        refine ⟨(key, u), hmem, ?_⟩
        by_cases hnil : rest = []
        · subst hnil
          exact .inl rfl
        · exact .inr ⟨rest, ⟨hnil, Nat.le_of_succ_le_succ hlength, w, hrest⟩, rfl⟩

theorem ne_nil_of_mem_namesWithin (h : names ∈ namesWithin n v) : names ≠ [] :=
  (mem_namesWithin.1 h).1

/-- What lies under a key begins with it. -/
theorem head?_of_mem_under {key : String} {below : List (List String)}
    (h : names ∈ under key below) : names.head? = some key := by
  obtain rfl | ⟨rest, -, rfl⟩ := mem_under.1 h
  · rfl
  · rfl

/-- **No names are listed twice**, where keys are distinct. -/
theorem nodup_namesWithin (h : v.DistinctKeys) (n : Nat) : (namesWithin n v).Nodup := by
  induction n generalizing v with
  | zero => exact List.nodup_nil
  | succ n ih =>
    refine List.nodup_flatMap.2 ⟨fun e he => ?_, ?_⟩
    · have hkey : [e.1] ∉ (namesWithin n e.2).map (e.1 :: ·) := by
        intro hmem
        obtain ⟨rest, hrest, heq⟩ := List.mem_map.1 hmem
        exact ne_nil_of_mem_namesWithin hrest (List.cons.inj heq).2
      exact List.nodup_cons.2 ⟨hkey, (ih (h.below he)).map (List.cons_injective)⟩
    · -- names under different keys begin differently
      have hkeys : v.entries.Pairwise fun e e' => e.1 ≠ e'.1 :=
        List.pairwise_map.1 (h [] v (.here v))
      refine hkeys.imp fun {e e'} hne => ?_
      intro names hmem hmem'
      have hhead := (head?_of_mem_under hmem).symm.trans (head?_of_mem_under hmem')
      exact hne (Option.some.inj hhead)

/-- What lies under a key goes one level less far below it. -/
theorem filter_under (key : String) (below : List (List String)) (n : Nat) :
    (under key below).filter (fun names => names.length ≤ n + 1) =
      under key (below.filter fun names => names.length ≤ n) := by
  rw [under, List.filter_cons_of_pos (by simp), List.filter_map, under]
  refine congrArg (fun kept => [key] :: List.map (key :: ·) kept) (List.filter_congr ?_)
  intro names _
  simp

/-- **A level less** leaves out the names that are longest. -/
theorem namesWithin_eq_filter (n : Nat) (v : Value) :
    namesWithin n v = (namesWithin (n + 1) v).filter fun names => names.length ≤ n := by
  induction n generalizing v with
  | zero =>
    refine (List.filter_eq_nil_iff.2 fun names hmem => ?_).symm
    have hne := ne_nil_of_mem_namesWithin hmem
    simpa using hne
  | succ n ih =>
    rw [namesWithin, namesWithin, List.filter_flatMap]
    refine List.flatMap_congr fun e _ => ?_
    rw [filter_under, ← ih]

/-! ## The order of names -/

/-- What lies under a key of a value is listed together. -/
theorem under_sublist_namesWithin {e : String × Value} (he : e ∈ v.entries) (n : Nat) :
    (under e.1 (namesWithin n e.2)).Sublist (namesWithin (n + 1) v) := by
  have h := (List.singleton_sublist.2 he).flatMap fun e => under e.1 (namesWithin n e.2)
  rwa [List.flatMap_singleton] at h

theorem map_sublist_under (key : String) {below part : List (List String)}
    (h : part.Sublist below) : (part.map (key :: ·)).Sublist (under key below) :=
  (h.map _).cons _

/-- **Names come before those that go on from them**: by induction on the level,
at each key. -/
theorem pair_sublist_namesWithin {more : List String} (hnames : names ≠ []) (hmore : more ≠ [])
    (h : names ++ more ∈ namesWithin n v) :
    [names, names ++ more].Sublist (namesWithin n v) := by
  induction n generalizing v names with
  | zero => cases h
  | succ n ih =>
    obtain ⟨key, rest, rfl⟩ := List.exists_cons_of_ne_nil hnames
    obtain ⟨e, he, hmem⟩ := List.mem_flatMap.1 h
    refine List.Sublist.trans ?_ (under_sublist_namesWithin he n)
    -- the longer names are no key alone; the shorter ones may be
    obtain hkey | ⟨below, hbelow, hkey⟩ := mem_under.1 hmem
    · exact absurd (List.append_eq_nil_iff.1 (List.cons.inj hkey).2).2 hmore
    · obtain ⟨rfl, rfl⟩ := List.cons.inj hkey
      by_cases hrest : rest = []
      · subst hrest
        exact (List.singleton_sublist.2 (List.mem_map_of_mem hbelow)).cons_cons _
      · exact map_sublist_under _ (ih hrest hbelow)

/-- **The keys of a document come in its order**, wherever names lead to it: by
induction on the names. -/
theorem siblings_sublist_namesWithin {u : Value} (h : v.Leads names u) (hn : names.length < n) :
    ((Entries.keys u.entries).map fun key => names ++ [key]).Sublist (namesWithin n v) := by
  induction h generalizing n with
  | here v =>
    obtain ⟨n, rfl⟩ := Nat.exists_eq_succ_of_ne_zero (Nat.ne_zero_of_lt hn)
    rw [Entries.keys, List.map_map, List.map_eq_flatMap]
    exact List.Sublist.flatMap_right _ fun e _ => List.singleton_sublist.2 List.mem_cons_self
  | @within v w u key names hmem _ ih =>
    obtain ⟨n, rfl⟩ := Nat.exists_eq_succ_of_ne_zero (Nat.ne_zero_of_lt hn)
    have hbelow := map_sublist_under key (ih (Nat.lt_of_succ_lt_succ hn))
    rw [List.map_map] at hbelow
    exact hbelow.trans (under_sublist_namesWithin hmem n)

end Value

end DocQuery
