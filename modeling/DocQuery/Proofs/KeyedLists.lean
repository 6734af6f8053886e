import Mathlib.Data.List.Forall2
import Mathlib.Data.List.Induction
import Mathlib.Data.List.Perm.Subperm
import Mathlib.Logic.Relation
import DocQuery.Entries
/-!
# Keyed lists, entry by entry

What a keyed list holds after inserting and erasing, and how two keyed lists
stay alike that have the same keys in the same order, with related values. Two
lists agree that have the same keys in whatever order, with related values.
-/


namespace DocQuery

section

variable {α β γ : Type} {r r' : α → β → Prop} {s : β → γ → Prop} {as : List α} {bs : List β}
  {cs : List γ}

/-- What follows for the members of two lists follows for the lists. -/
theorem forall₂_imp_of_mem (h : List.Forall₂ r as bs)
    (himp : ∀ a ∈ as, ∀ b ∈ bs, r a b → r' a b) : List.Forall₂ r' as bs := by
  rw [List.forall₂_iff_zip]
  refine ⟨h.length_eq, fun {a b} hab => ?_⟩
  obtain ⟨ha, hb⟩ := List.of_mem_zip hab
  exact himp a ha b hb (List.forall₂_zip h hab)

/-- Lists are related through a third one. -/
theorem forall₂_comp (h : List.Forall₂ r as bs) (h' : List.Forall₂ s bs cs) :
    List.Forall₂ (Relation.Comp r s) as cs := by
  induction h generalizing cs with
  | nil =>
    cases h'
    exact .nil
  | cons hab _ ih =>
    cases h' with
    | cons hbc h' => exact .cons ⟨_, hab, hbc⟩ (ih h')

/-- Without repetitions, a member more is one more at the end, unless it was
there before. -/
theorem eraseDups_concat (keys : List String) (key : String) :
    (keys ++ [key]).eraseDups =
      if key ∈ keys.eraseDups then keys.eraseDups else keys.eraseDups ++ [key] := by
  rw [List.eraseDups_append]
  by_cases hmem : key ∈ keys
  · simp [List.removeAll, hmem]
  · simp [List.removeAll, hmem, List.eraseDups_cons]

end

namespace Entries

variable {α β γ : Type} {key : String}

/-- What is found under a key stands there. -/
theorem mem_of_get? {entries : List (String × α)} {v : α} (h : get? key entries = some v) :
    (key, v) ∈ entries := by
  induction entries with
  | nil => cases h
  | cons entry rest ih =>
    rw [get?] at h
    split at h
    · rename_i hkey
      cases h
      rw [← hkey]
      exact List.mem_cons_self
    · exact List.mem_cons_of_mem _ (ih h)

/-- A key is present if something stands under it. -/
theorem hasKey_iff {entries : List (String × α)} :
    hasKey key entries = true ↔ ∃ v, (key, v) ∈ entries := by
  unfold hasKey
  induction entries with
  | nil => simp [get?]
  | cons entry rest ih =>
    obtain ⟨k, v⟩ := entry
    by_cases hkey : k = key
    · simp [get?, hkey]
    · have hne : ¬ key = k := fun h => hkey h.symm
      simp [get?, hkey, hne, ih]

/-- Something is found under the keys of a list and under no other. -/
theorem isSome_get?_iff {entries : List (String × α)} :
    (get? key entries).isSome = true ↔ key ∈ keys entries :=
  hasKey_iff.trans (by simp [keys])

/-- Where keys are distinct, what stands under a key is found. -/
theorem get?_of_mem {entries : List (String × α)} (h : (keys entries).Nodup) {v : α}
    (hmem : (key, v) ∈ entries) : get? key entries = some v := by
  induction entries with
  | nil => cases hmem
  | cons entry rest ih =>
    have hdistinct : entry.1 ∉ keys rest ∧ (keys rest).Nodup := List.nodup_cons.1 h
    rcases List.mem_cons.1 hmem with rfl | hmem
    · exact if_pos rfl
    · have hne : entry.1 ≠ key := by
        rintro rfl
        exact hdistinct.1 (List.mem_map.2 ⟨_, hmem, rfl⟩)
      rw [get?, if_neg hne, ih hdistinct.2 hmem]

/-- And there is one such value. -/
theorem eq_of_mem {entries : List (String × α)} (h : (keys entries).Nodup) {v v' : α}
    (hmem : (key, v) ∈ entries) (hmem' : (key, v') ∈ entries) : v = v' :=
  Option.some.inj ((get?_of_mem h hmem).symm.trans (get?_of_mem h hmem'))

/-- Where keys are distinct, what is found under a key depends on what stands
there and not on the order. -/
theorem get?_congr {entries entries' : List (String × α)} (h : (keys entries).Nodup)
    (h' : (keys entries').Nodup) (hmem : ∀ v, (key, v) ∈ entries ↔ (key, v) ∈ entries') :
    get? key entries = get? key entries' := by
  cases hget : get? key entries with
  | some v => exact (get?_of_mem h' ((hmem v).1 (mem_of_get? hget))).symm
  | none =>
    cases hget' : get? key entries' with
    | none => rfl
    | some v =>
      have hfound := get?_of_mem h ((hmem v).2 (mem_of_get? hget'))
      rw [hget] at hfound
      cases hfound

/-- Values that a function keeps are kept under their keys. -/
theorem map_eq_self (f : α → α) {entries : List (String × α)}
    (h : ∀ entry ∈ entries, f entry.2 = entry.2) :
    entries.map (fun entry => (entry.1, f entry.2)) = entries := by
  have hentry : ∀ entry ∈ entries, (entry.1, f entry.2) = id entry := by
    intro entry hmem
    rw [h entry hmem]
    rfl
  rw [List.map_congr_left hentry, List.map_id]

/-- A new key goes to the end. -/
theorem insert_of_notMem {entries : List (String × α)} (h : key ∉ keys entries) (v : α) :
    insert key v entries = entries ++ [(key, v)] := by
  induction entries with
  | nil => rfl
  | cons entry rest ih =>
    have hkey : key ≠ entry.1 ∧ key ∉ keys rest := List.ne_and_not_mem_of_not_mem_cons h
    rw [insert, if_neg hkey.1.symm, ih hkey.2]
    rfl

/-- Distinct keys are inserted as they stand. -/
theorem ofList_eq_self {entries : List (String × α)} (h : (keys entries).Nodup) :
    ofList entries = entries := by
  -- over what has been inserted before, which shares no key with the rest
  have hinsert (rest : List (String × α)) : ∀ before, (keys (before ++ rest)).Nodup →
      rest.foldl (fun list entry => insert entry.1 entry.2 list) before = before ++ rest := by
    induction rest with
    | nil => exact fun before _ => (List.append_nil before).symm
    | cons entry rest ih =>
      intro before hbefore
      have happend : before ++ entry :: rest = (before ++ [entry]) ++ rest := by simp
      have hnew : entry.1 ∉ keys before := by
        intro hmem
        rw [keys, List.map_append, List.nodup_append] at hbefore
        exact hbefore.2.2 _ hmem _ List.mem_cons_self rfl
      rw [List.foldl_cons, insert_of_notMem hnew, happend]
      exact ih _ (happend ▸ hbefore)
  exact hinsert entries [] h

/-- What has been inserted is found. -/
theorem get?_insert_self (key : String) (v : α) (entries : List (String × α)) :
    get? key (insert key v entries) = some v := by
  induction entries with
  | nil => rw [insert, get?, if_pos rfl]
  | cons entry rest ih =>
    rw [insert]
    split
    · rename_i hkey
      rw [get?, if_pos hkey]
    · rename_i hkey
      rw [get?, if_neg hkey, ih]

/-- What stands under another key stays. -/
theorem get?_insert_of_ne {other : String} (h : other ≠ key) (v : α) (entries : List (String × α)) :
    get? other (insert key v entries) = get? other entries := by
  induction entries with
  | nil => exact if_neg h.symm
  | cons entry rest ih =>
    rw [insert]
    split
    · have hne : ¬ entry.1 = other := by
        intro hother
        exact h (hother.symm.trans ‹entry.1 = key›)
      rw [get?, get?, if_neg hne, if_neg hne]
    · rw [get?, get?, ih]

/-- What is inserted where it stands changes nothing. -/
theorem insert_of_get? {entries : List (String × α)} {v : α} (h : get? key entries = some v) :
    insert key v entries = entries := by
  induction entries with
  | nil => cases h
  | cons entry rest ih =>
    rw [get?] at h
    rw [insert]
    split at h
    · cases h
      exact if_pos ‹entry.1 = key›
    · rw [if_neg ‹¬ entry.1 = key›, ih h]

/-- Inserting brings in nothing but the new entry. -/
theorem mem_of_mem_insert {entries : List (String × α)} {v : α} {x : String × α}
    (h : x ∈ insert key v entries) : x = (key, v) ∨ x ∈ entries := by
  induction entries with
  | nil => exact .inl (List.mem_singleton.1 h)
  | cons entry rest ih =>
    rw [insert] at h
    split at h
    · rename_i hkey
      rcases List.mem_cons.1 h with rfl | h
      · exact .inl (by rw [hkey])
      · exact .inr (List.mem_cons_of_mem _ h)
    · rcases List.mem_cons.1 h with rfl | h
      · exact .inr List.mem_cons_self
      · exact (ih h).imp_right (List.mem_cons_of_mem _)

/-- Distinct keys stay distinct. -/
theorem nodup_keys_insert {entries : List (String × α)} (h : (keys entries).Nodup) (v : α) :
    (keys (insert key v entries)).Nodup := by
  induction entries with
  | nil => exact List.nodup_cons.2 ⟨List.not_mem_nil, List.nodup_nil⟩
  | cons entry rest ih =>
    obtain ⟨hnew, hrest⟩ := List.nodup_cons.1 h
    rw [insert]
    split
    · exact h
    · refine List.nodup_cons.2 ⟨fun hmem => ?_, ih hrest⟩
      obtain ⟨x, hx, hkey⟩ := List.mem_map.1 hmem
      rcases mem_of_mem_insert hx with rfl | hx
      · exact ‹¬ entry.1 = key› hkey.symm
      · exact hnew (List.mem_map.2 ⟨x, hx, hkey⟩)

/-! ## Inserting one after another -/

theorem ofList_concat (entries : List (String × α)) (entry : String × α) :
    ofList (entries ++ [entry]) = insert entry.1 entry.2 (ofList entries) := by
  rw [ofList, List.foldl_append]
  rfl

/-- A key that is inserted stays where it is, or goes to the end. -/
theorem keys_insert (key : String) (v : α) (entries : List (String × α)) :
    keys (insert key v entries) =
      if key ∈ keys entries then keys entries else keys entries ++ [key] := by
  induction entries with
  | nil => rfl
  | cons entry rest ih =>
    rw [insert]
    by_cases hkey : entry.1 = key
    · have hmem : key ∈ keys (entry :: rest) := List.mem_cons.2 (.inl hkey.symm)
      rw [if_pos hkey, if_pos hmem]
      rfl
    · have hmem : key ∈ keys (entry :: rest) ↔ key ∈ keys rest :=
        List.mem_cons.trans (or_iff_right fun h => hkey h.symm)
      have hinsert : keys (entry :: insert key v rest) = entry.1 :: keys (insert key v rest) := rfl
      rw [if_neg hkey, hinsert, ih, apply_ite (List.cons entry.1)]
      simp only [hmem]
      rfl

/-- **Keys come in the order of their first insertion**, each once: on both sides
the last one is added unless it was there before. -/
theorem keys_ofList (entries : List (String × α)) :
    keys (ofList entries) = (keys entries).eraseDups := by
  induction entries using List.reverseRecOn with
  | nil => rfl
  | append_singleton entries entry ih =>
    have hkeys : keys (entries ++ [entry]) = keys entries ++ [entry.1] := List.map_append
    rw [ofList_concat, keys_insert, ih, hkeys, eraseDups_concat]

theorem nodup_keys_ofList (entries : List (String × α)) : (keys (ofList entries)).Nodup := by
  induction entries using List.reverseRecOn with
  | nil => exact List.nodup_nil
  | append_singleton entries entry ih =>
    rw [ofList_concat]
    exact nodup_keys_insert ih entry.2

/-- The values that are inserted under a key, in order. -/
def given (key : String) (entries : List (String × α)) : List α :=
  entries.filterMap fun entry => if entry.1 = key then some entry.2 else none

/-- **Of the values inserted under a key, the last one stays.** -/
theorem get?_ofList (key : String) (entries : List (String × α)) :
    get? key (ofList entries) = (given key entries).getLast? := by
  induction entries using List.reverseRecOn with
  | nil => rfl
  | append_singleton entries entry ih =>
    rw [ofList_concat, given, List.filterMap_append, List.getLast?_append]
    by_cases hkey : entry.1 = key
    · subst hkey
      rw [get?_insert_self]
      simp
    · rw [get?_insert_of_ne fun h => hkey h.symm, ih]
      simp [hkey, given]

/-- Erasing brings in nothing. -/
theorem mem_of_mem_erase {entries : List (String × α)} {x : String × α}
    (h : x ∈ erase key entries) : x ∈ entries := List.mem_of_mem_filter h

/-! ## Alike -/

/-- The same keys in the same order, with related values. -/
def Alike (r : α → β → Prop) (entries : List (String × α)) (entries' : List (String × β)) : Prop :=
  List.Forall₂ (fun x y => x.1 = y.1 ∧ r x.2 y.2) entries entries'

namespace Alike

variable {r : α → β → Prop} {entries : List (String × α)} {entries' : List (String × β)}

/-- Alike lists hold related values under a key, or none. -/
theorem get? (h : Alike r entries entries') (key : String) :
    Option.Rel r (Entries.get? key entries) (Entries.get? key entries') := by
  induction h with
  | nil => exact .none
  | @cons x y rest rest' hxy _ ih =>
    obtain ⟨hkey, hr⟩ := hxy
    rw [Entries.get?, Entries.get?, ← hkey]
    split
    · exact .some hr
    · exact ih

/-- Spelled out: either neither holds anything under a key, or both do. -/
theorem get?_cases (h : Alike r entries entries') (key : String) :
    (Entries.get? key entries = none ∧ Entries.get? key entries' = none) ∨
      ∃ a b, Entries.get? key entries = some a ∧ Entries.get? key entries' = some b ∧ r a b := by
  have hrel := h.get? key
  generalize Entries.get? key entries = found, Entries.get? key entries' = found' at hrel
  cases hrel with
  | none => exact .inl ⟨rfl, rfl⟩
  | some hr => exact .inr ⟨_, _, rfl, rfl, hr⟩

/-- And have the same keys. -/
theorem hasKey (h : Alike r entries entries') (key : String) :
    Entries.hasKey key entries = Entries.hasKey key entries' := by
  unfold Entries.hasKey
  rcases h.get?_cases key with ⟨hnone, hnone'⟩ | ⟨a, b, ha, hb, -⟩
  · rw [hnone, hnone']
    rfl
  · rw [ha, hb]
    rfl

/-- Inserting related values leaves lists alike. -/
theorem insert (h : Alike r entries entries') {v : α} {v' : β} (hv : r v v') (key : String) :
    Alike r (Entries.insert key v entries) (Entries.insert key v' entries') := by
  induction h with
  | nil => exact .cons ⟨rfl, hv⟩ .nil
  | @cons x y rest rest' hxy hrest ih =>
    rw [Entries.insert, Entries.insert, ← hxy.1]
    split
    · exact .cons ⟨rfl, hv⟩ hrest
    · exact .cons ⟨rfl, hxy.2⟩ ih

/-- So does erasing a key. -/
theorem erase (h : Alike r entries entries') (key : String) :
    Alike r (Entries.erase key entries) (Entries.erase key entries') := by
  induction h with
  | nil => exact .nil
  | @cons x y rest rest' hxy _ ih =>
    unfold Entries.erase
    rw [List.filter_cons, List.filter_cons, ← hxy.1]
    split
    · exact .cons ⟨hxy.1, hxy.2⟩ ih
    · exact ih

/-- What follows for the values follows for the lists. -/
theorem imp {r' : α → β → Prop} (h : Alike r entries entries')
    (himp : ∀ x ∈ entries, ∀ y ∈ entries', r x.2 y.2 → r' x.2 y.2) : Alike r' entries entries' :=
  forall₂_imp_of_mem h fun x hx y hy hxy => ⟨hxy.1, himp x hx y hy hxy.2⟩

theorem symm (h : Alike r entries entries') : Alike (fun b a => r a b) entries' entries :=
  List.Forall₂.flip (List.Forall₂.imp (fun _ _ hxy => ⟨hxy.1.symm, hxy.2⟩) h)

theorem comp {s : β → γ → Prop} {entries'' : List (String × γ)} (h : Alike r entries entries')
    (h' : Alike s entries' entries'') : Alike (Relation.Comp r s) entries entries'' := by
  refine List.Forall₂.imp (fun x z hxz => ?_) (forall₂_comp h h')
  obtain ⟨y, ⟨hxy, hr⟩, hyz, hs⟩ := hxz
  exact ⟨hxy.trans hyz, y.2, hr, hs⟩

/-- A list is alike itself if its values are. -/
theorem self_iff {r : α → α → Prop} : Alike r entries entries ↔ ∀ x ∈ entries, r x.2 x.2 := by
  rw [Alike, List.forall₂_same]
  exact forall₂_congr fun x _ => and_iff_right rfl

end Alike

/-! ## In whatever order -/

/-- The same keys with related values: what stands in either list has an entry
related to it in the other one. -/
structure Agree (r : α → β → Prop) (entries : List (String × α)) (entries' : List (String × β)) :
    Prop where
  forth : ∀ x ∈ entries, ∃ y ∈ entries', x.1 = y.1 ∧ r x.2 y.2
  back : ∀ y ∈ entries', ∃ x ∈ entries, x.1 = y.1 ∧ r x.2 y.2

namespace Agree

variable {r : α → β → Prop} {entries : List (String × α)} {entries' : List (String × β)}

/-- What follows for the values follows for the lists. -/
theorem imp {r' : α → β → Prop} (h : Agree r entries entries')
    (himp : ∀ x ∈ entries, ∀ y ∈ entries', r x.2 y.2 → r' x.2 y.2) :
    Agree r' entries entries' := by
  constructor
  · intro x hx
    obtain ⟨y, hy, hkey, hr⟩ := h.forth x hx
    exact ⟨y, hy, hkey, himp x hx y hy hr⟩
  · intro y hy
    obtain ⟨x, hx, hkey, hr⟩ := h.back y hy
    exact ⟨x, hx, hkey, himp x hx y hy hr⟩

theorem symm (h : Agree r entries entries') : Agree (fun b a => r a b) entries' entries := by
  constructor
  · intro y hy
    obtain ⟨x, hx, hkey, hr⟩ := h.back y hy
    exact ⟨x, hx, hkey.symm, hr⟩
  · intro x hx
    obtain ⟨y, hy, hkey, hr⟩ := h.forth x hx
    exact ⟨y, hy, hkey.symm, hr⟩

theorem comp {s : β → γ → Prop} {entries'' : List (String × γ)} (h : Agree r entries entries')
    (h' : Agree s entries' entries'') : Agree (Relation.Comp r s) entries entries'' := by
  constructor
  · intro x hx
    obtain ⟨y, hy, hxy, hr⟩ := h.forth x hx
    obtain ⟨z, hz, hyz, hs⟩ := h'.forth y hy
    exact ⟨z, hz, hxy.trans hyz, y.2, hr, hs⟩
  · intro z hz
    obtain ⟨y, hy, hyz, hs⟩ := h'.back z hz
    obtain ⟨x, hx, hxy, hr⟩ := h.back y hy
    exact ⟨x, hx, hxy.trans hyz, y.2, hr, hs⟩

/-- A list with distinct keys agrees with itself if its values are related to
themselves. -/
theorem self_iff {r : α → α → Prop} (hd : (keys entries).Nodup) :
    Agree r entries entries ↔ ∀ x ∈ entries, r x.2 x.2 := by
  constructor
  · intro h x hx
    obtain ⟨⟨key, b⟩, hy, rfl, hr⟩ := h.forth x hx
    rwa [eq_of_mem hd hy hx] at hr
  · exact fun h => ⟨fun x hx => ⟨x, hx, rfl, h x hx⟩, fun x hx => ⟨x, hx, rfl, h x hx⟩⟩

/-- Where keys are distinct it is enough to find the values of the one list
under their keys in the other, if this is as long. -/
theorem iff_found (hd : (keys entries).Nodup) (hd' : (keys entries').Nodup) :
    Agree r entries entries' ↔ entries.length = entries'.length ∧
      ∀ x ∈ entries, ∃ b, get? x.1 entries' = some b ∧ r x.2 b := by
  constructor
  · intro h
    have hkeys : (keys entries).Perm (keys entries') := by
      refine (List.perm_ext_iff_of_nodup hd hd').2 fun key => ?_
      simp only [keys, List.mem_map]
      constructor
      · rintro ⟨x, hx, rfl⟩
        obtain ⟨y, hy, hkey, -⟩ := h.forth x hx
        exact ⟨y, hy, hkey.symm⟩
      · rintro ⟨y, hy, rfl⟩
        obtain ⟨x, hx, hkey, -⟩ := h.back y hy
        exact ⟨x, hx, hkey⟩
    refine ⟨by simpa [keys] using hkeys.length_eq, fun x hx => ?_⟩
    obtain ⟨⟨key, b⟩, hy, rfl, hr⟩ := h.forth x hx
    exact ⟨b, get?_of_mem hd' hy, hr⟩
  · rintro ⟨hlength, hfound⟩
    have hforth (x : String × α) (hx : x ∈ entries) : ∃ y ∈ entries', x.1 = y.1 ∧ r x.2 y.2 := by
      obtain ⟨b, hb, hr⟩ := hfound x hx
      exact ⟨(x.1, b), mem_of_get? hb, rfl, hr⟩
    -- as many distinct keys, all of them among those of the other list, are all of those
    have hsub : keys entries ⊆ keys entries' := by
      intro key hkey
      obtain ⟨x, hx, rfl⟩ := List.mem_map.1 hkey
      obtain ⟨y, hy, hkey, -⟩ := hforth x hx
      exact List.mem_map.2 ⟨y, hy, hkey.symm⟩
    have hkeys : (keys entries).Perm (keys entries') :=
      (List.subperm_of_subset hd hsub).perm_of_length_le (by simp [keys, hlength])
    refine ⟨hforth, fun y hy => ?_⟩
    obtain ⟨x, hx, hkey⟩ := List.mem_map.1 (hkeys.mem_iff.2 (List.mem_map_of_mem hy))
    obtain ⟨⟨key, b⟩, hy', rfl, hr⟩ := hforth x hx
    obtain ⟨key, b'⟩ := y
    cases hkey
    rw [eq_of_mem hd' hy' hy] at hr
    exact ⟨x, hx, rfl, hr⟩

end Agree

end Entries

end DocQuery
