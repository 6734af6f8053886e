import DocQuery.Proofs.KeyedLists
import DocQuery.Proofs.Nesting
import DocQuery.Template
/-!
# Writing templates

How a template is written as the value that describes it: a path as its text, a
constant as it stands, an object as a document, and an array as its path and its
element, in an array of two.

What a value describes is told from its form alone, and the four forms exclude
one another (`value_forms`). So nothing is lost when a document is read as a
template: a constant is kept whole, also an array with pairs in it, and writing
the template gives the document again (`written_ofValue`). The other way round,
a template is read back if its constants do not look like anything else, its
keys are distinct and its elements are objects (`ofValue_written`); templates
that have been read are of this kind.
-/


namespace DocQuery

namespace Template

/-! ## The writer -/

mutual

/-- The value that describes a template. -/
def written : Template String → Value
  | .path p => .string p
  | .const v => v
  | .object entries => .document (Entries.ofList (writtenEntries entries))
  | .array p element => .array [.string p, written element]
  termination_by structural template => template

/-- The entries whose values describe the templates of entries. -/
def writtenEntries : List (String × Template String) → List (String × Value)
  | [] => []
  | (key, template) :: rest => (key, written template) :: writtenEntries rest
  termination_by structural entries => entries

end

theorem writtenEntries_eq (entries : List (String × Template String)) :
    writtenEntries entries = entries.map fun e => (e.1, e.2.written) := by
  induction entries with
  | nil => rfl
  | cons e rest ih => rw [writtenEntries, ih, List.map_cons]

theorem ofEntries_eq (entries : List (String × Value)) :
    ofEntries entries = entries.map fun e => (e.1, ofValue e.2) := by
  induction entries with
  | nil => rfl
  | cons e rest ih => rw [ofEntries, ih, List.map_cons]

theorem keys_writtenEntries (entries : List (String × Template String)) :
    Entries.keys (writtenEntries entries) = Entries.keys entries := by
  rw [writtenEntries_eq, Entries.keys, List.map_map]
  rfl

theorem keys_ofEntries (entries : List (String × Value)) :
    Entries.keys (ofEntries entries) = Entries.keys entries := by
  rw [ofEntries_eq, Entries.keys, List.map_map]
  rfl

/-- Distinct keys are written as they stand. -/
theorem written_object {entries : List (String × Template String)}
    (h : (Entries.keys entries).Nodup) :
    (object entries).written = .document (writtenEntries entries) := by
  rw [written, Entries.ofList_eq_self (keys_writtenEntries entries ▸ h)]

/-! ## The forms of values -/

/-- A value that describes a constant: it is no string, no document and no
string with a document. -/
structure IsConstant (v : Value) : Prop where
  not_string : ∀ p, v ≠ .string p
  not_document : ∀ d, v ≠ .document d
  not_pair : ∀ p d, v ≠ .array [.string p, .document d]

/-- A constant is kept whole. -/
theorem ofValue_of_isConstant {v : Value} (h : IsConstant v) : ofValue v = .const v := by
  unfold ofValue
  split
  · exact absurd rfl (h.not_string _)
  · exact absurd rfl (h.not_document _)
  · exact absurd rfl (h.not_pair _ _)
  · rfl

/-- **What a value can describe**: a path, an object, an array or a constant. -/
theorem value_forms (v : Value) :
    (∃ p, v = .string p) ∨ (∃ d, v = .document d) ∨
      (∃ p d, v = .array [.string p, .document d]) ∨ IsConstant v := by
  by_cases hstring : ∃ p, v = .string p
  · exact .inl hstring
  by_cases hdocument : ∃ d, v = .document d
  · exact .inr (.inl hdocument)
  by_cases hpair : ∃ p d, v = .array [.string p, .document d]
  · exact .inr (.inr (.inl hpair))
  · exact .inr (.inr (.inr ⟨fun p h => hstring ⟨p, h⟩, fun d h => hdocument ⟨d, h⟩,
      fun p d h => hpair ⟨p, d, h⟩⟩))

/-! ## What can be written -/

/-- A template that can be written: no constant looks like anything else, the
keys of each object are distinct, and elements are objects. -/
inductive Writable : Template String → Prop
  | path (p : String) : Writable (.path p)
  | const {v : Value} : IsConstant v → Writable (.const v)
  | object {entries : List (String × Template String)} : (Entries.keys entries).Nodup →
      (∀ e ∈ entries, Writable e.2) → Writable (.object entries)
  | array (p : String) {entries : List (String × Template String)} :
      Writable (.object entries) → Writable (.array p (.object entries))

/-- **What has been written is read back**, by induction on the ways to write
it. -/
theorem ofValue_written {template : Template String} (h : template.Writable) :
    ofValue template.written = template := by
  induction h with
  | path p => rfl
  | const hv => exact ofValue_of_isConstant hv
  | object hkeys _ ih =>
    have hback := Entries.map_eq_self (fun t => ofValue t.written) ih
    rw [written_object hkeys, ofValue, ofEntries_eq, writtenEntries_eq, List.map_map]
    exact congrArg object hback
  | array p hentries ih =>
    cases hentries with
    | object hkeys _ =>
      rw [written_object hkeys] at ih
      rw [written, written_object hkeys]
      exact congrArg (Template.array p) ih

/-- What has been read can be written, -/
theorem writable_ofValue (v : Value) (h : v.WellFormed) : (ofValue v).Writable := by
  induction v using Value.nested_induction with
  | h v hitems hentries =>
    obtain ⟨p, rfl⟩ | ⟨d, rfl⟩ | ⟨p, d, rfl⟩ | hconstant := value_forms v
    · exact .path p
    · obtain ⟨hkeys, hvalues⟩ := Value.wellFormed_document.1 h
      rw [ofValue]
      refine .object (keys_ofEntries d ▸ hkeys) fun e he => ?_
      rw [ofEntries_eq] at he
      obtain ⟨x, hx, rfl⟩ := List.mem_map.1 he
      exact hentries d rfl x hx (hvalues x hx)
    · have hdocument := Value.wellFormed_array.1 h (.document d) (by simp)
      exact .array p (hitems _ rfl (.document d) (by simp) hdocument)
    · exact ofValue_of_isConstant hconstant ▸ .const hconstant

/-- **and is written as it was**, by induction on the nesting of values. -/
theorem written_ofValue (v : Value) (h : v.WellFormed) : (ofValue v).written = v := by
  induction v using Value.nested_induction with
  | h v hitems hentries =>
    obtain ⟨p, rfl⟩ | ⟨d, rfl⟩ | ⟨p, d, rfl⟩ | hconstant := value_forms v
    · rfl
    · obtain ⟨hkeys, hvalues⟩ := Value.wellFormed_document.1 h
      have hback : ∀ e ∈ d, (ofValue e.2).written = e.2 := by
        intro e he
        exact hentries d rfl e he (hvalues e he)
      have hread : writtenEntries (ofEntries d) = d := by
        rw [writtenEntries_eq, ofEntries_eq, List.map_map]
        exact Entries.map_eq_self (fun v => (ofValue v).written) hback
      rw [ofValue, written_object (keys_ofEntries d ▸ hkeys), hread]
    · -- the element is the second item of the pair
      have hdocument := Value.wellFormed_array.1 h (.document d) (by simp)
      have helement := hitems _ rfl (.document d) (by simp) hdocument
      exact congrArg (fun element => Value.array [.string p, element]) helement
    · rw [ofValue_of_isConstant hconstant, written]

end Template

/-- **Reading a template from a document loses nothing and inverts writing.**

* What has been read from a document is written as the document, so that
  different documents describe different templates; and it can be written.
* What can be written is read back from the document that describes it, if it is
  an object. -/
theorem templates_read_and_written :
    (∀ d : Document, d.WellFormed → (Template.ofDocument d).written = .document d ∧
      (Template.ofDocument d).Writable) ∧
    (∀ d d' : Document, d.WellFormed → d'.WellFormed → d ≠ d' →
      Template.ofDocument d ≠ Template.ofDocument d') ∧
    ∀ entries : List (String × Template String), (Template.object entries).Writable →
      ∃ d : Document, (Template.object entries).written = .document d ∧
        Template.ofDocument d = .object entries := by
  have hread (d : Document) : Template.ofDocument d = Template.ofValue (.document d) := rfl
  refine ⟨fun d h => ?_, fun d d' h h' hne heq => ?_, fun entries h => ?_⟩
  · rw [hread]
    exact ⟨Template.written_ofValue _ h, Template.writable_ofValue _ h⟩
  · have hwritten := congrArg Template.written heq
    rw [hread, hread, Template.written_ofValue _ h, Template.written_ofValue _ h'] at hwritten
    exact hne (Value.document.inj hwritten)
  · have hback := Template.ofValue_written h
    rw [Template.written] at hback ⊢
    exact ⟨_, rfl, hback⟩

/-- A list of tags is a constant, also with a pair in it; a pair by itself is an
array of titles. -/
theorem tags_and_titles_read_and_written :
    let pair : Value := .array [.string "posts", .document [("t", .string "title")]]
    let d : Document := [("tags", .array [pair, pair]), ("titles", pair)]
    let d' : Document := [("tags", pair), ("titles", pair)]
    let entries : List (String × Template String) :=
      [("tags", .const (.array [pair, pair])),
        ("titles", .array "posts" (.object [("t", .path "title")]))]
    d.WellFormed ∧ Template.ofDocument d = .object entries ∧
      (Template.ofDocument d).written = .document d ∧
      Template.ofDocument d ≠ Template.ofDocument d' ∧
      (Template.object entries).Writable ∧
      ∃ back : Document, (Template.object entries).written = .document back ∧
        Template.ofDocument back = .object entries := by
  intro pair d d' entries
  have hwell : d.WellFormed := by
    simp [d, pair, Document.WellFormed, Value.WellFormed, Value.EntriesWellFormed,
      Value.AllWellFormed, Entries.keys]
  have hwell' : d'.WellFormed := by
    simp [d', pair, Document.WellFormed, Value.WellFormed, Value.EntriesWellFormed,
      Value.AllWellFormed, Entries.keys]
  have hread : Template.ofDocument d = .object entries := rfl
  obtain ⟨hwritten, hwritable⟩ := templates_read_and_written.1 d hwell
  rw [hread] at hwritable
  refine ⟨hwell, hread, hwritten, templates_read_and_written.2.1 d d' hwell hwell' ?_, hwritable,
    templates_read_and_written.2.2 entries hwritable⟩
  simp [d, d', pair]

end DocQuery
