import DocQuery.Proofs.PathGrammar
/-!
# The parts of paths

A path is divided in two ways: the reader finds its segments, and a second scan
cuts it into parts at the dots outside brackets. The scan only counts brackets
and knows nothing of the grammar, but on a path the two agree: the parts are
what the tokens between two dots spell (`readParts_written`), so that each is a
path of its own, and their segments are those of the whole.

Both also agree on what is joined by a dot. A dot stands in no name and in no
group, so wherever it is written, the tokens before it and those behind it are
told apart there (`exists_tokens_of_dot`).

The scan is meant as one over bytes, which cuts the text at the positions it
remembers. `cuts` are these positions; they lie between characters whatever the
text is (`sliced_parts`).
-/


namespace DocQuery.Path

variable {t : Token} {tokens before after : List Token}

/-! ## Tokens before and behind a dot -/

theorem segmentsOfTokens_append (before after : List Token) :
    segmentsOfTokens (before ++ after) = segmentsOfTokens before ++ segmentsOfTokens after :=
  List.filterMap_append

namespace WellSpelled

theorem left (h : WellSpelled (before ++ after)) : WellSpelled before :=
  ⟨fun t ht => h.valid t (List.mem_append_left _ ht), (List.isChain_append.1 h.apart).1⟩

theorem right (h : WellSpelled (before ++ after)) : WellSpelled after :=
  ⟨fun t ht => h.valid t (List.mem_append_right _ ht), (List.isChain_append.1 h.apart).2.1⟩

/-- A dot can be written anywhere, and anything behind it. -/
theorem append_dot (hbefore : WellSpelled before) (hafter : WellSpelled after) :
    WellSpelled (before ++ .dot :: after) := by
  have hvalid : ∀ t ∈ before ++ .dot :: after, t.Valid := by
    intro t ht
    obtain ht | rfl | ht := by simpa using ht
    · exact hbefore.valid t ht
    · trivial
    · exact hafter.valid t ht
  have hdot : (.dot :: after).IsChain fun t u : Token => u.IsName → t = .dot :=
    List.isChain_cons.2 ⟨fun _ _ _ => rfl, hafter.apart⟩
  refine ⟨hvalid, List.isChain_append.2 ⟨hbefore.apart, hdot, ?_⟩⟩
  intro t _ u hu hname
  obtain rfl : .dot = u := by simpa using hu
  exact hname.elim

end WellSpelled

/-- Names and groups have no dots in them. -/
theorem dot_notMem_text (h : t.Valid) (ht : t ≠ .dot) : '.' ∉ t.text := by
  have hdigit : ('.').isDigit = false := by decide
  cases t with
  | dot => exact absurd rfl ht
  | name chars => exact fun hmem => (h.2 _ hmem).1 rfl
  | group g =>
    have hcontent : '.' ∉ g.content := by
      cases g with
      | wildcard => simp [Group.content]
      | index plus digits =>
        have hdigits : '.' ∉ digits := fun hmem => by simpa [hdigit] using h.2.1 _ hmem
        cases plus <;> simpa [Group.content] using hdigits
    simpa [Token.text] using hcontent

/-- **A dot in a path is a token of it.** -/
theorem exists_tokens_of_dot (h : WellSpelled tokens) {first second : List Char}
    (htext : written tokens = first ++ '.' :: second) :
    ∃ before after, tokens = before ++ .dot :: after ∧ written before = first ∧
      written after = second := by
  induction tokens generalizing first with
  | nil => exact absurd htext.symm (by simp [written])
  | cons t rest ih =>
    rw [written_cons, List.append_eq_append_iff] at htext
    obtain ⟨first', rfl, hrest⟩ | ⟨middle, ht, hmiddle⟩ := htext
    · obtain ⟨before, after, rfl, rfl, rfl⟩ := ih h.tail hrest
      exact ⟨t :: before, after, rfl, rfl, rfl⟩
    · cases middle with
      | nil =>
        -- the token ends before the dot
        have hrest : written rest = [] ++ '.' :: second := hmiddle.symm
        rw [List.append_nil] at ht
        obtain ⟨before, after, rfl, hbefore, rfl⟩ := ih h.tail hrest
        exact ⟨t :: before, after, rfl, by rw [written_cons, hbefore, ht, List.append_nil], rfl⟩
      | cons c middle =>
        obtain ⟨rfl, rfl⟩ := List.cons.inj hmiddle
        have hmem : '.' ∈ t.text := by simp [ht]
        obtain rfl : t = .dot := by
          by_contra hne
          exact dot_notMem_text (h.valid _ List.mem_cons_self) hne hmem
        obtain ⟨rfl, rfl⟩ : first = [] ∧ middle = [] := by
          simpa [Token.text, List.cons_eq_append_iff] using ht
        exact ⟨[], rest, rfl, rfl, rfl⟩

/-! ## Runs of tokens without dots -/

/-- A run of tokens, unless it is empty. -/
def run (tokens : List Token) : List (List Token) := if tokens.isEmpty then [] else [tokens]

/-- The runs of tokens between dots, the first of which begins with
`current`. -/
def runs (current : List Token) : List Token → List (List Token)
  | [] => run current
  | .dot :: rest => run current ++ runs [] rest
  | t :: rest => runs (current ++ [t]) rest

theorem runs_cons_of_ne (ht : t ≠ .dot) (current rest : List Token) :
    runs current (t :: rest) = runs (current ++ [t]) rest := by
  cases t with
  | dot => exact absurd rfl ht
  | name chars => rfl
  | group g => rfl

/-- What is a run: tokens, at least one, that are well spelled and no dots. -/
structure IsRun (tokens : List Token) : Prop where
  ne_nil : tokens ≠ []
  wellSpelled : WellSpelled tokens
  no_dot : ∀ t ∈ tokens, t ≠ .dot

theorem ne_dot_concat {current : List Token} (h : ∀ u ∈ current, u ≠ .dot) (ht : t ≠ .dot) :
    ∀ u ∈ current ++ [t], u ≠ .dot := by
  intro u hu
  obtain hu | rfl := by simpa using hu
  · exact h u hu
  · exact ht

theorem isRun_of_mem_run {current r : List Token} (h : WellSpelled current)
    (hdot : ∀ t ∈ current, t ≠ .dot) (hr : r ∈ run current) : IsRun r := by
  rw [run] at hr
  split at hr
  · cases hr
  · obtain rfl := List.mem_singleton.1 hr
    exact ⟨by simpa using ‹¬ r.isEmpty = true›, h, hdot⟩

theorem isRun_of_mem_runs (current : List Token) {r : List Token}
    (h : WellSpelled (current ++ tokens)) (hdot : ∀ t ∈ current, t ≠ .dot)
    (hr : r ∈ runs current tokens) : IsRun r := by
  induction tokens generalizing current with
  | nil => exact isRun_of_mem_run h.left hdot hr
  | cons t rest ih =>
    by_cases ht : t = .dot
    · subst ht
      rw [runs, List.mem_append] at hr
      obtain hr | hr := hr
      · exact isRun_of_mem_run h.left hdot hr
      · exact ih [] h.right.tail (by simp) hr
    · rw [runs_cons_of_ne ht] at hr
      exact ih (current ++ [t]) (by simpa using h) (ne_dot_concat hdot ht) hr

/-- Nothing is lost between runs but dots. -/
theorem flatMap_runs (current tokens : List Token) :
    (runs current tokens).flatMap segmentsOfTokens = segmentsOfTokens (current ++ tokens) := by
  have hrun : ∀ current : List Token,
      (run current).flatMap segmentsOfTokens = segmentsOfTokens current := by
    intro current
    cases current with
    | nil => rfl
    | cons t rest => exact List.flatMap_singleton _ _
  induction tokens generalizing current with
  | nil => rw [runs, hrun, List.append_nil]
  | cons t rest ih =>
    by_cases ht : t = .dot
    · subst ht
      rw [runs, List.flatMap_append, hrun, ih]
      exact (segmentsOfTokens_append current (.dot :: rest)).symm
    · rw [runs_cons_of_ne ht, ih, List.append_assoc, List.singleton_append]

theorem IsRun.segments_ne_nil (h : IsRun tokens) : segmentsOfTokens tokens ≠ [] := by
  obtain ⟨t, rest, rfl⟩ := List.exists_cons_of_ne_nil h.ne_nil
  cases t with
  | dot => exact absurd rfl (h.no_dot _ List.mem_cons_self)
  | name chars => exact List.cons_ne_nil _ _
  | group g => exact List.cons_ne_nil _ _

theorem Token.Valid.text_ne_nil (h : t.Valid) : t.text ≠ [] := by
  cases t with
  | dot => exact List.cons_ne_nil _ _
  | name chars => exact h.1
  | group g => exact List.cons_ne_nil _ _

theorem IsRun.written_ne_nil (h : IsRun tokens) : written tokens ≠ [] := by
  obtain ⟨t, rest, rfl⟩ := List.exists_cons_of_ne_nil h.ne_nil
  have ht := (h.wellSpelled.valid _ List.mem_cons_self).text_ne_nil
  rw [written_cons]
  exact fun hnil => ht (List.append_eq_nil_iff.1 hnil).1

/-! ## The scan of a path -/

/-- Characters that are neither dots nor brackets are a part, or more of one. -/
theorem readParts_append {chars : List Char} (h : IsContent chars) {depth : Nat}
    (hdot : depth = 0 → '.' ∉ chars) (current more : List Char) :
    readParts depth current (chars ++ more) = readParts depth (chars.reverse ++ current) more := by
  induction chars generalizing current with
  | nil => rfl
  | cons c rest ih =>
    rw [IsContent, List.forall_mem_cons] at h
    obtain ⟨⟨hopen, hclose⟩, hrest⟩ := h
    have hc : ¬ (c = '.' ∧ depth = 0) := by
      rintro ⟨rfl, hdepth⟩
      exact hdot hdepth List.mem_cons_self
    have hdot' : depth = 0 → '.' ∉ rest := fun hdepth hmem =>
      hdot hdepth (List.mem_cons_of_mem _ hmem)
    rw [List.cons_append, readParts, if_neg hc]
    simp only [if_neg hopen, if_neg hclose]
    rw [ih hrest hdot', List.reverse_cons, List.append_assoc]
    rfl

/-- Names and groups do not end a part. -/
theorem readParts_text (h : t.Valid) (ht : t ≠ .dot) (current more : List Char) :
    readParts 0 current (t.text ++ more) = readParts 0 (t.text.reverse ++ current) more := by
  cases t with
  | dot => exact absurd rfl ht
  | name chars =>
    have hchars : IsContent chars := fun c hc => (h.2 c hc).2
    exact readParts_append hchars (fun _ => dot_notMem_text h ht) current more
  | group g =>
    have hopen : readParts 0 current ('[' :: (g.content ++ ']' :: more)) =
        readParts 1 ('[' :: current) (g.content ++ ']' :: more) := by
      rw [readParts, if_neg (by decide)]
      rfl
    have hclose : ∀ current : List Char,
        readParts 1 current (']' :: more) = readParts 0 (']' :: current) more := by
      intro current
      rw [readParts, if_neg (by decide)]
      rfl
    have htext : (Token.group g).text ++ more = '[' :: (g.content ++ ']' :: more) := by
      simp [Token.text]
    have hcurrent : (Token.group g).text.reverse ++ current =
        ']' :: (g.content.reverse ++ '[' :: current) := by
      simp [Token.text]
    have hcontent : (1 : Nat) = 0 → '.' ∉ g.content := fun h => absurd h (by decide)
    rw [htext, hcurrent, hopen, readParts_append (isContent_content h) hcontent, hclose]

/-- The text that tokens spell. -/
def spelled (tokens : List Token) : String := String.ofList (written tokens)

theorem part_written (h : WellSpelled tokens) (hdot : ∀ t ∈ tokens, t ≠ .dot) :
    part (written tokens) = (run tokens).map spelled := by
  cases tokens with
  | nil => rfl
  | cons t rest =>
    have hne := (IsRun.mk (List.cons_ne_nil t rest) h hdot).written_ne_nil
    rw [part, if_neg (by simpa using hne)]
    rfl

/-- **The parts of a path are what its runs spell**: by induction on the tokens
behind those of the current part. -/
theorem readParts_written (current : List Token) (h : WellSpelled (current ++ tokens))
    (hdot : ∀ t ∈ current, t ≠ .dot) :
    readParts 0 (written current).reverse (written tokens) =
      (runs current tokens).map spelled := by
  induction tokens generalizing current with
  | nil =>
    rw [runs, ← part_written h.left hdot]
    exact congrArg part (List.reverse_reverse (written current))
  | cons t rest ih =>
    have hvalid := h.right.valid t List.mem_cons_self
    by_cases ht : t = .dot
    · subst ht
      have hrest := ih [] h.right.tail (by simp)
      rw [runs, List.map_append, ← part_written h.left hdot, ← hrest]
      exact congrArg (fun p => part p ++ _) (List.reverse_reverse (written current))
    · have hcurrent : t.text.reverse ++ (written current).reverse =
          (written (current ++ [t])).reverse := by
        simp [written]
      rw [written_cons, readParts_text hvalid ht, hcurrent, runs_cons_of_ne ht]
      exact ih (current ++ [t]) (by simpa using h) (ne_dot_concat hdot ht)

theorem parts_eq_of_written {text : String} (h : WellSpelled tokens)
    (htext : written tokens = text.toList) : parts text = (runs [] tokens).map spelled := by
  rw [parts, ← htext]
  exact readParts_written [] h (by simp)

/-! ## The scan over bytes -/

/-- A cut from one position to another, unless nothing lies between them. -/
def cut (start stop : Nat) : List (Nat × Nat) := if start < stop then [(start, stop)] else []

/-- Where the parts of a text begin and end, in bytes, when the text is read at
`position`, from within a part that begins at `start` and within `depth`
brackets. A dot is one byte long. -/
def readCuts (depth start position : Nat) : List Char → List (Nat × Nat)
  | [] => cut start position
  | c :: rest =>
    if c = '.' ∧ depth = 0 then
      cut start position ++ readCuts 0 (position + 1) (position + 1) rest
    else
      let depth := if c = '[' then depth + 1 else if c = ']' then depth - 1 else depth
      readCuts depth start (position + c.utf8Size) rest

/-- Where the parts of a path begin and end, in bytes. -/
def cuts (text : String) : List (Nat × Nat) := readCuts 0 0 0 text.toList

/-- A part lies between two positions of a text: both are between characters,
the one before the other, and the bytes there are those of the part. -/
structure Sliced (text : String) (cut : Nat × Nat) (part : String) : Prop where
  lt : cut.1 < cut.2
  start : String.Pos.Raw.IsValid text ⟨cut.1⟩
  stop : String.Pos.Raw.IsValid text ⟨cut.2⟩
  bytes : text.toByteArray.extract cut.1 cut.2 = part.toByteArray

/-- What stands in a text is sliced out of it. -/
theorem sliced_of_append (before after : List Char) {current : List Char} (h : current ≠ []) :
    Sliced (String.ofList (before ++ (current ++ after)))
      (bytes before, bytes (before ++ current)) (String.ofList current) := by
  have hpos : 0 < bytes current := by
    obtain ⟨c, rest, rfl⟩ := List.exists_cons_of_ne_nil h
    have hc := c.utf8Size_pos
    rw [bytes_cons]
    omega
  have hstart : String.Pos.Raw.IsValid (String.ofList (before ++ (current ++ after)))
      ⟨bytes before⟩ :=
    String.Pos.Raw.isValid_iff_exists_append.2
      ⟨String.ofList before, String.ofList (current ++ after), String.ofList_append, rfl⟩
  have hstop : String.Pos.Raw.IsValid (String.ofList (before ++ (current ++ after)))
      ⟨bytes (before ++ current)⟩ := by
    rw [← List.append_assoc]
    exact String.Pos.Raw.isValid_iff_exists_append.2
      ⟨String.ofList (before ++ current), String.ofList after, String.ofList_append, rfl⟩
  refine ⟨by rw [bytes_append]; omega, hstart, hstop, ?_⟩
  have hsize : ∀ chars : List Char, (String.ofList chars).toByteArray.size = bytes chars :=
    fun _ => String.size_toByteArray
  have hbetween := ByteArray.extract_append_size_add (a := (String.ofList before).toByteArray)
    (b := (String.ofList (current ++ after)).toByteArray) (i := 0) (j := bytes current)
  rw [hsize, Nat.add_zero, ← bytes_append, ← String.toByteArray_append, ← String.ofList_append]
    at hbetween
  rw [hbetween, String.ofList_append, String.toByteArray_append]
  exact ByteArray.extract_append_eq_left (hsize current).symm

/-- One part, or none. -/
theorem sliced_part (before current after : List Char) :
    List.Forall₂ (Sliced (String.ofList (before ++ (current ++ after))))
      (cut (bytes before) (bytes (before ++ current))) (part current) := by
  cases current with
  | nil =>
    rw [cut, List.append_nil, if_neg (lt_irrefl _)]
    exact .nil
  | cons c rest =>
    have hsliced := sliced_of_append before after (List.cons_ne_nil c rest)
    rw [cut, if_pos hsliced.lt]
    exact .cons hsliced .nil

/-- **The scan over bytes cuts out the parts**, wherever in a text it is: by
induction on what is still to be read. -/
theorem sliced_readParts (depth : Nat) (before current rest : List Char) :
    List.Forall₂ (Sliced (String.ofList (before ++ (current.reverse ++ rest))))
      (readCuts depth (bytes before) (bytes (before ++ current.reverse)) rest)
      (readParts depth current rest) := by
  induction rest generalizing depth before current with
  | nil => exact sliced_part before current.reverse []
  | cons c rest ih =>
    rw [readCuts, readParts]
    split
    · obtain ⟨rfl, -⟩ := ‹c = '.' ∧ depth = 0›
      have hpos : bytes (before ++ current.reverse) + 1 =
          bytes (before ++ current.reverse ++ ['.']) := (bytes_append _ ['.']).symm
      have hrest := ih 0 (before ++ current.reverse ++ ['.']) []
      simp only [List.reverse_nil, List.append_nil, List.nil_append, List.append_assoc,
        List.singleton_append] at hrest hpos
      rw [hpos]
      exact List.rel_append (sliced_part before current.reverse ('.' :: rest)) hrest
    · have hpos : bytes (before ++ current.reverse) + c.utf8Size =
          bytes (before ++ (c :: current).reverse) := by
        rw [List.reverse_cons, ← List.append_assoc, bytes_append _ [c], bytes_singleton]
      have hrest := ih (if c = '[' then depth + 1 else if c = ']' then depth - 1 else depth)
        before (c :: current)
      rw [← hpos] at hrest
      simpa using hrest

theorem sliced_parts (text : String) :
    List.Forall₂ (Sliced text) (cuts text) (parts text) := by
  have h := sliced_readParts 0 [] [] text.toList
  rw [List.reverse_nil, List.append_nil, List.nil_append, List.nil_append,
    String.ofList_toList] at h
  exact h

/-! ## Parts and segments -/

/-- **Each part is a path, and the segments of the parts are those of the
path.** -/
theorem parse_parts {text : String} {path : Path} (h : parse text = .ok path) :
    (∀ name ∈ parts text, name ≠ "") ∧
    (∃ paths, (parts text).mapM parse = .ok paths ∧
      path.segments = paths.flatMap Path.segments) ∧
    (parts text = [] ↔ path.segments = []) := by
  obtain ⟨tokens, htokens, htext, rfl⟩ := parse_eq_ok_iff_written.1 h
  have hrun : ∀ r ∈ runs [] tokens, IsRun r := fun r hr =>
    isRun_of_mem_runs [] htokens (by simp) hr
  have hparse : ∀ r ∈ runs [] tokens,
      parse (spelled r) = .ok ⟨spelled r, segmentsOfTokens r⟩ := fun r hr =>
    parse_eq_ok_iff_written.2 ⟨r, (hrun r hr).wellSpelled, by simp [spelled], rfl⟩
  have hsegments : (runs [] tokens).flatMap segmentsOfTokens = segmentsOfTokens tokens :=
    flatMap_runs [] tokens
  rw [parts_eq_of_written htokens htext]
  refine ⟨?_, ⟨(runs [] tokens).map fun r => ⟨spelled r, segmentsOfTokens r⟩, ?_, ?_⟩, ?_⟩
  · intro name hname
    obtain ⟨r, hr, rfl⟩ := List.mem_map.1 hname
    simpa [spelled] using (hrun r hr).written_ne_nil
  · rw [mapM_eq_ok_iff, List.forall₂_map_left_iff, List.forall₂_map_right_iff, List.forall₂_same]
    exact hparse
  · rw [List.flatMap_map]
    exact hsegments.symm
  · rw [List.map_eq_nil_iff, ← hsegments, List.flatMap_eq_nil_iff]
    constructor
    · intro hnil
      simp [hnil]
    · intro hnil
      refine List.eq_nil_iff_forall_not_mem.2 fun r hr => ?_
      exact (hrun r hr).segments_ne_nil (hnil r hr)

/-- So equal parts make equal segments. -/
theorem segments_eq_of_parts_eq {text text' : String} {path path' : Path}
    (h : parse text = .ok path) (h' : parse text' = .ok path') (hparts : parts text = parts text') :
    path.segments = path'.segments := by
  obtain ⟨-, ⟨paths, hpaths, hsegments⟩, -⟩ := parse_parts h
  obtain ⟨-, ⟨paths', hpaths', hsegments'⟩, -⟩ := parse_parts h'
  rw [hparts, hpaths'] at hpaths
  cases hpaths
  rw [hsegments, hsegments']

/-! ## Joining -/

theorem runs_append_dot (current before after : List Token) :
    runs current (before ++ .dot :: after) = runs current before ++ runs [] after := by
  induction before generalizing current with
  | nil => rfl
  | cons t rest ih =>
    by_cases ht : t = .dot
    · subst ht
      rw [List.cons_append, runs, runs, ih, List.append_assoc]
    · rw [List.cons_append, runs_cons_of_ne ht, runs_cons_of_ne ht, ih]

theorem toList_join (first second : String) :
    (first ++ "." ++ second).toList = first.toList ++ '.' :: second.toList := by
  simp

/-- **What is joined by a dot is a path exactly if both sides are**, and has the
segments of the one before those of the other. -/
theorem parse_join_iff {first second : String} {path : Path} :
    parse (first ++ "." ++ second) = .ok path ↔
      ∃ p q, parse first = .ok p ∧ parse second = .ok q ∧
        path = ⟨first ++ "." ++ second, p.segments ++ q.segments⟩ := by
  constructor
  · intro h
    obtain ⟨tokens, htokens, htext, rfl⟩ := parse_eq_ok_iff_written.1 h
    rw [toList_join] at htext
    obtain ⟨before, after, rfl, hbefore, hafter⟩ := exists_tokens_of_dot htokens htext
    refine ⟨_, _, parse_eq_ok_iff_written.2 ⟨before, htokens.left, hbefore, rfl⟩,
      parse_eq_ok_iff_written.2 ⟨after, htokens.right.tail, hafter, rfl⟩, ?_⟩
    exact congrArg (Path.mk _) (segmentsOfTokens_append before (.dot :: after))
  · rintro ⟨p, q, hp, hq, rfl⟩
    obtain ⟨before, hbefore, hfirst, rfl⟩ := parse_eq_ok_iff_written.1 hp
    obtain ⟨after, hafter, hsecond, rfl⟩ := parse_eq_ok_iff_written.1 hq
    refine parse_eq_ok_iff_written.2 ⟨_, hbefore.append_dot hafter, ?_, ?_⟩
    · rw [toList_join, ← hfirst, ← hsecond, written_append]
      rfl
    · exact congrArg (Path.mk _) (segmentsOfTokens_append before (.dot :: after)).symm

theorem parts_join {first second : String} {p q : Path} (hp : parse first = .ok p)
    (hq : parse second = .ok q) :
    parts (first ++ "." ++ second) = parts first ++ parts second := by
  obtain ⟨before, hbefore, hfirst, rfl⟩ := parse_eq_ok_iff_written.1 hp
  obtain ⟨after, hafter, hsecond, rfl⟩ := parse_eq_ok_iff_written.1 hq
  have htext : written (before ++ .dot :: after) = (first ++ "." ++ second).toList := by
    rw [toList_join, ← hfirst, ← hsecond, written_append]
    rfl
  rw [parts_eq_of_written (hbefore.append_dot hafter) htext, runs_append_dot, List.map_append,
    parts_eq_of_written hbefore hfirst, parts_eq_of_written hafter hsecond]

/-- **Parts and segments agree.** The parts of a path are paths of their own and
have its segments, so that equal parts make equal segments; what is joined by a
dot is read and divided like its two sides; and the parts of any text are cut
between characters. -/
theorem parts_agree_with_segments :
    (∀ {text : String} {path : Path}, parse text = .ok path →
      (∀ name ∈ parts text, name ≠ "") ∧
      (∃ paths, (parts text).mapM parse = .ok paths ∧
        path.segments = paths.flatMap Path.segments) ∧
      (parts text = [] ↔ path.segments = [])) ∧
    (∀ {text text' : String} {path path' : Path}, parse text = .ok path →
      parse text' = .ok path' → parts text = parts text' → path.segments = path'.segments) ∧
    (∀ (first second : String) (path : Path), parse (first ++ "." ++ second) = .ok path ↔
      ∃ p q, parse first = .ok p ∧ parse second = .ok q ∧
        path = ⟨first ++ "." ++ second, p.segments ++ q.segments⟩) ∧
    (∀ {first second : String} {path : Path}, parse (first ++ "." ++ second) = .ok path →
      parts (first ++ "." ++ second) = parts first ++ parts second) ∧
    ∀ text : String, List.Forall₂ (Sliced text) (cuts text) (parts text) := by
  refine ⟨parse_parts, segments_eq_of_parts_eq, fun _ _ _ => parse_join_iff, ?_, sliced_parts⟩
  intro first second path h
  obtain ⟨p, q, hp, hq, -⟩ := parse_join_iff.1 h
  exact parts_join hp hq

/-- A path with a group of its own between dots, written with a dot too many, is
divided and joined. -/
theorem size_path_parts :
    parse ".größe.[0][*]" =
      .ok ⟨".größe.[0][*]", [.named "größe", .index 0, .wildcard]⟩ ∧
    parts ".größe.[0][*]" = ["größe", "[0][*]"] ∧
    parse ".größe" = .ok ⟨".größe", [.named "größe"]⟩ ∧
    (∃ paths, (parts ".größe.[0][*]").mapM parse = .ok paths ∧
      [.named "größe", .index 0, .wildcard] = paths.flatMap Path.segments) ∧
    parts (".größe" ++ "." ++ "[0][*]") = parts ".größe" ++ parts "[0][*]" ∧
    cuts ".größe.[0][*]" = [(1, 8), (9, 15)] := by
  have hread : parse ".größe.[0][*]" =
      .ok ⟨".größe.[0][*]", [.named "größe", .index 0, .wildcard]⟩ := by decide +kernel
  exact ⟨hread, by decide +kernel, by decide +kernel,
    (parts_agree_with_segments.1 hread).2.1, parts_agree_with_segments.2.2.2.1 hread,
    by decide +kernel⟩

end DocQuery.Path
