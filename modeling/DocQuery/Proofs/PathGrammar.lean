import Mathlib.Algebra.Group.Nat.Defs
import Mathlib.Data.List.Chain
import DocQuery.Path
import DocQuery.Proofs.Results
/-!
# The grammar of paths

A path is written as a sequence of tokens: dots, names, and groups in
brackets. Any tokens may follow one another, except that a name stands at the
beginning or behind a dot (`WellSpelled`). A text is a path if it is spelled by
such tokens, and its segments are then the names and the groups, in order.

Whatever else is a text is spelled by tokens up to some place where it goes
wrong: `Fault` lists the ways, together with what is reported. Since all that
stands before that place is well spelled, it is the first place in reading
order. Each text is of one of these two kinds (`spelled_or_faulty`), and reading
tells them apart (`reads_grammar_and_inverts_writing`).

The reader is in one of three states, within a name, within a group or behind
one. Between two tokens it makes no difference whether a name or a group has
just ended, unless a name follows, which is why a name may not
(`readName_of_stops`).
-/


namespace DocQuery.Path

/-! ## Tokens -/

/-- What stands in brackets: a star, or digits with a plus sign before them or
without. -/
inductive Group where
  | wildcard
  | index (plus : Bool) (digits : List Char)
  deriving DecidableEq

namespace Group

/-- The characters between the brackets. -/
def content : Group → List Char
  | wildcard => ['*']
  | index true digits => '+' :: digits
  | index false digits => digits

/-- The segment that is meant. -/
def segment : Group → Segment
  | wildcard => .wildcard
  | index _ digits => .index (Nat.ofDigitChars 10 digits 0)

/-- There is a digit, nothing but decimal digits, and the number they make is
one of sixty-four bits. -/
def Valid : Group → Prop
  | wildcard => True
  | index _ digits => digits ≠ [] ∧ (∀ c ∈ digits, c.isDigit = true) ∧
      Nat.ofDigitChars 10 digits 0 < 2 ^ 64

end Group

/-- A character that may stand in a name. -/
def IsNameChar (c : Char) : Prop := c ≠ '.' ∧ c ≠ '[' ∧ c ≠ ']'

/-- A piece of a path as written. -/
inductive Token where
  | dot
  | name (chars : List Char)
  | group (g : Group)
  deriving DecidableEq

namespace Token

/-- How a token is written. -/
def text : Token → List Char
  | dot => ['.']
  | name chars => chars
  | group g => '[' :: (g.content ++ [']'])

/-- The segment that a token stands for; a dot stands for none. -/
def segment? : Token → Option Segment
  | dot => none
  | name chars => some (.named (String.ofList chars))
  | group g => some g.segment

/-- A name has a character and neither dots nor brackets in it. -/
def Valid : Token → Prop
  | dot => True
  | name chars => chars ≠ [] ∧ ∀ c ∈ chars, IsNameChar c
  | group g => g.Valid

def IsName : Token → Prop
  | name _ => True
  | _ => False

end Token

/-- What tokens spell. -/
def written (tokens : List Token) : List Char := tokens.flatMap Token.text

/-- The segments that tokens stand for. -/
def segmentsOfTokens (tokens : List Token) : List Segment := tokens.filterMap Token.segment?

/-- Tokens are well spelled if each is, and if names stand at the beginning or
behind dots. So a name is a whole run of characters and stands behind no
group. -/
structure WellSpelled (tokens : List Token) : Prop where
  valid : ∀ t ∈ tokens, t.Valid
  apart : tokens.IsChain fun t u => u.IsName → t = .dot

/-- The number of bytes of a text in UTF-8. -/
def bytes (text : List Char) : Nat := (String.ofList text).utf8ByteSize

/-- Whether no character is a bracket. -/
def IsContent (content : List Char) : Prop := ∀ c ∈ content, c ≠ '[' ∧ c ≠ ']'

/-- Where a text goes wrong behind well spelled tokens, and what is reported.
Positions are numbers of bytes. -/
inductive Fault : List Char → PathError → Prop
  /-- A bracket is closed that is not open. -/
  | closing {tokens : List Token} {after : List Char} : WellSpelled tokens →
      Fault (written tokens ++ ']' :: after) (.unexpected ']' (bytes (written tokens)))
  /-- Something else than a dot or a group follows a group. -/
  | behindGroup {tokens : List Token} {g : Group} {c : Char} {after : List Char} :
      WellSpelled (tokens ++ [.group g]) → c ≠ '.' → c ≠ '[' →
      Fault (written (tokens ++ [.group g]) ++ c :: after)
        (.unexpected c (bytes (written (tokens ++ [.group g]))))
  /-- A bracket is opened within a group. -/
  | opening {tokens : List Token} {content after : List Char} : WellSpelled tokens →
      IsContent content →
      Fault (written tokens ++ '[' :: (content ++ '[' :: after))
        (.unexpected '[' (bytes (written tokens ++ '[' :: content)))
  /-- A group is closed whose content is none. -/
  | content {tokens : List Token} {content after : List Char} : WellSpelled tokens →
      IsContent content → (∀ g : Group, g.Valid → g.content ≠ content) →
      Fault (written tokens ++ '[' :: (content ++ ']' :: after))
        (.invalidIndex (String.ofList content))
  /-- A group is not closed. -/
  | unclosed {tokens : List Token} {content : List Char} : WellSpelled tokens →
      IsContent content →
      Fault (written tokens ++ '[' :: content) (.unclosedBracket (bytes (written tokens)))

/-! ## Bytes -/

theorem bytes_append (a b : List Char) : bytes (a ++ b) = bytes a + bytes b := by
  rw [bytes, String.ofList_append, String.utf8ByteSize_append]
  rfl

theorem bytes_singleton (c : Char) : bytes [c] = c.utf8Size := by
  exact String.utf8ByteSize_singleton

theorem bytes_cons (c : Char) (a : List Char) : bytes (c :: a) = c.utf8Size + bytes a := by
  rw [← bytes_singleton, ← bytes_append]
  rfl

/-! ## Groups -/

/-- Digits make a number if they are the digits of a group. -/
theorem digits_eq_some_iff (plus : Bool) {digits : List Char} {n : Nat} :
    (if digits.isEmpty || !digits.all Char.isDigit then none
      else
        let n := digits.foldl (fun n c => 10 * n + (c.toNat - '0'.toNat)) 0
        if n < 1 <<< 64 then some n else none) = some n ↔
      (Group.index plus digits).Valid ∧ (Group.index plus digits).segment = .index n := by
  have hdigits : (digits.isEmpty || !digits.all Char.isDigit) = true ↔
      ¬ (digits ≠ [] ∧ ∀ c ∈ digits, c.isDigit = true) := by
    simp [imp_iff_not_or]
  rw [← Nat.ofDigitChars_eq_foldl, Nat.one_shiftLeft, Group.Valid, Group.segment,
    Segment.index.injEq]
  by_cases h : digits ≠ [] ∧ ∀ c ∈ digits, c.isDigit = true
  · rw [if_neg (fun hnone => hdigits.1 hnone h)]
    simp only [Option.ite_none_right_eq_some, Option.some.injEq]
    constructor
    · rintro ⟨hlt, hn⟩
      exact ⟨⟨h.1, h.2, hlt⟩, hn⟩
    · rintro ⟨⟨-, -, hlt⟩, hn⟩
      exact ⟨hlt, hn⟩
  · rw [if_pos (hdigits.2 h)]
    simp only [reduceCtorEq, false_iff]
    rintro ⟨⟨hne, hall, -⟩, -⟩
    exact h ⟨hne, hall⟩

theorem index?_content {plus : Bool} {digits : List Char} (h : (Group.index plus digits).Valid) :
    index? (Group.index plus digits).content = some (Nat.ofDigitChars 10 digits 0) := by
  unfold index?
  cases plus with
  | true => exact (digits_eq_some_iff true).2 ⟨h, rfl⟩
  | false =>
    rw [Group.content]
    split
    · -- a plus sign is no digit
      have hplus : ('+').isDigit = true := h.2.1 _ List.mem_cons_self
      exact absurd hplus (by decide)
    · exact (digits_eq_some_iff false).2 ⟨h, rfl⟩

theorem exists_group_of_index? {content : List Char} {n : Nat} (h : index? content = some n) :
    ∃ g : Group, g.Valid ∧ g.content = content ∧ g.segment = .index n := by
  unfold index? at h
  split at h
  · obtain ⟨hvalid, hsegment⟩ := (digits_eq_some_iff true).1 h
    exact ⟨_, hvalid, rfl, hsegment⟩
  · obtain ⟨hvalid, hsegment⟩ := (digits_eq_some_iff false).1 h
    exact ⟨_, hvalid, rfl, hsegment⟩

/-- The content of a group is read as its segment, -/
theorem groupSegment_content {g : Group} (h : g.Valid) :
    groupSegment g.content = .ok g.segment := by
  cases g with
  | wildcard => rfl
  | index plus digits =>
    have hnone : index? ['*'] = none := by decide
    have hstar : (Group.index plus digits).content ≠ ['*'] := by
      intro hcontent
      have hindex := index?_content h
      rw [hcontent, hnone] at hindex
      cases hindex
    rw [groupSegment, if_neg hstar, index?_content h]
    rfl

/-- and any other content is reported. -/
theorem groupSegment_of_none {content : List Char}
    (h : ∀ g : Group, g.Valid → g.content ≠ content) :
    groupSegment content = .error (.invalidIndex (String.ofList content)) := by
  have hstar : content ≠ ['*'] := (h .wildcard trivial).symm
  have hindex : index? content = none := by
    cases hn : index? content with
    | none => rfl
    | some n =>
      obtain ⟨g, hvalid, hcontent, -⟩ := exists_group_of_index? hn
      exact absurd hcontent (h g hvalid)
  rw [groupSegment, if_neg hstar, hindex]

/-! ## Between two tokens -/

/-- Whether a text does not go on with a name. -/
def Stops (text : List Char) : Prop := ∀ c ∈ text.head?, ¬ IsNameChar c

theorem stops_cons {c : Char} {rest : List Char} : Stops (c :: rest) ↔ ¬ IsNameChar c := by
  simp [Stops]

theorem stops_dot {rest : List Char} : Stops ('.' :: rest) := stops_cons.2 fun h => h.1 rfl

theorem stops_open {rest : List Char} : Stops ('[' :: rest) := stops_cons.2 fun h => h.2.1 rfl

theorem stops_close {rest : List Char} : Stops (']' :: rest) := stops_cons.2 fun h => h.2.2 rfl

theorem eq_of_not_isNameChar {c : Char} (h : ¬ IsNameChar c) : c = '.' ∨ c = '[' ∨ c = ']' := by
  by_contra hc
  simp only [not_or] at hc
  exact h hc

/-- **The end of a name is read like the end of a group**, if it is one. -/
theorem readName_of_stops {more : List Char} (h : Stops more) (name : List Char) (pos : Nat) :
    readName name pos more = (nameSegment name.reverse ++ ·) <$> readNext pos more := by
  cases more with
  | nil => rw [readName, readNext, Except.map_ok, List.append_nil]
  | cons c rest =>
    rw [readName, readNext]
    obtain rfl | rfl | rfl := eq_of_not_isNameChar (stops_cons.1 h)
    · rw [if_pos rfl, if_pos rfl]
      rfl
    · rw [if_neg (by decide), if_pos rfl, if_neg (by decide), if_pos rfl]
      rfl
    · rw [if_neg (by decide), if_neg (by decide), if_pos rfl, if_neg (by decide),
        if_neg (by decide)]
      rfl

/-- So at such a place it makes no difference whether a name may begin there. -/
theorem readName_eq_readNext {more : List Char} (h : Stops more) (pos : Nat) :
    readName [] pos more = readNext pos more := by
  rw [readName_of_stops h]
  exact LawfulFunctor.id_map _

/-- Names are read to their end, -/
theorem readName_append {chars : List Char} (h : ∀ c ∈ chars, IsNameChar c) (name : List Char)
    (pos : Nat) (more : List Char) :
    readName name pos (chars ++ more) =
      readName (chars.reverse ++ name) (pos + bytes chars) more := by
  induction chars generalizing name pos with
  | nil => rfl
  | cons c rest ih =>
    rw [List.forall_mem_cons] at h
    obtain ⟨⟨hdot, hopen, hclose⟩, hrest⟩ := h
    rw [List.cons_append, readName, if_neg hdot, if_neg hopen, if_neg hclose, ih hrest,
      List.reverse_cons, List.append_assoc, bytes_cons, Nat.add_assoc]
    rfl

/-- and so are groups. -/
theorem readGroup_append {content : List Char} (h : IsContent content) (start : Nat)
    (before : List Char) (pos : Nat) (more : List Char) :
    readGroup start before pos (content ++ more) =
      readGroup start (content.reverse ++ before) (pos + bytes content) more := by
  induction content generalizing before pos with
  | nil => rfl
  | cons c rest ih =>
    rw [IsContent, List.forall_mem_cons] at h
    obtain ⟨⟨hopen, hclose⟩, hrest⟩ := h
    rw [List.cons_append, readGroup, if_neg hclose, if_neg hopen, ih hrest, List.reverse_cons,
      List.append_assoc, bytes_cons, Nat.add_assoc]
    rfl

/-- A bracket is opened, and the text goes on within the group. -/
theorem readNext_open {content : List Char} (h : IsContent content) (pos : Nat)
    (more : List Char) :
    readNext pos ('[' :: (content ++ more)) =
      readGroup pos content.reverse (pos + bytes ('[' :: content)) more := by
  have hopen : bytes ('[' :: content) = 1 + bytes content := bytes_cons '[' content
  rw [readNext, if_neg (by decide), if_pos rfl, readGroup_append h, List.append_nil, hopen,
    Nat.add_assoc]

/-- The content of a group has no brackets in it. -/
theorem isContent_content {g : Group} (h : g.Valid) : IsContent g.content := by
  have hdigit : ∀ c : Char, c.isDigit = true → c ≠ '[' ∧ c ≠ ']' := by
    rintro c hc
    constructor
    · rintro rfl
      cases hc
    · rintro rfl
      cases hc
  cases g with
  | wildcard => simp [IsContent, Group.content]
  | index plus digits =>
    have hdigits : IsContent digits := fun c hc => hdigit c (h.2.1 c hc)
    cases plus with
    | true => exact List.forall_mem_cons.2 ⟨by decide, hdigits⟩
    | false => exact hdigits

/-- A group is read as its segment, whatever follows. -/
theorem readNext_group {g : Group} (h : g.Valid) (pos : Nat) (more : List Char) :
    readNext pos ((Token.group g).text ++ more) =
      (g.segment :: ·) <$> readNext (pos + bytes (Token.group g).text) more := by
  have hpos : bytes (Token.group g).text = bytes ('[' :: g.content) + 1 :=
    bytes_append ('[' :: g.content) [']']
  have htext : (Token.group g).text ++ more = '[' :: (g.content ++ ']' :: more) := by
    simp [Token.text]
  rw [htext, readNext_open (isContent_content h), readGroup, if_pos rfl, List.reverse_reverse,
    groupSegment_content h, hpos, ← Nat.add_assoc]
  rfl

/-! ## Well spelled tokens -/

@[simp]
theorem written_cons (t : Token) (tokens : List Token) :
    written (t :: tokens) = t.text ++ written tokens := rfl

@[simp]
theorem written_append (tokens more : List Token) :
    written (tokens ++ more) = written tokens ++ written more :=
  List.flatMap_append

namespace WellSpelled

variable {t : Token} {tokens : List Token}

theorem nil : WellSpelled [] := ⟨by simp, .nil⟩

theorem tail (h : WellSpelled (t :: tokens)) : WellSpelled tokens :=
  ⟨(List.forall_mem_cons.1 h.valid).2, h.apart.tail⟩

/-- What can be written behind tokens. -/
theorem concat_iff : WellSpelled (tokens ++ [t]) ↔
    WellSpelled tokens ∧ t.Valid ∧ (t.IsName → ∀ u ∈ tokens.getLast?, u = .dot) := by
  have hvalid : (∀ u ∈ tokens ++ [t], u.Valid) ↔ (∀ u ∈ tokens, u.Valid) ∧ t.Valid := by
    simp [or_imp, forall_and]
  have happart : (tokens ++ [t]).IsChain (fun t u => u.IsName → t = .dot) ↔
      tokens.IsChain (fun t u => u.IsName → t = .dot) ∧
        (t.IsName → ∀ u ∈ tokens.getLast?, u = .dot) := by
    rw [List.isChain_append]
    simp only [List.IsChain.singleton, List.head?_cons, Option.mem_some_iff, forall_eq', true_and]
    exact and_congr_right fun _ => ⟨fun h ht u hu => h u hu ht, fun h u hu ht => h ht u hu⟩
  constructor
  · intro h
    obtain ⟨htokens, ht⟩ := hvalid.1 h.valid
    obtain ⟨hchain, hlast⟩ := happart.1 h.apart
    exact ⟨⟨htokens, hchain⟩, ht, hlast⟩
  · rintro ⟨htokens, ht, hlast⟩
    exact ⟨hvalid.2 ⟨htokens.valid, ht⟩, happart.2 ⟨htokens.apart, hlast⟩⟩

/-- Dots and groups can be written behind any tokens. -/
theorem concat (h : WellSpelled tokens) (ht : t.Valid) (hname : ¬ t.IsName) :
    WellSpelled (tokens ++ [t]) :=
  concat_iff.2 ⟨h, ht, fun hname' => absurd hname' hname⟩

/-- Behind a name or a group no name follows. -/
theorem stops {more : List Char} (h : WellSpelled (t :: tokens)) (ht : t ≠ .dot)
    (hmore : Stops more) : Stops (written tokens ++ more) := by
  cases tokens with
  | nil => exact hmore
  | cons u rest =>
    cases u with
    | dot => exact stops_dot
    | name chars => exact absurd ((List.isChain_cons_cons.1 h.apart).1 trivial) ht
    | group g => exact stops_open

end WellSpelled

/-- **Tokens are read as their segments**, and then what follows is read from
behind them: by induction on the tokens, each of which is read from a place
where a name may begin. -/
theorem readName_written {tokens : List Token} (h : WellSpelled tokens) {more : List Char}
    (hmore : Stops more) (pos : Nat) :
    readName [] pos (written tokens ++ more) =
      (segmentsOfTokens tokens ++ ·) <$> readNext (pos + bytes (written tokens)) more := by
  induction tokens generalizing pos with
  | nil => exact readName_of_stops hmore [] pos
  | cons t rest ih =>
    have hpos : pos + bytes t.text + bytes (written rest) = pos + bytes (written (t :: rest)) := by
      rw [written_cons, bytes_append, Nat.add_assoc]
    rw [written_cons, List.append_assoc, ← written_cons, ← hpos]
    cases t with
    | dot =>
      have hdot : readName [] pos ('.' :: (written rest ++ more)) =
          readName [] (pos + 1) (written rest ++ more) := by
        rw [readName_eq_readNext stops_dot, readNext, if_pos rfl]
      exact hdot.trans (ih h.tail (pos + 1))
    | name chars =>
      have hstops : Stops (written rest ++ more) := h.stops (by simp) hmore
      obtain ⟨hne, hchars⟩ := h.valid _ List.mem_cons_self
      have hname : nameSegment chars = [.named (String.ofList chars)] := by
        simp [nameSegment, hne]
      rw [Token.text, readName_append hchars, readName_of_stops hstops,
        ← readName_eq_readNext hstops, ih h.tail, List.append_nil, List.reverse_reverse, hname,
        Functor.map_map]
      rfl
    | group g =>
      have hstops : Stops (written rest ++ more) := h.stops (by simp) hmore
      have hopen : Stops ((Token.group g).text ++ (written rest ++ more)) := stops_open
      rw [readName_eq_readNext hopen, readNext_group (h.valid _ List.mem_cons_self),
        ← readName_eq_readNext hstops, ih h.tail, Functor.map_map]
      rfl

/-- So a text that tokens spell is a path. -/
theorem segmentsOf_written {tokens : List Token} (h : WellSpelled tokens) :
    segmentsOf (written tokens) = .ok (segmentsOfTokens tokens) := by
  have hend : Stops [] := by simp [Stops]
  have hread := readName_written h hend 0
  rw [List.append_nil, readNext, Except.map_ok, List.append_nil] at hread
  exact hread

/-! ## Faults -/

/-- A fault is reported as it is. -/
theorem segmentsOf_of_fault {text : List Char} {e : PathError} (h : Fault text e) :
    segmentsOf text = .error e := by
  cases h with
  | closing htokens =>
    rw [segmentsOf, readName_written htokens stops_close, readNext, if_neg (by decide),
      if_neg (by decide), Nat.zero_add]
    rfl
  | @behindGroup tokens g c after htokens hdot hopen =>
    obtain ⟨hbefore, hg, -⟩ := WellSpelled.concat_iff.1 htokens
    have hgroup : Stops ((Token.group g).text ++ c :: after) := stops_open
    have htext : written (tokens ++ [.group g]) ++ c :: after =
        written tokens ++ ((Token.group g).text ++ c :: after) := by
      simp [written]
    have hpos : bytes (written tokens) + bytes (Token.group g).text =
        bytes (written (tokens ++ [.group g])) := by
      simp [written, bytes_append]
    rw [segmentsOf, htext, readName_written hbefore hgroup, readNext_group hg, readNext,
      if_neg hdot, if_neg hopen, Nat.zero_add, hpos]
    rfl
  | opening htokens hcontent =>
    rw [segmentsOf, readName_written htokens stops_open, readNext_open hcontent, readGroup,
      if_neg (by decide), if_pos rfl, Nat.zero_add, ← bytes_append]
    rfl
  | content htokens hcontent hnone =>
    rw [segmentsOf, readName_written htokens stops_open, readNext_open hcontent, readGroup,
      if_pos rfl, List.reverse_reverse, groupSegment_of_none hnone]
    rfl
  | @unclosed tokens content htokens hcontent =>
    have hread := readNext_open hcontent (bytes (written tokens)) []
    rw [List.append_nil, readGroup] at hread
    rw [segmentsOf, readName_written htokens stops_open, Nat.zero_add, hread]
    rfl

/-! ## Telling tokens from a text -/

/-- A text up to its first bracket. -/
theorem exists_content (text : List Char) :
    ∃ content after, text = content ++ after ∧ IsContent content ∧
      ∀ c ∈ after.head?, c = '[' ∨ c = ']' := by
  induction text with
  | nil => exact ⟨[], [], rfl, by simp [IsContent], by simp⟩
  | cons c rest ih =>
    by_cases hc : c = '[' ∨ c = ']'
    · exact ⟨[], c :: rest, rfl, by simp [IsContent], by simpa using hc⟩
    · obtain ⟨content, after, rfl, hcontent, hafter⟩ := ih
      exact ⟨c :: content, after, rfl, List.forall_mem_cons.2 ⟨not_or.1 hc, hcontent⟩, hafter⟩

/-- A text up to where a name in it ends. -/
theorem exists_name (text : List Char) :
    ∃ chars after, text = chars ++ after ∧ (∀ c ∈ chars, IsNameChar c) ∧ Stops after := by
  induction text with
  | nil => exact ⟨[], [], rfl, by simp, by simp [Stops]⟩
  | cons c rest ih =>
    by_cases hc : IsNameChar c
    · obtain ⟨chars, after, rfl, hchars, hafter⟩ := ih
      exact ⟨c :: chars, after, rfl, List.forall_mem_cons.2 ⟨hc, hchars⟩, hafter⟩
    · exact ⟨[], c :: rest, rfl, by simp, stops_cons.2 hc⟩

/-- Tokens that have been told from a text, and what is left of it. A name or a
group that they end with has ended. -/
structure Told (tokens : List Token) (text : List Char) : Prop where
  wellSpelled : WellSpelled tokens
  ended : (∃ t ∈ tokens.getLast?, t ≠ .dot) → Stops text

theorem told_concat {tokens : List Token} {t : Token} {text : List Char}
    (h : WellSpelled (tokens ++ [t])) (hstops : t ≠ .dot → Stops text) :
    Told (tokens ++ [t]) text := by
  refine ⟨h, ?_⟩
  rintro ⟨u, hu, hne⟩
  rw [List.getLast?_concat, Option.mem_some_iff] at hu
  exact hstops (hu ▸ hne)

/-- An open bracket is that of a group, or there is a fault. -/
theorem group_or_fault {tokens : List Token} (h : WellSpelled tokens) (rest : List Char) :
    (∃ g after, '[' :: rest = (Token.group g).text ++ after ∧ after.length ≤ rest.length ∧
      Told (tokens ++ [.group g]) after) ∨ ∃ e, Fault (written tokens ++ '[' :: rest) e := by
  obtain ⟨content, after, rfl, hcontent, hafter⟩ := exists_content rest
  match after with
  | [] =>
    rw [List.append_nil]
    exact .inr ⟨_, .unclosed h hcontent⟩
  | c :: after =>
    obtain rfl | rfl := hafter c rfl
    · exact .inr ⟨_, .opening h hcontent⟩
    by_cases hnone : ∀ g : Group, g.Valid → g.content ≠ content
    · exact .inr ⟨_, .content h hcontent hnone⟩
    push Not at hnone
    obtain ⟨g, hvalid, rfl⟩ := hnone
    have hgroup : WellSpelled (tokens ++ [.group g]) := h.concat hvalid id
    have htext : '[' :: (g.content ++ ']' :: after) = (Token.group g).text ++ after := by
      simp [Token.text]
    by_cases hstops : Stops after
    · have hlength : after.length ≤ (g.content ++ ']' :: after).length := by
        rw [List.length_append, List.length_cons]
        omega
      exact .inl ⟨g, after, htext, hlength, told_concat hgroup fun _ => hstops⟩
    · match after with
      | [] => exact absurd (by simp [Stops]) hstops
      | c :: after =>
        rw [stops_cons, not_not] at hstops
        have hfault : Fault (written (tokens ++ [.group g]) ++ c :: after) _ :=
          .behindGroup hgroup hstops.1 hstops.2.1
        have hwritten : written tokens ++ ((Token.group g).text ++ c :: after) =
            written (tokens ++ [.group g]) ++ c :: after := by
          simp [written]
        rw [htext, hwritten]
        exact .inr ⟨_, hfault⟩

/-- A character of a name begins one that stands behind a dot. -/
theorem exists_name_told {tokens : List Token} {c : Char} {rest : List Char}
    (h : Told tokens (c :: rest)) (hc : IsNameChar c) :
    ∃ chars after, c :: rest = (Token.name chars).text ++ after ∧ after.length ≤ rest.length ∧
      Told (tokens ++ [.name chars]) after := by
  obtain ⟨chars, after, rfl, hchars, hafter⟩ := exists_name rest
  have hdot : ∀ t ∈ tokens.getLast?, t = .dot := by
    intro t ht
    by_contra hne
    exact stops_cons.1 (h.ended ⟨t, ht, hne⟩) hc
  have hvalid : (Token.name (c :: chars)).Valid :=
    ⟨List.cons_ne_nil c chars, List.forall_mem_cons.2 ⟨hc, hchars⟩⟩
  have hname := WellSpelled.concat_iff.2 ⟨h.wellSpelled, hvalid, fun _ => hdot⟩
  exact ⟨c :: chars, after, rfl, by simp, told_concat hname fun _ => hafter⟩

/-- **One more token can be told from a text, or there is a fault.** -/
theorem token_or_fault {tokens : List Token} {c : Char} {rest : List Char}
    (h : Told tokens (c :: rest)) :
    (∃ t after, c :: rest = t.text ++ after ∧ after.length ≤ rest.length ∧
      Told (tokens ++ [t]) after) ∨ ∃ e, Fault (written tokens ++ c :: rest) e := by
  by_cases hc : IsNameChar c
  · obtain ⟨chars, hname⟩ := exists_name_told h hc
    exact .inl ⟨.name chars, hname⟩
  obtain rfl | rfl | rfl := eq_of_not_isNameChar hc
  · have hdot : WellSpelled (tokens ++ [.dot]) := h.wellSpelled.concat trivial id
    exact .inl ⟨.dot, rest, rfl, le_rfl, told_concat hdot fun hne => absurd rfl hne⟩
  · obtain ⟨g, hgroup⟩ | hfault := group_or_fault h.wellSpelled rest
    · exact .inl ⟨.group g, hgroup⟩
    · exact .inr hfault
  · exact .inr ⟨_, .closing h.wellSpelled⟩

/-- So the whole text is told, or there is a fault: by induction on how much is
left. -/
theorem spelled_or_faulty_of_told (n : Nat) {tokens : List Token} {text : List Char}
    (hn : text.length ≤ n) (h : Told tokens text) :
    (∃ all, WellSpelled all ∧ written all = written tokens ++ text) ∨
      ∃ e, Fault (written tokens ++ text) e := by
  induction n generalizing tokens text with
  | zero =>
    obtain rfl : text = [] := List.length_eq_zero_iff.1 (Nat.le_zero.1 hn)
    exact .inl ⟨tokens, h.wellSpelled, (List.append_nil _).symm⟩
  | succ n ih =>
    cases text with
    | nil => exact .inl ⟨tokens, h.wellSpelled, (List.append_nil _).symm⟩
    | cons c rest =>
      obtain ⟨t, after, htext, hlength, htold⟩ | hfault := token_or_fault h
      · have hwritten : written tokens ++ c :: rest = written (tokens ++ [t]) ++ after := by
          simp [written, htext]
        rw [hwritten]
        exact ih (by rw [List.length_cons] at hn; omega) htold
      · exact .inr hfault

/-- **Each text is spelled by tokens or has a fault.** -/
theorem spelled_or_faulty (text : List Char) :
    (∃ tokens, WellSpelled tokens ∧ written tokens = text) ∨ ∃ e, Fault text e :=
  spelled_or_faulty_of_told text.length le_rfl ⟨.nil, by simp⟩

/-! ## Segments as written -/

/-- The token that a segment is written as. -/
def token : Segment → Token
  | .named name => .name name.toList
  | .index n => .group (.index false (Nat.toDigits 10 n))
  | .wildcard => .group .wildcard

/-- The tokens that a segment is written as behind another one. -/
def tokensBehind : Segment → List Token
  | .named name => [.dot, token (.named name)]
  | segment => [token segment]

/-- Whether a segment can be written: a name needs a character and has neither
dots nor brackets in it, and an index is a number of sixty-four bits. -/
def Writable : Segment → Prop
  | .named name => name ≠ "" ∧ ∀ c ∈ name.toList, IsNameChar c
  | .index n => n < 2 ^ 64
  | .wildcard => True

theorem text_token (segment : Segment) : (token segment).text = renderSegment segment := by
  cases segment <;> rfl

theorem segment?_token (segment : Segment) : (token segment).segment? = some segment := by
  cases segment with
  | named name => simp [token, Token.segment?]
  | index n => simp [token, Token.segment?, Group.segment, Nat.ofDigitChars_ten_toDigits]
  | wildcard => rfl

theorem valid_token {segment : Segment} (h : Writable segment) : (token segment).Valid := by
  cases segment with
  | named name => exact ⟨by simpa using h.1, h.2⟩
  | index n =>
    have hdigits : ∀ c ∈ Nat.toDigits 10 n, c.isDigit = true := fun c hc =>
      Nat.isDigit_of_mem_toDigits (by decide) (by decide) hc
    have hn : Nat.ofDigitChars 10 (Nat.toDigits 10 n) 0 < 2 ^ 64 := by
      rw [Nat.ofDigitChars_ten_toDigits]
      exact h
    exact ⟨Nat.toDigits_ne_nil, hdigits, hn⟩
  | wildcard => trivial

theorem valid_of_mem_tokensBehind {segment : Segment} (h : Writable segment) {t : Token}
    (ht : t ∈ tokensBehind segment) : t.Valid := by
  have hvalid := valid_token h
  cases segment with
  | named name =>
    obtain rfl | ht := List.mem_cons.1 ht
    · trivial
    · exact List.mem_singleton.1 ht ▸ hvalid
  | index n => exact List.mem_singleton.1 ht ▸ hvalid
  | wildcard => exact List.mem_singleton.1 ht ▸ hvalid

theorem written_flatMap_tokensBehind (segments : List Segment) :
    written (segments.flatMap tokensBehind) = renderRest segments := by
  induction segments with
  | nil => rfl
  | cons segment rest ih =>
    rw [List.flatMap_cons, written_append, ih]
    cases segment <;>
      simp [tokensBehind, token, written, Token.text, Group.content, renderRest, renderSegment]

theorem segmentsOfTokens_flatMap_tokensBehind (segments : List Segment) :
    segmentsOfTokens (segments.flatMap tokensBehind) = segments := by
  have hbehind : ∀ s : Segment, (tokensBehind s).filterMap Token.segment? = [s] := by
    intro s
    have hsegment := List.filterMap_cons_some (l := []) (segment?_token s)
    cases s <;> exact hsegment
  rw [segmentsOfTokens, List.filterMap_flatMap]
  simp only [hbehind, List.flatMap_singleton']

/-- Segments are written as tokens may follow another one. -/
theorem isChain_cons_tokensBehind (t : Token) (segments : List Segment) :
    (t :: segments.flatMap tokensBehind).IsChain fun t u => u.IsName → t = .dot := by
  induction segments generalizing t with
  | nil => exact .singleton t
  | cons segment rest ih =>
    cases segment with
    | named name => exact .cons_cons (fun h => h.elim) (.cons_cons (fun _ => rfl) (ih _))
    | index n => exact .cons_cons (fun h => h.elim) (ih _)
    | wildcard => exact .cons_cons (fun h => h.elim) (ih _)

/-- The written form of segments is spelled by their tokens. -/
theorem exists_tokens_render {segments : List Segment} (h : ∀ s ∈ segments, Writable s) :
    ∃ tokens, WellSpelled tokens ∧ written tokens = (render segments).toList ∧
      segmentsOfTokens tokens = segments := by
  cases segments with
  | nil => exact ⟨[], .nil, rfl, rfl⟩
  | cons segment rest =>
    obtain ⟨hsegment, hrest⟩ := List.forall_mem_cons.1 h
    have hvalid : ∀ t ∈ token segment :: rest.flatMap tokensBehind, t.Valid := by
      refine List.forall_mem_cons.2 ⟨valid_token hsegment, fun t ht => ?_⟩
      obtain ⟨s, hs, ht⟩ := List.mem_flatMap.1 ht
      exact valid_of_mem_tokensBehind (hrest s hs) ht
    refine ⟨_, ⟨hvalid, isChain_cons_tokensBehind _ rest⟩, ?_, ?_⟩
    · rw [written_cons, text_token, written_flatMap_tokensBehind, render, String.toList_ofList]
    · rw [segmentsOfTokens, List.filterMap_cons_some (segment?_token segment)]
      exact congrArg _ (segmentsOfTokens_flatMap_tokensBehind rest)

/-! ## Reading -/

theorem parse_eq_ok_iff {text : String} {path : Path} :
    parse text = .ok path ↔
      ∃ segments, segmentsOf text.toList = .ok segments ∧ path = ⟨text, segments⟩ := by
  constructor
  · intro h
    obtain ⟨segments, hsegments, hpath⟩ := bind_eq_ok h
    exact ⟨segments, hsegments, (Except.ok.inj hpath).symm⟩
  · rintro ⟨segments, hsegments, rfl⟩
    rw [parse, hsegments]
    rfl

theorem parse_eq_error_iff {text : String} {e : PathError} :
    parse text = .error e ↔ segmentsOf text.toList = .error e := by
  rw [parse]
  cases segmentsOf text.toList with
  | error e' =>
    exact ⟨fun h => congrArg _ (Except.error.inj h), fun h => congrArg _ (Except.error.inj h)⟩
  | ok segments => exact ⟨fun h => (nomatch h), fun h => (nomatch h)⟩

/-- A text is a path exactly if tokens spell it. -/
theorem parse_eq_ok_iff_written {text : String} {path : Path} :
    parse text = .ok path ↔ ∃ tokens, WellSpelled tokens ∧ written tokens = text.toList ∧
      path = ⟨text, segmentsOfTokens tokens⟩ := by
  rw [parse_eq_ok_iff]
  constructor
  · rintro ⟨segments, hread, rfl⟩
    obtain ⟨tokens, htokens, htext⟩ | ⟨e, hfault⟩ := spelled_or_faulty text.toList
    · rw [← htext, segmentsOf_written htokens] at hread
      cases hread
      exact ⟨tokens, htokens, htext, rfl⟩
    · rw [segmentsOf_of_fault hfault] at hread
      cases hread
  · rintro ⟨tokens, htokens, htext, rfl⟩
    exact ⟨segmentsOfTokens tokens, htext ▸ segmentsOf_written htokens, rfl⟩

/-- Any other text is reported for its fault. -/
theorem parse_eq_error_iff_fault {text : String} {e : PathError} :
    parse text = .error e ↔ Fault text.toList e := by
  rw [parse_eq_error_iff]
  constructor
  · intro hread
    obtain ⟨tokens, htokens, htext⟩ | ⟨e', hfault⟩ := spelled_or_faulty text.toList
    · rw [← htext, segmentsOf_written htokens] at hread
      cases hread
    · have he : e' = e := by
        rw [segmentsOf_of_fault hfault] at hread
        exact Except.error.inj hread
      exact he ▸ hfault
  · exact segmentsOf_of_fault

/-- **Paths are read by their grammar, which writing keeps to.** A text is a
path exactly if well spelled tokens spell it, and has the segments of the
tokens; any other text is reported for the first place where it goes wrong; and
what can be written is read back. -/
theorem reads_grammar_and_inverts_writing :
    (∀ (text : String) (path : Path), parse text = .ok path ↔
      ∃ tokens, WellSpelled tokens ∧ written tokens = text.toList ∧
        path = ⟨text, segmentsOfTokens tokens⟩) ∧
    (∀ (text : String) (e : PathError), parse text = .error e ↔ Fault text.toList e) ∧
    ∀ segments : List Segment, (∀ s ∈ segments, Writable s) →
      parse (render segments) = .ok ⟨render segments, segments⟩ := by
  refine ⟨fun _ _ => parse_eq_ok_iff_written, fun _ _ => parse_eq_error_iff_fault, ?_⟩
  intro segments h
  obtain ⟨tokens, htokens, htext, hsegments⟩ := exists_tokens_render h
  exact parse_eq_ok_iff_written.2 ⟨tokens, htokens, htext, by rw [hsegments]⟩

/-- A text with a sign, leading zeros and a dot too many is spelled by tokens;
one that goes on behind a group, beyond letters of two bytes, has a fault there;
and segments of each kind are written and read back. -/
theorem size_path_read_and_written :
    (∃ tokens, WellSpelled tokens ∧ written tokens = "größe[+007]..b".toList ∧
      segmentsOfTokens tokens = [.named "größe", .index 7, .named "b"]) ∧
    Fault "größe[0]b".toList (.unexpected 'b' 10) ∧
    (∀ s ∈ [Segment.named "größe", .index 10, .wildcard, .named "b"], Writable s) ∧
    render [.named "größe", .index 10, .wildcard, .named "b"] = "größe[10][*].b" ∧
    parse (render [.named "größe", .index 10, .wildcard, .named "b"]) =
      .ok ⟨"größe[10][*].b", [.named "größe", .index 10, .wildcard, .named "b"]⟩ := by
  have hread : parse "größe[+007]..b" =
      .ok ⟨"größe[+007]..b", [.named "größe", .index 7, .named "b"]⟩ := by
    decide +kernel
  have hfault : parse "größe[0]b" = .error (.unexpected 'b' 10) := by decide +kernel
  have hwritable : ∀ s ∈ [Segment.named "größe", .index 10, .wildcard, .named "b"],
      Writable s := by
    simp [Writable, IsNameChar]
  obtain ⟨tokens, htokens, htext, hpath⟩ := (reads_grammar_and_inverts_writing.1 _ _).1 hread
  exact ⟨⟨tokens, htokens, htext, (congrArg Path.segments hpath).symm⟩,
    (reads_grammar_and_inverts_writing.2.1 _ _).1 hfault, hwritable, by decide +kernel,
    reads_grammar_and_inverts_writing.2.2 _ hwritable⟩

end DocQuery.Path
