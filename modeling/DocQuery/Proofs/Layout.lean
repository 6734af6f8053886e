import Mathlib.Data.List.Basic
import DocQuery.Session
import DocQuery.Proofs.Parts
/-!
# How new queries are laid out

A serial number is given to one query ever, an address to one living query at
a time. `Layout` says this of the queries that are known, among them those
that are gone, and of those that are living, at a point where an allocator is
about to give out the next identity. What making a query comes to is said
once, by the rules of `Made` (`Query.made`). It keeps the layout
(`Made.layout`): whatever placement is used, the new parts differ from all
known queries by their serial numbers, and from all living ones by their
addresses.
-/


namespace DocQuery

variable {known living : List (Query Identity)}

/-- Different queries have different serial numbers. -/
def Numbered (known : List (Query Identity)) : Prop :=
  ∀ q ∈ known, ∀ r ∈ known, q.label.serial = r.label.serial → q = r

/-- Different queries lie at different addresses. -/
def Placed (living : List (Query Identity)) : Prop :=
  ∀ q ∈ living, ∀ r ∈ living, q.label.address = r.label.address → q = r

/-- Queries that a number tells apart are joined by one for which it is
another. -/
theorem apart_cons {number : Query Identity → Nat} {q : Query Identity}
    {qs : List (Query Identity)} (h : ∀ r ∈ qs, ∀ t ∈ qs, number r = number t → r = t)
    (hnew : ∀ r ∈ qs, number r ≠ number q) :
    ∀ r ∈ q :: qs, ∀ t ∈ q :: qs, number r = number t → r = t := by
  intro r hr t ht heq
  rcases List.mem_cons.1 hr with hrq | hr' <;> rcases List.mem_cons.1 ht with htq | ht'
  · rw [hrq, htq]
  · rw [hrq] at heq
    exact absurd heq.symm (hnew t ht')
  · rw [htq] at heq
    exact absurd heq (hnew r hr')
  · exact h r hr' t ht' heq

/-- The known queries are told apart by serial numbers that the allocator has
given out, the living ones by addresses that it takes for occupied. -/
structure Layout (known living : List (Query Identity)) (a : Allocator) : Prop where
  serial_lt : ∀ q ∈ known, q.label.serial < a.nextSerial
  numbered : Numbered known
  occupied : ∀ q ∈ living, q.label.address ∈ a.occupied
  placed : Placed living

namespace Layout

variable {a : Allocator}

/-- Nothing at all is well laid out. -/
theorem nil (a : Allocator) : Layout [] [] a where
  serial_lt _ hq := absurd hq List.not_mem_nil
  numbered _ hq := absurd hq List.not_mem_nil
  occupied _ hq := absurd hq List.not_mem_nil
  placed _ hq := absurd hq List.not_mem_nil

/-- Fewer queries are well laid out too. -/
theorem mono (h : Layout known living a) {known' living' : List (Query Identity)}
    (hknown : ∀ q ∈ known', q ∈ known) (hliving : ∀ q ∈ living', q ∈ living) :
    Layout known' living' a where
  serial_lt q hq := h.serial_lt q (hknown q hq)
  numbered q hq r hr := h.numbered q (hknown q hq) r (hknown r hr)
  occupied q hq := h.occupied q (hliving q hq)
  placed q hq r hr := h.placed q (hliving q hq) r (hliving r hr)

/-- An allocator may take fewer addresses for occupied, as long as those of
the living queries are among them. -/
theorem vacate (h : Layout known living a) {occupied : List Nat}
    (hoccupied : ∀ q ∈ living, q.label.address ∈ occupied) :
    Layout known living ⟨a.nextSerial, occupied⟩ :=
  ⟨h.serial_lt, h.numbered, hoccupied, h.placed⟩

/-- **A fresh identity is fresh**: a query that gets it joins the known and
the living ones. -/
theorem allocate (h : Layout known living a) (placement : Placement) {q : Query Identity}
    (hq : q.label = (a.allocate placement).1) :
    Layout (q :: known) (q :: living) (a.allocate placement).2 := by
  have hserial : q.label.serial = a.nextSerial := by
    rw [hq]
    rfl
  -- this is where it matters that a placement chooses no occupied address
  have haddress : ∀ r ∈ living, r.label.address ≠ q.label.address := by
    intro r hr heq
    rw [hq] at heq
    exact placement.choose_not_mem _ _ (heq ▸ h.occupied r hr)
  refine ⟨fun r hr => ?_, ?_, fun r hr => ?_, ?_⟩
  · show r.label.serial < a.nextSerial + 1
    rcases List.mem_cons.1 hr with rfl | hr
    · omega
    · have := h.serial_lt r hr
      omega
  · refine apart_cons h.numbered fun r hr => ?_
    have := h.serial_lt r hr
    omega
  · rcases List.mem_cons.1 hr with rfl | hr
    · rw [hq]
      exact List.mem_cons_self
    · exact List.mem_cons_of_mem _ (h.occupied r hr)
  · exact apart_cons h.placed haddress

end Layout

/-! ## Making queries -/

/-- What making comes to: from an allocator to another one, some parts are
made. They are parts of what names hold, or have got a fresh identity once
everything within them was made. -/
inductive Made (settings : MakeSettings) : Allocator → List (Query Identity) → Allocator → Prop
  | nothing {a : Allocator} : Made settings a [] a
  | held {a : Allocator} {name : String} {q : Query Identity} :
      settings.held name = some q → Made settings a q.parts a
  | fresh {a a' : Allocator} {parts : List (Query Identity)} {q : Query Identity} :
      Made settings a parts a' → q.label = (a'.allocate settings.placement).1 →
      Made settings a (q :: parts) (a'.allocate settings.placement).2
  | both {a a' a'' : Allocator} {parts parts' : List (Query Identity)} :
      Made settings a parts a' → Made settings a' parts' a'' →
      Made settings a (parts ++ parts') a''

/-- The second of two steps of making starts where the first has ended. -/
theorem making_bind {α β : Type} {x : Making α} {f : α → Making β} {a a' : Allocator} {b : β}
    (h : (x >>= f).run a = some (b, a')) :
    ∃ r a₁, x.run a = some (r, a₁) ∧ (f r).run a₁ = some (b, a') := by
  rw [StateT.run_bind] at h
  obtain ⟨⟨r, a₁⟩, hx, hf⟩ := Option.bind_eq_some_iff.1 h
  exact ⟨r, a₁, hx, hf⟩

section Make

variable {settings : MakeSettings}

/-- Looking up a name gives what it holds, and no new identity. -/
theorem made_of_lookup {name : String} {a a' : Allocator} {q : Query Identity}
    (h : (settings.lookup name).run a = some (q, a')) : Made settings a q.parts a' := by
  unfold MakeSettings.lookup at h
  rw [StateT.run_lift] at h
  obtain ⟨r, hr, h⟩ := Option.bind_eq_some_iff.1 h
  cases h
  exact .held hr

mutual

/-- **A query is made part by part.** -/
theorem Query.made : (draft : Query Origin) → {a a' : Allocator} → {q : Query Identity} →
    (draft.make settings).run a = some (q, a') → Made settings a q.parts a'
  | .logical (.held _) _ _ _, _, _, _, h => made_of_lookup h
  | .fields (.held _) _, _, _, _, h => made_of_lookup h
  | .logical .new all any custom, a, a', q, h => by
    rw [Query.make] at h
    obtain ⟨all', a₁, hall, h⟩ := making_bind h
    obtain ⟨any', a₂, hany, h⟩ := making_bind h
    obtain ⟨id, a₃, hid, h⟩ := making_bind h
    cases hid
    cases h
    -- the identity comes last, when both groups have been made
    exact .fresh (.both (Query.madeAll all hall) (Query.madeAll any hany)) rfl
  | .fields .new entries, a, a', q, h => by
    rw [Query.make] at h
    obtain ⟨entries', a₁, hentries, h⟩ := making_bind h
    obtain ⟨id, a₂, hid, h⟩ := making_bind h
    cases hid
    cases h
    exact .fresh (Condition.madeEntries entries hentries) rfl
  termination_by structural draft => draft

/-- So are several queries, -/
theorem Query.madeAll : (drafts : List (Query Origin)) → {a a' : Allocator} →
    {qs : List (Query Identity)} → (Query.makeAll settings drafts).run a = some (qs, a') →
    Made settings a (Query.partsOf qs) a'
  | [], _, _, _, h => by
    cases h
    exact .nothing
  | draft :: rest, a, a', qs, h => by
    rw [Query.makeAll] at h
    obtain ⟨q, a₁, hq, h⟩ := making_bind h
    obtain ⟨qs', a₂, hqs, h⟩ := making_bind h
    cases h
    exact .both (draft.made hq) (Query.madeAll rest hqs)
  termination_by structural drafts => drafts

/-- entries, -/
theorem Condition.madeEntries : (entries : List (String × Condition Origin)) →
    {a a' : Allocator} → {made : List (String × Condition Identity)} →
    (Condition.makeEntries settings entries).run a = some (made, a') →
    Made settings a (Condition.partsOf made) a'
  | [], _, _, _, h => by
    cases h
    exact .nothing
  | (path, condition) :: rest, a, a', made, h => by
    rw [Condition.makeEntries] at h
    obtain ⟨c, a₁, hc, h⟩ := making_bind h
    obtain ⟨made', a₂, hrest, h⟩ := making_bind h
    cases h
    exact .both (condition.made hc) (Condition.madeEntries rest hrest)
  termination_by structural entries => entries

/-- a condition, -/
theorem Condition.made : (condition : Condition Origin) → {a a' : Allocator} →
    {c : Condition Identity} → (condition.make settings).run a = some (c, a') →
    Made settings a c.parts a'
  | .literal _, _, _, _, h => by
    cases h
    exact .nothing
  | .operators ops, a, a', c, h => by
    rw [Condition.make] at h
    obtain ⟨ops', a₁, hops, h⟩ := making_bind h
    cases h
    exact Operator.madeAll ops hops
  termination_by structural condition => condition

/-- operators, -/
theorem Operator.madeAll : (ops : List (Operator Origin)) → {a a' : Allocator} →
    {made : List (Operator Identity)} → (Operator.makeAll settings ops).run a = some (made, a') →
    Made settings a (Operator.partsOf made) a'
  | [], _, _, _, h => by
    cases h
    exact .nothing
  | op :: rest, a, a', made, h => by
    rw [Operator.makeAll] at h
    obtain ⟨op', a₁, hop, h⟩ := making_bind h
    obtain ⟨made', a₂, hrest, h⟩ := making_bind h
    cases h
    exact .both (op.made hop) (Operator.madeAll rest hrest)
  termination_by structural ops => ops

/-- and an operator. -/
theorem Operator.made : (op : Operator Origin) → {a a' : Allocator} → {made : Operator Identity} →
    (op.make settings).run a = some (made, a') → Made settings a made.parts a'
  | .not condition, a, a', made, h => by
    rw [Operator.make] at h
    obtain ⟨c, a₁, hc, h⟩ := making_bind h
    cases h
    exact condition.made hc
  | .elemMatch draft, a, a', made, h => by
    rw [Operator.make] at h
    obtain ⟨q, a₁, hq, h⟩ := making_bind h
    cases h
    exact draft.made hq
  | .eq _, _, _, _, h | .ne _, _, _, _, h | .gt _, _, _, _, h | .gte _, _, _, _, h
  | .lt _, _, _, _, h | .lte _, _, _, _, h | .among _, _, _, _, h | .notAmong _, _, _, _, h
  | .present _, _, _, _, h | .regex _ _, _, _, _, h | .allOf _, _, _, _, h
  | .someOf _, _, _, _, h | .size _, _, _, _, h | .unknown _, _, _, _, h => by
    cases h
    exact .nothing
  termination_by structural op => op

end

end Make

/-! ## What making keeps -/

namespace Made

variable {settings : MakeSettings} {a a' : Allocator} {parts : List (Query Identity)}

/-- Serial numbers are given out upwards. -/
theorem nextSerial_le (h : Made settings a parts a') : a.nextSerial ≤ a'.nextSerial := by
  induction h with
  | nothing | held _ => exact Nat.le_refl _
  | fresh _ _ ih => exact Nat.le_succ_of_le ih
  | both _ _ ih ih' => exact Nat.le_trans ih ih'

/-- **What is made is new**, or is a part of what names hold. -/
theorem held_or_new (h : Made settings a parts a') : ∀ r ∈ parts,
    (∃ name q, settings.held name = some q ∧ r ∈ q.parts) ∨ a.nextSerial ≤ r.label.serial := by
  induction h with
  | nothing => exact fun r hr => absurd hr List.not_mem_nil
  | @held a name q hheld => exact fun r hr => .inl ⟨name, q, hheld, hr⟩
  | @fresh a a' parts q hmade hlabel ih =>
    intro r hr
    rcases List.mem_cons.1 hr with rfl | hr
    · rw [hlabel]
      exact .inr hmade.nextSerial_le
    · exact ih r hr
  | @both a a' a'' parts parts' hmade _ ih ih' =>
    intro r hr
    rcases List.mem_append.1 hr with hr | hr
    · exact ih r hr
    · exact (ih' r hr).imp_right (Nat.le_trans hmade.nextSerial_le)

/-- **Making keeps the layout**: if what names hold is known and living, the
parts that are made join the known and the living queries. -/
theorem layout (h : Made settings a parts a')
    (hheld : ∀ name q, settings.held name = some q → ∀ r ∈ q.parts, r ∈ known ∧ r ∈ living)
    (hlayout : Layout known living a) : Layout (parts ++ known) (parts ++ living) a' := by
  induction h generalizing known living with
  | nothing => exact hlayout
  | @held a name q hname =>
    have hparts := hheld name q hname
    refine hlayout.mono (fun r hr => ?_) fun r hr => ?_
    · exact (List.mem_append.1 hr).elim (fun hr => (hparts r hr).1) id
    · exact (List.mem_append.1 hr).elim (fun hr => (hparts r hr).2) id
  | fresh _ hlabel ih => exact (ih hheld hlayout).allocate settings.placement hlabel
  | @both a a' a'' parts parts' _ _ ih ih' =>
    -- for the second half the first has joined both the known and the living
    have hheld' : ∀ name q, settings.held name = some q → ∀ r ∈ q.parts,
        r ∈ parts ++ known ∧ r ∈ parts ++ living := by
      intro name q hname r hr
      obtain ⟨hknown, hliving⟩ := hheld name q hname r hr
      exact ⟨List.mem_append_right _ hknown, List.mem_append_right _ hliving⟩
    refine (ih' hheld' (ih hheld hlayout)).mono (fun r hr => ?_) fun r hr => ?_ <;>
    · simp only [List.mem_append] at hr ⊢
      tauto

end Made

end DocQuery
