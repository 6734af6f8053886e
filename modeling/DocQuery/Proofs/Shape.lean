import Mathlib.Data.Option.Basic
import DocQuery.Session
/-!
# The shape of what is made

Two runs of a session may number their queries differently and lay them out
at different addresses. What remains is the shape of a query, which is the
query without labels. If the names in two sessions hold queries of the same
shape, then making a draft succeeds in both or in neither, with queries of
the same shape (`Query.makes_shape`), whatever the placements and however
much has been made before. A draft that refers to no name is always made
(`Query.make_new`), so there are queries of every shape.
-/


namespace DocQuery

/-- The query without its labels. -/
def Query.shape {ι : Type} (q : Query ι) : Query Unit := q.mapLabel fun _ => ()

mutual

/-- A query without labels is its own shape. -/
theorem Query.shape_eq_self : (q : Query Unit) → q.shape = q
  | .logical _ all any custom => by
    rw [Query.shape, Query.mapLabel, Query.shapes_eq_self all, Query.shapes_eq_self any]
  | .fields _ entries => by
    rw [Query.shape, Query.mapLabel, Condition.shapes_eq_self entries]
  termination_by structural q => q

/-- So are queries, -/
theorem Query.shapes_eq_self : (qs : List (Query Unit)) → Query.mapLabels (fun _ => ()) qs = qs
  | [] => rfl
  | q :: rest => by
    rw [Query.mapLabels, Query.shapes_eq_self rest]
    exact congrArg (· :: rest) q.shape_eq_self
  termination_by structural qs => qs

/-- entries, -/
theorem Condition.shapes_eq_self : (entries : List (String × Condition Unit)) →
    Condition.mapLabels (fun _ => ()) entries = entries
  | [] => rfl
  | (path, condition) :: rest => by
    rw [Condition.mapLabels, condition.shape_eq_self, Condition.shapes_eq_self rest]
  termination_by structural entries => entries

/-- a condition, -/
theorem Condition.shape_eq_self : (condition : Condition Unit) →
    condition.mapLabel (fun _ => ()) = condition
  | .literal _ => rfl
  | .operators ops => by rw [Condition.mapLabel, Operator.shapes_eq_self ops]
  termination_by structural condition => condition

/-- operators, -/
theorem Operator.shapes_eq_self : (ops : List (Operator Unit)) →
    Operator.mapLabels (fun _ => ()) ops = ops
  | [] => rfl
  | op :: rest => by rw [Operator.mapLabels, op.shape_eq_self, Operator.shapes_eq_self rest]
  termination_by structural ops => ops

/-- and an operator. -/
theorem Operator.shape_eq_self : (op : Operator Unit) → op.mapLabel (fun _ => ()) = op
  | .not condition => by rw [Operator.mapLabel, condition.shape_eq_self]
  | .elemMatch query => by
    rw [Operator.mapLabel]
    exact congrArg Operator.elemMatch query.shape_eq_self
  | .eq _ | .ne _ | .gt _ | .gte _ | .lt _ | .lte _ | .among _ | .notAmong _ | .present _
  | .regex _ _ | .allOf _ | .someOf _ | .size _ | .unknown _ => rfl
  termination_by structural op => op

end

/-- Two computations that make queries succeed with related results, or fail,
whatever the allocators they start with. -/
def Makes {α β : Type} (r : α → β → Prop) (x : Making α) (y : Making β) : Prop :=
  ∀ a b, Option.Rel (fun p q => r p.1 q.1) (x.run a) (y.run b)

section Makes

variable {α β γ δ : Type}

theorem makes_pure {r : α → β → Prop} {a : α} {b : β} (h : r a b) :
    Makes r (pure a) (pure b) := fun _ _ => .some h

/-- Two steps of making are related if both are. -/
theorem makes_bind {r : α → β → Prop} {t : γ → δ → Prop} {x : Making α} {y : Making β}
    {f : α → Making γ} {g : β → Making δ} (hx : Makes r x y)
    (hf : ∀ a b, r a b → Makes t (f a) (g b)) : Makes t (x >>= f) (y >>= g) := by
  intro a b
  rw [StateT.run_bind, StateT.run_bind]
  have hrel := hx a b
  generalize x.run a = p, y.run b = q at hrel
  cases hrel with
  | none => exact .none
  | some hr => exact hf _ _ hr _ _

/-- Fresh identities need not be related. -/
theorem makes_fresh (settings settings' : MakeSettings) :
    Makes (fun _ _ => True) settings.fresh settings'.fresh := fun _ _ => .some trivial

end Makes

/-- The names hold queries of the same shape. -/
def MakeSettings.SameShapes (settings settings' : MakeSettings) : Prop :=
  ∀ name, Option.Rel (fun q q' => q.shape = q'.shape) (settings.held name) (settings'.held name)

variable {settings settings' : MakeSettings}

/-- Looking up gives queries of the same shape. -/
theorem makes_lookup (h : settings.SameShapes settings') (name : String) :
    Makes (fun q q' => q.shape = q'.shape) (settings.lookup name) (settings'.lookup name) := by
  intro a b
  unfold MakeSettings.lookup
  rw [StateT.run_lift, StateT.run_lift]
  have hrel := h name
  generalize settings.held name = p, settings'.held name = q at hrel
  cases hrel with
  | none => exact .none
  | some hr => exact .some hr

mutual

/-- **A draft determines the shape of the query made of it.** -/
theorem Query.makes_shape (h : settings.SameShapes settings') : (draft : Query Origin) →
    Makes (fun q q' => q.shape = q'.shape) (draft.make settings) (draft.make settings')
  | .logical (.held name) _ _ _ => makes_lookup h name
  | .fields (.held name) _ => makes_lookup h name
  | .logical .new all any custom => by
    rw [Query.make, Query.make]
    refine makes_bind (Query.makes_shapes h all) fun qs qs' hqs => ?_
    refine makes_bind (Query.makes_shapes h any) fun rs rs' hrs => ?_
    refine makes_bind (makes_fresh _ _) fun id id' _ => makes_pure ?_
    rw [Query.shape, Query.shape, Query.mapLabel, Query.mapLabel, hqs, hrs]
  | .fields .new entries => by
    rw [Query.make, Query.make]
    refine makes_bind (Condition.makes_shapes h entries) fun es es' hes => ?_
    refine makes_bind (makes_fresh _ _) fun id id' _ => makes_pure ?_
    rw [Query.shape, Query.shape, Query.mapLabel, Query.mapLabel, hes]
  termination_by structural draft => draft

/-- Drafts determine the shapes of the queries made of them. -/
theorem Query.makes_shapes (h : settings.SameShapes settings') : (drafts : List (Query Origin)) →
    Makes (fun qs qs' => Query.mapLabels (fun _ => ()) qs = Query.mapLabels (fun _ => ()) qs')
      (Query.makeAll settings drafts) (Query.makeAll settings' drafts)
  | [] => makes_pure rfl
  | draft :: rest => by
    rw [Query.makeAll, Query.makeAll]
    refine makes_bind (draft.makes_shape h) fun q q' hq => ?_
    refine makes_bind (Query.makes_shapes h rest) fun qs qs' hqs => makes_pure ?_
    rw [Query.mapLabels, Query.mapLabels, hqs]
    exact congrArg (· :: _) hq
  termination_by structural drafts => drafts

/-- Entries of a draft determine what is made of them, up to labels. -/
theorem Condition.makes_shapes (h : settings.SameShapes settings') :
    (entries : List (String × Condition Origin)) →
    Makes (fun es es' =>
        Condition.mapLabels (fun _ => ()) es = Condition.mapLabels (fun _ => ()) es')
      (Condition.makeEntries settings entries) (Condition.makeEntries settings' entries)
  | [] => makes_pure rfl
  | (path, condition) :: rest => by
    rw [Condition.makeEntries, Condition.makeEntries]
    refine makes_bind (condition.makes_shape h) fun c c' hc => ?_
    refine makes_bind (Condition.makes_shapes h rest) fun es es' hes => makes_pure ?_
    rw [Condition.mapLabels, Condition.mapLabels, hc, hes]
  termination_by structural entries => entries

/-- So does a condition, -/
theorem Condition.makes_shape (h : settings.SameShapes settings') :
    (condition : Condition Origin) →
    Makes (fun c c' => c.mapLabel (fun _ => ()) = c'.mapLabel fun _ => ())
      (condition.make settings) (condition.make settings')
  | .literal _ => makes_pure rfl
  | .operators ops => by
    rw [Condition.make, Condition.make]
    refine makes_bind (Operator.makes_shapes h ops) fun os os' hos => makes_pure ?_
    rw [Condition.mapLabel, Condition.mapLabel, hos]
  termination_by structural condition => condition

/-- so do operators, -/
theorem Operator.makes_shapes (h : settings.SameShapes settings') :
    (ops : List (Operator Origin)) →
    Makes (fun os os' => Operator.mapLabels (fun _ => ()) os = Operator.mapLabels (fun _ => ()) os')
      (Operator.makeAll settings ops) (Operator.makeAll settings' ops)
  | [] => makes_pure rfl
  | op :: rest => by
    rw [Operator.makeAll, Operator.makeAll]
    refine makes_bind (op.makes_shape h) fun o o' ho => ?_
    refine makes_bind (Operator.makes_shapes h rest) fun os os' hos => makes_pure ?_
    rw [Operator.mapLabels, Operator.mapLabels, ho, hos]
  termination_by structural ops => ops

/-- and so does an operator. -/
theorem Operator.makes_shape (h : settings.SameShapes settings') : (op : Operator Origin) →
    Makes (fun o o' => o.mapLabel (fun _ => ()) = o'.mapLabel fun _ => ())
      (op.make settings) (op.make settings')
  | .not condition => by
    rw [Operator.make, Operator.make]
    refine makes_bind (condition.makes_shape h) fun c c' hc => makes_pure ?_
    rw [Operator.mapLabel, Operator.mapLabel, hc]
  | .elemMatch draft => by
    rw [Operator.make, Operator.make]
    refine makes_bind (draft.makes_shape h) fun q q' hq => makes_pure ?_
    rw [Operator.mapLabel, Operator.mapLabel]
    exact congrArg Operator.elemMatch hq
  | .eq _ | .ne _ | .gt _ | .gte _ | .lt _ | .lte _ | .among _ | .notAmong _ | .present _
  | .regex _ _ | .allOf _ | .someOf _ | .size _ | .unknown _ => makes_pure rfl
  termination_by structural op => op

end

/-! ## Every shape can be made -/

/-- A computation that makes queries succeeds from any allocator, with a result
that has a property. -/
def Yields {α : Type} (r : α → Prop) (x : Making α) : Prop :=
  ∀ a, ∃ p b, x.run a = some (p, b) ∧ r p

section Yields

variable {α β : Type}

theorem yields_pure {r : α → Prop} {a : α} (h : r a) : Yields r (pure a : Making α) :=
  fun b => ⟨a, b, rfl, h⟩

/-- Two steps of making succeed if both do. -/
theorem yields_bind {r : α → Prop} {t : β → Prop} {x : Making α} {f : α → Making β}
    (hx : Yields r x) (hf : ∀ a, r a → Yields t (f a)) : Yields t (x >>= f) := by
  intro a
  obtain ⟨p, b, hrun, hp⟩ := hx a
  obtain ⟨q, c, hrun', hq⟩ := hf p hp b
  refine ⟨q, c, ?_, hq⟩
  rw [StateT.run_bind, hrun]
  exact hrun'

/-- There is always a fresh identity. -/
theorem yields_fresh (settings : MakeSettings) : Yields (fun _ => True) settings.fresh :=
  fun _ => ⟨_, _, rfl, trivial⟩

end Yields

section New

variable {ι : Type} (settings : MakeSettings)

mutual

/-- **A draft that refers to no name is always made**, with its own shape. -/
theorem Query.make_new : (t : Query ι) →
    Yields (fun q => q.shape = t.shape) ((t.mapLabel fun _ => Origin.new).make settings)
  | .logical _ all any custom => by
    rw [Query.mapLabel, Query.make]
    refine yields_bind (Query.makeAll_new all) fun qs hqs => ?_
    refine yields_bind (Query.makeAll_new any) fun rs hrs => ?_
    refine yields_bind (yields_fresh settings) fun id _ => yields_pure ?_
    rw [Query.shape, Query.shape, Query.mapLabel, Query.mapLabel, hqs, hrs]
  | .fields _ entries => by
    rw [Query.mapLabel, Query.make]
    refine yields_bind (Condition.makeEntries_new entries) fun es hes => ?_
    refine yields_bind (yields_fresh settings) fun id _ => yields_pure ?_
    rw [Query.shape, Query.shape, Query.mapLabel, Query.mapLabel, hes]
  termination_by structural t => t

/-- So are several drafts, -/
theorem Query.makeAll_new : (ts : List (Query ι)) →
    Yields (fun qs => Query.mapLabels (fun _ => ()) qs = Query.mapLabels (fun _ => ()) ts)
      (Query.makeAll settings (Query.mapLabels (fun _ => Origin.new) ts))
  | [] => yields_pure rfl
  | t :: rest => by
    rw [Query.mapLabels, Query.mapLabels, Query.makeAll]
    refine yields_bind (Query.make_new t) fun q hq => ?_
    refine yields_bind (Query.makeAll_new rest) fun qs hqs => yields_pure ?_
    rw [Query.mapLabels, hqs]
    exact congrArg (· :: _) hq
  termination_by structural ts => ts

/-- entries, -/
theorem Condition.makeEntries_new : (entries : List (String × Condition ι)) →
    Yields (fun es =>
        Condition.mapLabels (fun _ => ()) es = Condition.mapLabels (fun _ => ()) entries)
      (Condition.makeEntries settings (Condition.mapLabels (fun _ => Origin.new) entries))
  | [] => yields_pure rfl
  | (path, condition) :: rest => by
    rw [Condition.mapLabels, Condition.mapLabels, Condition.makeEntries]
    refine yields_bind (Condition.make_new condition) fun c hc => ?_
    refine yields_bind (Condition.makeEntries_new rest) fun es hes => yields_pure ?_
    rw [Condition.mapLabels, hc, hes]
  termination_by structural entries => entries

/-- a condition, -/
theorem Condition.make_new : (condition : Condition ι) →
    Yields (fun c => c.mapLabel (fun _ => ()) = condition.mapLabel fun _ => ())
      ((condition.mapLabel fun _ => Origin.new).make settings)
  | .literal _ => yields_pure rfl
  | .operators ops => by
    rw [Condition.mapLabel, Condition.mapLabel, Condition.make]
    refine yields_bind (Operator.makeAll_new ops) fun os hos => yields_pure ?_
    rw [Condition.mapLabel, hos]
  termination_by structural condition => condition

/-- operators, -/
theorem Operator.makeAll_new : (ops : List (Operator ι)) →
    Yields (fun os => Operator.mapLabels (fun _ => ()) os = Operator.mapLabels (fun _ => ()) ops)
      (Operator.makeAll settings (Operator.mapLabels (fun _ => Origin.new) ops))
  | [] => yields_pure rfl
  | op :: rest => by
    rw [Operator.mapLabels, Operator.mapLabels, Operator.makeAll]
    refine yields_bind (Operator.make_new op) fun o ho => ?_
    refine yields_bind (Operator.makeAll_new rest) fun os hos => yields_pure ?_
    rw [Operator.mapLabels, ho, hos]
  termination_by structural ops => ops

/-- and an operator. -/
theorem Operator.make_new : (op : Operator ι) →
    Yields (fun o => o.mapLabel (fun _ => ()) = op.mapLabel fun _ => ())
      ((op.mapLabel fun _ => Origin.new).make settings)
  | .not condition => by
    rw [Operator.mapLabel, Operator.mapLabel, Operator.make]
    refine yields_bind (Condition.make_new condition) fun c hc => yields_pure ?_
    rw [Operator.mapLabel, hc]
  | .elemMatch t => by
    rw [Operator.mapLabel, Operator.mapLabel, Operator.make]
    refine yields_bind (Query.make_new t) fun q hq => yields_pure ?_
    rw [Operator.mapLabel]
    exact congrArg Operator.elemMatch hq
  | .eq _ | .ne _ | .gt _ | .gte _ | .lt _ | .lte _ | .among _ | .notAmong _ | .present _
  | .regex _ _ | .allOf _ | .someOf _ | .size _ | .unknown _ => yields_pure rfl
  termination_by structural op => op

end

end New

end DocQuery
