import DocGraph.Proofs.Graph.Portion
import DocGraph.Run.Pipeline

/-!
# Runs do not influence each other

All runs of a pipeline share the paths that were split, and a run that fails leaves behind those
that it has split before. Nothing that a run gives depends on them, and no vertex that a run has
written is known to the next one. So every run of a pipeline gives what it gives by itself.

## Main results

* `independent_runTexts`: a run depends on no session.
* `serve_eq_alone`: runs one after the other give what each of them gives by itself.
-/

namespace DocGraph

open Generation

theorem independent_dataStatements (registry : TransformRegistry) (mapping : GraphMapping)
    (document : Json) (size : BatchSize) :
    (dataStatements registry mapping document size).Independent :=
  (hasEffect_dataStatements registry document mapping size).independent

theorem independent_batchedStatements (registry : TransformRegistry) (mapping : GraphMapping)
    (document size : Json) : (batchedStatements registry mapping document size).Independent :=
  .bind (.ofExcept _ _) fun _ => independent_dataStatements _ _ _ _

namespace Pipeline

variable (pipeline : Pipeline)

theorem independent_run (mapping : GraphMapping) (document : Json) (options : RunOptions) :
    (pipeline.run mapping document options).Independent := by
  refine .bind (.ofExcept _ _) fun size => .bind (.ofExcept _ _) fun schema => ?_
  cases options.schemaOnly with
  | true => exact .bind (.pure _) fun data => .pure _
  | false => exact .bind (independent_batchedStatements _ _ _ _) fun data => .pure _

/-- A run on two texts gives the same in every session, and writes no vertices that a later run
knows of. -/
theorem independent_runTexts (mappingText documentText : String) (options : RunOptions) :
    (pipeline.runTexts mappingText documentText options).Independent :=
  .bind (.ofExcept _ _) fun _ => .bind (.ofExcept _ _) fun _ => pipeline.independent_run _ _ _

/-- Runs one after the other, in any session, give what each of them gives by itself in a fresh
one. -/
theorem serve_eq_alone (requests : List RunRequest) (session : Session) :
    ((pipeline.serve requests).run session).1 = requests.map (fun request =>
        (pipeline.runTexts request.mapping request.document request.options).alone) ∧
      ((pipeline.serve requests).run session).2.seen = session.seen := by
  induction requests generalizing session with
  | nil => exact ⟨rfl, rfl⟩
  | cons request rest ih =>
    let step := pipeline.runTexts request.mapping request.document request.options
    have independent := pipeline.independent_runTexts request.mapping request.document
      request.options
    have first : (pipeline.serve (request :: rest)).run session =
        (step.outcome session :: ((pipeline.serve rest).run (step.after session)).1,
          ((pipeline.serve rest).run (step.after session)).2) := by
      simp only [serve, List.mapM_cons, StateT.run_bind]
      rfl
    obtain ⟨outcomes, seen⟩ := ih (step.after session)
    rw [first]
    refine ⟨?_, ?_⟩
    · rw [List.map_cons, outcomes, independent.outcome_eq session]
    · rw [seen, independent.seen_after session]

end Pipeline

end DocGraph
