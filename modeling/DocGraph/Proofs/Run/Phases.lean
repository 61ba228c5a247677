import DocGraph.Proofs.Graph.Portion
import DocGraph.Run.Pipeline

/-!
# The phases of a run

A run finds the size of its batches, then declares the schema, then writes the data. The first
phase that fails ends it. The data phase checks the size of batches once more.

## Main results

* `Pipeline.outcome_run`: the phases one after the other.
* `run_eq_ok`: what a run gives.
-/

namespace DocGraph

open Generation

/-- A size of batches passes the check a second time. -/
theorem ofJson_size (size : BatchSize) : BatchSize.ofJson (.integer size.size) = .ok size := by
  have positive : 0 < (size.size : Int).toNat := size.positive
  rw [BatchSize.ofJson, BatchSize.ofInt, dif_pos positive]
  rfl

/-- The phases of a run one after the other. -/
theorem Pipeline.outcome_run (pipeline : Pipeline) (mapping : GraphMapping) (document : Json)
    (options : RunOptions) (session : Session) :
    (pipeline.run mapping document options).outcome session =
      pipeline.config.resolveBatchSize options.batchSize >>= fun size =>
        pipeline.schema mapping options.includeIndexes >>= fun schema =>
          (if options.schemaOnly then .ok [] else (batchedStatements pipeline.registry mapping
            document (.integer size.size)).outcome session).map fun data =>
              ⟨if options.dropSchema then cleanupStatements mapping else [], schema, data⟩ := by
  rw [Pipeline.run]
  cases pipeline.config.resolveBatchSize options.batchSize with
  | error failure => rfl
  | ok size =>
    cases pipeline.schema mapping options.includeIndexes with
    | error failure => rfl
    | ok schema =>
      cases options.schemaOnly with
      | true => rfl
      | false => exact outcome_map _ _ session

/-- A run gives the schema, what removes it if that is asked for, and the data unless only the
schema is asked for. -/
theorem run_eq_ok {pipeline : Pipeline} {mapping : GraphMapping} {document : Json}
    {options : RunOptions} {session : Session} {result : RunResult}
    (h : (pipeline.run mapping document options).outcome session = .ok result) :
    ∃ size, pipeline.config.resolveBatchSize options.batchSize = .ok size ∧
      pipeline.schema mapping options.includeIndexes = .ok result.schema ∧
      result.cleanup ⊆ cleanupStatements mapping ∧
      (result.data = [] ∨
        (dataStatements pipeline.registry mapping document size).outcome session =
          .ok result.data) := by
  rw [pipeline.outcome_run] at h
  obtain ⟨size, resolved, h⟩ := bind_eq_ok_iff.mp h
  obtain ⟨schema, declared, h⟩ := bind_eq_ok_iff.mp h
  obtain ⟨data, written, rfl⟩ := map_eq_ok_iff.mp h
  refine ⟨size, resolved, declared, ?_, ?_⟩
  · cases drop : options.dropSchema <;> simp
  · cases only : options.schemaOnly with
    | true => exact .inl (by simpa [only] using written.symm)
    | false =>
      rw [only, if_neg Bool.false_ne_true, outcome_batchedStatements, ofJson_size] at written
      exact .inr written

end DocGraph
