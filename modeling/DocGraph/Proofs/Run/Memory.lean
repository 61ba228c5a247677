import DocGraph.Proofs.Graph.Written
import DocGraph.Proofs.Path.Transparency
import DocGraph.Proofs.Run.Isolation

/-!
# What a pipeline remembers

All runs of a pipeline share one cache of paths, which is never emptied. A run looks up paths of its
mapping and no others, and which of them depends on the run alone. So the cache is bounded by the
mappings, whatever documents they are run on, and a run that was made before teaches it nothing.

## Main definitions

* `Generation.LooksUp`: a step that looks up paths of a list only, the same ones with every cache.
* `Readout.paths`, `GraphMapping.paths`: the paths in a mapping.
* `RunCall`, `Pipeline.serveCalls`: runs on texts or on a mapping that is there already.

## Main results

* `looksUp_run`: a run looks up paths of its mapping.
* `cache_bounded_by_mappings`: what is remembered after runs one after the other.
-/

namespace DocGraph

/-! ## Paths looked up one after the other -/

namespace PathCache

variable {cache : PathCache} {paths : List String}

/-- The cache after paths are looked up. -/
def learnAll (cache : PathCache) (paths : List String) : PathCache := paths.foldl learn cache

theorem mem_paths_learnAll {path : String} :
    path ∈ (cache.learnAll paths).paths ↔ path ∈ cache.paths ∨ path ∈ paths := by
  induction paths generalizing cache with
  | nil => simp [learnAll]
  | cons first rest ih =>
    have split : cache.learnAll (first :: rest) = (cache.learn first).learnAll rest := rfl
    rw [split, ih, mem_paths_learn, List.mem_cons, or_assoc]

/-- Paths that are remembered already teach nothing. -/
theorem learnAll_eq_self (h : paths ⊆ cache.paths) : cache.learnAll paths = cache := by
  induction paths with
  | nil => rfl
  | cons first rest ih =>
    obtain ⟨known, others⟩ := List.cons_subset.mp h
    have same : cache.learn first = cache := if_pos known
    change (cache.learn first).learnAll rest = cache
    rw [same, ih others]

end PathCache

/-! ## Steps that look up paths -/

namespace Generation

variable {α β ε : Type} {allowed paths : List String} {seen : List VertexId}

/-- When given vertices are written already, a step looks up given paths. These, what it gives and
the vertices written after it are the same with every cache. -/
def Traces (step : Generation α) (seen : List VertexId) (paths : List String) : Prop :=
  ∃ result left, ∀ cache, step.run ⟨cache, seen⟩ = (result, ⟨cache.learnAll paths, left⟩)

theorem Traces.cache_after {step : Generation α} (h : step.Traces seen paths) (cache : PathCache) :
    (step.after ⟨cache, seen⟩).cache = cache.learnAll paths := by
  obtain ⟨result, left, run⟩ := h
  rw [after, run]

/-- All paths that a step looks up are in a list. -/
def LooksUp (step : Generation α) (allowed : List String) : Prop :=
  ∀ seen, ∃ paths, paths ⊆ allowed ∧ step.Traces seen paths

namespace LooksUp

theorem pure (a : α) : LooksUp (Pure.pure a) allowed :=
  fun seen => ⟨[], List.nil_subset _, .ok a, seen, fun _ => rfl⟩

theorem ofExcept (toFailure : ε → Failure) (result : Except ε α) :
    LooksUp (Generation.ofExcept toFailure result) allowed := by
  intro seen
  refine ⟨[], List.nil_subset _, result.mapError toFailure, seen, fun cache => ?_⟩
  cases result <;> rfl

theorem markSeen (id : VertexId) : LooksUp (Generation.markSeen id) allowed := by
  intro seen
  refine ⟨[], List.nil_subset _, .ok (!seen.contains id),
    if seen.contains id then seen else seen ++ [id], fun cache => ?_⟩
  rw [run_markSeen]
  cases seen.contains id <;> rfl

theorem ofCache {step : StateM PathCache α} {a : α} {path : String}
    (h : ∀ cache, step.run cache = (a, cache.learn path)) (mem : path ∈ allowed) :
    LooksUp (Generation.ofCache step) allowed := by
  intro seen
  refine ⟨[path], List.cons_subset.mpr ⟨mem, List.nil_subset _⟩, .ok a, seen, fun cache => ?_⟩
  change (Except.ok (step.run cache).1, Session.mk (step.run cache).2 seen) = _
  rw [h]
  rfl

/-- Two steps one after the other look up the paths of both; after a failure there are no more. -/
theorem bind {step : Generation α} {next : α → Generation β} (h : step.LooksUp allowed)
    (hn : ∀ a, (next a).LooksUp allowed) : LooksUp (step >>= next) allowed := by
  intro seen
  obtain ⟨paths, within, result, left, run⟩ := h seen
  cases result with
  | error failure =>
    refine ⟨paths, within, .error failure, left, fun cache => ?_⟩
    rw [run_bind, run]
  | ok a =>
    obtain ⟨others, among, result, last, further⟩ := hn a left
    refine ⟨paths ++ others, List.append_subset.mpr ⟨within, among⟩, result, last, fun cache => ?_⟩
    rw [run_bind, run]
    change (next a).run ⟨cache.learnAll paths, left⟩ = _
    rw [further, PathCache.learnAll, PathCache.learnAll, PathCache.learnAll, List.foldl_append]

theorem mapM {step : α → Generation β} {xs : List α} (h : ∀ x ∈ xs, (step x).LooksUp allowed) :
    LooksUp (xs.mapM step) allowed := by
  induction xs with
  | nil => exact .pure []
  | cons x xs ih =>
    obtain ⟨first, others⟩ := List.forall_mem_cons.mp h
    rw [List.mapM_cons]
    exact first.bind fun b => (ih others).bind fun bs => .pure (b :: bs)

theorem apart {step : Generation α} (h : step.LooksUp allowed) (known : List VertexId) :
    LooksUp (Generation.apart known step) allowed := by
  intro seen
  obtain ⟨paths, within, result, left, run⟩ := h known
  refine ⟨paths, within, result.map (·, left), seen, fun cache => ?_⟩
  change ((step.run ⟨cache, known⟩).1.map (·, (step.run ⟨cache, known⟩).2.seen),
    Session.mk (step.run ⟨cache, known⟩).2.cache seen) = _
  rw [run]

end LooksUp

end Generation

open Generation

/-! ## The steps of the program -/

/-- The paths that are read for an element: of its records, of the keys of vertices and of the
properties. -/
def Readout.paths (readout : Readout) : List String :=
  readout.source :: (readout.keys ++ readout.properties.map (·.path))

/-- The paths in a mapping. -/
def GraphMapping.paths (mapping : GraphMapping) : List String :=
  mapping.readouts.flatMap Readout.paths

theorem paths_subset_of_mem {mapping : GraphMapping} {readout : Readout}
    (h : readout ∈ mapping.readouts) : readout.paths ⊆ mapping.paths :=
  fun _ mem => List.mem_flatMap.mpr ⟨readout, h, mem⟩

section

variable {allowed : List String} {record document : Json} {registry : TransformRegistry}

theorem looksUp_valueAt {path : String} {toFault : PathFault → DataFault} (h : path ∈ allowed) :
    (valueAt document path toFault).LooksUp allowed :=
  (LooksUp.ofCache (PathCache.run_resolve document path) h).bind fun _ => .ofExcept _ _

theorem looksUp_recordsAt {path : String} (h : path ∈ allowed) :
    (recordsAt document path).LooksUp allowed := by
  refine (looksUp_valueAt h).bind fun value => ?_
  cases value <;> exact .pure _

theorem looksUp_vertexIdAt {path : String} (h : path ∈ allowed) :
    (vertexIdAt record path).LooksUp allowed :=
  (looksUp_valueAt h).bind fun _ => .ofExcept _ _

theorem looksUp_propertyValues {properties : List Property}
    (h : ∀ property ∈ properties, property.path ∈ allowed) :
    (propertyValues registry record properties).LooksUp allowed := by
  refine .mapM fun property declared => .bind ?_ fun _ => .pure _
  exact (LooksUp.ofExcept _ _).bind fun type => (looksUp_valueAt (h property declared)).bind
    fun value => (LooksUp.ofExcept _ _).bind fun literal => .pure _

theorem looksUp_firstSegment {path : String} (h : path ∈ allowed) :
    (firstSegment path).LooksUp allowed :=
  (LooksUp.ofCache (PathCache.run_segments path) h).bind fun _ => .pure _

/-! ### Vertices -/

variable {v : VertexMapping}

theorem key_mem_paths (h : v.readout.paths ⊆ allowed) : v.key ∈ allowed :=
  h (by simp [Readout.paths, VertexMapping.readout])

theorem path_mem_paths {readout : Readout} (h : readout.paths ⊆ allowed) :
    ∀ property ∈ readout.properties, property.path ∈ allowed := by
  intro property declared
  refine h (List.mem_cons_of_mem _ (List.mem_append_right _ ?_))
  exact List.mem_map_of_mem declared

/-- Which keys are spoken for is found out with the paths that are read anyway. -/
theorem looksUp_dynamicProperties (h : v.readout.paths ⊆ allowed) :
    (dynamicProperties v record).LooksUp allowed := by
  cases record with
  | object entries =>
    refine .bind ?_ fun taken => .pure _
    refine (looksUp_firstSegment (key_mem_paths h)).bind fun key => .bind ?_ fun starts => .pure _
    exact .mapM fun property declared => looksUp_firstSegment (path_mem_paths h property declared)
  | _ => exact .pure _

theorem looksUp_vertexRow (h : v.readout.paths ⊆ allowed) :
    (vertexRow registry v record).LooksUp allowed :=
  (looksUp_vertexIdAt (key_mem_paths h)).bind fun _ =>
    (looksUp_propertyValues (path_mem_paths h)).bind fun _ => .pure _

/-- A record whose vertex is written already is not looked at further, and fewer paths are looked
up for it. -/
theorem looksUp_upsert? (h : v.readout.paths ⊆ allowed) :
    (upsert? registry v record).LooksUp allowed := by
  refine (looksUp_vertexIdAt (key_mem_paths h)).bind fun id => (LooksUp.markSeen id).bind ?_
  rintro (_ | _)
  · exact .pure none
  · refine .bind ?_ fun statement => .pure _
    exact (looksUp_propertyValues (path_mem_paths h)).bind fun values =>
      (looksUp_dynamicProperties h).bind fun dynamic => .pure _

theorem looksUp_vertexStatements {size : Nat} (h : v.readout.paths ⊆ allowed) :
    (vertexStatements registry v document size).LooksUp allowed := by
  have source : v.source ∈ allowed := h List.mem_cons_self
  refine (looksUp_recordsAt source).bind fun records => ?_
  split
  · exact .bind (.mapM fun record _ => looksUp_upsert? h) fun _ => .pure _
  · exact .bind (.mapM fun record _ => looksUp_vertexRow h) fun _ => .pure _

theorem looksUp_statementsByTag {size : Nat} {mappings : List VertexMapping} {known : SeenByTag}
    (h : ∀ v ∈ mappings, v.readout.paths ⊆ allowed) :
    (statementsByTag registry document size known mappings).LooksUp allowed := by
  induction mappings generalizing known with
  | nil => exact .pure []
  | cons v rest ih =>
    obtain ⟨first, others⟩ := List.forall_mem_cons.mp h
    exact ((looksUp_vertexStatements first).apart _).bind fun _ => (ih others).bind fun _ => .pure _

/-! ### Edges and whole mappings -/

theorem looksUp_edgeStatements {size : Nat} {e : EdgeMapping} (h : e.readout.paths ⊆ allowed) :
    (edgeStatements registry e document size).LooksUp allowed := by
  have start : e.start.key ∈ allowed := h (by simp [Readout.paths, EdgeMapping.readout])
  have target : e.target.key ∈ allowed := h (by simp [Readout.paths, EdgeMapping.readout])
  refine (looksUp_recordsAt (h List.mem_cons_self)).bind fun records =>
    .bind (.mapM fun record _ => ?_) fun _ => .pure _
  exact (looksUp_vertexIdAt start).bind fun _ => (looksUp_vertexIdAt target).bind fun _ =>
    (looksUp_propertyValues (path_mem_paths h)).bind fun _ => .pure _

theorem looksUp_batchedStatements {mapping : GraphMapping} {size : Json}
    (h : mapping.paths ⊆ allowed) :
    (batchedStatements registry mapping document size).LooksUp allowed := by
  have within {readout : Readout} (mem : readout ∈ mapping.readouts) : readout.paths ⊆ allowed :=
    List.Subset.trans (paths_subset_of_mem mem) h
  refine (LooksUp.ofExcept _ _).bind fun size => ?_
  refine (looksUp_statementsByTag fun v vertex => within (mem_readouts_of_vertex vertex)).bind
    fun _ => .bind (.mapM fun e edge => ?_) fun _ => .pure _
  exact looksUp_edgeStatements (within (mem_readouts_of_edge edge))

end

/-! ## Runs -/

/-- A run that a pipeline is asked for. -/
inductive RunCall where
  /-- A run on a mapping and a document. -/
  | values (mapping : GraphMapping) (document : Json) (options : RunOptions)
  /-- A run on the texts of a mapping and a document. -/
  | texts (request : RunRequest)

/-- The mapping of a run, unless its text cannot be loaded. -/
def RunCall.mapping? : RunCall → Option GraphMapping
  | values mapping _ _ => some mapping
  | texts request => (loadMapping request.mapping (some "mapping")).toOption

namespace Pipeline

variable (pipeline : Pipeline)

def runCall : RunCall → Generation RunResult
  | .values mapping document options => pipeline.run mapping document options
  | .texts request => pipeline.runTexts request.mapping request.document request.options

/-- Runs one after the other. A run that fails does not end the others. -/
def serveCalls (calls : List RunCall) : StateM Session (List (Except Failure RunResult)) :=
  calls.mapM fun call => (pipeline.runCall call).run

/-- The session of a fresh pipeline after runs one after the other. -/
def sessionAfter (calls : List RunCall) : Session := ((pipeline.serveCalls calls).run {}).2

theorem sessionAfter_concat (calls : List RunCall) (call : RunCall) :
    pipeline.sessionAfter (calls ++ [call]) =
      (pipeline.runCall call).after (pipeline.sessionAfter calls) := by
  simp only [sessionAfter, serveCalls, List.mapM_append, StateT.run_bind, List.mapM_cons,
    List.mapM_nil]
  rfl

theorem looksUp_run {allowed : List String} {mapping : GraphMapping}
    (h : mapping.paths ⊆ allowed) (document : Json) (options : RunOptions) :
    (pipeline.run mapping document options).LooksUp allowed := by
  refine (LooksUp.ofExcept _ _).bind fun size => (LooksUp.ofExcept _ _).bind fun schema => ?_
  cases options.schemaOnly with
  | true => exact (LooksUp.pure _).bind fun data => .pure _
  | false => exact (looksUp_batchedStatements h).bind fun data => .pure _

/-- A run looks up the paths of its mapping. Without a mapping there is nothing to be looked up. -/
theorem looksUp_runCall (call : RunCall) :
    (pipeline.runCall call).LooksUp (call.mapping?.elim [] GraphMapping.paths) := by
  cases call with
  | values mapping document options =>
    exact pipeline.looksUp_run (List.Subset.refl _) document options
  | texts request =>
    rw [runCall, runTexts, RunCall.mapping?]
    cases loadMapping request.mapping (some "mapping") with
    | error failure => exact fun seen => ⟨[], List.nil_subset _, _, _, fun _ => rfl⟩
    | ok mapping =>
      change (Pure.pure mapping >>= fun mapping => _ : Generation RunResult).LooksUp mapping.paths
      rw [pure_bind]
      exact (LooksUp.ofExcept _ _).bind fun document =>
        pipeline.looksUp_run (List.Subset.refl _) document request.options

theorem seen_runCall (call : RunCall) (session : Session) :
    ((pipeline.runCall call).after session).seen = session.seen := by
  cases call with
  | values mapping document options =>
    exact (pipeline.independent_run mapping document options).seen_after session
  | texts request => exact (pipeline.independent_runTexts _ _ _).seen_after session

theorem seen_sessionAfter (calls : List RunCall) : (pipeline.sessionAfter calls).seen = [] := by
  induction calls using List.reverseRecOn with
  | nil => rfl
  | append_singleton earlier call ih => rw [sessionAfter_concat, seen_runCall, ih]

/-- A run adds to the cache the paths that it looks up. They are paths of its mapping, and they do
not depend on the runs before it. -/
theorem exists_paths_runCall (call : RunCall) :
    ∃ paths, paths ⊆ call.mapping?.elim [] GraphMapping.paths ∧ ∀ earlier,
      (pipeline.sessionAfter (earlier ++ [call])).cache =
        (pipeline.sessionAfter earlier).cache.learnAll paths := by
  obtain ⟨paths, within, traces⟩ := pipeline.looksUp_runCall call []
  refine ⟨paths, within, fun earlier => ?_⟩
  rw [sessionAfter_concat, ← traces.cache_after, ← pipeline.seen_sessionAfter earlier]

theorem mem_paths_sessionAfter {calls : List RunCall} {path : String}
    (h : path ∈ (pipeline.sessionAfter calls).cache.paths) :
    ∃ call ∈ calls, ∃ mapping, call.mapping? = some mapping ∧ path ∈ mapping.paths := by
  induction calls using List.reverseRecOn with
  | nil => cases h
  | append_singleton earlier call ih =>
    obtain ⟨paths, within, learned⟩ := pipeline.exists_paths_runCall call
    rw [learned, PathCache.mem_paths_learnAll] at h
    rcases h with known | added
    · obtain ⟨other, among, found⟩ := ih known
      exact ⟨other, List.mem_append_left _ among, found⟩
    · have mem := within added
      cases found : call.mapping? with
      | none => simp [found] at mem
      | some mapping => exact ⟨call, by simp, mapping, found, by simpa [found] using mem⟩

/-- The paths that a run looks up stay remembered, whatever runs come after it. -/
theorem subset_paths_sessionAfter {calls : List RunCall} {call : RunCall} (mem : call ∈ calls)
    {paths : List String} (h : ∀ earlier, (pipeline.sessionAfter (earlier ++ [call])).cache =
      (pipeline.sessionAfter earlier).cache.learnAll paths) :
    paths ⊆ (pipeline.sessionAfter calls).cache.paths := by
  induction calls using List.reverseRecOn with
  | nil => cases mem
  | append_singleton earlier last ih =>
    obtain ⟨others, -, learned⟩ := pipeline.exists_paths_runCall last
    intro path looked
    rcases List.mem_append.mp mem with before | now
    · rw [learned, PathCache.mem_paths_learnAll]
      exact .inl (ih before looked)
    · obtain rfl := List.mem_singleton.mp now
      rw [h, PathCache.mem_paths_learnAll]
      exact .inr looked

/-- After runs one after the other, whether they succeed or fail, every path that is remembered is a
path of the mapping of one of them: of its records, of a key or of a declared property. A run that
was made before teaches the cache nothing. -/
theorem cache_bounded_by_mappings (calls : List RunCall) :
    (∀ path ∈ (pipeline.sessionAfter calls).cache.paths, ∃ call ∈ calls, ∃ mapping,
      call.mapping? = some mapping ∧ ∃ readout ∈ mapping.readouts,
        path = readout.source ∨ path ∈ readout.keys ∨
          ∃ property ∈ readout.properties, path = property.path) ∧
      ∀ call ∈ calls, (pipeline.sessionAfter (calls ++ [call])).cache =
        (pipeline.sessionAfter calls).cache := by
  constructor
  · intro path mem
    obtain ⟨call, among, mapping, found, inMapping⟩ := pipeline.mem_paths_sessionAfter mem
    obtain ⟨readout, ofMapping, ofReadout⟩ := List.mem_flatMap.mp inMapping
    refine ⟨call, among, mapping, found, readout, ofMapping, ?_⟩
    simpa [Readout.paths, eq_comm] using ofReadout
  · intro call among
    obtain ⟨paths, -, learned⟩ := pipeline.exists_paths_runCall call
    rw [learned]
    exact PathCache.learnAll_eq_self (pipeline.subset_paths_sessionAfter among learned)

end Pipeline

end DocGraph
