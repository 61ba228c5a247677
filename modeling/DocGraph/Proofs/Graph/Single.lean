import DocGraph.Proofs.Graph.Portion
import DocGraph.Proofs.Mapping.Built

/-!
# The elements of a mapping by themselves

What is known of written vertices is passed from a vertex mapping to the next, but only under its
tag. In a mapping that was built no two vertex mappings have one tag, so none of them knows of
anything that another one has written. The statements of the mapping are those of its elements,
each of them taken as a mapping of its own.

## Main definitions

* `GraphMapping.singles`: the mappings with a single element.

## Main results

* `outcome_eq_singles`: the statements of a mapping from those of its elements.
* `outcome_iff_singles`: when they are there, what they are, and which failure there is.
-/

namespace DocGraph

open Generation

namespace GraphMapping

variable (mapping : GraphMapping)

/-- The mapping with a single one of its vertex mappings. -/
def onlyVertex (v : VertexMapping) : GraphMapping := { mapping with vertices := [v], edges := [] }

/-- The mapping with a single one of its edge mappings. -/
def onlyEdge (e : EdgeMapping) : GraphMapping := { mapping with vertices := [], edges := [e] }

/-- The mappings with a single element, in the order of the elements, vertices first. -/
def singles : List GraphMapping :=
  mapping.vertices.map mapping.onlyVertex ++ mapping.edges.map mapping.onlyEdge

end GraphMapping

variable (registry : TransformRegistry) (document : Json)

/-- Vertex mappings of different tags contribute what they do if no vertices are known. -/
theorem vertexPortions_eq_mapM {mappings : List VertexMapping} {known : SeenByTag}
    (distinct : (mappings.map (·.tag)).Nodup)
    (fresh : ∀ v ∈ mappings, known.lookup v.tag = none) :
    vertexPortions registry document known mappings =
      mappings.mapM fun v => (vertexPortion registry document v []).1 := by
  induction mappings generalizing known with
  | nil => rfl
  | cons v rest ih =>
    obtain ⟨apart, distinct⟩ := List.nodup_cons.mp distinct
    have unknown : known.lookup v.tag = none := fresh v List.mem_cons_self
    -- What the first mapping leaves behind is kept under its own tag, which no later one has.
    have later (seen : List VertexId) :
        vertexPortions registry document (insertPair known v.tag seen) rest =
          rest.mapM fun v => (vertexPortion registry document v []).1 := by
      refine ih distinct fun other among => ?_
      have differs : other.tag ≠ v.tag := by
        intro same
        exact apart (List.mem_map.mpr ⟨other, among, same⟩)
      rw [lookup_insertPair, if_neg (by simpa using differs)]
      exact fresh other (List.mem_cons_of_mem _ among)
    rw [vertexPortions, List.mapM_cons, unknown]
    exact bind_congr fun portion => by rw [later]

variable {mapping : GraphMapping} (size : BatchSize) (session : Session)

theorem outcome_onlyVertex (v : VertexMapping) :
    (dataStatements registry (mapping.onlyVertex v) document size).outcome session =
      (vertexPortion registry document v []).1.map (·.statements size.size) := by
  rw [(hasEffect_dataStatements registry document _ size).outcome_eq, portions]
  simp only [GraphMapping.onlyVertex, vertexPortions, List.lookup_nil, Option.getD_none,
    List.mapM_nil]
  cases (vertexPortion registry document v []).1 with
  | error failure => rfl
  | ok portion => simp [bind, Except.bind, pure, Except.pure, Except.map]

theorem outcome_onlyEdge (e : EdgeMapping) :
    (dataStatements registry (mapping.onlyEdge e) document size).outcome session =
      (edgePortion registry document e).map (·.statements size.size) := by
  rw [(hasEffect_dataStatements registry document _ size).outcome_eq, portions]
  simp only [GraphMapping.onlyEdge, vertexPortions, List.mapM_cons, List.mapM_nil]
  cases edgePortion registry document e with
  | error failure => rfl
  | ok portion => simp [bind, Except.bind, pure, Except.pure, Except.map]

/-- The statements of a built mapping are those of its elements by themselves, one after the
other. -/
theorem outcome_eq_singles (built : mapping.IsBuilt) :
    (dataStatements registry mapping document size).outcome session =
      (mapping.singles.mapM fun single =>
        (dataStatements registry single document size).alone).map List.flatten := by
  have vertices : vertexPortions registry document [] mapping.vertices =
      mapping.vertices.mapM fun v => (vertexPortion registry document v []).1 :=
    vertexPortions_eq_mapM registry document built.nodup_tags fun _ _ => rfl
  have ofVertices : ((mapping.vertices.map mapping.onlyVertex).mapM fun single =>
      (dataStatements registry single document size).alone) =
        (mapping.vertices.mapM fun v => (vertexPortion registry document v []).1).map
          (·.map (·.statements size.size)) := by
    rw [List.mapM_map, ← mapM_map_eq]
    refine congrArg (List.mapM · mapping.vertices) (funext fun v => ?_)
    exact outcome_onlyVertex registry document size {} v
  have ofEdges : ((mapping.edges.map mapping.onlyEdge).mapM fun single =>
      (dataStatements registry single document size).alone) =
        (mapping.edges.mapM (edgePortion registry document)).map
          (·.map (·.statements size.size)) := by
    rw [List.mapM_map, ← mapM_map_eq]
    refine congrArg (List.mapM · mapping.edges) (funext fun e => ?_)
    exact outcome_onlyEdge registry document size {} e
  rw [(hasEffect_dataStatements registry document mapping size).outcome_eq, portions, vertices,
    GraphMapping.singles, List.mapM_append, ofVertices, ofEdges]
  cases mapping.vertices.mapM fun v => (vertexPortion registry document v []).1 with
  | error failure => rfl
  | ok first =>
    cases mapping.edges.mapM (edgePortion registry document) with
    | error failure => rfl
    | ok others => simp [Except.map, bind, Except.bind, pure, Except.pure, List.flatMap]

/-- The statements of a built mapping are there if and only if those of each of its elements by
itself are, in any session; they are then these, one after the other. Otherwise there is the
failure of the first element that fails. -/
theorem outcome_iff_singles (built : mapping.IsBuilt) :
    (∀ statements,
      (dataStatements registry mapping document size).outcome session = .ok statements ↔
        ∃ parts, List.Forall₂ (fun single part => ∀ session,
            (dataStatements registry single document size).outcome session = .ok part)
          mapping.singles parts ∧ statements = parts.flatten) ∧
      ∀ failure,
        (dataStatements registry mapping document size).outcome session = .error failure ↔
          ∃ before single later, mapping.singles = before ++ single :: later ∧
            (∀ earlier ∈ before, ∃ part, ∀ session,
              (dataStatements registry earlier document size).outcome session = .ok part) ∧
            ∀ session,
              (dataStatements registry single document size).outcome session = .error failure := by
  have anywhere (single : GraphMapping) (result : Except Failure (List DataStatement)) :
      (∀ session, (dataStatements registry single document size).outcome session = result) ↔
        (dataStatements registry single document size).alone = result := by
    constructor
    · intro always
      exact always {}
    · rintro rfl session
      exact (hasEffect_dataStatements registry document single size).independent.outcome_eq session
  simp only [anywhere, outcome_eq_singles registry document size session built]
  refine ⟨fun statements => ?_, fun failure => ?_⟩
  · rw [map_eq_ok_iff]
    refine exists_congr fun parts => and_congr (mapM_eq_ok_iff _ _ _) eq_comm
  · rw [map_eq_error_iff]
    exact mapM_eq_error_iff _ _ _

theorem outcome_iff_singles_library :
    ∃ statements parts,
      (dataStatements .builtin libraryMapping libraryDocument .default).outcome {} =
        .ok statements ∧
      List.Forall₂ (fun single part => ∀ session,
          (dataStatements .builtin single libraryDocument .default).outcome session = .ok part)
        libraryMapping.singles parts ∧
      statements = parts.flatten := by
  have succeeds : ((dataStatements .builtin libraryMapping libraryDocument .default).outcome
      {}).toOption.isSome := by decide +kernel
  cases found : (dataStatements .builtin libraryMapping libraryDocument .default).outcome {} with
  | error failure => simp [found, Except.toOption] at succeeds
  | ok statements =>
    obtain ⟨of_ok, -⟩ := outcome_iff_singles .builtin libraryDocument .default {}
      isBuilt_libraryMapping
    obtain ⟨parts, each, rfl⟩ := (of_ok statements).mp found
    exact ⟨_, parts, rfl, each, rfl⟩

end DocGraph
