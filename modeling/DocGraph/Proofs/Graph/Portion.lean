import DocGraph.Proofs.Graph.Batch
import DocGraph.Proofs.Graph.Upsert

/-!
# What every mapping contributes

The statements of a document are the contributions of its vertex mappings, followed by those of
its edge mappings. What one of them contributes is found before the size of batches matters: a
row for every record, or the statements of vertices that are written once. The size only says
how rows share statements.

## Main definitions

* `Portion`: what one mapping contributes, before rows are cut into batches.
* `Portion.OfVertex`, `Portion.OfEdge`: the contribution of a mapping, seen from the records.
* `Portion.WrittenAs`: statements that write a portion with a size of batches.

## Main results

* `dataStatements_portions`: with any two sizes, a document fails in the same way or gives the
  same portions, each cut into blocks of the size.
-/

namespace DocGraph

open Generation

/-- What one mapping contributes to the statements of a document. -/
inductive Portion where
  | vertices (tag : String) (columns : List String) (rows : List VertexRow)
  | upserts (statements : List DataStatement)
  | edges (edge : String) (columns : List String) (rows : List EdgeRow)

namespace Portion

/-- The statements of a portion, with rows in batches of a size. -/
def statements (size : Nat) : Portion → List DataStatement
  | .vertices tag columns rows => (batches size rows).map (.insertVertices tag columns)
  | .upserts statements => statements
  | .edges edge columns rows => (batches size rows).map (.insertEdges edge columns)

/-- Statements write a portion: its rows are cut into consecutive blocks of the size, with one
statement for every block. -/
def WrittenAs (size : Nat) : Portion → List DataStatement → Prop
  | .vertices tag columns rows, written =>
    ∃ blocks, IsCut size rows blocks ∧ written = blocks.map (.insertVertices tag columns)
  | .upserts statements, written => written = statements
  | .edges edge columns rows, written =>
    ∃ blocks, IsCut size rows blocks ∧ written = blocks.map (.insertEdges edge columns)

/-- The contribution of a vertex mapping. Without dynamic fields it is one row for every record,
in order; with them it is statements for single vertices of the tag. -/
def OfVertex (registry : TransformRegistry) (document : Json) (mapping : VertexMapping) :
    Portion → Prop
  | .vertices tag columns rows =>
    mapping.dynamicFields.enabled = false ∧ tag = mapping.tag ∧
      columns = columnNames mapping.properties ∧
      ∃ records, (recordsAt document mapping.source).alone = .ok records ∧
        List.Forall₂ (fun record row => (vertexRow registry mapping record).alone = .ok row)
          records rows
  | .upserts statements =>
    mapping.dynamicFields.enabled = true ∧
      ∀ statement ∈ statements, ∃ columns row, statement = .upsertVertex mapping.tag columns row
  | .edges .. => False

/-- The contribution of an edge mapping: one row for every record, in order. -/
def OfEdge (registry : TransformRegistry) (document : Json) (mapping : EdgeMapping) :
    Portion → Prop
  | .edges edge columns rows =>
    edge = mapping.name ∧ columns = columnNames mapping.properties ∧
      ∃ records, (recordsAt document mapping.source).alone = .ok records ∧
        List.Forall₂ (fun record row => (edgeRow registry mapping record).alone = .ok row)
          records rows
  | _ => False

/-- The statements of a portion write it. -/
theorem writtenAs_statements {size : Nat} (pos : 0 < size) (portion : Portion) :
    portion.WrittenAs size (portion.statements size) := by
  cases portion with
  | vertices tag columns rows => exact ⟨_, batches_isCut pos rows, rfl⟩
  | upserts statements => rfl
  | edges edge columns rows => exact ⟨_, batches_isCut pos rows, rfl⟩

end Portion

section

variable (registry : TransformRegistry) (document : Json)

/-- The rows of a vertex mapping without dynamic fields. -/
def vertexRows (mapping : VertexMapping) : Except Failure (List VertexRow) := do
  (← (recordsAt document mapping.source).alone).mapM fun record =>
    (vertexRow registry mapping record).alone

/-- The rows of an edge mapping. -/
def edgeRows (mapping : EdgeMapping) : Except Failure (List EdgeRow) := do
  (← (recordsAt document mapping.source).alone).mapM fun record =>
    (edgeRow registry mapping record).alone

/-- What a vertex mapping contributes, given the vertices written before, and the vertices
written after it. -/
def vertexPortion (mapping : VertexMapping) : Effect Portion := fun seen =>
  if mapping.dynamicFields.enabled then
    match (recordsAt document mapping.source).alone with
    | .error failure => (.error failure, seen)
    | .ok records =>
      let (result, seen) := upsertsOf registry mapping records seen
      (result.map .upserts, seen)
  else
    ((vertexRows registry document mapping).map
      (.vertices mapping.tag (columnNames mapping.properties)), seen)

/-- What an edge mapping contributes. -/
def edgePortion (mapping : EdgeMapping) : Except Failure Portion :=
  (edgeRows registry document mapping).map (.edges mapping.name (columnNames mapping.properties))

/-- What vertex mappings contribute one after the other, given the vertices written before under
their tags. -/
def vertexPortions (known : SeenByTag) : List VertexMapping → Except Failure (List Portion)
  | [] => .ok []
  | mapping :: rest => do
    let (portion, seen) :=
      vertexPortion registry document mapping ((known.lookup mapping.tag).getD [])
    let portion ← portion
    return portion :: (← vertexPortions (insertPair known mapping.tag seen) rest)

/-- What all mappings contribute, those of vertices first. -/
def portions (mapping : GraphMapping) : Except Failure (List Portion) := do
  let vertices ← vertexPortions registry document [] mapping.vertices
  return vertices ++ (← mapping.edges.mapM (edgePortion registry document))

/-! ## The steps of the program write portions -/

/-- Rows that are found from the records of a source by independent steps. -/
theorem hasEffect_rows {ρ : Type} {row : Json → Generation ρ}
    (h : ∀ record, (row record).Independent) (source : String)
    (write : List ρ → List DataStatement) :
    HasEffect (do return write (← (← recordsAt document source).mapM row)) fun seen =>
      (((recordsAt document source).alone >>= fun records =>
        records.mapM fun record => (row record).alone).map write, seen) := by
  have written (records : List Json) := Independent.hasEffect_map
    (Independent.hasEffect_mapM h records) write
  refine (Independent.hasEffect_bind (independent_recordsAt document source) fun records =>
    (written records).independent).congr fun seen => ?_
  simp only [(written _).alone_eq]
  cases (recordsAt document source).alone <;> rfl

theorem hasEffect_vertexStatements (mapping : VertexMapping) (size : Nat) :
    (vertexStatements registry mapping document size).HasEffect fun seen =>
      ((vertexPortion registry document mapping seen).1.map (·.statements size),
        (vertexPortion registry document mapping seen).2) := by
  cases dynamic : mapping.dynamicFields.enabled with
  | true =>
    refine (hasEffect_vertexStatements_dynamic registry mapping dynamic document size).congr
      fun seen => ?_
    simp only [vertexPortion, dynamic, if_true]
    cases (recordsAt document mapping.source).alone with
    | error failure => rfl
    | ok records =>
      simp only
      rcases upsertsOf registry mapping records seen with ⟨_ | _, _⟩ <;> rfl
  | false =>
    simp only [vertexStatements, dynamic, Bool.false_eq_true, if_false]
    refine (hasEffect_rows document (independent_vertexRow registry mapping) mapping.source
      fun rows => (batches size rows).map
        (.insertVertices mapping.tag (columnNames mapping.properties))).congr fun seen => ?_
    simp only [vertexPortion, dynamic, vertexRows]
    cases (recordsAt document mapping.source).alone >>= fun records =>
      records.mapM fun record => (vertexRow registry mapping record).alone <;> rfl

theorem hasEffect_edgeStatements (mapping : EdgeMapping) (size : Nat) :
    (edgeStatements registry mapping document size).HasEffect fun seen =>
      ((edgePortion registry document mapping).map (·.statements size), seen) := by
  refine (hasEffect_rows document (independent_edgeRow registry mapping) mapping.source
    fun rows => (batches size rows).map
      (.insertEdges mapping.name (columnNames mapping.properties))).congr fun seen => ?_
  simp only [edgePortion, edgeRows]
  cases (recordsAt document mapping.source).alone >>= fun records =>
    records.mapM fun record => (edgeRow registry mapping record).alone <;> rfl

theorem hasEffect_statementsByTag (size : Nat) (mappings : List VertexMapping) (known : SeenByTag) :
    (statementsByTag registry document size known mappings).HasEffect fun seen =>
      ((vertexPortions registry document known mappings).map (·.flatMap (·.statements size)),
        seen) := by
  induction mappings generalizing known with
  | nil => exact .pure []
  | cons mapping rest ih =>
    let before := (known.lookup mapping.tag).getD []
    have first := (hasEffect_vertexStatements registry document mapping size).apart before
    -- What the mapping knows of is passed to the others by the tags, not by the session.
    refine (HasEffect.bind first fun part => Independent.hasEffect_map
      (ih (insertPair known mapping.tag part.2)) fun others => part.1 ++ others).congr
        fun seen => ?_
    simp only [vertexPortions, Effect.andThen, before]
    rcases vertexPortion registry document mapping ((known.lookup mapping.tag).getD [])
      with ⟨failure | portion, marked⟩
    · rfl
    · simp only [Except.map]
      cases vertexPortions registry document (insertPair known mapping.tag marked) rest <;> rfl

/-- The statements of a document write what its mappings contribute. -/
theorem hasEffect_dataStatements (mapping : GraphMapping) (size : BatchSize) :
    (dataStatements registry mapping document size).HasEffect fun seen =>
      ((portions registry document mapping).map (·.flatMap (·.statements size.size)), seen) := by
  have edges : HasEffect
      (mapping.edges.mapM fun e => edgeStatements registry e document size.size) fun seen =>
        (mapping.edges.mapM fun e => (edgePortion registry document e).map
          (·.statements size.size), seen) := by
    refine (Independent.hasEffect_mapM (fun e =>
      (hasEffect_edgeStatements registry document e size.size).independent) _).congr fun seen => ?_
    simp only [(hasEffect_edgeStatements registry document _ size.size).alone_eq]
  have vertices := hasEffect_statementsByTag registry document size.size mapping.vertices []
  refine (HasEffect.bind vertices fun first => Independent.hasEffect_map edges
    fun others => first ++ others.flatten).congr fun seen => ?_
  simp only [portions, Effect.andThen, mapM_map_eq]
  cases vertexPortions registry document [] mapping.vertices with
  | error failure => rfl
  | ok first =>
    simp only [Except.map, bind, Except.bind]
    cases mapping.edges.mapM (edgePortion registry document) with
    | error failure => rfl
    | ok others => simp [List.flatMap, pure, Except.pure]

/-- A size of batches that is checked first makes no other difference. -/
theorem outcome_batchedStatements (mapping : GraphMapping) (size : Json) (session : Session) :
    (batchedStatements registry mapping document size).outcome session =
      BatchSize.ofJson size >>= fun size =>
        (dataStatements registry mapping document size).outcome session := by
  rw [batchedStatements]
  cases BatchSize.ofJson size <;> rfl

/-! ## Blocks of records -/

/-- Rows found from records are one row for every record. -/
theorem exists_records_of_rows {ρ : Type} {row : Json → Except Failure ρ} {source : String}
    {rows : List ρ}
    (h : ((recordsAt document source).alone >>= fun records => records.mapM row) = .ok rows) :
    ∃ records, (recordsAt document source).alone = .ok records ∧
      List.Forall₂ (fun record written => row record = .ok written) records rows := by
  cases found : (recordsAt document source).alone with
  | error failure => simp [found, bind, Except.bind] at h
  | ok records =>
    simp only [found, bind, Except.bind] at h
    exact ⟨records, rfl, (mapM_eq_ok_iff row records rows).mp h⟩

/-- With dynamic fields, a vertex mapping contributes what its records give one after the other. -/
theorem vertexPortion_dynamic_eq_ok {mapping : VertexMapping}
    (dynamic : mapping.dynamicFields.enabled = true) {seen after : List VertexId}
    {portion : Portion} (h : vertexPortion registry document mapping seen = (.ok portion, after)) :
    ∃ records statements, (recordsAt document mapping.source).alone = .ok records ∧
      upsertsOf registry mapping records seen = (.ok statements, after) ∧
      portion = .upserts statements := by
  simp only [vertexPortion, dynamic, if_true] at h
  cases found : (recordsAt document mapping.source).alone with
  | error failure => simp [found] at h
  | ok records =>
    simp only [found, Prod.mk.injEq, map_eq_ok_iff] at h
    obtain ⟨⟨statements, given, rfl⟩, rfl⟩ := h
    exact ⟨records, statements, rfl, Prod.ext given rfl, rfl⟩

/-- Without dynamic fields, a vertex mapping contributes rows. -/
theorem vertexPortion_static_eq_ok {mapping : VertexMapping}
    (static : mapping.dynamicFields.enabled = false) {seen after : List VertexId}
    {portion : Portion} (h : vertexPortion registry document mapping seen = (.ok portion, after)) :
    ∃ rows, vertexRows registry document mapping = .ok rows ∧ after = seen ∧
      portion = .vertices mapping.tag (columnNames mapping.properties) rows := by
  simp only [vertexPortion, static, Bool.false_eq_true, if_false, Prod.mk.injEq,
    map_eq_ok_iff] at h
  obtain ⟨⟨rows, found, rfl⟩, rfl⟩ := h
  exact ⟨rows, found, rfl, rfl⟩

theorem ofVertex_vertexPortion {mapping : VertexMapping} {seen : List VertexId}
    {portion : Portion}
    (h : (vertexPortion registry document mapping seen).1 = .ok portion) :
    portion.OfVertex registry document mapping := by
  cases dynamic : mapping.dynamicFields.enabled with
  | true =>
    obtain ⟨records, statements, -, written, rfl⟩ :=
      vertexPortion_dynamic_eq_ok registry document dynamic (Prod.ext h rfl)
    exact ⟨dynamic, forall_upsertsOf registry mapping written⟩
  | false =>
    obtain ⟨rows, found, -, rfl⟩ :=
      vertexPortion_static_eq_ok registry document dynamic (Prod.ext h rfl)
    exact ⟨dynamic, rfl, rfl, exists_records_of_rows document found⟩

theorem ofEdge_edgePortion {mapping : EdgeMapping} {portion : Portion}
    (h : edgePortion registry document mapping = .ok portion) :
    portion.OfEdge registry document mapping := by
  cases found : edgeRows registry document mapping with
  | error failure => simp [edgePortion, found, Except.map] at h
  | ok rows =>
    obtain rfl : Portion.edges mapping.name (columnNames mapping.properties) rows = portion := by
      simpa [edgePortion, found, Except.map] using h
    exact ⟨rfl, rfl, exists_records_of_rows document found⟩

theorem vertexPortions_cons_eq_ok {mapping : VertexMapping} {rest : List VertexMapping}
    {known : SeenByTag} {found : List Portion}
    (h : vertexPortions registry document known (mapping :: rest) = .ok found) :
    ∃ portion after others,
      vertexPortion registry document mapping ((known.lookup mapping.tag).getD []) =
        (.ok portion, after) ∧
      vertexPortions registry document (insertPair known mapping.tag after) rest = .ok others ∧
      found = portion :: others := by
  rw [vertexPortions] at h
  rcases first : vertexPortion registry document mapping ((known.lookup mapping.tag).getD [])
    with ⟨failure | portion, after⟩
  · simp [first, bind, Except.bind] at h
  · cases further : vertexPortions registry document (insertPair known mapping.tag after) rest with
    | error failure => simp [first, further, bind, Except.bind] at h
    | ok others =>
      simp only [first, further, bind, Except.bind, pure, Except.pure, Except.ok.injEq] at h
      exact ⟨portion, after, others, rfl, further, h.symm⟩

/-- Vertex mappings contribute one portion each, whatever vertices are written before. -/
theorem forall₂_vertexPortions {mappings : List VertexMapping} {known : SeenByTag}
    {found : List Portion} (h : vertexPortions registry document known mappings = .ok found) :
    List.Forall₂ (fun mapping portion =>
      ∃ seen, (vertexPortion registry document mapping seen).1 = .ok portion) mappings found := by
  induction mappings generalizing known found with
  | nil =>
    cases h
    exact .nil
  | cons mapping rest ih =>
    obtain ⟨portion, after, others, first, further, rfl⟩ :=
      vertexPortions_cons_eq_ok registry document h
    exact .cons ⟨_, congrArg Prod.fst first⟩ (ih further)

theorem forall_vertexPortions {mappings : List VertexMapping} {known : SeenByTag}
    {found : List Portion} (h : vertexPortions registry document known mappings = .ok found) :
    List.Forall₂ (fun mapping portion => portion.OfVertex registry document mapping)
      mappings found :=
  (forall₂_vertexPortions registry document h).imp fun _ _ ⟨_, contributed⟩ =>
    ofVertex_vertexPortion registry document contributed

theorem portions_eq_ok {mapping : GraphMapping} {found : List Portion}
    (h : portions registry document mapping = .ok found) :
    ∃ vertices edges, vertexPortions registry document [] mapping.vertices = .ok vertices ∧
      mapping.edges.mapM (edgePortion registry document) = .ok edges ∧
      found = vertices ++ edges := by
  rw [portions] at h
  cases ofVertices : vertexPortions registry document [] mapping.vertices with
  | error failure => simp [ofVertices, bind, Except.bind] at h
  | ok vertices =>
    cases ofEdges : mapping.edges.mapM (edgePortion registry document) with
    | error failure => simp [ofVertices, ofEdges, bind, Except.bind] at h
    | ok edges =>
      simp only [ofVertices, ofEdges, bind, Except.bind, pure, Except.pure, Except.ok.injEq] at h
      exact ⟨vertices, edges, rfl, rfl, h.symm⟩

/-- Every statement of a document belongs to what one of its mappings contributes. -/
theorem exists_contribution_of_mem {mapping : GraphMapping} {size : BatchSize} {session : Session}
    {statements : List DataStatement}
    (h : (dataStatements registry mapping document size).outcome session = .ok statements)
    {statement : DataStatement} (mem : statement ∈ statements) :
    ∃ portion : Portion, statement ∈ portion.statements size.size ∧
      ((∃ v ∈ mapping.vertices, ∃ seen, (vertexPortion registry document v seen).1 = .ok portion) ∨
        ∃ e ∈ mapping.edges, edgePortion registry document e = .ok portion) := by
  rw [(hasEffect_dataStatements registry document mapping size).outcome_eq, map_eq_ok_iff] at h
  obtain ⟨contributions, found, rfl⟩ := h
  obtain ⟨vertices, edges, ofVertices, ofEdges, rfl⟩ := portions_eq_ok registry document found
  obtain ⟨portion, among, within⟩ := List.mem_flatMap.mp mem
  refine ⟨portion, within, (List.mem_append.mp among).imp (fun among => ?_) fun among => ?_⟩
  · exact exists_left_of_forall₂ (forall₂_vertexPortions registry document ofVertices) among
  · exact exists_left_of_forall₂ ((mapM_eq_ok_iff _ _ _).mp ofEdges) among

/-- Every statement of a document belongs to the portion of one of its mappings. -/
theorem exists_portion_of_mem {mapping : GraphMapping} {size : BatchSize} {session : Session}
    {statements : List DataStatement}
    (h : (dataStatements registry mapping document size).outcome session = .ok statements)
    {statement : DataStatement} (mem : statement ∈ statements) :
    ∃ portion : Portion, statement ∈ portion.statements size.size ∧
      ((∃ v ∈ mapping.vertices, portion.OfVertex registry document v) ∨
        ∃ e ∈ mapping.edges, portion.OfEdge registry document e) := by
  obtain ⟨portion, within, contributed⟩ := exists_contribution_of_mem registry document h mem
  refine ⟨portion, within, contributed.imp ?_ ?_⟩
  · rintro ⟨v, vertex, seen, found⟩
    exact ⟨v, vertex, ofVertex_vertexPortion registry document found⟩
  · rintro ⟨e, edge, found⟩
    exact ⟨e, edge, ofEdge_edgePortion registry document found⟩

/-- With any size of batches and in any session, a document fails in the same way or gives the
same contributions of its mappings: a row for every record, in order, or the statements of
vertices that are written once. The statements are these contributions one after the other,
rows cut into consecutive blocks of the size. -/
theorem dataStatements_portions (mapping : GraphMapping) :
    (∃ failure, ∀ (size : BatchSize) (session : Session),
      (dataStatements registry mapping document size).outcome session = .error failure) ∨
    ∃ vertices edges : List Portion,
      List.Forall₂ (fun mapping portion => portion.OfVertex registry document mapping)
        mapping.vertices vertices ∧
      List.Forall₂ (fun mapping portion => portion.OfEdge registry document mapping)
        mapping.edges edges ∧
      ∀ (size : BatchSize) (session : Session), ∃ parts : List (List DataStatement),
        (dataStatements registry mapping document size).outcome session = .ok parts.flatten ∧
        List.Forall₂ (fun portion part => portion.WrittenAs size.size part)
          (vertices ++ edges) parts := by
  have outcome (size : BatchSize) (session : Session) :=
    (hasEffect_dataStatements registry document mapping size).outcome_eq session
  simp only [outcome]
  cases found : portions registry document mapping with
  | error failure => exact .inl ⟨failure, fun _ _ => rfl⟩
  | ok contributions =>
    obtain ⟨vertices, edges, ofVertices, ofEdges, rfl⟩ := portions_eq_ok registry document found
    -- The portions do not depend on the size of batches, only on how they are written.
    refine .inr ⟨vertices, edges, forall_vertexPortions registry document ofVertices, ?_, ?_⟩
    · refine ((mapM_eq_ok_iff _ _ _).mp ofEdges).imp fun mapping portion h => ?_
      exact ofEdge_edgePortion registry document h
    · intro size _
      refine ⟨(vertices ++ edges).map (·.statements size.size), rfl, ?_⟩
      rw [List.forall₂_map_right_iff]
      exact List.forall₂_same.mpr fun portion _ => portion.writtenAs_statements size.positive

end

end DocGraph
