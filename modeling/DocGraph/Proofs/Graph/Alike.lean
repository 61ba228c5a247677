import DocGraph.Proofs.Graph.Written

/-!
# Documents that look alike

What a mapping sees of a document are the records under its sources, and of each record the
identifiers, the values of the declared properties and the dynamic properties. Two documents of
which it sees the same have the same statements, or fail in the same way. Where only the dynamic
properties of corresponding records differ, only these differ in the statements.

## Main definitions

* `Alike`: two results that are the same failure, or successes that are related.
* `GraphMapping.SeesAlike`: two documents that look alike to a mapping, up to a relation between
  dynamic properties.
* `DataStatement.Corresponds`: two statements that are the same, up to such a relation.

## Main results

* `GraphMapping.SeesAlike.outcome`: documents that look alike have corresponding statements, or
  the same failure.
-/

namespace DocGraph

open Generation

/-! ## Results that are alike -/

/-- Two results are alike: both are the same failure, or they are related. -/
inductive Alike {ε α β : Type} (R : α → β → Prop) : Except ε α → Except ε β → Prop
  | ok {a : α} {b : β} (related : R a b) : Alike R (.ok a) (.ok b)
  | error (failure : ε) : Alike R (.error failure) (.error failure)

namespace Alike

variable {ε ε' α α' β β' : Type} {R : α → β → Prop} {x : Except ε α} {y : Except ε β}

theorem cases (h : Alike R x y) :
    (∃ a b, x = .ok a ∧ y = .ok b ∧ R a b) ∨
      ∃ failure, x = .error failure ∧ y = .error failure := by
  cases h with
  | ok related => exact .inl ⟨_, _, rfl, rfl, related⟩
  | error failure => exact .inr ⟨failure, rfl, rfl⟩

theorem mono {S : α → β → Prop} (h : Alike R x y) (imp : ∀ a b, R a b → S a b) :
    Alike S x y := by
  cases h with
  | ok related => exact .ok (imp _ _ related)
  | error failure => exact .error failure

theorem bind {S : α' → β' → Prop} {f : α → Except ε α'} {g : β → Except ε β'} (h : Alike R x y)
    (next : ∀ a b, R a b → Alike S (f a) (g b)) : Alike S (x >>= f) (y >>= g) := by
  cases h with
  | ok related => exact next _ _ related
  | error failure => exact .error failure

theorem map {S : α' → β' → Prop} {f : α → α'} {g : β → β'} (h : Alike R x y)
    (next : ∀ a b, R a b → S (f a) (g b)) : Alike S (x.map f) (y.map g) := by
  cases h with
  | ok related => exact .ok (next _ _ related)
  | error failure => exact .error failure

theorem mapError (toFault : ε → ε') (h : Alike R x y) :
    Alike R (x.mapError toFault) (y.mapError toFault) := by
  cases h with
  | ok related => exact .ok related
  | error failure => exact .error (toFault failure)

theorem mapM {S : α' → β' → Prop} {f : α → Except ε α'} {g : β → Except ε β'} {as : List α}
    {bs : List β} (h : List.Forall₂ R as bs) (each : ∀ a b, R a b → Alike S (f a) (g b)) :
    Alike (List.Forall₂ S) (as.mapM f) (bs.mapM g) := by
  induction h with
  | nil => exact .ok .nil
  | @cons a b as bs related _ ih =>
    rw [List.mapM_cons, List.mapM_cons]
    refine (each a b related).bind fun _ _ first => ih.bind fun _ _ rest => ?_
    exact .ok (.cons first rest)

theorem eq {x y : Except ε α} (h : Alike Eq x y) : x = y := by
  cases h with
  | ok related => rw [related]
  | error failure => rfl

theorem of_eq {x y : Except ε α} (h : x = y) : Alike Eq x y := by
  subst h
  cases x with
  | ok a => exact .ok rfl
  | error failure => exact .error failure

end Alike

theorem mapM_eq_of_forall₂ {ε α β γ : Type} {f : α → Except ε γ} {g : β → Except ε γ}
    {as : List α} {bs : List β} (h : List.Forall₂ (fun a b => f a = g b) as bs) :
    as.mapM f = bs.mapM g := by
  induction h with
  | nil => rfl
  | cons same _ ih => rw [List.mapM_cons, List.mapM_cons, same, ih]

/-! ## Records, documents and statements -/

/-- A relation between the dynamic properties of one record and those of another. -/
abbrev DynamicRelation := List (String × Scalar) → List (String × Scalar) → Prop

section

variable (registry : TransformRegistry) (R : DynamicRelation)

/-- Two records look alike to a vertex mapping, up to a relation between their dynamic
properties. -/
structure VertexMapping.SeesAlike (mapping : VertexMapping) (record other : Json) : Prop where
  id : (vertexIdAt record mapping.key).alone = (vertexIdAt other mapping.key).alone
  values : (propertyValues registry record mapping.properties).alone =
    (propertyValues registry other mapping.properties).alone
  dynamic : mapping.dynamicFields.enabled = true →
    R (dynamicOf mapping record) (dynamicOf mapping other)

structure EdgeMapping.SeesAlike (mapping : EdgeMapping) (record other : Json) : Prop where
  start : (vertexIdAt record mapping.start.key).alone =
    (vertexIdAt other mapping.start.key).alone
  target : (vertexIdAt record mapping.target.key).alone =
    (vertexIdAt other mapping.target.key).alone
  values : (propertyValues registry record mapping.properties).alone =
    (propertyValues registry other mapping.properties).alone

/-- Two documents look alike to a mapping: their records do, one by one, if there are any. -/
structure GraphMapping.SeesAlike (mapping : GraphMapping) (document other : Json) : Prop where
  vertices : ∀ v ∈ mapping.vertices, Alike (List.Forall₂ (v.SeesAlike registry R))
    (recordsAt document v.source).alone (recordsAt other v.source).alone
  edges : ∀ e ∈ mapping.edges, Alike (List.Forall₂ (e.SeesAlike registry))
    (recordsAt document e.source).alone (recordsAt other e.source).alone

end

section

variable (R : DynamicRelation) (mapping : GraphMapping)

/-- Two statements correspond: they are the same batch, or they write the same vertex with the
same values of its declared properties and related dynamic properties. -/
inductive DataStatement.Corresponds : DataStatement → DataStatement → Prop
  | insert {statement : DataStatement} (insert : statement.IsInsert) :
      Corresponds statement statement
  | upsert {v : VertexMapping} {id : VertexId} {values : List Literal}
      {dynamic dynamic' : List (String × Scalar)} (vertex : v ∈ mapping.vertices)
      (complete : values.length = v.properties.length) (related : R dynamic dynamic') :
      Corresponds
        (.upsertVertex v.tag (columnNames v.properties ++ dynamic.map (·.1))
          ⟨id, values ++ dynamic.map (.value ·.2)⟩)
        (.upsertVertex v.tag (columnNames v.properties ++ dynamic'.map (·.1))
          ⟨id, values ++ dynamic'.map (.value ·.2)⟩)

/-- Two portions correspond: they are the same rows, or corresponding statements. -/
inductive Portion.Corresponds : Portion → Portion → Prop
  | vertices (tag : String) (columns : List String) (rows : List VertexRow) :
      Corresponds (.vertices tag columns rows) (.vertices tag columns rows)
  | upserts {statements others : List DataStatement}
      (each : List.Forall₂ (DataStatement.Corresponds R mapping) statements others) :
      Corresponds (.upserts statements) (.upserts others)
  | edges (edge : String) (columns : List String) (rows : List EdgeRow) :
      Corresponds (.edges edge columns rows) (.edges edge columns rows)

end

theorem DataStatement.Corresponds.eq {mapping : GraphMapping} {s t : DataStatement}
    (h : Corresponds Eq mapping s t) : s = t := by
  cases h with
  | insert => rfl
  | upsert vertex complete related => rw [related]

section

variable {registry : TransformRegistry} {R : DynamicRelation} {mapping : GraphMapping}
  {document other : Json}

theorem forall₂_corresponds_batches {ρ : Type} (write : List ρ → DataStatement)
    (insert : ∀ rows, (write rows).IsInsert) (size : Nat) (rows : List ρ) :
    List.Forall₂ (DataStatement.Corresponds R mapping) ((batches size rows).map write)
      ((batches size rows).map write) := by
  rw [List.forall₂_map_left_iff, List.forall₂_map_right_iff]
  exact List.forall₂_same.mpr fun block _ => .insert (insert block)

theorem Portion.Corresponds.statements {portion portion' : Portion}
    (h : Portion.Corresponds R mapping portion portion') (size : Nat) :
    List.Forall₂ (DataStatement.Corresponds R mapping) (portion.statements size)
      (portion'.statements size) := by
  cases h with
  | vertices tag columns rows =>
    exact forall₂_corresponds_batches (.insertVertices tag columns) (fun _ => trivial) size rows
  | upserts each => exact each
  | edges edge columns rows =>
    exact forall₂_corresponds_batches (.insertEdges edge columns) (fun _ => trivial) size rows

/-! ## Records -/

/-- The records that a value stands for: the items of an array, and anything else by itself. -/
def Json.records : Json → List Json
  | .array items => items
  | value => [value]

theorem alone_recordsAt (path : String) :
    (recordsAt document path).alone =
      ((resolve document path).mapError (.ofPath fun fault => .data (.source fault path))).map
        Json.records := by
  rw [recordsAt, alone_bind (independent_valueAt _ _ _) fun value => by
    cases value <;> exact .pure _, alone_valueAt]
  cases resolve document path with
  | error fault => rfl
  | ok value => cases value <;> rfl

/-! ## From records to statements -/

theorem VertexMapping.SeesAlike.row {v : VertexMapping} {record record' : Json}
    (h : v.SeesAlike registry R record record') :
    (vertexRow registry v record).alone = (vertexRow registry v record').alone := by
  rw [alone_vertexRow, alone_vertexRow, h.id, h.values]

theorem EdgeMapping.SeesAlike.row {e : EdgeMapping} {record record' : Json}
    (h : e.SeesAlike registry record record') :
    (edgeRow registry e record).alone = (edgeRow registry e record').alone := by
  rw [alone_edgeRow, alone_edgeRow, h.start, h.target, h.values]

theorem length_eq_of_alone_propertyValues {record : Json} {properties : List Property}
    {values : List Literal}
    (h : (propertyValues registry record properties).alone = .ok values) :
    values.length = properties.length :=
  (alone_propertyValues_eq_ok_iff.mp h).length_eq.symm

/-- Records that look alike have corresponding statements of their own. -/
theorem VertexMapping.SeesAlike.upsert {v : VertexMapping} {record record' : Json}
    (h : v.SeesAlike registry R record record') (vertex : v ∈ mapping.vertices)
    (dynamic : v.dynamicFields.enabled = true) (id : VertexId) :
    Alike (DataStatement.Corresponds R mapping) (upsert registry v id record).alone
      (upsert registry v id record').alone := by
  rw [alone_upsert, alone_upsert, alone_dynamicProperties, alone_dynamicProperties, ← h.values]
  cases written : (propertyValues registry record v.properties).alone with
  | error failure => exact .error failure
  | ok values =>
    exact .ok (.upsert vertex (length_eq_of_alone_propertyValues written) (h.dynamic dynamic))

/-- Taken one after the other, records that look alike mark the same vertices, and have
corresponding statements or the same failure. -/
theorem alike_upsertsOf {v : VertexMapping} (vertex : v ∈ mapping.vertices)
    (dynamic : v.dynamicFields.enabled = true) {records records' : List Json}
    (h : List.Forall₂ (v.SeesAlike registry R) records records') (seen : List VertexId) :
    Alike (List.Forall₂ (DataStatement.Corresponds R mapping))
        (upsertsOf registry v records seen).1 (upsertsOf registry v records' seen).1 ∧
      (upsertsOf registry v records seen).2 = (upsertsOf registry v records' seen).2 := by
  induction h generalizing seen with
  | nil => exact ⟨.ok .nil, rfl⟩
  | @cons record record' _ _ first _ ih =>
    rw [upsertsOf, upsertsOf, ← first.id]
    cases (vertexIdAt record v.key).alone with
    | error failure => exact ⟨.error failure, rfl⟩
    | ok id =>
      by_cases known : id ∈ seen
      · simpa only [known, if_true] using ih seen
      · simp only [known, if_false]
        obtain ⟨rest, marked⟩ := ih (seen ++ [id])
        rcases (first.upsert vertex dynamic id).cases with
          ⟨statement, statement', written, written', related⟩ | ⟨failure, failed, failed'⟩
        · simp only [written, written']
          exact ⟨rest.map fun _ _ others => .cons related others, marked⟩
        · simp only [failed, failed']
          exact ⟨.error failure, trivial⟩

/-- A vertex mapping contributes corresponding portions of documents that look alike, and marks
the same vertices. -/
theorem alike_vertexPortion {v : VertexMapping} (vertex : v ∈ mapping.vertices)
    (h : Alike (List.Forall₂ (v.SeesAlike registry R)) (recordsAt document v.source).alone
      (recordsAt other v.source).alone) (seen : List VertexId) :
    Alike (Portion.Corresponds R mapping) (vertexPortion registry document v seen).1
        (vertexPortion registry other v seen).1 ∧
      (vertexPortion registry document v seen).2 = (vertexPortion registry other v seen).2 := by
  cases dynamic : v.dynamicFields.enabled with
  | true =>
    simp only [vertexPortion, dynamic, if_true]
    rcases h.cases with ⟨records, records', found, found', each⟩ | ⟨failure, failed, failed'⟩
    · obtain ⟨statements, marked⟩ := alike_upsertsOf vertex dynamic each seen
      simp only [found, found']
      exact ⟨statements.map fun _ _ each => .upserts each, marked⟩
    · simp only [failed, failed']
      exact ⟨.error failure, trivial⟩
  | false =>
    simp only [vertexPortion, dynamic, Bool.false_eq_true, if_false, and_true]
    have rows : Alike Eq (vertexRows registry document v) (vertexRows registry other v) :=
      h.bind fun records records' each =>
        .of_eq (mapM_eq_of_forall₂ (each.imp fun _ _ alike => alike.row))
    rw [rows.eq]
    cases vertexRows registry other v with
    | error failure => exact .error failure
    | ok rows => exact .ok (.vertices _ _ rows)

theorem alike_edgePortion {e : EdgeMapping}
    (h : Alike (List.Forall₂ (e.SeesAlike registry)) (recordsAt document e.source).alone
      (recordsAt other e.source).alone) :
    Alike (Portion.Corresponds R mapping) (edgePortion registry document e)
      (edgePortion registry other e) := by
  have rows : Alike Eq (edgeRows registry document e) (edgeRows registry other e) :=
    h.bind fun records records' each =>
      .of_eq (mapM_eq_of_forall₂ (each.imp fun _ _ alike => alike.row))
  rw [edgePortion, edgePortion, rows.eq]
  cases edgeRows registry other e with
  | error failure => exact .error failure
  | ok rows => exact .ok (.edges _ _ rows)

/-- Vertex mappings contribute corresponding portions one after the other, given the same written
vertices. -/
theorem alike_vertexPortions (h : mapping.SeesAlike registry R document other)
    {vertices : List VertexMapping} (among : vertices ⊆ mapping.vertices) (known : SeenByTag) :
    Alike (List.Forall₂ (Portion.Corresponds R mapping))
      (vertexPortions registry document known vertices)
      (vertexPortions registry other known vertices) := by
  induction vertices generalizing known with
  | nil => exact .ok .nil
  | cons v rest ih =>
    obtain ⟨vertex, others⟩ := List.cons_subset.mp among
    obtain ⟨portion, marked⟩ := alike_vertexPortion vertex (h.vertices v vertex)
      ((known.lookup v.tag).getD [])
    rw [vertexPortions, vertexPortions]
    simp only [marked]
    refine portion.bind fun _ _ first => (ih others _).bind fun _ _ rest => ?_
    exact .ok (.cons first rest)

theorem alike_portions (h : mapping.SeesAlike registry R document other) :
    Alike (List.Forall₂ (Portion.Corresponds R mapping)) (portions registry document mapping)
      (portions registry other mapping) := by
  have edges : Alike (List.Forall₂ (Portion.Corresponds R mapping))
      (mapping.edges.mapM (edgePortion registry document))
      (mapping.edges.mapM (edgePortion registry other)) := by
    have same : List.Forall₂ (fun e e' => e = e' ∧ e ∈ mapping.edges) mapping.edges
        mapping.edges := List.forall₂_same.mpr fun e edge => ⟨rfl, edge⟩
    refine Alike.mapM same ?_
    rintro e _ ⟨rfl, edge⟩
    exact alike_edgePortion (h.edges e edge)
  refine (alike_vertexPortions h (List.Subset.refl _) []).bind fun _ _ vertices =>
    edges.bind fun _ _ edges => ?_
  exact .ok (List.rel_append vertices edges)

/-- Documents that look alike to a mapping have corresponding statements, or the same failure,
whatever the size of batches and the sessions. -/
theorem GraphMapping.SeesAlike.outcome (h : mapping.SeesAlike registry R document other)
    (size : Json) (session session' : Session) :
    Alike (List.Forall₂ (DataStatement.Corresponds R mapping))
      ((batchedStatements registry mapping document size).outcome session)
      ((batchedStatements registry mapping other size).outcome session') := by
  rw [outcome_batchedStatements, outcome_batchedStatements]
  cases BatchSize.ofJson size with
  | error failure => exact .error failure
  | ok size =>
    simp only [bind, Except.bind, (hasEffect_dataStatements _ _ _ _).outcome_eq]
    refine (alike_portions h).map fun portions portions' each => ?_
    induction each with
    | nil => exact .nil
    | cons first _ ih => exact List.rel_append (first.statements size.size) ih

end

/-! ## Values that are the same from the outside -/

/-- Two values are the same from the outside: they are equal, or both are arrays, or both are
objects. -/
inductive Json.SameOutside : Json → Json → Prop
  | refl (value : Json) : SameOutside value value
  | arrays (items others : List Json) : SameOutside (.array items) (.array others)
  | objects (fields others : List (String × Json)) : SameOutside (.object fields) (.object others)

namespace Json.SameOutside

variable {value value' : Json}

theorem of_eq (h : value = value') : SameOutside value value' := h ▸ .refl value

theorem vertexIdOf_eq (h : SameOutside value value') (path : String) :
    vertexIdOf value path = vertexIdOf value' path := by
  cases h <;> rfl

theorem ofJson?_eq (h : SameOutside value value') :
    Scalar.ofJson? value = Scalar.ofJson? value' := by
  cases h <;> rfl

/-- Neither a conversion nor a transform looks into arrays and objects. -/
theorem literalOf_eq (h : SameOutside value value') (registry : TransformRegistry)
    (property : Property) (type : ValueType) :
    literalOf registry property type value = literalOf registry property type value' := by
  cases h with
  | refl => rfl
  | arrays | objects =>
    simp only [literalOf]
    cases property.transform <;> rfl

end Json.SameOutside

/-- Two records look alike under a path: it leads to values that are the same from the outside,
or fails in the same way. -/
def LooksSame (record other : Json) (path : String) : Prop :=
  Alike Json.SameOutside (resolve record path) (resolve other path)

section

variable {record other : Json}

theorem LooksSame.alone_vertexIdAt_eq {path : String} (h : LooksSame record other path) :
    (vertexIdAt record path).alone = (vertexIdAt other path).alone := by
  rw [alone_vertexIdAt, alone_vertexIdAt]
  exact ((h.mapError _).bind fun value value' same => .of_eq (by rw [same.vertexIdOf_eq])).eq

theorem alone_propertyValues_eq (registry : TransformRegistry) {properties : List Property}
    (h : ∀ property ∈ properties, LooksSame record other property.path) :
    (propertyValues registry record properties).alone =
      (propertyValues registry other properties).alone := by
  have each (property : Property) (declared : property ∈ properties) :
      (propertyValue registry record property).alone =
        (propertyValue registry other property).alone := by
    rw [alone_propertyValue, alone_propertyValue]
    refine bind_congr fun type => ?_
    exact (((h property declared).mapError _).bind fun value value' same =>
      .of_eq (by rw [same.literalOf_eq])).eq
  rw [alone_propertyValues, alone_propertyValues]
  refine mapM_eq_of_forall₂ (List.forall₂_same.mpr fun property declared => ?_)
  rw [each property declared]

/-- Records look alike to a vertex mapping if they do so under its paths, and their dynamic
properties are related. -/
theorem VertexMapping.SeesAlike.of_looksSame (registry : TransformRegistry) {R : DynamicRelation}
    {v : VertexMapping} (key : LooksSame record other v.key)
    (properties : ∀ property ∈ v.properties, LooksSame record other property.path)
    (dynamic : v.dynamicFields.enabled = true → R (dynamicOf v record) (dynamicOf v other)) :
    v.SeesAlike registry R record other where
  id := key.alone_vertexIdAt_eq
  values := alone_propertyValues_eq registry properties
  dynamic := dynamic

theorem EdgeMapping.SeesAlike.of_looksSame (registry : TransformRegistry) {e : EdgeMapping}
    (start : LooksSame record other e.start.key) (target : LooksSame record other e.target.key)
    (properties : ∀ property ∈ e.properties, LooksSame record other property.path) :
    e.SeesAlike registry record other where
  start := start.alone_vertexIdAt_eq
  target := target.alone_vertexIdAt_eq
  values := alone_propertyValues_eq registry properties

end

end DocGraph
