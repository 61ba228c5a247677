import DocGraph.Proofs.Graph.Step

/-!
# Vertices that are written once

With dynamic fields, the records of a vertex mapping are taken one after the other. A record
whose vertex is written already is passed over before its properties are looked at; any other
one marks its vertex and gives a statement. Which vertices are written is all that one record
leaves to the next.

## Main definitions

* `upsertsOf`: what records give and leave behind, as a recursion on the records.
-/

namespace DocGraph

open Generation

section

variable (registry : TransformRegistry) (mapping : VertexMapping)

/-- The statements of records one after the other, given the vertices written before them, and
the vertices written after them. -/
def upsertsOf : List Json → Effect (List DataStatement)
  | [], seen => (.ok [], seen)
  | record :: rest, seen =>
    match (vertexIdAt record mapping.key).alone with
    | .error failure => (.error failure, seen)
    | .ok id =>
      if id ∈ seen then upsertsOf rest seen
      else
        match (upsert registry mapping id record).alone with
        | .error failure => (.error failure, seen ++ [id])
        | .ok statement =>
          let (result, seen) := upsertsOf rest (seen ++ [id])
          (result.map (statement :: ·), seen)

/-- What one record gives: nothing if its vertex is written already, and else its statement. -/
theorem hasEffect_upsert? (record : Json) :
    (upsert? registry mapping record).HasEffect fun seen =>
      match (vertexIdAt record mapping.key).alone with
      | .error failure => (.error failure, seen)
      | .ok id =>
        if id ∈ seen then (.ok none, seen)
        else ((upsert registry mapping id record).alone.map some, seen ++ [id]) := by
  have written (id : VertexId) (fresh : Bool) : HasEffect
      (if fresh then do return some (← upsert registry mapping id record) else return none)
      fun seen => (if fresh then (upsert registry mapping id record).alone.map some else .ok none,
        seen) := by
    cases fresh with
    | false => exact .pure none
    | true =>
      refine (Independent.hasEffect_bind (independent_upsert registry mapping id record)
        fun statement => .pure (some statement)).congr fun seen => ?_
      cases (upsert registry mapping id record).alone <;> rfl
  refine (HasEffect.bind (independent_vertexIdAt record mapping.key) fun id =>
    HasEffect.bind (.markSeen id) (written id)).congr fun seen => ?_
  cases (vertexIdAt record mapping.key).alone with
  | error failure => rfl
  | ok id => by_cases h : id ∈ seen <;> simp [Effect.andThen, h]

/-- Records taken one after the other have the effect of the recursion on them. -/
theorem hasEffect_upserts (records : List Json) :
    HasEffect (records.mapM (upsert? registry mapping) >>= fun written =>
        pure (written.filterMap id))
      (upsertsOf registry mapping records) := by
  induction records with
  | nil => exact fun _ => rfl
  | cons record rest ih =>
    have split : ((record :: rest).mapM (upsert? registry mapping) >>= fun written =>
          pure (written.filterMap id)) =
        upsert? registry mapping record >>= fun first =>
          (rest.mapM (upsert? registry mapping) >>= fun written =>
            pure (written.filterMap id)) >>= fun others => pure (first.toList ++ others) := by
      simp only [List.mapM_cons, bind_assoc, pure_bind]
      refine bind_congr fun first => bind_congr fun others => ?_
      cases first <;> rfl
    rw [split]
    -- All that the record leaves to the others is its vertex, if it was not known.
    refine (HasEffect.bind (hasEffect_upsert? registry mapping record) fun first =>
      HasEffect.bind ih fun others => .pure (first.toList ++ others)).congr fun seen => ?_
    simp only [Effect.andThen, upsertsOf]
    cases (vertexIdAt record mapping.key).alone with
    | error failure => rfl
    | ok id =>
      by_cases h : id ∈ seen
      · simp only [h, if_true, Option.toList_none, List.nil_append]
        rcases upsertsOf registry mapping rest seen with ⟨_ | _, _⟩ <;> rfl
      · simp only [h, if_false]
        cases (upsert registry mapping id record).alone with
        | error failure => rfl
        | ok statement =>
          simp only [Except.map]
          rcases upsertsOf registry mapping rest (seen ++ [id]) with ⟨_ | _, _⟩ <;> rfl

/-- The statement of a record, from its declared values and its dynamic properties. -/
theorem alone_upsert (id : VertexId) (record : Json) :
    (upsert registry mapping id record).alone =
      (propertyValues registry record mapping.properties).alone >>= fun values =>
        (dynamicProperties mapping record).alone.map fun dynamic =>
          .upsertVertex mapping.tag (columnNames mapping.properties ++ dynamic.map (·.1))
            ⟨id, values ++ dynamic.map (.value ·.2)⟩ := by
  rw [upsert, alone_bind (independent_propertyValues _ _ _)
    fun _ => .bind (independent_dynamicProperties _ _) fun _ => .pure _]
  exact bind_congr fun values =>
    (Independent.hasEffect_map (independent_dynamicProperties _ _) _).alone_eq

/-- A vertex with dynamic fields is written by a statement of its own. -/
theorem alone_upsert_eq {id : VertexId} {record : Json} {statement : DataStatement}
    (h : (upsert registry mapping id record).alone = .ok statement) :
    ∃ columns values, statement = .upsertVertex mapping.tag columns ⟨id, values⟩ := by
  rw [alone_upsert, bind_eq_ok_iff] at h
  obtain ⟨values, -, h⟩ := h
  obtain ⟨dynamic, -, rfl⟩ := map_eq_ok_iff.mp h
  exact ⟨_, _, rfl⟩

/-- What it takes for a record and those behind it to succeed. A record whose vertex is written
already needs nothing but an identifier. -/
theorem upsertsOf_cons_eq_ok_iff {record : Json} {rest : List Json} {seen after : List VertexId}
    {statements : List DataStatement} :
    upsertsOf registry mapping (record :: rest) seen = (.ok statements, after) ↔
      ∃ id, (vertexIdAt record mapping.key).alone = .ok id ∧
        ((id ∈ seen ∧ upsertsOf registry mapping rest seen = (.ok statements, after)) ∨
          (id ∉ seen ∧ ∃ statement others,
            (upsert registry mapping id record).alone = .ok statement ∧
            upsertsOf registry mapping rest (seen ++ [id]) = (.ok others, after) ∧
            statements = statement :: others)) := by
  rw [upsertsOf]
  cases key : (vertexIdAt record mapping.key).alone with
  | error failure => simp
  | ok id =>
    by_cases known : id ∈ seen
    · simp [known]
    · cases written : (upsert registry mapping id record).alone with
      | error failure => simp [known, written]
      | ok statement =>
        rcases others : upsertsOf registry mapping rest (seen ++ [id]) with ⟨failure | found, left⟩
        · simp [known, written, others, Except.map]
        · simp only [known, written, others, Except.map]
          constructor
          · intro same
            cases same
            exact ⟨id, rfl, .inr ⟨known, statement, found, written, others, rfl⟩⟩
          · rintro ⟨_, ⟨⟩, ⟨seen, -⟩ | ⟨-, _, _, written', others', rfl⟩⟩
            · exact absurd seen known
            · cases written.symm.trans written'
              cases others.symm.trans others'
              rfl

/-- What it takes for a record and those behind it to fail. -/
theorem upsertsOf_cons_eq_error_iff {record : Json} {rest : List Json} {seen after : List VertexId}
    {failure : Failure} :
    upsertsOf registry mapping (record :: rest) seen = (.error failure, after) ↔
      (vertexIdAt record mapping.key).alone = .error failure ∧ after = seen ∨
        ∃ id, (vertexIdAt record mapping.key).alone = .ok id ∧
          (id ∈ seen ∧ upsertsOf registry mapping rest seen = (.error failure, after) ∨
            id ∉ seen ∧
              ((upsert registry mapping id record).alone = .error failure ∧ after = seen ++ [id] ∨
                ∃ statement, (upsert registry mapping id record).alone = .ok statement ∧
                  upsertsOf registry mapping rest (seen ++ [id]) = (.error failure, after))) := by
  rw [upsertsOf]
  cases key : (vertexIdAt record mapping.key).alone with
  | error missing => simp [eq_comm]
  | ok id =>
    by_cases known : id ∈ seen
    · simp [known]
    · cases given : (upsert registry mapping id record).alone with
      | error unread => simp [known, given, eq_comm]
      | ok statement =>
        rcases others : upsertsOf registry mapping rest (seen ++ [id]) with ⟨_ | _, left⟩ <;>
          simp [known, given, others, Except.map]

/-- Every statement of records taken one after the other is that of one of them. -/
theorem exists_record_of_upsertsOf {records : List Json} {seen after : List VertexId}
    {statements : List DataStatement}
    (h : upsertsOf registry mapping records seen = (.ok statements, after)) :
    ∀ statement ∈ statements, ∃ record ∈ records, ∃ id,
      (vertexIdAt record mapping.key).alone = .ok id ∧
        (upsert registry mapping id record).alone = .ok statement := by
  induction records generalizing seen statements with
  | nil =>
    cases h
    simp
  | cons record rest ih =>
    have later {others : List DataStatement} {known : List VertexId}
        (h : upsertsOf registry mapping rest known = (.ok others, after)) :
        ∀ statement ∈ others, ∃ other ∈ record :: rest, ∃ id,
          (vertexIdAt other mapping.key).alone = .ok id ∧
            (upsert registry mapping id other).alone = .ok statement := by
      intro statement mem
      obtain ⟨other, among, found⟩ := ih h statement mem
      exact ⟨other, List.mem_cons_of_mem _ among, found⟩
    obtain ⟨id, key, ⟨-, passed⟩ | ⟨-, statement, others, written, further, rfl⟩⟩ :=
      (upsertsOf_cons_eq_ok_iff registry mapping).mp h
    · exact later passed
    · exact List.forall_mem_cons.mpr
        ⟨⟨record, List.mem_cons_self, id, key, written⟩, later further⟩

/-- Records taken one after the other give statements for single vertices of the tag. -/
theorem forall_upsertsOf {records : List Json} {seen after : List VertexId}
    {statements : List DataStatement}
    (h : upsertsOf registry mapping records seen = (.ok statements, after)) :
    ∀ statement ∈ statements,
      ∃ columns row, statement = .upsertVertex mapping.tag columns row := by
  intro statement mem
  obtain ⟨record, -, id, -, written⟩ := exists_record_of_upsertsOf registry mapping h statement mem
  obtain ⟨columns, values, rfl⟩ := alone_upsert_eq registry mapping written
  exact ⟨columns, _, rfl⟩

/-- Records behind others start from the vertices that the others have written. -/
theorem upsertsOf_append (first others : List Json) :
    upsertsOf registry mapping (first ++ others) =
      Effect.andThen (upsertsOf registry mapping first) fun statements seen =>
        ((upsertsOf registry mapping others seen).1.map (statements ++ ·),
          (upsertsOf registry mapping others seen).2) := by
  funext seen
  induction first generalizing seen with
  | nil =>
    rcases found : upsertsOf registry mapping others seen with ⟨_ | _, _⟩ <;>
      simp [upsertsOf, Effect.andThen, found, Except.map]
  | cons record rest ih =>
    simp only [List.cons_append, upsertsOf, Effect.andThen]
    cases (vertexIdAt record mapping.key).alone with
    | error failure => rfl
    | ok id =>
      by_cases known : id ∈ seen
      · simp only [known, if_true, ih, Effect.andThen]
      · simp only [known, if_false]
        cases (upsert registry mapping id record).alone with
        | error failure => rfl
        | ok statement =>
          simp only [ih, Effect.andThen]
          rcases upsertsOf registry mapping rest (seen ++ [id]) with ⟨_ | _, left⟩
          · rfl
          · simp only [Except.map]
            cases (upsertsOf registry mapping others left).1 <;> rfl

/-- The statements of a vertex mapping with dynamic fields. -/
theorem hasEffect_vertexStatements_dynamic (dynamic : mapping.dynamicFields.enabled = true)
    (document : Json) (size : Nat) :
    (vertexStatements registry mapping document size).HasEffect fun seen =>
      match (recordsAt document mapping.source).alone with
      | .error failure => (.error failure, seen)
      | .ok records => upsertsOf registry mapping records seen := by
  simp only [vertexStatements, dynamic, if_true]
  refine (HasEffect.bind (independent_recordsAt document mapping.source)
    (hasEffect_upserts registry mapping)).congr fun seen => ?_
  cases (recordsAt document mapping.source).alone <;> rfl

end

end DocGraph
