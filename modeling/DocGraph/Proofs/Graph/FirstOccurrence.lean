import DocGraph.Proofs.Graph.Portion

/-!
# First occurrences

A vertex with dynamic fields is written by the first record that carries its identifier, unless
it was written before. Later records with the identifier are not looked at any further, so that
nothing in them can fail. Cutting the records into pieces makes no difference, as long as the
pieces share the vertices written.

## Main definitions

* `newIds`: the identifiers that were not there before, in the order of their first occurrence.
* `WritesFirst`: what records give, said with first occurrences.
* `DataStatement.upsertKey?`: the vertex that a statement writes by itself.

## Main results

* `upsertsOf_eq_ok_iff`: records succeed exactly if every identifier is there and the first
  record with each new one has a statement.
* `firstOccurrence_of_dynamic`: what this means for whole mappings, for pieces of a document and
  for all statements of a document.
-/

namespace DocGraph

open Generation

/-! ## Identifiers that are new -/

/-- The identifiers that are not in a list of known ones, each once, in the order of their first
occurrence. -/
def newIds (seen ids : List VertexId) : List VertexId := (ids.filter (· ∉ seen)).eraseDups

theorem newIds_cons_of_mem {seen : List VertexId} {id : VertexId} (ids : List VertexId)
    (known : id ∈ seen) : newIds seen (id :: ids) = newIds seen ids := by
  simp [newIds, known]

theorem newIds_cons_of_not_mem {seen : List VertexId} {id : VertexId} (ids : List VertexId)
    (fresh : id ∉ seen) : newIds seen (id :: ids) = id :: newIds (seen ++ [id]) ids := by
  have others (other : VertexId) : (!other == id && decide (other ∉ seen)) =
      decide (other ∉ seen ++ [id]) := by
    by_cases same : other = id <;> simp [same]
  rw [newIds, List.filter_cons_of_pos (by simpa using fresh), List.eraseDups_cons,
    List.filter_filter]
  simp only [others, newIds]

theorem mem_newIds {seen ids : List VertexId} {id : VertexId} :
    id ∈ newIds seen ids ↔ id ∈ ids ∧ id ∉ seen := by
  simp [newIds]

theorem mem_append_newIds (seen ids : List VertexId) (id : VertexId) :
    id ∈ seen ++ newIds seen ids ↔ id ∈ seen ∨ id ∈ ids := by
  by_cases known : id ∈ seen <;> simp [mem_newIds, known]

theorem nodup_newIds (seen ids : List VertexId) : (newIds seen ids).Nodup := by
  induction ids generalizing seen with
  | nil => simp [newIds]
  | cons id ids ih =>
    by_cases known : id ∈ seen
    · rw [newIds_cons_of_mem ids known]
      exact ih seen
    · rw [newIds_cons_of_not_mem ids known, List.nodup_cons]
      exact ⟨fun h => by simp [mem_newIds] at h, ih _⟩

/-! ## The first record with an identifier -/

section

variable (registry : TransformRegistry) (mapping : VertexMapping)

/-- A record carries an identifier under the key of a mapping. -/
def carries (id : VertexId) (record : Json) : Bool :=
  (vertexIdAt record mapping.key).alone.toOption == some id

/-- The vertex that a statement writes by itself: its tag and its identifier. -/
def DataStatement.upsertKey? : DataStatement → Option (String × VertexId)
  | .upsertVertex tag _ row => some (tag, row.id)
  | _ => none

/-- A statement writes a single vertex, from the first of the records that carries its
identifier. -/
def IsFirstUpsert (records : List Json) (id : VertexId) (statement : DataStatement) : Prop :=
  statement.upsertKey? = some (mapping.tag, id) ∧
    ∃ record, records.find? (carries mapping id) = some record ∧
      (upsert registry mapping id record).alone = .ok statement

/-- Records give one statement for every identifier that is not written already, from the first
record with this identifier. -/
structure WritesFirst (seen : List VertexId) (records : List Json) (ids : List VertexId)
    (statements : List DataStatement) (after : List VertexId) : Prop where
  /-- All records have identifiers, those of vertices written already included. -/
  carried : List.Forall₂ (fun record id => (vertexIdAt record mapping.key).alone = .ok id)
    records ids
  written : List.Forall₂ (IsFirstUpsert registry mapping records) (newIds seen ids) statements
  after_eq : after = seen ++ newIds seen ids
  mem_after : ∀ id, id ∈ after ↔ id ∈ seen ∨ id ∈ ids

/-- A record in front of others makes no difference to identifiers that it does not carry. -/
theorem isFirstUpsert_cons_iff {record : Json} {rest : List Json} {id other : VertexId}
    (h : (vertexIdAt record mapping.key).alone = .ok id) (ne : other ≠ id)
    (statement : DataStatement) :
    IsFirstUpsert registry mapping (record :: rest) other statement ↔
      IsFirstUpsert registry mapping rest other statement := by
  have passed : carries mapping other record = false := by
    simpa [carries, h, Except.toOption] using ne.symm
  simp [IsFirstUpsert, passed]

theorem forall₂_isFirstUpsert_cons_iff {record : Json} {rest : List Json} {id : VertexId}
    {ids : List VertexId} {statements : List DataStatement}
    (h : (vertexIdAt record mapping.key).alone = .ok id) (ne : ∀ other ∈ ids, other ≠ id) :
    List.Forall₂ (IsFirstUpsert registry mapping (record :: rest)) ids statements ↔
      List.Forall₂ (IsFirstUpsert registry mapping rest) ids statements := by
  constructor
  · intro given
    refine ((List.forall₂_and_left _ _).mpr ⟨ne, given⟩).imp fun other statement => ?_
    exact fun ⟨apart, given⟩ => (isFirstUpsert_cons_iff registry mapping h apart _).mp given
  · intro given
    refine ((List.forall₂_and_left _ _).mpr ⟨ne, given⟩).imp fun other statement => ?_
    exact fun ⟨apart, given⟩ => (isFirstUpsert_cons_iff registry mapping h apart _).mpr given

variable {registry mapping} {seen after ids : List VertexId} {record : Json} {rest : List Json}
  {id : VertexId} {statements : List DataStatement}

theorem writesFirst_nil (seen : List VertexId) :
    WritesFirst registry mapping seen [] [] [] seen :=
  ⟨.nil, .nil, by simp [newIds], by simp⟩

/-- A record whose vertex is written already adds nothing. -/
theorem writesFirst_cons_of_mem (h : (vertexIdAt record mapping.key).alone = .ok id)
    (known : id ∈ seen) :
    WritesFirst registry mapping seen (record :: rest) (id :: ids) statements after ↔
      WritesFirst registry mapping seen rest ids statements after := by
  -- The record carries none of the identifiers that the others are new with.
  have ne : ∀ other ∈ newIds seen ids, other ≠ id := by
    rintro other new rfl
    exact (mem_newIds.mp new).2 known
  constructor
  · rintro ⟨carried, written, after_eq, mem_after⟩
    rw [newIds_cons_of_mem ids known] at written after_eq
    exact ⟨(List.forall₂_cons.mp carried).2,
      (forall₂_isFirstUpsert_cons_iff registry mapping h ne).mp written, after_eq,
      fun other => after_eq ▸ mem_append_newIds seen ids other⟩
  · rintro ⟨carried, written, after_eq, mem_after⟩
    refine ⟨.cons h carried, ?_, ?_, ?_⟩
    · rw [newIds_cons_of_mem ids known]
      exact (forall₂_isFirstUpsert_cons_iff registry mapping h ne).mpr written
    · rw [newIds_cons_of_mem ids known]
      exact after_eq
    · intro other
      by_cases same : other = id <;> simp [mem_after, same, known]

/-- A record whose vertex is not written yet writes it, and the others know of it. -/
theorem writesFirst_cons_of_not_mem (h : (vertexIdAt record mapping.key).alone = .ok id)
    (fresh : id ∉ seen) :
    WritesFirst registry mapping seen (record :: rest) (id :: ids) statements after ↔
      ∃ statement others, (upsert registry mapping id record).alone = .ok statement ∧
        WritesFirst registry mapping (seen ++ [id]) rest ids others after ∧
        statements = statement :: others := by
  -- Behind the record its identifier is not new any more.
  have ne : ∀ other ∈ newIds (seen ++ [id]) ids, other ≠ id := by
    rintro other new rfl
    exact (mem_newIds.mp new).2 (by simp)
  have carrier : (record :: rest).find? (carries mapping id) = some record := by
    simp [carries, h, Except.toOption]
  constructor
  · rintro ⟨carried, written, after_eq, mem_after⟩
    rw [newIds_cons_of_not_mem ids fresh] at written after_eq
    obtain ⟨statement, others, ⟨-, first, found, given⟩, further, rfl⟩ :=
      List.forall₂_cons_left_iff.mp written
    obtain rfl : record = first := by simpa [carrier] using found
    have first := (forall₂_isFirstUpsert_cons_iff registry mapping h ne).mp further
    refine ⟨statement, others, given,
      ⟨(List.forall₂_cons.mp carried).2, first, by simpa using after_eq, fun other => ?_⟩, rfl⟩
    rw [mem_after]
    simp [or_assoc]
  · rintro ⟨statement, others, given, ⟨carried, written, after_eq, mem_after⟩, rfl⟩
    obtain ⟨columns, values, rfl⟩ := alone_upsert_eq registry mapping given
    refine ⟨.cons h carried, ?_, ?_, ?_⟩
    · rw [newIds_cons_of_not_mem ids fresh]
      exact .cons ⟨rfl, record, carrier, given⟩
        ((forall₂_isFirstUpsert_cons_iff registry mapping h ne).mpr written)
    · rw [newIds_cons_of_not_mem ids fresh]
      simpa using after_eq
    · intro other
      rw [mem_after]
      simp [or_assoc]

/-- Records succeed exactly if all of them have identifiers and the first record with each new
identifier has a statement. -/
theorem upsertsOf_eq_ok_iff {records : List Json} :
    upsertsOf registry mapping records seen = (.ok statements, after) ↔
      ∃ ids, WritesFirst registry mapping seen records ids statements after := by
  induction records generalizing seen statements with
  | nil =>
    constructor
    · rintro ⟨⟩
      exact ⟨[], writesFirst_nil _⟩
    · rintro ⟨ids, ⟨carried, written, after_eq, -⟩⟩
      cases carried
      simp only [newIds, List.filter_nil, List.eraseDups_nil, List.forall₂_nil_left_iff,
        List.append_nil] at written after_eq
      rw [written, after_eq]
      rfl
  | cons record rest ih =>
    rw [upsertsOf_cons_eq_ok_iff]
    constructor
    · rintro ⟨id, key, ⟨known, passed⟩ | ⟨fresh, statement, others, given, further, rfl⟩⟩
      · obtain ⟨ids, first⟩ := ih.mp passed
        exact ⟨id :: ids, (writesFirst_cons_of_mem key known).mpr first⟩
      · obtain ⟨ids, first⟩ := ih.mp further
        exact ⟨id :: ids, (writesFirst_cons_of_not_mem key fresh).mpr
          ⟨statement, others, given, first, rfl⟩⟩
    · rintro ⟨ids, first⟩
      obtain ⟨id, others, key, -, rfl⟩ := List.forall₂_cons_left_iff.mp first.carried
      refine ⟨id, key, ?_⟩
      by_cases known : id ∈ seen
      · exact .inl ⟨known, ih.mpr ⟨others, (writesFirst_cons_of_mem key known).mp first⟩⟩
      · obtain ⟨statement, statements, given, further, rfl⟩ :=
          (writesFirst_cons_of_not_mem key known).mp first
        exact .inr ⟨known, statement, statements, given, ih.mpr ⟨others, further⟩, rfl⟩

end

/-! ## Pieces of a document -/

/-- Pieces whose records are those of a document, taken one after the other, have the effect of
the whole document. -/
theorem hasEffect_pieces (registry : TransformRegistry) (mapping : VertexMapping)
    (dynamic : mapping.dynamicFields.enabled = true) (size : Nat) {pieces : List Json}
    {blocks : List (List Json)}
    (h : List.Forall₂ (fun piece block => (recordsAt piece mapping.source).alone = .ok block)
      pieces blocks) :
    HasEffect (do
        return (← pieces.mapM fun piece => vertexStatements registry mapping piece size).flatten)
      (upsertsOf registry mapping blocks.flatten) := by
  induction h with
  | nil => exact .pure []
  | @cons piece block pieces blocks found h ih =>
    have split : (do return (← (piece :: pieces).mapM fun piece =>
          vertexStatements registry mapping piece size).flatten) =
        vertexStatements registry mapping piece size >>= fun first =>
          (pieces.mapM (fun piece => vertexStatements registry mapping piece size) >>=
            fun parts => pure parts.flatten) >>= fun others => pure (first ++ others) := by
      simp only [List.mapM_cons, bind_assoc, pure_bind, List.flatten_cons]
    have first := hasEffect_vertexStatements_dynamic registry mapping dynamic piece size
    simp only [found] at first
    -- The other pieces start from the vertices that this one has written.
    rw [split]
    refine (HasEffect.bind first fun statements => HasEffect.bind ih fun others =>
      .pure (statements ++ others)).congr fun seen => ?_
    rw [List.flatten_cons, upsertsOf_append]
    simp only [Effect.andThen]
    rcases upsertsOf registry mapping block seen with ⟨_ | statements, left⟩
    · rfl
    · dsimp only
      rcases upsertsOf registry mapping blocks.flatten left with ⟨_ | _, _⟩ <;> rfl

/-! ## Vertices of a whole document -/

/-- The vertices that statements write by themselves. -/
def upsertKeys (statements : List DataStatement) : List (String × VertexId) :=
  statements.filterMap DataStatement.upsertKey?

theorem upsertKeys_of_forall₂ {registry : TransformRegistry} {mapping : VertexMapping}
    {records : List Json} {ids : List VertexId} {statements : List DataStatement}
    (h : List.Forall₂ (IsFirstUpsert registry mapping records) ids statements) :
    upsertKeys statements = ids.map fun id => (mapping.tag, id) := by
  induction h with
  | nil => rfl
  | cons first _ ih => simpa [upsertKeys, first.1] using ih

/-- The vertices that a vertex mapping writes by statements of their own are new to its tag. -/
theorem upsertKeys_vertexPortion {registry : TransformRegistry} {document : Json}
    {mapping : VertexMapping} {seen after : List VertexId} {portion : Portion} (size : Nat)
    (h : vertexPortion registry document mapping seen = (.ok portion, after)) :
    ∃ new : List VertexId,
      upsertKeys (portion.statements size) = new.map (fun id => (mapping.tag, id)) ∧
      new.Nodup ∧ (∀ id ∈ new, id ∉ seen) ∧ after = seen ++ new := by
  cases dynamic : mapping.dynamicFields.enabled with
  | true =>
    obtain ⟨records, statements, -, written, rfl⟩ :=
      vertexPortion_dynamic_eq_ok registry document dynamic h
    obtain ⟨ids, first⟩ := upsertsOf_eq_ok_iff.mp written
    exact ⟨newIds seen ids, upsertKeys_of_forall₂ first.written, nodup_newIds seen ids,
      fun id new => (mem_newIds.mp new).2, first.after_eq⟩
  | false =>
    obtain ⟨rows, -, rfl, rfl⟩ := vertexPortion_static_eq_ok registry document dynamic h
    exact ⟨[], by simp [upsertKeys, Portion.statements, DataStatement.upsertKey?], by simp⟩

/-- No vertex is written twice by statements of its own, and none that was known before. -/
theorem upsertKeys_vertexPortions {registry : TransformRegistry} {document : Json}
    {mappings : List VertexMapping} {known : SeenByTag} {portions : List Portion} (size : Nat)
    (h : vertexPortions registry document known mappings = .ok portions) :
    (upsertKeys (portions.flatMap (·.statements size))).Nodup ∧
      ∀ tag id, (tag, id) ∈ upsertKeys (portions.flatMap (·.statements size)) →
        id ∉ (known.lookup tag).getD [] := by
  induction mappings generalizing known portions with
  | nil =>
    cases h
    simp [upsertKeys]
  | cons mapping rest ih =>
    obtain ⟨portion, after, others, first, further, rfl⟩ :=
      vertexPortions_cons_eq_ok registry document h
    obtain ⟨new, keys, nodup, fresh, rfl⟩ := upsertKeys_vertexPortion size first
    obtain ⟨ihNodup, ihFresh⟩ := ih further
    have split : upsertKeys ((portion :: others).flatMap (·.statements size)) =
        new.map (fun id => (mapping.tag, id)) ++
          upsertKeys (others.flatMap (·.statements size)) := by
      rw [List.flatMap_cons, upsertKeys, List.filterMap_append, ← keys]
      rfl
    -- What is known to the mappings that follow: also the vertices of this one.
    have later (tag : String) (id : VertexId)
        (h : (tag, id) ∈ upsertKeys (others.flatMap (·.statements size))) :
        id ∉ (known.lookup tag).getD [] ∧ (tag = mapping.tag → id ∉ new) := by
      have apart := ihFresh tag id h
      rw [lookup_insertPair] at apart
      by_cases same : tag = mapping.tag
      · subst same
        simpa using apart
      · simpa [same] using apart
    rw [split]
    -- A vertex that a later mapping writes too would be of the same tag, and is known there.
    constructor
    · refine List.nodup_append.mpr ⟨nodup.map fun _ _ h => (Prod.mk.inj h).2, ihNodup, ?_⟩
      rintro key hk ⟨tag, id⟩ ho rfl
      obtain ⟨_, hid, ⟨⟩⟩ := List.mem_map.mp hk
      exact (later _ _ ho).2 rfl hid
    · intro tag id h
      rcases List.mem_append.mp h with h | h
      · obtain ⟨_, hid, ⟨⟩⟩ := List.mem_map.mp h
        exact fresh _ hid
      · exact (later tag id h).1

theorem upsertKeys_edgePortion {registry : TransformRegistry} {document : Json}
    {mapping : EdgeMapping} {portion : Portion} (size : Nat)
    (h : edgePortion registry document mapping = .ok portion) :
    upsertKeys (portion.statements size) = [] := by
  have ofEdge := ofEdge_edgePortion registry document h
  cases portion with
  | edges edge columns rows =>
    simp [upsertKeys, Portion.statements, DataStatement.upsertKey?]
  | _ => exact ofEdge.elim

theorem upsertKeys_edgePortions {registry : TransformRegistry} {document : Json}
    {mappings : List EdgeMapping} {portions : List Portion} (size : Nat)
    (h : List.Forall₂ (fun mapping portion => edgePortion registry document mapping = .ok portion)
      mappings portions) :
    upsertKeys (portions.flatMap (·.statements size)) = [] := by
  induction h with
  | nil => rfl
  | cons first _ ih =>
    rw [List.flatMap_cons, upsertKeys, List.filterMap_append]
    exact List.append_eq_nil_iff.mpr ⟨upsertKeys_edgePortion size first, ih⟩

/-- No vertex of a document is written twice by statements of its own. -/
theorem nodup_upsertKeys_dataStatements {registry : TransformRegistry} {mapping : GraphMapping}
    {document : Json} {size : BatchSize} {session : Session} {statements : List DataStatement}
    (h : (dataStatements registry mapping document size).outcome session = .ok statements) :
    (upsertKeys statements).Nodup := by
  rw [(hasEffect_dataStatements registry document mapping size).outcome_eq] at h
  cases found : portions registry document mapping with
  | error failure => simp [found, Except.map] at h
  | ok found =>
    obtain ⟨vertices, edges, ofVertices, ofEdges, rfl⟩ := portions_eq_ok registry document ‹_›
    obtain rfl : (vertices ++ edges).flatMap (·.statements size.size) = statements := by
      simpa [*, Except.map] using h
    have none := upsertKeys_edgePortions size.size ((mapM_eq_ok_iff _ _ _).mp ofEdges)
    rw [List.flatMap_append, upsertKeys, List.filterMap_append]
    simp only [upsertKeys] at none
    rw [none, List.append_nil]
    exact (upsertKeys_vertexPortions size.size ofVertices).1

/-- Vertices with dynamic fields are written once, from the first record that carries their
identifier. This says which statements a document has and when it has any, that a document cut
into pieces gives the same, and that no vertex of a whole document is written twice. -/
theorem firstOccurrence_of_dynamic (registry : TransformRegistry) (mapping : VertexMapping)
    (dynamic : mapping.dynamicFields.enabled = true) :
    (∀ (document : Json) (size : Nat) (session : Session) (statements : List DataStatement)
        (after : List VertexId),
      (vertexStatements registry mapping document size).outcome session = .ok statements ∧
          ((vertexStatements registry mapping document size).after session).seen = after ↔
        ∃ records ids, (recordsAt document mapping.source).alone = .ok records ∧
          WritesFirst registry mapping session.seen records ids statements after) ∧
    (∀ (document : Json) (pieces : List Json) (blocks : List (List Json)),
      List.Forall₂ (fun piece block => (recordsAt piece mapping.source).alone = .ok block)
        pieces blocks →
      (recordsAt document mapping.source).alone = .ok blocks.flatten →
      ∀ (size : Nat) (session : Session),
        let cut : Generation (List DataStatement) := do
          return (← pieces.mapM fun piece => vertexStatements registry mapping piece size).flatten
        cut.outcome session = (vertexStatements registry mapping document size).outcome session ∧
          (cut.after session).seen =
            ((vertexStatements registry mapping document size).after session).seen) ∧
    ∀ (whole : GraphMapping) (document : Json) (size : BatchSize) (session : Session)
        (statements : List DataStatement),
      (dataStatements registry whole document size).outcome session = .ok statements →
        (upsertKeys statements).Nodup := by
  refine ⟨fun document size session statements after => ?_,
    fun document pieces blocks apart together size session => ?_,
    fun _ _ _ _ _ => nodup_upsertKeys_dataStatements⟩
  · have effect := hasEffect_vertexStatements_dynamic registry mapping dynamic document size
    rw [effect.outcome_eq, effect.seen_after]
    cases found : (recordsAt document mapping.source).alone with
    | error failure => simp
    | ok records =>
      simp only [Except.ok.injEq, exists_and_left, exists_eq_left']
      rw [← upsertsOf_eq_ok_iff, Prod.ext_iff]
  · have effect := hasEffect_vertexStatements_dynamic registry mapping dynamic document size
    have cut := hasEffect_pieces registry mapping dynamic size apart
    simp only [together] at effect
    exact ⟨(cut.outcome_eq session).trans (effect.outcome_eq session).symm,
      (cut.seen_after session).trans (effect.seen_after session).symm⟩

/-! ## Three users of whom two are the same -/

/-- Users with their names, and with everything else that they have. -/
def sampleUsers : VertexMapping where
  tag := "User"
  source := "/users"
  key := "id"
  properties := [{ name := "name", path := "name", type := "STRING" }]
  dynamicFields := { enabled := true }

def sampleKim : Json :=
  .object [("id", .integer 7), ("name", .string "kim"), ("badge", .string "gold")]

/-- A user with the identifier of the one before, without the name that a user needs. -/
def sampleNameless : Json := .object [("id", .string "7")]

def sampleLee : Json := .object [("id", .string "u1"), ("name", .null)]

def sampleDocument (records : List Json) : Json := .object [("users", .array records)]

/-- The statements of the three users. -/
def sampleUpserts : List DataStatement := [
  .upsertVertex "User" ["name", "badge"] ⟨⟨"7"⟩, [.value (.text "kim"), .value (.text "gold")]⟩,
  .upsertVertex "User" ["name"] ⟨⟨"u1"⟩, [.null]⟩]

set_option maxRecDepth 4000 in
theorem firstOccurrence_sampleUsers :
    sampleUsers.dynamicFields.enabled = true ∧
      (∃ records ids, (recordsAt (sampleDocument [sampleKim, sampleNameless, sampleLee])
          "/users").alone = .ok records ∧
        WritesFirst .builtin sampleUsers [] records ids sampleUpserts [⟨"7"⟩, ⟨"u1"⟩]) ∧
      (((do
          return (← [sampleDocument [sampleKim], sampleDocument [sampleNameless, sampleLee]].mapM
            fun piece => vertexStatements .builtin sampleUsers piece 5).flatten) :
          Generation (List DataStatement)).outcome {}) = .ok sampleUpserts ∧
      (upsertKeys sampleUpserts).Nodup := by
  obtain ⟨first, pieces, once⟩ := firstOccurrence_of_dynamic .builtin sampleUsers rfl
  have whole : (vertexStatements .builtin sampleUsers
      (sampleDocument [sampleKim, sampleNameless, sampleLee]) 5).outcome {} =
      .ok sampleUpserts := rfl
  refine ⟨rfl, (first _ 5 {} _ _).mp ⟨whole, rfl⟩, ?_, ?_⟩
  · exact (pieces (sampleDocument [sampleKim, sampleNameless, sampleLee]) _
      [[sampleKim], [sampleNameless, sampleLee]] (.cons rfl (.cons rfl .nil)) rfl 5 {}).1.trans
      whole
  · exact once { vertices := [sampleUsers] }
      (sampleDocument [sampleKim, sampleNameless, sampleLee]) ⟨5, by decide⟩ {} _ rfl

end DocGraph
