import DocGraph.Proofs.Graph.FirstOccurrence

/-!
# What a failure leaves behind

A vertex with dynamic fields counts as written as soon as its identifier is read, before its
properties are. When a record fails, the statements of the records before it are lost, but their
vertices stay known, and so does that of the record itself unless its key has failed. If the step
is taken again with another document, it passes over all of these vertices.

## Main definitions

* `BreaksOff`: records that fail at one of them, and the identifiers read until then.
* `FailsHavingRead`: a document that fails, and the identifiers read until then.

## Main results

* `upsertsOf_eq_error_iff`: when records fail, and what they leave behind.
* `seen_after_failure`: what a document that fails leaves behind, and what another one gives after
  it.
-/

namespace DocGraph

open Generation

/-- What is new depends only on which identifiers are known, not on their order. -/
theorem newIds_congr {seen known : List VertexId} (same : ∀ id, id ∈ seen ↔ id ∈ known)
    (ids : List VertexId) : newIds seen ids = newIds known ids := by
  simp only [newIds, same]

theorem newIds_concat {seen ids : List VertexId} {id : VertexId} (fresh : id ∉ seen)
    (unread : id ∉ ids) : newIds seen (ids ++ [id]) = newIds seen ids ++ [id] := by
  have alone : [id].removeAll (ids.filter (· ∉ seen)) = [id] := by
    simp [List.removeAll, unread]
  simp only [newIds, List.filter_append, List.eraseDups_append]
  rw [List.filter_cons_of_pos (by simpa using fresh), List.filter_nil, alone]
  rfl

/-! ## Records that fail -/

section

variable (registry : TransformRegistry) (mapping : VertexMapping)

/-- The records before one of them succeed, and this one fails. The last argument has the
identifiers that are read from the records, in their order. -/
inductive BreaksOff (seen : List VertexId) (records : List Json) (failure : Failure) :
    List VertexId → Prop
  /-- The key of the record fails. -/
  | atKey {before : List Json} {record : Json} {later : List Json} {ids : List VertexId}
      {statements : List DataStatement} {after : List VertexId}
      (split : records = before ++ record :: later)
      (written : WritesFirst registry mapping seen before ids statements after)
      (failed : (vertexIdAt record mapping.key).alone = .error failure) :
      BreaksOff seen records failure ids
  /-- The record is the first one with its identifier, and a property fails. -/
  | atProperty {before : List Json} {record : Json} {later : List Json} {ids : List VertexId}
      {statements : List DataStatement} {after : List VertexId} {id : VertexId}
      (split : records = before ++ record :: later)
      (written : WritesFirst registry mapping seen before ids statements after)
      (key : (vertexIdAt record mapping.key).alone = .ok id) (fresh : id ∉ after)
      (failed : (upsert registry mapping id record).alone = .error failure) :
      BreaksOff seen records failure (ids ++ [id])

/-- A document fails: it has no records, so that nothing is read, or one of them fails. -/
def FailsHavingRead (document : Json) (seen : List VertexId) (failure : Failure)
    (read : List VertexId) : Prop :=
  (recordsAt document mapping.source).alone = .error failure ∧ read = [] ∨
    ∃ records, (recordsAt document mapping.source).alone = .ok records ∧
      BreaksOff registry mapping seen records failure read

variable {registry mapping} {seen after read : List VertexId} {record : Json} {rest : List Json}
  {id : VertexId} {statement : DataStatement} {failure : Failure}

/-- A record whose vertex is known makes no difference to the failure of the others. -/
theorem BreaksOff.cons_of_mem (h : BreaksOff registry mapping seen rest failure read)
    (key : (vertexIdAt record mapping.key).alone = .ok id) (known : id ∈ seen) :
    BreaksOff registry mapping seen (record :: rest) failure (id :: read) := by
  cases h with
  | atKey split written failed =>
    exact .atKey (by rw [split, List.cons_append])
      ((writesFirst_cons_of_mem key known).mpr written) failed
  | atProperty split written further fresh failed =>
    exact .atProperty (by rw [split, List.cons_append])
      ((writesFirst_cons_of_mem key known).mpr written) further fresh failed

/-- A record that is written makes its vertex known to the others. -/
theorem BreaksOff.cons_of_not_mem
    (h : BreaksOff registry mapping (seen ++ [id]) rest failure read)
    (key : (vertexIdAt record mapping.key).alone = .ok id) (fresh : id ∉ seen)
    (given : (upsert registry mapping id record).alone = .ok statement) :
    BreaksOff registry mapping seen (record :: rest) failure (id :: read) := by
  cases h with
  | atKey split written failed =>
    exact .atKey (by rw [split, List.cons_append])
      ((writesFirst_cons_of_not_mem key fresh).mpr ⟨statement, _, given, written, rfl⟩) failed
  | atProperty split written further unread failed =>
    exact .atProperty (by rw [split, List.cons_append])
      ((writesFirst_cons_of_not_mem key fresh).mpr ⟨statement, _, given, written, rfl⟩)
      further unread failed

/-- Records that fail do so at one of them. -/
theorem exists_breaksOff {records : List Json}
    (h : upsertsOf registry mapping records seen = (.error failure, after)) :
    ∃ read, BreaksOff registry mapping seen records failure read ∧
      after = seen ++ newIds seen read := by
  induction records generalizing seen with
  | nil => cases h
  | cons record rest ih =>
    -- Nothing is read before the first record.
    have first : WritesFirst registry mapping seen [] [] [] seen := writesFirst_nil seen
    obtain ⟨missing, rfl⟩ | ⟨id, key, ⟨known, others⟩ | ⟨fresh, failing⟩⟩ :=
      (upsertsOf_cons_eq_error_iff registry mapping).mp h
    · exact ⟨[], .atKey rfl first missing, by simp [newIds]⟩
    · obtain ⟨read, broken, rfl⟩ := ih others
      exact ⟨id :: read, broken.cons_of_mem key known, by rw [newIds_cons_of_mem read known]⟩
    · rcases failing with ⟨unread, rfl⟩ | ⟨statement, given, others⟩
      · exact ⟨[id], .atProperty rfl first key fresh unread,
          by rw [newIds_cons_of_not_mem [] fresh]; rfl⟩
      · obtain ⟨read, broken, rfl⟩ := ih others
        exact ⟨id :: read, broken.cons_of_not_mem key fresh given,
          by rw [newIds_cons_of_not_mem read fresh, List.append_assoc, List.singleton_append]⟩

/-- Records fail exactly if one of them fails after those before it have succeeded. What was read
is known afterwards. -/
theorem upsertsOf_eq_error_iff {records : List Json} :
    upsertsOf registry mapping records seen = (.error failure, after) ↔
      ∃ read, BreaksOff registry mapping seen records failure read ∧
        after = seen ++ newIds seen read := by
  refine ⟨exists_breaksOff, ?_⟩
  rintro ⟨read, broken, rfl⟩
  cases broken with
  | atKey split written failed =>
    rw [split, upsertsOf_append, Effect.andThen, upsertsOf_eq_ok_iff.mpr ⟨_, written⟩]
    simp only [upsertsOf, failed, Except.map, written.after_eq]
  | @atProperty before record later ids statements left id split written key fresh failed =>
    obtain ⟨notSeen, notRead⟩ := not_or.mp (mt (written.mem_after id).mpr fresh)
    rw [split, upsertsOf_append, Effect.andThen, upsertsOf_eq_ok_iff.mpr ⟨_, written⟩,
      newIds_concat notSeen notRead]
    simp only [upsertsOf, key, if_neg fresh, failed, Except.map]
    rw [written.after_eq, List.append_assoc]

end

/-! ## Documents that fail -/

section

variable {registry : TransformRegistry} {mapping : VertexMapping} {document : Json} {size : Nat}

/-- When the statements of a vertex with dynamic fields are there. -/
theorem outcome_eq_ok_iff_of_dynamic (dynamic : mapping.dynamicFields.enabled = true)
    {session : Session} {statements : List DataStatement} :
    (vertexStatements registry mapping document size).outcome session = .ok statements ↔
      ∃ records ids, (recordsAt document mapping.source).alone = .ok records ∧
        List.Forall₂ (fun record id => (vertexIdAt record mapping.key).alone = .ok id)
          records ids ∧
        List.Forall₂ (IsFirstUpsert registry mapping records) (newIds session.seen ids)
          statements := by
  rw [(hasEffect_vertexStatements_dynamic registry mapping dynamic document size).outcome_eq]
  cases (recordsAt document mapping.source).alone with
  | error failure => simp
  | ok records =>
    simp only [Except.ok.injEq, exists_and_left, exists_eq_left']
    constructor
    · intro given
      obtain ⟨ids, first⟩ := upsertsOf_eq_ok_iff.mp (Prod.ext given rfl)
      exact ⟨ids, first.carried, first.written⟩
    · rintro ⟨ids, carried, written⟩
      have first : WritesFirst registry mapping session.seen records ids statements
          (session.seen ++ newIds session.seen ids) :=
        ⟨carried, written, rfl, mem_append_newIds session.seen ids⟩
      rw [upsertsOf_eq_ok_iff.mpr ⟨ids, first⟩]

/-- When they fail, and what is known then. -/
theorem outcome_eq_error_iff_of_dynamic (dynamic : mapping.dynamicFields.enabled = true)
    {session : Session} {failure : Failure} {after : List VertexId} :
    ((vertexStatements registry mapping document size).outcome session = .error failure ∧
        ((vertexStatements registry mapping document size).after session).seen = after) ↔
      ∃ read, FailsHavingRead registry mapping document session.seen failure read ∧
        after = session.seen ++ newIds session.seen read := by
  have effect := hasEffect_vertexStatements_dynamic registry mapping dynamic document size
  rw [effect.outcome_eq, effect.seen_after]
  unfold FailsHavingRead
  cases (recordsAt document mapping.source).alone with
  | error missing =>
    simp only [Except.error.injEq, reduceCtorEq, false_and, exists_false, or_false, and_assoc,
      exists_and_left, exists_eq_left, newIds, List.filter_nil, List.eraseDups_nil,
      List.append_nil, eq_comm]
  | ok records =>
    simp only [reduceCtorEq, false_and, Except.ok.injEq, exists_eq_left', false_or]
    rw [← upsertsOf_eq_error_iff, Prod.ext_iff]

end

/-- A document that fails leaves behind what was known before it and the identifiers that were read
from its records, up to the one that failed. Another document after it gives statements for its
other identifiers, each from the first record that carries it. -/
theorem seen_after_failure (registry : TransformRegistry) (mapping : VertexMapping)
    (dynamic : mapping.dynamicFields.enabled = true) (document : Json) (size : Nat)
    (session : Session) (failure : Failure)
    (failed : (vertexStatements registry mapping document size).outcome session =
      .error failure) :
    ∃ read, FailsHavingRead registry mapping document session.seen failure read ∧
      ((vertexStatements registry mapping document size).after session).seen =
        session.seen ++ newIds session.seen read ∧
      ∀ (corrected : Json) (size' : Nat) (again : Session) (statements : List DataStatement),
        again.seen = ((vertexStatements registry mapping document size).after session).seen →
        ((vertexStatements registry mapping corrected size').outcome again = .ok statements ↔
          ∃ records ids, (recordsAt corrected mapping.source).alone = .ok records ∧
            List.Forall₂ (fun record id => (vertexIdAt record mapping.key).alone = .ok id)
              records ids ∧
            List.Forall₂ (IsFirstUpsert registry mapping records)
              (newIds (session.seen ++ read) ids) statements) := by
  obtain ⟨read, broken, left⟩ := (outcome_eq_error_iff_of_dynamic dynamic).mp ⟨failed, rfl⟩
  refine ⟨read, broken, left, fun corrected size' again statements same => ?_⟩
  have known (id : VertexId) : id ∈ again.seen ↔ id ∈ session.seen ++ read := by
    rw [same, left, mem_append_newIds, List.mem_append]
  rw [outcome_eq_ok_iff_of_dynamic dynamic]
  simp only [newIds_congr known]

/-- A user without the name that a user needs. -/
def sampleUnnamed : Json := .object [("id", .string "u1")]

def unnamedFailure : Failure := .data (.value (.notFound "name") "name" "name")

theorem outcome_sampleUnnamed :
    (vertexStatements .builtin sampleUsers (sampleDocument [sampleKim, sampleUnnamed])
      5).outcome {} = .error unnamedFailure := rfl

/-- Of the two users the second one fails. Both are known afterwards. -/
theorem seen_after_failure_sampleUnnamed :
    sampleUsers.dynamicFields.enabled = true ∧
      (vertexStatements .builtin sampleUsers (sampleDocument [sampleKim, sampleUnnamed])
        5).outcome {} = .error unnamedFailure ∧
      ∃ read, FailsHavingRead .builtin sampleUsers (sampleDocument [sampleKim, sampleUnnamed]) []
          unnamedFailure read ∧
        [⟨"7"⟩, ⟨"u1"⟩] = newIds [] read := by
  obtain ⟨read, broken, left, -⟩ := seen_after_failure .builtin sampleUsers rfl
    (sampleDocument [sampleKim, sampleUnnamed]) 5 {} unnamedFailure outcome_sampleUnnamed
  exact ⟨rfl, outcome_sampleUnnamed, read, broken, left⟩

/-- So the failure does not keep what is known as it was, and with the name of the second user
there are no statements for either of them. -/
theorem not_forall_seen_kept :
    ¬ ∀ (registry : TransformRegistry) (mapping : VertexMapping) (document corrected : Json)
        (size : Nat) (session : Session) (failure : Failure) (statements : List DataStatement)
        (records : List Json),
      mapping.dynamicFields.enabled = true →
      (vertexStatements registry mapping document size).outcome session = .error failure →
      (∀ id, id ∈ ((vertexStatements registry mapping document size).after session).seen ↔
        id ∈ session.seen) ∧
      ((vertexStatements registry mapping corrected size).outcome
          ((vertexStatements registry mapping document size).after session) = .ok statements →
        (recordsAt corrected mapping.source).alone = .ok records →
        ∀ record ∈ records, ∀ id, (vertexIdAt record mapping.key).alone = .ok id →
          id ∉ session.seen → (mapping.tag, id) ∈ upsertKeys statements) := by
  intro kept
  obtain ⟨-, again⟩ := kept .builtin sampleUsers (sampleDocument [sampleKim, sampleUnnamed])
    (sampleDocument [sampleKim, sampleLee]) 5 {} unnamedFailure [] [sampleKim, sampleLee] rfl
    outcome_sampleUnnamed
  have written : ("User", ⟨"u1"⟩) ∈ upsertKeys [] :=
    again rfl rfl sampleLee (by simp) ⟨"u1"⟩ rfl (by simp)
  cases written

end DocGraph
