import DocGraph.Proofs.Graph.Alike
import DocGraph.Proofs.Mapping.Built

/-!
# What is not read

Of the records under its sources a mapping reads what its paths lead to and, with dynamic fields,
the single values of the keys that are not excluded. Nothing else in a document matters: neither
for the statements nor for the failure. So the value of an excluded key may be anything, as long
as no path of the mapping starts with the key.

## Main definitions

* `AgreeAt`: two records of which a path tells the same.
* `VertexMapping.AgreeOn`, `EdgeMapping.AgreeOn`, `GraphMapping.AgreeOn`: two records, or
  documents, that agree on all that is read.
* `Json.replaceIn`: a document with another value under a key of one record.

## Main results

* `unread_is_irrelevant`: what is not read has no effect.
-/

namespace DocGraph

open Generation

/-! ## Failures of paths -/

theorem append_ne_append {p q : String} (n : Nat) (inside : n ≤ p.toList.length)
    (inside' : n ≤ q.toList.length) (apart : p.toList.take n ≠ q.toList.take n) (s t : String) :
    p ++ s ≠ q ++ t := by
  intro same
  have chars := congrArg (fun text => text.toList.take n) same
  simp only [String.toList_append, List.take_append_of_le_length inside,
    List.take_append_of_le_length inside'] at chars
  exact apart chars

theorem DigitExcess.message_injective : Function.Injective DigitExcess.message := by
  intro a b same
  have counts := (String.append_left_inj _).mp ((String.append_right_inj _).mp same)
  exact DigitExcess.ext (Nat.repr_inj.mp counts)

/-- The wording of a fault tells what it is, and at which segment or of how many digits. -/
theorem PathFault.message_injective : Function.Injective PathFault.message := by
  intro a b same
  cases a <;> cases b
  case expectedArray.expectedArray | indexOutOfBounds.indexOutOfBounds
      | expectedObject.expectedObject | notFound.notFound =>
    exact congrArg _ ((String.append_right_inj _).mp same)
  case longIndex.longIndex => exact congrArg _ (DigitExcess.message_injective same)
  all_goals exact absurd same (append_ne_append 10 (by decide) (by decide) (by decide) _ _)

/-- A path tells the same of two records: it leads to the same value, or fails with the same
wording. -/
def AgreeAt (record other : Json) (path : String) : Prop :=
  (resolve record path).mapError PathFault.message =
    (resolve other path).mapError PathFault.message

theorem AgreeAt.looksSame {record other : Json} {path : String} (h : AgreeAt record other path) :
    LooksSame record other path := by
  rw [AgreeAt] at h
  rw [LooksSame]
  cases found : resolve record path <;> cases found' : resolve other path <;>
    simp only [found, found', Except.mapError, reduceCtorEq, Except.ok.injEq,
      Except.error.injEq] at h
  · rw [PathFault.message_injective h]
    exact .error _
  · rw [h]
    exact .ok (.refl _)

/-! ## What is read -/

/-- The pairs of a record that could become dynamic properties: those with single values, without
those with excluded keys. -/
def DynamicFields.candidates (fields : DynamicFields) : Json → List (String × Scalar)
  | .object entries => entries.filterMap fun (key, value) =>
    if fields.excludedProperties.contains key then none else (Scalar.ofJson? value).map (key, ·)
  | _ => []

/-- Two records agree on what a vertex mapping reads of them. -/
structure VertexMapping.AgreeOn (mapping : VertexMapping) (record other : Json) : Prop where
  key : AgreeAt record other mapping.key
  properties : ∀ property ∈ mapping.properties, AgreeAt record other property.path
  /-- With dynamic fields, both are objects or neither is, and their candidates are the same. -/
  dynamic : mapping.dynamicFields.enabled = true →
    record.isObject = other.isObject ∧
      mapping.dynamicFields.candidates record = mapping.dynamicFields.candidates other

structure EdgeMapping.AgreeOn (mapping : EdgeMapping) (record other : Json) : Prop where
  start : AgreeAt record other mapping.start.key
  target : AgreeAt record other mapping.target.key
  properties : ∀ property ∈ mapping.properties, AgreeAt record other property.path

/-- A source leads to as many records in one document as in the other, and corresponding records
are related. -/
def RecordsRelated (R : Json → Json → Prop) (document other : Json) (source : String) : Prop :=
  ∃ records records', (recordsAt document source).alone = .ok records ∧
    (recordsAt other source).alone = .ok records' ∧ List.Forall₂ R records records'

/-- Two documents agree on all that a mapping reads of them. -/
structure GraphMapping.AgreeOn (mapping : GraphMapping) (document other : Json) : Prop where
  vertices : ∀ v ∈ mapping.vertices, RecordsRelated v.AgreeOn document other v.source
  edges : ∀ e ∈ mapping.edges, RecordsRelated e.AgreeOn document other e.source

theorem RecordsRelated.alike {R S : Json → Json → Prop} {document other : Json} {source : String}
    (h : RecordsRelated R document other source) (imp : ∀ record record', R record record' →
      S record record') :
    Alike (List.Forall₂ S) (recordsAt document source).alone (recordsAt other source).alone := by
  obtain ⟨records, records', found, found', each⟩ := h
  rw [found, found']
  exact .ok (each.imp fun record record' related => imp record record' related)

/-- The dynamic properties of a record are the candidates that are not spoken for and have an
allowed type. -/
theorem dynamicOf_eq_filter (mapping : VertexMapping) (record : Json) :
    dynamicOf mapping record = (mapping.dynamicFields.candidates record).filter fun pair =>
      !(spokenKeys mapping).contains pair.1 &&
        mapping.dynamicFields.allows pair.2.inferredType := by
  cases record with
  | object entries =>
    simp only [dynamicOf, dynamicEntries, DynamicFields.candidates, List.filter_filterMap]
    refine List.filterMap_congr ?_
    rintro ⟨key, value⟩ -
    by_cases excluded : key ∈ mapping.dynamicFields.excludedProperties
    · cases Scalar.ofJson? value <;> simp [excluded]
    · cases Scalar.ofJson? value with
      | none => simp
      | some scalar =>
        by_cases spoken : key ∈ spokenKeys mapping <;>
          simp [excluded, spoken, Option.filter_some]
  | _ => rfl

variable {registry : TransformRegistry}

theorem VertexMapping.AgreeOn.seesAlike {v : VertexMapping} {record other : Json}
    (h : v.AgreeOn record other) : v.SeesAlike registry Eq record other := by
  refine .of_looksSame registry h.key.looksSame (fun p mem => (h.properties p mem).looksSame)
    fun enabled => ?_
  rw [dynamicOf_eq_filter, dynamicOf_eq_filter, (h.dynamic enabled).2]

theorem EdgeMapping.AgreeOn.seesAlike {e : EdgeMapping} {record other : Json}
    (h : e.AgreeOn record other) : e.SeesAlike registry record other :=
  .of_looksSame registry h.start.looksSame h.target.looksSame fun p mem =>
    (h.properties p mem).looksSame

theorem GraphMapping.AgreeOn.seesAlike {mapping : GraphMapping} {document other : Json}
    (h : mapping.AgreeOn document other) : mapping.SeesAlike registry Eq document other where
  vertices := fun v vertex => (h.vertices v vertex).alike fun _ _ agree => agree.seesAlike
  edges := fun e edge => (h.edges e edge).alike fun _ _ agree => agree.seesAlike

/-- Documents that look alike, dynamic properties included, have the same outcome. -/
theorem outcome_eq_of_seesAlike {mapping : GraphMapping} {document other : Json}
    (h : mapping.SeesAlike registry Eq document other) (size : Json) (session : Session) :
    (batchedStatements registry mapping document size).outcome session =
      (batchedStatements registry mapping other size).outcome session := by
  refine ((h.outcome size session session).mono fun statements others each => ?_).eq
  rw [← List.forall₂_eq_eq_eq]
  exact each.imp fun _ _ same => same.eq

/-! ## Another value in one record -/

namespace Json

/-- A value in which that is changed to which segments lead. If they lead nowhere, it stays. -/
def changeAlong (change : Json → Json) : List String → Json → Json
  | [], value => change value
  | segment :: rest, value =>
    match segmentIndex? segment, value with
    | some (.ok index), .array items => .array (items.modify index (changeAlong change rest))
    | none, .object fields => .object (fields.map fun (name, field) =>
        (name, if name == segment then changeAlong change rest field else field))
    | _, _ => value

/-- The value with one of its records changed, if it has this one. -/
def changeRecord (index : Nat) (change : Json → Json) : Json → Json
  | .array items => .array (items.modify index change)
  | value => change value

/-- An object with a value under a key; any other value stays. -/
def setField (record : Json) (key : String) (value : Json) : Json :=
  match record with
  | .object fields => .object (insertPair fields key value)
  | other => other

/-- A document with another value under a key of one record of a source. -/
def replaceIn (document : Json) (source : String) (index : Nat) (key : String) (value : Json) :
    Json :=
  document.changeAlong (changeRecord index (·.setField key value)) (splitPath source)

end Json

theorem lookup_changed (change : Json → Json) (name : String) (fields : List (String × Json)) :
    (fields.map fun (key, field) => (key, if key == name then change field else field)).lookup
      name = (fields.lookup name).map change := by
  induction fields with
  | nil => rfl
  | cons field rest ih =>
    obtain ⟨key, value⟩ := field
    by_cases same : key = name
    · simp [same]
    · have apart : (name == key) = false := by simpa using Ne.symm same
      simpa only [List.map_cons, List.lookup_cons, apart] using ih

theorem follow_changeAlong (change : Json → Json) (segments : List String) (value : Json) :
    follow (value.changeAlong change segments) segments = (follow value segments).map change := by
  induction segments generalizing value with
  | nil => rfl
  | cons segment rest ih =>
    simp only [follow, Json.changeAlong]
    cases index : segmentIndex? segment with
    | some i =>
      cases value with
      | array items =>
        cases i with
        | error excess => simp only [followSegment, index]; rfl
        | ok position =>
          simp only [followSegment, index, List.getElem?_modify_eq]
          cases items[position]? with
          | none => rfl
          | some item => exact ih item
      | _ => simp only [followSegment, index]; rfl
    | none =>
      cases value with
      | object fields =>
        simp only [followSegment, index, lookup_changed]
        cases fields.lookup segment with
        | none => rfl
        | some field => exact ih field
      | _ => simp only [followSegment, index]; rfl

theorem forall₂_modify {α : Type} {R : α → α → Prop} {change : α → α} (same : ∀ a, R a a)
    (changed : ∀ a, R a (change a)) (items : List α) (index : Nat) :
    List.Forall₂ R items (items.modify index change) := by
  induction items generalizing index with
  | nil =>
    rw [List.modify_nil]
    exact .nil
  | cons item rest ih =>
    cases index with
    | zero => exact .cons (changed item) (List.forall₂_same.mpr fun a _ => same a)
    | succ index => exact .cons (same item) (ih index)

/-- The records are those of the document, with the value under the key in one of them. -/
theorem recordsRelated_replaceIn {R : Json → Json → Prop} {key : String} {value : Json}
    (same : ∀ record, R record record) (changed : ∀ record, R record (record.setField key value))
    (document : Json) (source : String) (index : Nat) :
    Alike (List.Forall₂ R) (recordsAt document source).alone
      (recordsAt (document.replaceIn source index key value) source).alone := by
  rw [alone_recordsAt, alone_recordsAt, Json.replaceIn, resolve, resolve, follow_changeAlong]
  cases follow document (splitPath source) with
  | error fault => exact .error _
  | ok found =>
    refine .ok ?_
    cases found with
    | array items => exact forall₂_modify same changed items index
    | _ => exact .cons (changed _) .nil

/-- A path that does not start with a key does not see what stands under it. -/
theorem looksSame_setField {key path : String} (elsewhere : (splitPath path).head? ≠ some key)
    (record value : Json) : LooksSame record (record.setField key value) path := by
  cases record with
  | object fields =>
    rw [LooksSame, resolve, resolve, Json.setField]
    cases segments : splitPath path with
    | nil => exact .ok (.objects _ _)
    | cons segment rest =>
      have apart : (segment == key) = false := by
        rw [segments] at elsewhere
        simpa using elsewhere
      have first : followSegment (.object (insertPair fields key value)) segment =
          followSegment (.object fields) segment := by
        simp only [followSegment, lookup_insertPair, apart, Bool.false_eq_true, if_false]
      exact (Alike.of_eq (by rw [follow, follow, first])).mono fun _ _ => .of_eq
  | _ => exact (Alike.of_eq rfl).mono fun _ _ => .of_eq

/-- A pair that is dropped whatever its value may have any value. -/
theorem filterMap_insertPair {α β γ : Type} [BEq α] [LawfulBEq α] {f : α × β → Option γ} {key : α}
    (dropped : ∀ value, f (key, value) = none) (fields : List (α × β)) (value : β) :
    (insertPair fields key value).filterMap f = fields.filterMap f := by
  induction fields with
  | nil => simp [insertPair, dropped]
  | cons field rest ih =>
    obtain ⟨other, stored⟩ := field
    rw [insertPair]
    split
    next same =>
      obtain rfl : other = key := by simpa using same
      simp only [List.filterMap_cons, dropped]
    next => simp only [List.filterMap_cons, ih]

theorem candidates_setField {fields : DynamicFields} {key : String}
    (excluded : key ∈ fields.excludedProperties) (record value : Json) :
    fields.candidates (record.setField key value) = fields.candidates record := by
  cases record with
  | object entries => exact filterMap_insertPair (fun value => by simp [excluded]) entries value
  | _ => rfl

theorem seesAlike_setField {v : VertexMapping} {key : String}
    (excluded : key ∈ v.dynamicFields.excludedProperties)
    (elsewhere : ∀ path ∈ v.key :: v.properties.map (·.path), (splitPath path).head? ≠ some key)
    (record value : Json) :
    v.SeesAlike registry Eq record (record.setField key value) := by
  obtain ⟨ofKey, ofProperties⟩ := List.forall_mem_cons.mp elsewhere
  refine .of_looksSame registry (looksSame_setField ofKey record value) ?_ fun _ => ?_
  · intro property declared
    exact looksSame_setField (ofProperties _ (List.mem_map_of_mem declared)) record value
  · rw [dynamicOf_eq_filter, dynamicOf_eq_filter, candidates_setField excluded]

/-- Documents have the same statements, or the same failure, if they have as many records under
every source of a mapping and corresponding records agree on what its paths lead to and, with
dynamic fields, on the single values under keys that are not excluded. In particular, if a single
vertex mapping with dynamic fields is all there is, the value under an excluded key with which
none of its paths starts may be any other one. -/
theorem unread_is_irrelevant (registry : TransformRegistry) (mapping : GraphMapping) :
    (∀ document other, mapping.AgreeOn document other → ∀ size session,
      (batchedStatements registry mapping document size).outcome session =
        (batchedStatements registry mapping other size).outcome session) ∧
    ∀ v, mapping.vertices = [v] → mapping.edges = [] → v.dynamicFields.enabled = true →
      ∀ key ∈ v.dynamicFields.excludedProperties,
        (∀ path ∈ v.key :: v.properties.map (·.path), (splitPath path).head? ≠ some key) →
        ∀ document index value size session,
          (batchedStatements registry mapping document size).outcome session =
            (batchedStatements registry mapping
              (document.replaceIn v.source index key value) size).outcome session := by
  refine ⟨fun document other agree => outcome_eq_of_seesAlike agree.seesAlike, ?_⟩
  intro v single noEdges _ key excluded elsewhere document index value
  refine outcome_eq_of_seesAlike ⟨fun w vertex => ?_, by simp [noEdges]⟩
  obtain rfl : w = v := by simpa [single] using vertex
  exact recordsRelated_replaceIn
    (fun record => ⟨rfl, rfl, fun _ => rfl⟩)
    (fun record => seesAlike_setField excluded elsewhere record value) document w.source index

/-- Members with whatever is known of them, apart from their secrets. -/
def membersVertex : VertexMapping where
  tag := "Member"
  source := "members"
  key := "id"
  properties := [{ name := "name", path := "name", type := "string" }]
  dynamicFields := { enabled := true, excludedProperties := ["secret"] }

def memberDocument (secret notes : Json) : Json :=
  .object [("members", .array [.object [("id", .integer 1), ("secret", secret), ("notes", notes),
    ("name", .string "kim"), ("age", .integer 30)]])]

theorem agreeOn_memberDocument :
    GraphMapping.AgreeOn { vertices := [membersVertex] }
      (memberDocument (.string "a") (.array [.null])) (memberDocument (.float .nan) .null) where
  vertices := by
    intro v vertex
    obtain rfl := List.mem_singleton.mp vertex
    refine ⟨_, _, rfl, rfl, .cons ⟨rfl, ?_, fun _ => ⟨rfl, by decide⟩⟩ .nil⟩
    intro property declared
    obtain rfl := List.mem_singleton.mp declared
    rfl
  edges := by simp

theorem unread_is_irrelevant_members :
    let mapping : GraphMapping := { vertices := [membersVertex] }
    let document := memberDocument (.string "a") (.array [.null])
    mapping.AgreeOn document (memberDocument (.float .nan) .null) ∧
      (batchedStatements .builtin mapping document (.integer 5)).outcome {} =
        (batchedStatements .builtin mapping (memberDocument (.float .nan) .null)
          (.integer 5)).outcome {} ∧
      (batchedStatements .builtin mapping document (.integer 5)).outcome {} =
        (batchedStatements .builtin mapping
          (document.replaceIn "members" 0 "secret" (.object [])) (.integer 5)).outcome {} := by
  obtain ⟨agreeing, replaced⟩ := unread_is_irrelevant .builtin { vertices := [membersVertex] }
  exact ⟨agreeOn_memberDocument, agreeing _ _ agreeOn_memberDocument _ _,
    replaced membersVertex rfl rfl rfl "secret" (by decide) (by decide) _ 0 (.object []) _ _⟩

end DocGraph
