import DocGraph.Proofs.Graph.LiteralText
import DocGraph.Proofs.Graph.Portion

/-!
# Reading statements back

A statement can be told from its text if its names are plain and no quotes are among its
identifiers and texts. Rows and columns stay apart, whatever else the texts hold.

## Main definitions

* `DataStatement.Readable`: names are plain, and there are no quotes inside of quotes.
* `IsGenerated`: a statement that a mapping gives for some document.

## Main results

* `DataStatement.eq_of_text_eq`: readable statements with the same text are the same.
* `insert_eq_of_text_eq`: this for the batches of mappings with plain names.
-/

namespace DocGraph

/-! ## Formats of the parts of statements -/

/-- All names are plain identifiers. -/
def AllPlain (names : List String) : Prop := ∀ name ∈ names, isPlainIdentifier name = true

instance (names : List String) : Decidable (AllPlain names) :=
  inferInstanceAs (Decidable (∀ name ∈ names, _))

theorem isBareChar_of_isPlainIdentifier {name : String} (h : isPlainIdentifier name = true) :
    ∀ c ∈ name.toList, isBareChar c = true := by
  intro c hc
  have ofPart (h : isIdentifierPart c = true) : isBareChar c = true :=
    isBareChar_of_kind rfl rfl rfl h
  unfold isPlainIdentifier isIdentifierText at h
  split at h
  · cases h
  · next first rest chars =>
    rw [chars] at hc
    obtain ⟨start, parts⟩ := Bool.and_eq_true_iff.mp h
    rcases List.mem_cons.mp hc with rfl | hc
    · exact ofPart (by simp [isIdentifierPart, start])
    · exact ofPart (List.all_eq_true.mp parts c hc)

theorem selfDelimiting_name :
    SelfDelimiting (isPlainIdentifier · = true) (StopsAt isBareChar) String.toList := by
  refine (selfDelimiting_span isBareChar).comp (fun _ _ _ _ => String.toList_inj.mp) ?_
  exact fun _ => isBareChar_of_isPlainIdentifier

theorem selfDelimiting_id :
    SelfDelimiting (fun id : VertexId => '"' ∉ id.key.toList) Anything (·.text.toList) := by
  have chars (id : VertexId) : id.text.toList = '"' :: (id.key.toList ++ ['"']) := by
    simp [VertexId.text]
  simp only [chars]
  exact selfDelimiting_quoted.comp (fun ⟨_⟩ ⟨_⟩ _ _ h => congrArg _ h) fun _ h => h

theorem toList_commaList {α : Type} (text : α → String) (items : List α) :
    (commaList (items.map text)).toList = separated (fun a => (text a).toList) items := by
  simp [commaList, joinText, separated, Function.comp_def]

theorem selfDelimiting_values :
    SelfDelimiting (fun values : List Literal => ∀ literal ∈ values, literal.Unquoted) Anything
      (fun values => (valuesText values).toList) := by
  have chars (values : List Literal) : (valuesText values).toList =
      '(' :: (separated (·.text.toList) values ++ [')']) := by
    simp [valuesText, toString, toList_commaList]
  simp only [chars]
  exact (selfDelimiting_literal.separated ')' (fun rest => (stopsAt_cons rest).mpr rfl)
    (fun rest => (stopsAt_cons rest).mpr rfl) (by decide)
    fun a _ => exists_cons_literal a).after ['(']

theorem selfDelimiting_columns :
    SelfDelimiting AllPlain Anything
      (fun columns => '(' :: (separated String.toList columns ++ [')'])) := by
  refine (selfDelimiting_name.separated ')' (fun rest => (stopsAt_cons rest).mpr rfl)
    (fun rest => (stopsAt_cons rest).mpr rfl) (by decide) ?_).after ['(']
  intro name plain
  have bare := isBareChar_of_isPlainIdentifier plain
  unfold isPlainIdentifier at plain
  cases chars : name.toList with
  | nil => simp [chars, isIdentifierText] at plain
  | cons c rest =>
    refine ⟨c, rest, rfl, ?_⟩
    rintro rfl
    cases bare ')' (by simp [chars])

/-- A vertex holds no quotes, neither in its identifier nor in its values. -/
structure VertexRow.Unquoted (row : VertexRow) : Prop where
  id : '"' ∉ row.id.key.toList
  values : ∀ literal ∈ row.values, literal.Unquoted

/-- An edge holds no quotes, neither in its identifiers nor in its values. -/
structure EdgeRow.Unquoted (row : EdgeRow) : Prop where
  start : '"' ∉ row.start.key.toList
  target : '"' ∉ row.target.key.toList
  values : ∀ literal ∈ row.values, literal.Unquoted

theorem anything_next {α : Type} {valid : α → Prop} {chars : α → List Char} :
    ∀ a, valid a → ∀ rest, Anything rest → Anything (chars a ++ rest) :=
  fun _ _ _ _ => trivial

theorem selfDelimiting_vertexRow :
    SelfDelimiting VertexRow.Unquoted Anything (·.text.toList) := by
  have chars (row : VertexRow) : row.text.toList =
      row.id.text.toList ++ ([':'] ++ (valuesText row.values).toList) := by
    simp [VertexRow.text, toString]
  simp only [chars]
  exact (selfDelimiting_id.append (selfDelimiting_values.after [':']) anything_next).comp
    (f := fun row : VertexRow => (row.id, row.values))
    (fun ⟨_, _⟩ ⟨_, _⟩ _ _ h => by cases h; rfl) fun row h => ⟨h.id, h.values⟩

theorem selfDelimiting_edgeRow :
    SelfDelimiting EdgeRow.Unquoted Anything (·.text.toList) := by
  have chars (row : EdgeRow) : row.text.toList =
      row.start.text.toList ++ ([' ', '-', '>', ' '] ++
        (row.target.text.toList ++ ([':'] ++ (valuesText row.values).toList))) := by
    simp [EdgeRow.text, toString]
  simp only [chars]
  have target := selfDelimiting_id.append (selfDelimiting_values.after [':']) anything_next
  exact (selfDelimiting_id.append (target.after [' ', '-', '>', ' ']) anything_next).comp
    (f := fun row : EdgeRow => (row.start, row.target, row.values))
    (fun ⟨_, _, _⟩ ⟨_, _, _⟩ _ _ h => by cases h; rfl) fun row h => ⟨h.start, h.target, h.values⟩

/-! ## Statements -/

/-- What follows the keywords of a batch: a name, columns, and rows up to the end. -/
def batchChars {ρ : Type} (text : ρ → String) (name : String) (columns : List String)
    (rows : List ρ) : List Char :=
  name.toList ++ (' ' :: '(' :: (separated String.toList columns ++ [')']) ++
    (" VALUES ".toList ++ (separated (fun row => (text row).toList) rows ++ [';'])))

theorem writeName_of_isPlainIdentifier {name : String} (h : isPlainIdentifier name = true) :
    writeName name = name := by
  simp [writeName, h]

theorem toList_columns (columns : List String) : (columnsText columns).toList =
    '(' :: (separated (fun name => (writeName name).toList) columns ++ [')']) := by
  have text : columnsText columns = "(" ++ commaList (columns.map writeName) ++ ")" := rfl
  rw [text, String.toList_append, String.toList_append, toList_commaList]
  rfl

theorem toList_columnsText {columns : List String} (plain : AllPlain columns) :
    (columnsText columns).toList = '(' :: (separated String.toList columns ++ [')']) := by
  have same : columns.map (fun name => (writeName name).toList) = columns.map String.toList :=
    List.map_congr_left fun column h =>
      congrArg String.toList (writeName_of_isPlainIdentifier (plain column h))
  rw [toList_columns, separated, separated, same]

/-- The characters of a batch with plain names. -/
theorem toList_batch {ρ : Type} (text : ρ → String) (keywords : String) {name : String}
    {columns : List String} (rows : List ρ) (plain : isPlainIdentifier name = true)
    (plains : AllPlain columns) :
    (keywords ++ writeName name ++ " " ++ columnsText columns ++ " VALUES " ++
      commaList (rows.map text) ++ ";").toList =
      keywords.toList ++ batchChars text name columns rows := by
  simp only [String.toList_append, writeName_of_isPlainIdentifier plain, toList_columnsText plains,
    toList_commaList, batchChars, List.append_assoc, List.cons_append]
  rfl

/-- The parts of a batch can be told from what follows its keywords. -/
theorem batchChars_injective {ρ : Type} {valid : ρ → Prop} {text : ρ → String}
    (row : SelfDelimiting valid Anything fun row => (text row).toList)
    (starts : ∀ row, ∃ rest, (text row).toList = '"' :: rest)
    {name name' : String} {columns columns' : List String} {rows rows' : List ρ}
    (plain : isPlainIdentifier name = true) (plain' : isPlainIdentifier name' = true)
    (plains : AllPlain columns) (plains' : AllPlain columns')
    (unquoted : ∀ row ∈ rows, valid row) (unquoted' : ∀ row ∈ rows', valid row)
    (h : batchChars text name columns rows = batchChars text name' columns' rows') :
    name = name' ∧ columns = columns' ∧ rows = rows' := by
  have list := row.separated ';' (fun _ => trivial) (fun _ => trivial) (by decide) fun row _ => by
    obtain ⟨rest, start⟩ := starts row
    exact ⟨'"', rest, start, by decide⟩
  simp only [batchChars, List.cons_append] at h
  obtain ⟨rfl, tail⟩ := selfDelimiting_name plain plain' ((stopsAt_cons _).mpr rfl)
    ((stopsAt_cons _).mpr rfl) h
  obtain ⟨rfl, tail⟩ := selfDelimiting_columns plains plains' trivial trivial
    (List.cons.inj tail).2
  obtain ⟨rfl, -⟩ := list unquoted unquoted' (x := []) (y := []) trivial trivial
    (by simpa using tail)
  exact ⟨rfl, rfl, rfl⟩

namespace DataStatement

/-- The tag or the edge that a statement is about. -/
def element : DataStatement → String
  | .insertVertices tag _ _ | .upsertVertex tag _ _ => tag
  | .insertEdges edge _ _ => edge

def columns : DataStatement → List String
  | .insertVertices _ columns _ | .upsertVertex _ columns _ | .insertEdges _ columns _ => columns

/-- A statement holds no quotes, neither in identifiers nor in values. -/
def Unquoted : DataStatement → Prop
  | .insertVertices _ _ rows => ∀ row ∈ rows, row.Unquoted
  | .upsertVertex _ _ row => row.Unquoted
  | .insertEdges _ _ rows => ∀ row ∈ rows, row.Unquoted

/-- The names of a statement are plain, and there are no quotes inside of quotes. -/
structure Readable (statement : DataStatement) : Prop where
  element : isPlainIdentifier statement.element = true
  columns : AllPlain statement.columns
  unquoted : statement.Unquoted

/-- The characters of a statement with plain names. -/
theorem toList_text {statement : DataStatement} (h : statement.Readable) :
    statement.text.toList = match statement with
      | .insertVertices tag columns rows =>
        "INSERT VERTEX ".toList ++ batchChars VertexRow.text tag columns rows
      | .upsertVertex tag columns row =>
        "UPSERT VERTEX ".toList ++ (tag.toList ++ (' ' :: (row.id.text.toList ++ (' ' :: '(' ::
          (separated String.toList columns ++ [')'] ++ (" VALUES ".toList ++
            ((valuesText row.values).toList ++ [';'])))))))
      | .insertEdges edge columns rows =>
        "INSERT EDGE ".toList ++ batchChars EdgeRow.text edge columns rows := by
  match statement with
  | .insertVertices tag columns rows =>
    exact toList_batch VertexRow.text "INSERT VERTEX " rows h.element h.columns
  | .upsertVertex tag columns row =>
    -- The text as it is put together from its parts.
    change ("UPSERT VERTEX " ++ writeName tag ++ " " ++ row.id.text ++ " " ++
      columnsText columns ++ " VALUES " ++ valuesText row.values ++ ";").toList = _
    have name : writeName tag = tag := writeName_of_isPlainIdentifier h.element
    have plain : (columnsText columns).toList = _ := toList_columnsText h.columns
    simp only [String.toList_append, name, plain, List.append_assoc, List.cons_append]
    rfl
  | .insertEdges edge columns rows =>
    exact toList_batch EdgeRow.text "INSERT EDGE " rows h.element h.columns

/-- Readable statements with the same text are the same. -/
theorem eq_of_text_eq {s t : DataStatement} (hs : s.Readable) (ht : t.Readable)
    (h : s.text = t.text) : s = t := by
  replace h := congrArg String.toList h
  rw [toList_text hs, toList_text ht] at h
  obtain ⟨name, columns, unquoted⟩ := hs
  obtain ⟨name', columns', unquoted'⟩ := ht
  match s, t with
  | .insertVertices tag _ rows, .insertVertices tag' _ rows' =>
    obtain ⟨rfl, rfl, rfl⟩ := batchChars_injective selfDelimiting_vertexRow
      (fun row => ⟨_, by simp [VertexRow.text, VertexId.text, toString]; rfl⟩)
      name name' columns columns' unquoted unquoted' (List.append_cancel_left h)
    rfl
  | .insertEdges edge _ rows, .insertEdges edge' _ rows' =>
    obtain ⟨rfl, rfl, rfl⟩ := batchChars_injective selfDelimiting_edgeRow
      (fun row => ⟨_, by simp [EdgeRow.text, VertexId.text, toString]; rfl⟩)
      name name' columns columns' unquoted unquoted' (List.append_cancel_left h)
    rfl
  | .upsertVertex tag _ ⟨_, _⟩, .upsertVertex tag' _ ⟨_, _⟩ =>
    obtain ⟨rfl, afterTag⟩ := selfDelimiting_name name name' ((stopsAt_cons _).mpr rfl)
      ((stopsAt_cons _).mpr rfl) (List.append_cancel_left h)
    obtain ⟨rfl, afterId⟩ := selfDelimiting_id unquoted.id unquoted'.id trivial trivial
      (List.cons.inj afterTag).2
    obtain ⟨rfl, afterColumns⟩ := selfDelimiting_columns columns columns' trivial trivial
      (List.cons.inj afterId).2
    obtain ⟨rfl, -⟩ := selfDelimiting_values unquoted.values unquoted'.values trivial trivial
      (List.append_cancel_left afterColumns)
    rfl
  -- The keywords differ.
  | .insertVertices .., .insertEdges .. | .insertEdges .., .insertVertices ..
  | .insertVertices .., .upsertVertex .. | .upsertVertex .., .insertVertices ..
  | .insertEdges .., .upsertVertex .. | .upsertVertex .., .insertEdges .. => simp at h

end DataStatement

/-! ## Statements of mappings with plain names -/

/-- All tags, edges and properties of a mapping have plain names. -/
structure GraphMapping.PlainNames (mapping : GraphMapping) : Prop where
  tags : ∀ v ∈ mapping.vertices, AllPlain (v.tag :: columnNames v.properties)
  edges : ∀ e ∈ mapping.edges, AllPlain (e.name :: columnNames e.properties)

/-- A statement is among those that a mapping gives for a document. -/
def IsGenerated (mapping : GraphMapping) (statement : DataStatement) : Prop :=
  ∃ (registry : TransformRegistry) (document : Json) (size : BatchSize) (session : Session)
    (statements : List DataStatement),
    (dataStatements registry mapping document size).outcome session = .ok statements ∧
      statement ∈ statements

/-- A statement inserts a batch of vertices or edges. -/
def DataStatement.IsInsert : DataStatement → Prop
  | .upsertVertex .. => False
  | _ => True

/-- The names in a batch are those of its mapping. -/
theorem readable_of_isGenerated {mapping : GraphMapping} (plain : mapping.PlainNames)
    {statement : DataStatement} (generated : IsGenerated mapping statement)
    (insert : statement.IsInsert) (unquoted : statement.Unquoted) : statement.Readable := by
  obtain ⟨registry, document, size, session, statements, outcome, mem⟩ := generated
  obtain ⟨portion, within, ⟨v, vertex, ofVertex⟩ | ⟨e, edge, ofEdge⟩⟩ :=
    exists_portion_of_mem registry document outcome mem
  · obtain ⟨tag, properties⟩ := List.forall_mem_cons.mp (plain.tags v vertex)
    cases portion with
    | vertices =>
      obtain ⟨-, rfl, rfl, -⟩ := ofVertex
      obtain ⟨rows, -, rfl⟩ := List.mem_map.mp within
      exact ⟨tag, properties, unquoted⟩
    | upserts =>
      obtain ⟨columns, row, rfl⟩ := ofVertex.2 statement within
      exact insert.elim
    | edges => exact ofVertex.elim
  · obtain ⟨name, properties⟩ := List.forall_mem_cons.mp (plain.edges e edge)
    cases portion with
    | edges =>
      obtain ⟨rfl, rfl, -⟩ := ofEdge
      obtain ⟨rows, -, rfl⟩ := List.mem_map.mp within
      exact ⟨name, properties, unquoted⟩
    | _ => exact ofEdge.elim

/-- Batches that mappings with plain names give for documents are told by their texts, if there
are no quotes inside of quotes: batches with the same text have the same keywords, the same
name, the same columns and the same rows with the same literals. -/
theorem insert_eq_of_text_eq {mapping mapping' : GraphMapping} (plain : mapping.PlainNames)
    (plain' : mapping'.PlainNames) {s t : DataStatement} (generated : IsGenerated mapping s)
    (generated' : IsGenerated mapping' t) (insert : s.IsInsert) (insert' : t.IsInsert)
    (unquoted : s.Unquoted) (unquoted' : t.Unquoted) (h : s.text = t.text) : s = t :=
  DataStatement.eq_of_text_eq (readable_of_isGenerated plain generated insert unquoted)
    (readable_of_isGenerated plain' generated' insert' unquoted') h

/-- Notes under a path, with their bodies. -/
def sampleNotes (source : String) : GraphMapping where
  vertices := [{
    tag := "Note"
    source := source
    key := "id"
    properties := [{ name := "body", path := "body", type := "STRING" }] }]

/-- Two notes under a key, one of them with a body that looks like the end of a statement. -/
def sampleNotesDocument (key : String) : Json :=
  .object [(key, .array [.object [("id", .integer 1), ("body", .string "a), b -> c:(NULL);")],
    .object [("id", .integer 2), ("body", .null)]])]

def sampleInsert : DataStatement :=
  .insertVertices "Note" ["body"]
    [⟨⟨"1"⟩, [.value (.text "a), b -> c:(NULL);")]⟩, ⟨⟨"2"⟩, [.null]⟩]

set_option maxRecDepth 4000 in
/-- The same notes under different paths. -/
theorem insert_eq_of_text_eq_sampleNotes :
    IsGenerated (sampleNotes "/notes") sampleInsert ∧
      IsGenerated (sampleNotes "/letters") sampleInsert ∧ sampleInsert.Unquoted ∧
      ∃ t, IsGenerated (sampleNotes "/letters") t ∧ sampleInsert.text = t.text ∧
        sampleInsert = t := by
  have plain (source : String) : (sampleNotes source).PlainNames :=
    ⟨fun v vertex => by
      rw [List.mem_singleton.mp vertex]
      change AllPlain ["Note", "body"]
      decide, by simp [sampleNotes]⟩
  have notes : IsGenerated (sampleNotes "/notes") sampleInsert :=
    ⟨.builtin, sampleNotesDocument "notes", .default, {}, _, rfl, List.mem_singleton_self _⟩
  have letters : IsGenerated (sampleNotes "/letters") sampleInsert :=
    ⟨.builtin, sampleNotesDocument "letters", .default, {}, _, rfl, List.mem_singleton_self _⟩
  have unquoted : sampleInsert.Unquoted := by
    intro row mem
    simp only [List.mem_cons, List.not_mem_nil, or_false] at mem
    rcases mem with rfl | rfl
    · exact ⟨by decide, by simp [Literal.Unquoted]⟩
    · exact ⟨by decide, by simp [Literal.Unquoted]⟩
  exact ⟨notes, letters, unquoted, sampleInsert, letters, rfl,
    insert_eq_of_text_eq (plain "/notes") (plain "/letters") notes letters trivial trivial
      unquoted unquoted rfl⟩

end DocGraph
