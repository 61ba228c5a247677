import DocGraph.Proofs.Graph.Written
import DocGraph.Proofs.Mapping.Built
import DocGraph.Schema.Statement

/-!
# What a schema declares

If there is a schema for a mapping, its elements are those of the mapping one by one. All their
names may be declared, and all types are known. In a mapping that was built, an element is told
by its kind and its name.

## Main definitions

* `Readout.Makes`: an element with the columns that are made of the properties.
* `Column.IsFor`, `Readout.Declares`: what is declared for a property and for an element.

## Main results

* `declares_of_schemaElements`: the elements of a schema are declared for those of the mapping.
* `eq_of_mem_schemaElements`: they are told by their kinds and names.
-/

namespace DocGraph

/-! ## Names -/

theorem isPlainIdentifier_of_isDeclarable {name : String} (h : isDeclarable name = true) :
    isPlainIdentifier name = true :=
  (Bool.and_eq_true_iff.mp h).2

theorem all_isIdentifierPart {cs : List Char} (h : isIdentifierText cs = true) :
    cs.all isIdentifierPart = true := by
  cases cs with
  | nil => rfl
  | cons c rest =>
    obtain ⟨start, parts⟩ := Bool.and_eq_true_iff.mp h
    simp [isIdentifierPart, start, parts]

theorem isIdentifierText_append {cs others : List Char} (h : isIdentifierText cs = true)
    (parts : others.all isIdentifierPart = true) : isIdentifierText (cs ++ others) = true := by
  cases cs with
  | nil => cases h
  | cons c rest =>
    obtain ⟨start, within⟩ := Bool.and_eq_true_iff.mp h
    simp only [List.cons_append, isIdentifierText, start, List.all_append, within, parts,
      Bool.and_self]

theorem isPlainIdentifier_indexName {element column : String}
    (h : isPlainIdentifier element = true) (h' : isPlainIdentifier column = true) :
    isPlainIdentifier (indexName element column) = true := by
  have chars : (indexName element column).toList =
      element.toList ++ ('_' :: (column.toList ++ "_idx".toList)) := by
    simp [indexName, toString]
  rw [isPlainIdentifier, chars]
  refine isIdentifierText_append h ?_
  rw [List.all_cons, List.all_append, all_isIdentifierPart h']
  decide

/-- A name that is written bare does not start with a back-tick. -/
theorem toList_ne_backtick_cons {name : String}
    (bare : (name.isEmpty || isPlainIdentifier name) = true) (rest : List Char) :
    name.toList ≠ backtick :: rest := by
  intro starts
  rcases Bool.or_eq_true_iff.mp bare with empty | plain
  · simp [String.isEmpty_iff.mp empty] at starts
  · rw [isPlainIdentifier, starts] at plain
    have start : isIdentifierStart backtick = false := by decide
    simp [isIdentifierText, start] at plain

/-- Names that are written alike are the same: a name is written as itself or between back-ticks. -/
theorem writeName_injective : Function.Injective writeName := by
  intro a b h
  simp only [writeName] at h
  split at h <;> split at h
  next => exact h
  next bare _ =>
    have starts : a.toList = backtick :: (b.toList ++ [backtick]) := by simp [h]
    exact absurd starts (toList_ne_backtick_cons bare _)
  next _ bare =>
    have starts : b.toList = backtick :: (a.toList ++ [backtick]) := by simp [← h]
    exact absurd starts (toList_ne_backtick_cons bare _)
  next =>
    have chars := String.ofList_injective h
    exact String.toList_inj.mp (List.append_cancel_right (List.cons.inj chars).2)

/-! ## Columns -/

/-- A column is declared for a property, under its name and with the type that it asks for. -/
def Column.IsFor (property : Property) (column : Column) : Prop :=
  column.name = property.name ∧ ∃ type requested written,
    ValueType.resolve? property.type = some type ∧
      ColumnType.ofValueType type requested = .ok written ∧ column.type = written.text

theorem isFor_of_columnOf {settings : Settings} {property : Property} {column : Column}
    (h : columnOf settings property = .ok column) : column.IsFor property := by
  simp only [columnOf, declaredType, bind_eq_ok_iff, mapError_eq_ok_iff] at h
  obtain ⟨written, ⟨type, known, fits⟩, built⟩ := h
  cases built
  exact ⟨rfl, type, _, written, resolveType_eq_ok_iff.mp known, fits, rfl⟩

/-! ## Elements -/

theorem check_eq_ok_iff {element : Element} :
    element.check = .ok () ↔ isDeclarable element.name = true ∧
      ∀ column ∈ element.columns, isDeclarable column.name = true := by
  rw [Element.check]
  cases isDeclarable element.name with
  | false => simp
  | true =>
    cases found : element.columns.find? (!isDeclarable ·.name) with
    | some column =>
      have refused := List.find?_some found
      have among := List.mem_of_find?_eq_some found
      simp only [Bool.not_true, Bool.false_eq_true, if_false, reduceCtorEq, true_and, false_iff]
      intro all
      simp [all column among] at refused
    | none => simpa using found

/-- An element is declared for what a mapping reads for it. Its names may be declared. -/
structure Readout.Declares (readout : Readout) (element : Element) : Prop where
  kind : element.kind = readout.kind
  name : element.name = readout.name
  columns : List.Forall₂ (fun property column => column.IsFor property)
    readout.properties element.columns
  declarable : isDeclarable element.name = true
  columnsDeclarable : ∀ column ∈ element.columns, isDeclarable column.name = true

namespace Readout.Declares

variable {readout : Readout} {element : Element}

theorem columnNames_eq (h : readout.Declares element) :
    columnNames readout.properties = element.columns.map (·.name) :=
  map_eq_map_of_forall₂ (h.columns.imp fun _ _ isFor => isFor.1.symm)

theorem resolves (h : readout.Declares element) :
    ∀ property ∈ readout.properties, ∃ type, ValueType.resolve? property.type = some type := by
  intro property declared
  obtain ⟨column, -, -, type, -, -, known, -⟩ := exists_left_of_forall₂ h.columns.flip declared
  exact ⟨type, known⟩

theorem allPlain (h : readout.Declares element) :
    AllPlain (readout.name :: columnNames readout.properties) := by
  rw [h.columnNames_eq, ← h.name]
  intro name mem
  apply isPlainIdentifier_of_isDeclarable
  rcases List.mem_cons.mp mem with rfl | mem
  · exact h.declarable
  · obtain ⟨column, among, rfl⟩ := List.mem_map.mp mem
    exact h.columnsDeclarable column among

end Readout.Declares

theorem checked_eq_ok_iff {element checked : Element} :
    element.checked = .ok checked ↔ element.check = .ok () ∧ element = checked := by
  rw [Element.checked]
  cases element.check <;> simp [bind, Except.bind, pure, Except.pure]

/-- An element is made of what a mapping reads for it, and it passes the check. -/
structure Readout.Makes (settings : Settings) (readout : Readout) (element : Element) : Prop where
  kind : element.kind = readout.kind
  name : element.name = readout.name
  columns : List.Forall₂ (fun property column => columnOf settings property = .ok column)
    readout.properties element.columns
  passed : element.check = .ok ()

theorem Readout.Makes.declares {settings : Settings} {readout : Readout} {element : Element}
    (h : readout.Makes settings element) : readout.Declares element := by
  obtain ⟨declarable, columnsDeclarable⟩ := check_eq_ok_iff.mp h.passed
  exact ⟨h.kind, h.name, h.columns.imp fun _ _ => isFor_of_columnOf, declarable, columnsDeclarable⟩

theorem ofVertex_eq_ok {settings : Settings} {v : VertexMapping} {element : Element}
    (h : Element.ofVertex settings v = .ok element) :
    element.kind = .tag ∧ element.name = v.tag ∧
      v.properties.mapM (columnOf settings) = .ok element.columns := by
  obtain ⟨columns, ofProperties, built⟩ := bind_eq_ok_iff.mp h
  cases built
  exact ⟨rfl, rfl, ofProperties⟩

theorem ofEdge_eq_ok {settings : Settings} {e : EdgeMapping} {element : Element}
    (h : Element.ofEdge settings e = .ok element) :
    element.kind = .edge ∧ element.name = e.name ∧
      e.properties.mapM (columnOf settings) = .ok element.columns := by
  obtain ⟨columns, ofProperties, built⟩ := bind_eq_ok_iff.mp h
  cases built
  exact ⟨rfl, rfl, ofProperties⟩

theorem makes_ofVertex {settings : Settings} {v : VertexMapping} {element : Element}
    (h : (Element.ofVertex settings v >>= Element.checked) = .ok element) :
    v.readout.Makes settings element := by
  obtain ⟨made, ofVertex, accepted⟩ := bind_eq_ok_iff.mp h
  obtain ⟨kind, name, columns⟩ := ofVertex_eq_ok ofVertex
  obtain ⟨passed, rfl⟩ := checked_eq_ok_iff.mp accepted
  exact ⟨kind, name, (mapM_eq_ok_iff _ _ _).mp columns, passed⟩

theorem makes_ofEdge {settings : Settings} {e : EdgeMapping} {element : Element}
    (h : (Element.ofEdge settings e >>= Element.checked) = .ok element) :
    e.readout.Makes settings element := by
  obtain ⟨made, ofEdge, accepted⟩ := bind_eq_ok_iff.mp h
  obtain ⟨kind, name, columns⟩ := ofEdge_eq_ok ofEdge
  obtain ⟨passed, rfl⟩ := checked_eq_ok_iff.mp accepted
  exact ⟨kind, name, (mapM_eq_ok_iff _ _ _).mp columns, passed⟩

/-! ## Schemas -/

variable {mapping : GraphMapping} {elements : List Element}

theorem makes_of_schemaElements (h : schemaElements mapping = .ok elements) :
    List.Forall₂ (Readout.Makes mapping.settings) mapping.readouts elements := by
  obtain ⟨tags, ofVertices, rest⟩ := bind_eq_ok_iff.mp h
  obtain ⟨edges, ofEdges, built⟩ := bind_eq_ok_iff.mp rest
  cases built
  refine List.rel_append ?_ ?_
  · rw [List.forall₂_map_left_iff]
    exact ((mapM_eq_ok_iff _ _ _).mp ofVertices).imp fun _ _ => makes_ofVertex
  · rw [List.forall₂_map_left_iff]
    exact ((mapM_eq_ok_iff _ _ _).mp ofEdges).imp fun _ _ => makes_ofEdge

theorem declares_of_schemaElements (h : schemaElements mapping = .ok elements) :
    List.Forall₂ Readout.Declares mapping.readouts elements :=
  (makes_of_schemaElements h).imp fun _ _ => Readout.Makes.declares

theorem exists_declares (h : schemaElements mapping = .ok elements) {readout : Readout}
    (mem : readout ∈ mapping.readouts) : ∃ element ∈ elements, readout.Declares element :=
  exists_left_of_forall₂ (declares_of_schemaElements h).flip mem

/-- In a built mapping, elements of one kind have different names. -/
theorem GraphMapping.IsBuilt.nodup_readouts (built : mapping.IsBuilt) :
    (mapping.readouts.map fun readout => (readout.kind, readout.name)).Nodup := by
  have tags : (mapping.vertices.map fun v => (ElementKind.tag, v.tag)).Nodup := by
    have distinct := built.nodup_tags.map (Prod.mk_right_injective ElementKind.tag)
    rwa [List.map_map] at distinct
  have edges : (mapping.edges.map fun e => (ElementKind.edge, e.name)).Nodup := by
    have distinct := built.nodup_edges.map (Prod.mk_right_injective ElementKind.edge)
    rwa [List.map_map] at distinct
  rw [GraphMapping.readouts, List.map_append, List.map_map, List.map_map]
  refine tags.append edges ?_
  intro pair ofVertex ofEdge
  obtain ⟨v, -, rfl⟩ := List.mem_map.mp ofVertex
  obtain ⟨e, -, same⟩ := List.mem_map.mp ofEdge
  cases same

/-- Elements of one kind and one name are the same. -/
theorem eq_of_mem_schemaElements (built : mapping.IsBuilt)
    (h : schemaElements mapping = .ok elements) {element other : Element}
    (mem : element ∈ elements) (among : other ∈ elements) (kind : element.kind = other.kind)
    (name : element.name = other.name) : element = other := by
  have same : (mapping.readouts.map fun readout => (readout.kind, readout.name)) =
      elements.map fun element => (element.kind, element.name) := by
    refine map_eq_map_of_forall₂ ((declares_of_schemaElements h).imp ?_)
    intro readout element declares
    rw [declares.kind, declares.name]
  have distinct := same ▸ built.nodup_readouts
  exact List.inj_on_of_nodup_map distinct mem among (Prod.ext kind name)

/-- What is declared for a mapping: its elements, and nothing else but indexes. -/
theorem mem_schemaStatements {includeIndexes : Bool} {statements : List SchemaStatement}
    (h : schemaStatements mapping includeIndexes = .ok statements) :
    ∃ elements, schemaElements mapping = .ok elements ∧
      (∀ element, .create element ∈ statements ↔ element ∈ elements) ∧
      ∀ statement ∈ statements, (∃ element ∈ elements, statement = .create element) ∨
        ∃ element ∈ elements, statement ∈ element.indexes := by
  obtain ⟨elements, declared, built⟩ := bind_eq_ok_iff.mp h
  cases built
  refine ⟨elements, declared, ?_, ?_⟩
  · intro element
    cases includeIndexes <;> simp [Element.indexes]
  · intro statement mem
    rcases List.mem_append.mp mem with creates | indexes
    · obtain ⟨element, among, rfl⟩ := List.mem_map.mp creates
      exact .inl ⟨element, among, rfl⟩
    · cases includeIndexes with
      | true => exact .inr (List.mem_flatMap.mp indexes)
      | false => cases indexes

end DocGraph
