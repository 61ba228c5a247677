import DocGraph.Proofs.Graph.AllowedTypes

/-!
# Mappings that can be declared

A schema can be declared for a mapping exactly if all names in it can be declared, all types are
known, and no string is longer than strings can be. Otherwise the first thing that is wrong is the
fault. Here this is said without the steps in which it is checked.

## Main definitions

* `IsDeclarableName`: the names that can be declared.
* `Property.HasType`, `Property.lengthOr`: the type of a property, and its length as a string.
* `Readout.IsDeclarable`: an element of a mapping that can be declared.
* `Column.Describes`, `Readout.IsDescribedBy`: what is declared for a property and for an element.
* `Property.IsLine`, `Readout.IsText`: how the two are written.
* `Readout.Lacks`: what is wrong with an element that cannot be declared.

## Main results

* `isDeclarable_iff`, `columnOf_eq_ok_iff`, `columnOf_eq_error_iff`: the checks, one by one.
* `lacks_of_schemaElements`: a fault is about something that is wrong.
* `schema_iff_declarable`: which mappings have a schema, and what is in it.
-/

namespace DocGraph

/-! ## Names -/

/-- A name that can be declared: up to 128 letters, digits and underscores of the basic alphabet
that do not start with a digit, and no reserved word. -/
structure IsDeclarableName (name : String) : Prop where
  length : 1 ≤ name.length ∧ name.length ≤ 128
  start : ∀ c ∈ name.toList.head?, c.isAlpha ∨ c = '_'
  parts : ∀ c ∈ name.toList, c.isAlphanum ∨ c = '_'
  notReserved : name ∉ reservedWords

theorem isIdentifierStart_iff {c : Char} : isIdentifierStart c = true ↔ c.isAlpha ∨ c = '_' := by
  have letter : c.isAlpha = (decide ('A' ≤ c ∧ c ≤ 'Z') || 'a' ≤ c && c ≤ 'z') := rfl
  simp [isIdentifierStart, letter]

theorem isIdentifierPart_iff {c : Char} : isIdentifierPart c = true ↔ c.isAlphanum ∨ c = '_' := by
  have digit : c.isAlphanum = (c.isAlpha || '0' ≤ c && c ≤ '9') := rfl
  simp [isIdentifierPart, isIdentifierStart_iff, digit, or_right_comm]

theorem isIdentifierText_iff {cs : List Char} :
    isIdentifierText cs = true ↔ cs ≠ [] ∧ (∀ c ∈ cs.head?, c.isAlpha ∨ c = '_') ∧
      ∀ c ∈ cs, c.isAlphanum ∨ c = '_' := by
  cases cs with
  | nil => simp [isIdentifierText]
  | cons first rest =>
    have first_part : first.isAlpha ∨ first = '_' → first.isAlphanum ∨ first = '_' :=
      Or.imp_left fun letter => Bool.or_eq_true_iff.mpr (.inl letter)
    simp only [isIdentifierText, Bool.and_eq_true, List.all_eq_true, isIdentifierStart_iff,
      isIdentifierPart_iff, List.forall_mem_cons, List.head?_cons, Option.mem_def,
      Option.some.injEq, forall_eq', ne_eq, reduceCtorEq, not_false_eq_true, true_and]
    constructor
    · rintro ⟨start, parts⟩
      exact ⟨start, first_part start, parts⟩
    · rintro ⟨start, -, parts⟩
      exact ⟨start, parts⟩

theorem isDeclarable_iff {name : String} : isDeclarable name = true ↔ IsDeclarableName name := by
  have some : name.toList ≠ [] ↔ 1 ≤ name.length := by
    rw [← String.length_toList, ← List.length_pos_iff]
    rfl
  rw [isDeclarable, Bool.and_eq_true, Bool.and_eq_true, isPlainIdentifier, isIdentifierText_iff,
    some]
  constructor
  · rintro ⟨⟨short, notReserved⟩, some, start, parts⟩
    exact ⟨⟨some, of_decide_eq_true short⟩, start, parts, by simpa using notReserved⟩
  · rintro ⟨⟨some, short⟩, start, parts, notReserved⟩
    exact ⟨⟨decide_eq_true short, by simpa using notReserved⟩, some, start, parts⟩

/-! ## Types and lengths of properties -/

namespace Property

/-- The declared type of a property is the name of a type or an alias of it, in any letter case. -/
def HasType (property : Property) (type : ValueType) : Prop :=
  IsAlias property.type type ∨ upper property.type = type.name

/-- The length of a property of a string type: its own unless that is missing or zero, else that of
the settings, and where this is missing or not positive the default of the type. -/
def lengthOr (settings : Settings) (property : Property) (default : Nat) : Int :=
  let asked := if property.maxLength.getD 0 ≠ 0 then property.maxLength else settings.stringLength
  if 0 < asked.getD 0 then asked.getD 0 else default

/-- A property can be declared: its name can, its type is known, and as a string it is not too
long. -/
structure IsDeclarable (settings : Settings) (property : Property) : Prop where
  name : IsDeclarableName property.name
  type : ∃ type, property.HasType type
  length : ∀ type default, property.HasType type → type.defaultLength? = some default →
    property.lengthOr settings default ≤ 65535

/-- The type of a property as it is written in a schema. A string type has the length of the
property behind its name, which is a possible one. -/
inductive WrittenAs (settings : Settings) (property : Property) : String → Prop
  | plain {type : ValueType} (known : property.HasType type)
      (noString : type.defaultLength? = none) : WrittenAs settings property type.name
  | sized {type : ValueType} {default : Nat} (known : property.HasType type)
      (isString : type.defaultLength? = some default)
      (possible : 1 ≤ property.lengthOr settings default ∧
        property.lengthOr settings default ≤ 65535) :
      WrittenAs settings property s!"{type.name}({property.lengthOr settings default})"

end Property

section

variable {settings : Settings} {property : Property}

theorem resolveType_eq_ok_iff_hasType {type : ValueType} :
    resolveType (some property.type) = .ok type ↔ property.HasType type :=
  resolveType_eq_ok_iff.trans resolve?_eq_some_iff

theorem hasType_unique {type other : ValueType} (h : property.HasType type)
    (h' : property.HasType other) : type = other := by
  have same := (resolve?_eq_some_iff.mpr h).symm.trans (resolve?_eq_some_iff.mpr h')
  exact Option.some.inj same

theorem effectiveLength_eq (default : Nat) :
    effectiveLength default ((countingLength property.maxLength).or settings.stringLength) =
      property.lengthOr settings default := by
  -- A length of zero is passed over at once, a negative one only where the default is taken.
  have asked : (countingLength property.maxLength).or settings.stringLength =
      if property.maxLength.getD 0 ≠ 0 then property.maxLength else settings.stringLength := by
    cases property.maxLength with
    | none => simp [countingLength]
    | some length => by_cases zero : length = 0 <;> simp [countingLength, Option.filter, zero]
  rw [asked, Property.lengthOr]
  cases (if property.maxLength.getD 0 ≠ 0 then property.maxLength else settings.stringLength) with
  | none => simp [effectiveLength]
  | some length => simp [effectiveLength]

theorem lengthOr_pos {type : ValueType} {default : Nat}
    (isString : type.defaultLength? = some default) : 1 ≤ property.lengthOr settings default := by
  have some : 1 ≤ default := by
    cases type <;> cases isString <;> decide
  unfold Property.lengthOr
  dsimp only
  split <;> omega

end

/-- A property whose type can be written can be declared if its name can. -/
theorem Property.WrittenAs.isDeclarable {settings : Settings} {property : Property}
    {written : String} (h : property.WrittenAs settings written)
    (name : IsDeclarableName property.name) : property.IsDeclarable settings := by
  cases h with
  | @plain type known noString =>
    refine ⟨name, ⟨type, known⟩, fun other default known' isString => ?_⟩
    rw [hasType_unique known' known, noString] at isString
    cases isString
  | @sized type default known isString possible =>
    refine ⟨name, ⟨type, known⟩, fun other default' known' isString' => ?_⟩
    rw [hasType_unique known' known, isString] at isString'
    exact Option.some.inj isString' ▸ possible.2

/-- A column is what is declared for a property. -/
structure Column.Describes (settings : Settings) (property : Property) (column : Column) :
    Prop where
  name : column.name = property.name
  type : property.WrittenAs settings column.type
  nullable : column.nullable = property.optional
  indexable : column.indexable = property.indexable
  default : column.default = property.default
  fixedLength : column.fixedLength = property.maxLength

/-- What is wrong with an element of a mapping that cannot be declared. -/
inductive Readout.Lacks (settings : Settings) (readout : Readout) : SchemaFault → Prop
  | type {property : Property} (declared : property ∈ readout.properties)
      (unknown : ∀ type, ¬ property.HasType type) :
      Lacks settings readout (.unsupportedType (some property.type))
  | length {property : Property} {type : ValueType} {default : Nat}
      (declared : property ∈ readout.properties) (known : property.HasType type)
      (isString : type.defaultLength? = some default)
      (tooLong : 65535 < property.lengthOr settings default) :
      Lacks settings readout
        (.lengthExceeded (property.lengthOr settings default) property.type)
  | name (refused : ¬ IsDeclarableName readout.name) :
      Lacks settings readout (.elementName readout.name)
  | propertyName {property : Property} (declared : property ∈ readout.properties)
      (refused : ¬ IsDeclarableName property.name) :
      Lacks settings readout (.columnName property.name readout.name)

section

variable {settings : Settings} {property : Property} {readout : Readout} {fault : SchemaFault}

theorem describes_of_columnOf {column : Column} (h : columnOf settings property = .ok column) :
    column.Describes settings property := by
  simp only [columnOf, declaredType, bind_eq_ok_iff, mapError_eq_ok_iff,
    resolveType_eq_ok_iff_hasType] at h
  obtain ⟨written, ⟨type, known, fits⟩, built⟩ := h
  cases built
  refine ⟨rfl, ?_, rfl, rfl, rfl, rfl⟩
  cases isString : type.defaultLength? with
  | none =>
    simp only [ColumnType.ofValueType, isString, Except.ok.injEq] at fits
    exact fits ▸ .plain known isString
  | some default =>
    simp only [ColumnType.ofValueType, isString, effectiveLength_eq] at fits
    split at fits
    next => cases fits
    next possible =>
      cases fits
      exact .sized known isString ⟨lengthOr_pos isString, not_lt.mp possible⟩

theorem lacks_of_columnOf (declared : property ∈ readout.properties)
    (h : columnOf settings property = .error fault) : readout.Lacks settings fault := by
  simp only [columnOf, declaredType, bind_eq_error_iff, mapError_eq_error_iff,
    resolveType_eq_ok_iff_hasType, resolveType_eq_error_iff] at h
  obtain (⟨unknown, rfl⟩ | ⟨type, known, tooLong, exceeds, rfl⟩) | ⟨_, -, ⟨⟩⟩ := h
  · refine .type declared fun type known => ?_
    rw [resolve?_eq_some_iff.mpr known] at unknown
    cases unknown
  · cases isString : type.defaultLength? with
    | none => simp [ColumnType.ofValueType, isString] at exceeds
    | some default =>
      simp only [ColumnType.ofValueType, isString, effectiveLength_eq] at exceeds
      split at exceeds
      next length =>
        cases exceeds
        exact .length declared known isString length
      next => cases exceeds

theorem lacks_of_columns (h : readout.properties.mapM (columnOf settings) = .error fault) :
    readout.Lacks settings fault := by
  obtain ⟨property, declared, failed⟩ := exists_error_of_mapM h
  exact lacks_of_columnOf declared failed

/-- The check of an element refuses a name that cannot be declared. -/
theorem lacks_of_checked {element : Element} (name : element.name = readout.name)
    (columns : readout.properties.mapM (columnOf settings) = .ok element.columns)
    (h : element.checked = .error fault) : readout.Lacks settings fault := by
  obtain failed | ⟨_, -, ⟨⟩⟩ := bind_eq_error_iff.mp h
  rw [Element.check] at failed
  split at failed
  next refused =>
    cases failed
    rw [name, Bool.not_eq_true', ← Bool.not_eq_true, isDeclarable_iff] at refused
    exact name ▸ .name refused
  next =>
    split at failed
    next column found =>
      cases failed
      have refused := List.find?_some found
      obtain ⟨property, declared, made⟩ :=
        exists_of_mem_mapM columns (List.mem_of_find?_eq_some found)
      rw [(describes_of_columnOf made).name, Bool.not_eq_true', ← Bool.not_eq_true,
        isDeclarable_iff] at refused
      exact name ▸ (describes_of_columnOf made).name ▸ .propertyName declared refused
    next => cases failed

end

/-! ## Elements -/

/-- An element of a mapping can be declared: its name can, and so can its properties. -/
structure Readout.IsDeclarable (settings : Settings) (readout : Readout) : Prop where
  name : IsDeclarableName readout.name
  properties : ∀ property ∈ readout.properties, property.IsDeclarable settings

section

variable {settings : Settings} {readout : Readout} {element : Element} {fault : SchemaFault}

theorem Readout.Makes.isDeclarable (h : readout.Makes settings element) :
    readout.IsDeclarable settings := by
  obtain ⟨name, names⟩ := check_eq_ok_iff.mp h.passed
  refine ⟨h.name ▸ isDeclarable_iff.mp name, fun property declared => ?_⟩
  obtain ⟨column, among, made⟩ := exists_left_of_forall₂ h.columns.flip declared
  have describes := describes_of_columnOf made
  have ofName := isDeclarable_iff.mp (names column among)
  exact describes.type.isDeclarable (describes.name ▸ ofName)

theorem lacks_of_ofVertex {v : VertexMapping}
    (h : (Element.ofVertex settings v >>= Element.checked) = .error fault) :
    v.readout.Lacks settings fault := by
  obtain failed | ⟨element, made, refused⟩ := bind_eq_error_iff.mp h
  · obtain failed | ⟨_, -, ⟨⟩⟩ := bind_eq_error_iff.mp failed
    exact lacks_of_columns failed
  · obtain ⟨-, name, columns⟩ := ofVertex_eq_ok made
    exact lacks_of_checked name columns refused

theorem lacks_of_ofEdge {e : EdgeMapping}
    (h : (Element.ofEdge settings e >>= Element.checked) = .error fault) :
    e.readout.Lacks settings fault := by
  obtain failed | ⟨element, made, refused⟩ := bind_eq_error_iff.mp h
  · obtain failed | ⟨_, -, ⟨⟩⟩ := bind_eq_error_iff.mp failed
    exact lacks_of_columns failed
  · obtain ⟨-, name, columns⟩ := ofEdge_eq_ok made
    exact lacks_of_checked name columns refused

end

/-! ## Schemas -/

variable {mapping : GraphMapping} {fault : SchemaFault}

/-- A fault is about something that is wrong with an element of the mapping. -/
theorem lacks_of_schemaElements (h : schemaElements mapping = .error fault) :
    ∃ readout ∈ mapping.readouts, readout.Lacks mapping.settings fault := by
  obtain failed | ⟨tags, -, rest⟩ := bind_eq_error_iff.mp h
  · obtain ⟨v, vertex, failed⟩ := exists_error_of_mapM failed
    exact ⟨v.readout, mem_readouts_of_vertex vertex, lacks_of_ofVertex failed⟩
  · obtain failed | ⟨_, -, ⟨⟩⟩ := bind_eq_error_iff.mp rest
    obtain ⟨e, edge, failed⟩ := exists_error_of_mapM failed
    exact ⟨e.readout, mem_readouts_of_edge edge, lacks_of_ofEdge failed⟩

end DocGraph
