import DocGraph.Proofs.Mapping.Built

/-!
# Definitions that make a mapping

A definition makes a mapping exactly if all paths and keys are there, brackets in paths are
balanced, and every property has a type and a name of its own. Otherwise the fault is about
something that is missing or wrong. Here this is said of the definition as it is written, without
the steps in which it is checked.

## Main definitions

* `IsBalanced`: brackets that are balanced, by how many there are of each.
* `MappingDefinition.RefersTo`: a transform whose name stands for a named one.
* `MappingDefinition.resolve`: the transform that is meant by a transform.
* `PropertyDefinition.DeclaresType`: the type of a property.
* `MappingDefinition.IsWellFormed`: a definition with all that a mapping needs.
* `MappingDefinition.Lacks`: what is wrong with one that is not.
* `MappingDefinition.IsMadeInto`: a mapping with one part for every part of a definition.

## Main results

* `bracketsBalanced_iff`, `declaresType_iff`: the checks, one by one.
* `lacks_of_buildMapping`: a fault is about something that is wrong.
* `mapping_iff_wellFormed`: which definitions make a mapping, and which one.
-/

namespace DocGraph

/-! ## Brackets -/

/-- Brackets are balanced: all are closed, and at no place have more been closed than opened. -/
structure IsBalanced (path : String) : Prop where
  never_more : ∀ before, before <+: path.toList → before.count ']' ≤ before.count '['
  all : path.toList.count '[' = path.toList.count ']'

/-- What stands in front of a place is nothing, or it starts with the first character. -/
theorem forall_prefix_cons_iff {c : Char} {rest : List Char} {P : List Char → Prop} :
    (∀ before, before <+: c :: rest → P before) ↔
      P [] ∧ ∀ before, before <+: rest → P (c :: before) := by
  constructor
  · intro h
    exact ⟨h [] List.nil_prefix, fun before front => h _ ((List.prefix_cons_inj c).mpr front)⟩
  · rintro ⟨first, further⟩ before front
    rcases List.prefix_cons_iff.mp front with rfl | ⟨later, rfl, behind⟩
    · exact first
    · exact further later behind

theorem closesBrackets_iff {depth : Nat} {path : List Char} :
    closesBrackets depth path = true ↔
      (∀ before, before <+: path → before.count ']' ≤ depth + before.count '[') ∧
        depth + path.count '[' = path.count ']' := by
  -- What is open in front of the path counts as opened, so every bracket moves into the depth.
  induction path generalizing depth with
  | nil => simp [closesBrackets]
  | cons c rest ih =>
    rw [forall_prefix_cons_iff]
    by_cases opens : c = '['
    · simp [closesBrackets, opens, ih, Nat.add_comm, Nat.add_left_comm]
    by_cases closes : c = ']'
    · subst closes
      cases depth with
      | zero =>
        -- Nothing is open, so the first character is already one too many.
        have more : ¬ ∀ before, before <+: rest → (']' :: before).count ']' ≤
            0 + (']' :: before).count '[' := fun h => absurd (h [] List.nil_prefix) (by decide)
        simp only [closesBrackets, more, false_and, and_false]
        simp
      | succ depth =>
        simp [closesBrackets, ih, Nat.add_right_comm]
    · simp [closesBrackets, opens, closes, ih]

theorem bracketsBalanced_iff {path : String} : bracketsBalanced path = true ↔ IsBalanced path := by
  rw [bracketsBalanced, closesBrackets_iff]
  simp only [Nat.zero_add]
  exact ⟨fun ⟨never, all⟩ => ⟨never, all⟩, fun ⟨never, all⟩ => ⟨never, all⟩⟩

/-! ## Transforms that stand for others -/

namespace MappingDefinition

/-- The name of a transform stands for a named one, and it has no type. -/
def RefersTo (definition : MappingDefinition) (transform named : TransformDefinition) : Prop :=
  transform.type.getD "" = "" ∧
    ∃ name, transform.name = some name ∧ definition.transforms.lookup name = some named

/-- The transform that is meant by one in a definition: a name without a type stands for the named
transform that the definition has under this name, if there is one. -/
def resolve (definition : MappingDefinition) (transform : TransformDefinition) :
    TransformDefinition :=
  if transform.type.getD "" = "" then
    (transform.name.bind (definition.transforms.lookup ·)).getD transform
  else transform

/-- The settings of a definition as they are built. -/
def builtSettings (definition : MappingDefinition) : Settings := buildSettings definition.settings

/-- The named transforms of a definition as they are built. -/
def builtTransforms (definition : MappingDefinition) : List (String × PropertyTransform) :=
  definition.transforms.map (buildNamedTransform definition.builtSettings)

/-- A transform of a definition as it is built. -/
def builtTransform (definition : MappingDefinition) (transform : TransformDefinition) :
    PropertyTransform :=
  buildTransform transform definition.builtSettings definition.builtTransforms

end MappingDefinition

/-- A transform that refers to no other is made of what it says itself. -/
theorem buildTransform_nil (transform : TransformDefinition) (settings : Settings) :
    buildTransform transform settings [] = {
      kind := .ofDeclared transform.type
      name := transform.name
      params := buildParams transform (.ofDeclared transform.type) settings
      rules := buildRules transform } := by
  unfold buildTransform
  cases transform.name <;> rfl

/-- A named transform takes the name that it is defined under if it has neither a name nor a
kind. -/
theorem buildNamedTransform_eq (settings : Settings) (name : String)
    (named : TransformDefinition) :
    buildNamedTransform settings (name, named) = (name, { buildTransform named settings [] with
      name := if named.name = none ∧ TransformKind.ofDeclared named.type = .none then some name
        else named.name }) := by
  unfold buildNamedTransform
  rw [buildTransform_nil]
  dsimp only
  split <;> simp_all

theorem lookup_builtTransforms (definition : MappingDefinition) (name : String) :
    definition.builtTransforms.lookup name =
      (definition.transforms.lookup name).map fun transform =>
        (buildNamedTransform definition.builtSettings (name, transform)).2 := by
  unfold MappingDefinition.builtTransforms
  induction definition.transforms with
  | nil => rfl
  | cons entry rest ih =>
    obtain ⟨key, transform⟩ := entry
    have first : buildNamedTransform definition.builtSettings (key, transform) =
        (key, (buildNamedTransform definition.builtSettings (key, transform)).2) := by
      rw [buildNamedTransform_eq]
    rw [List.map_cons, first, List.lookup_cons, List.lookup_cons, ih]
    by_cases same : name = key
    · simp [same]
    · simp [beq_false_of_ne same]

theorem isUntyped_iff {transform : TransformDefinition} :
    isUntyped transform = true ↔ transform.type.getD "" = "" := by
  cases type : transform.type <;> simp [isUntyped, type]

section

variable {definition : MappingDefinition} {transform named : TransformDefinition}

theorem resolve_of_refersTo (refers : definition.RefersTo transform named) :
    definition.resolve transform = named := by
  obtain ⟨untyped, name, given, found⟩ := refers
  simp [MappingDefinition.resolve, untyped, given, found]

theorem resolve_of_not_refersTo (own : ∀ named, ¬ definition.RefersTo transform named) :
    definition.resolve transform = transform := by
  unfold MappingDefinition.resolve
  split
  next untyped =>
    cases found : transform.name.bind (definition.transforms.lookup ·) with
    | none => rfl
    | some named =>
      obtain ⟨name, given, found⟩ := Option.bind_eq_some_iff.mp found
      exact absurd ⟨untyped, name, given, found⟩ (own named)
  next => rfl

theorem builtTransform_of_refersTo {name : String} (untyped : transform.type.getD "" = "")
    (given : transform.name = some name) (found : definition.transforms.lookup name = some named) :
    definition.builtTransform transform =
      (buildNamedTransform definition.builtSettings (name, named)).2 := by
  have lookup := lookup_builtTransforms definition name
  rw [found] at lookup
  simp [MappingDefinition.builtTransform, buildTransform, given, lookup,
    isUntyped_iff.mpr untyped]

theorem builtTransform_of_not_refersTo (own : ∀ named, ¬ definition.RefersTo transform named) :
    definition.builtTransform transform =
      buildTransform transform definition.builtSettings [] := by
  rw [buildTransform_nil]
  unfold MappingDefinition.builtTransform buildTransform
  split
  next named found untyped =>
    obtain ⟨name, given, found⟩ := Option.bind_eq_some_iff.mp found
    rw [lookup_builtTransforms, Option.map_eq_some_iff] at found
    obtain ⟨meant, found, -⟩ := found
    exact absurd ⟨isUntyped_iff.mp untyped, name, given, found⟩ (own meant)
  next => rfl

/-- Apart from its name, a built transform is made of the transform that is meant. -/
theorem exists_builtTransform_eq (definition : MappingDefinition)
    (transform : TransformDefinition) :
    ∃ name, definition.builtTransform transform =
      { buildTransform (definition.resolve transform) definition.builtSettings [] with
        name := name } := by
  by_cases refers : ∃ named, definition.RefersTo transform named
  · obtain ⟨named, refers⟩ := refers
    have ⟨untyped, key, given, found⟩ := refers
    rw [resolve_of_refersTo refers, builtTransform_of_refersTo untyped given found,
      buildNamedTransform_eq]
    exact ⟨_, rfl⟩
  · have own := not_exists.mp refers
    rw [resolve_of_not_refersTo own, builtTransform_of_not_refersTo own]
    exact ⟨_, rfl⟩

end

/-! ## Types of properties -/

/-- The type that a property declares: its own, or that of the first rule of its transform if it has
none. -/
inductive PropertyDefinition.DeclaresType (definition : MappingDefinition)
    (property : PropertyDefinition) : String → Prop
  | own {type : String} (given : property.type = some type) (some : type ≠ "") :
      DeclaresType definition property type
  | ofRule {transform : TransformDefinition} {rule : TransformRule} {rest : List TransformRule}
      (missing : property.type.getD "" = "") (attached : property.transform = some transform)
      (first : (definition.resolve transform).rules = rule :: rest) (some : rule.type ≠ "") :
      DeclaresType definition property rule.type

/-- The type of the first rule, or nothing. -/
def firstType (rules : List TransformRule) : String := (rules.head?.map (·.type)).getD ""

theorem firstType_eq_iff {rules : List TransformRule} {type : String} (some : type ≠ "") :
    firstType rules = type ↔ ∃ rule rest, rules = rule :: rest ∧ rule.type = type := by
  cases rules with
  | nil => simp [firstType, some.symm]
  | cons rule rest => simp [firstType]

/-- The rule that is made of mappings has no type, so it makes no difference. -/
theorem firstType_buildRules (transform : TransformDefinition) :
    firstType (buildRules transform) = firstType transform.rules := by
  unfold buildRules
  split
  next => rfl
  next => cases transform.rules <;> rfl

/-- The rules of a built transform start like those of the transform that is meant. -/
theorem firstType_builtTransform (definition : MappingDefinition)
    (transform : TransformDefinition) :
    firstType (definition.builtTransform transform).rules =
      firstType (definition.resolve transform).rules := by
  obtain ⟨name, same⟩ := exists_builtTransform_eq definition transform
  rw [same, buildTransform_nil]
  exact firstType_buildRules (definition.resolve transform)

theorem propertyType_of_given {property : PropertyDefinition} {type : String}
    (given : property.type = some type) (some : type ≠ "")
    (transform : Option PropertyTransform) : propertyType property transform = type := by
  have counts : property.type.filter (· ≠ "") = .some type := by simp [given, some]
  rw [propertyType, counts]

theorem propertyType_of_missing {definition : MappingDefinition} {property : PropertyDefinition}
    (missing : property.type.getD "" = "") :
    propertyType property (property.transform.map definition.builtTransform) =
      (property.transform.map fun t => firstType (definition.resolve t).rules).getD "" := by
  have none : property.type.filter (· ≠ "") = .none := by
    cases given : property.type with
    | none => rfl
    | some type => simpa [given] using missing
  rw [propertyType, none]
  cases property.transform with
  | none => rfl
  | some transform => exact firstType_builtTransform definition transform

theorem declaresType_iff {definition : MappingDefinition} {property : PropertyDefinition}
    {type : String} :
    property.DeclaresType definition type ↔
      propertyType property (property.transform.map definition.builtTransform) = type ∧
        type ≠ "" := by
  constructor
  · intro declares
    cases declares with
    | own given some => exact ⟨propertyType_of_given given some _, some⟩
    | ofRule missing attached first some =>
      rw [propertyType_of_missing missing, attached]
      exact ⟨(firstType_eq_iff some).mpr ⟨_, _, first, rfl⟩, some⟩
  · rintro ⟨same, some⟩
    by_cases missing : property.type.getD "" = ""
    · rw [propertyType_of_missing missing] at same
      cases attached : property.transform with
      | none => exact absurd (by simpa [attached] using same.symm) some
      | some transform =>
        rw [attached, Option.map_some, Option.getD_some] at same
        obtain ⟨rule, rest, first, rfl⟩ := (firstType_eq_iff some).mp same
        exact .ofRule missing attached first some
    · cases given : property.type with
      | none => simp [given] at missing
      | some own =>
        have own_some : own ≠ "" := by simpa [given] using missing
        rw [propertyType_of_given given own_some] at same
        exact same ▸ .own given own_some

/-! ## Definitions -/

/-- What tags and edges have in common: a name, the path to their records, and properties. -/
structure ElementDefinition where
  name : String
  source : String
  properties : List PropertyDefinition
  deriving DecidableEq, Repr

def TagDefinition.element (entry : String × TagDefinition) : ElementDefinition :=
  ⟨entry.1, entry.2.source, entry.2.properties⟩

def EdgeDefinition.element (entry : String × EdgeDefinition) : ElementDefinition :=
  ⟨entry.1, entry.2.source, entry.2.properties⟩

/-- One end of an edge as it is defined. -/
def EdgeDefinition.endpoint (edge : EdgeDefinition) : EndRole → Endpoint
  | .source => ⟨edge.sourceTag, edge.sourceKey⟩
  | .target => ⟨edge.targetTag, edge.targetKey⟩

/-- The elements of a definition: its tags, then its edges. -/
def MappingDefinition.elements (definition : MappingDefinition) : List ElementDefinition :=
  definition.tags.map TagDefinition.element ++ definition.edges.map EdgeDefinition.element

/-- A property has a path with balanced brackets and a type. -/
structure PropertyDefinition.IsWellFormed (definition : MappingDefinition)
    (property : PropertyDefinition) : Prop where
  path : property.path ≠ ""
  balanced : IsBalanced property.path
  type : ∃ type, property.DeclaresType definition type

/-- An element has a path with balanced brackets to its records. Its properties are well formed and
have different names, given ones or such that are made of their paths. -/
structure ElementDefinition.IsWellFormed (definition : MappingDefinition)
    (element : ElementDefinition) : Prop where
  source : element.source ≠ ""
  balanced : IsBalanced element.source
  properties : ∀ property ∈ element.properties, property.IsWellFormed definition
  distinct : (element.properties.map propertyName).Nodup

/-- A definition has all that a mapping needs. -/
structure MappingDefinition.IsWellFormed (definition : MappingDefinition) : Prop where
  elements : ∀ element ∈ definition.elements, element.IsWellFormed definition
  keys : ∀ entry ∈ definition.tags, entry.2.key ≠ ""
  endTags : ∀ entry ∈ definition.edges, ∀ role, (entry.2.endpoint role).tag ≠ ""
  endKeys : ∀ entry ∈ definition.edges, ∀ role, (entry.2.endpoint role).key ≠ ""

/-- What is wrong with an element that is not well formed. -/
inductive ElementDefinition.Lacks (definition : MappingDefinition) (element : ElementDefinition) :
    MappingFault → Prop
  | source (missing : element.source = "") : Lacks definition element (.emptySource element.name)
  | balance (unbalanced : ¬ IsBalanced element.source) :
      Lacks definition element (.unbalancedSource element.source element.name)
  | type {property : PropertyDefinition} (among : property ∈ element.properties)
      (untyped : ∀ type, ¬ property.DeclaresType definition type) :
      Lacks definition element (.missingType (propertyName property))
  | path {property : PropertyDefinition} (among : property ∈ element.properties)
      (missing : property.path = "") :
      Lacks definition element (.emptyPath (propertyName property) element.name)
  | pathBalance {property : PropertyDefinition} (among : property ∈ element.properties)
      (unbalanced : ¬ IsBalanced property.path) :
      Lacks definition element
        (.unbalancedPath property.path (propertyName property) element.name)
  | name {name : String} (twice : 2 ≤ (element.properties.map propertyName).count name) :
      Lacks definition element (.duplicateProperty name element.name)

/-- What is wrong with a definition that is not well formed. -/
inductive MappingDefinition.Lacks (definition : MappingDefinition) : MappingFault → Prop
  | element {element : ElementDefinition} {fault : MappingFault}
      (among : element ∈ definition.elements) (lacks : element.Lacks definition fault) :
      Lacks definition fault
  | key {tag : String} {t : TagDefinition} (among : (tag, t) ∈ definition.tags)
      (missing : t.key = "") : Lacks definition (.emptyKey tag)
  | endTag {edge : String} {e : EdgeDefinition} {role : EndRole}
      (among : (edge, e) ∈ definition.edges) (missing : (e.endpoint role).tag = "") :
      Lacks definition (.emptyEndTag role edge)
  | endKey {edge : String} {e : EdgeDefinition} {role : EndRole}
      (among : (edge, e) ∈ definition.edges) (missing : (e.endpoint role).key = "") :
      Lacks definition (.emptyKey s!"{edge}.{role.name}")

theorem ElementDefinition.Lacks.not_isWellFormed {definition : MappingDefinition}
    {element : ElementDefinition} {fault : MappingFault} (h : element.Lacks definition fault) :
    ¬ element.IsWellFormed definition := by
  rintro ⟨source, balanced, properties, distinct⟩
  cases h with
  | source missing => exact source missing
  | balance unbalanced => exact unbalanced balanced
  | type among untyped =>
    obtain ⟨type, declares⟩ := (properties _ among).type
    exact untyped type declares
  | path among missing => exact (properties _ among).path missing
  | pathBalance among unbalanced => exact unbalanced (properties _ among).balanced
  | @name name twice =>
    have once := List.nodup_iff_count_le_one.mp distinct name
    omega

theorem MappingDefinition.Lacks.not_isWellFormed {definition : MappingDefinition}
    {fault : MappingFault} (h : definition.Lacks fault) : ¬ definition.IsWellFormed := by
  rintro ⟨elements, keys, endTags, endKeys⟩
  cases h with
  | element among lacks => exact lacks.not_isWellFormed (elements _ among)
  | key among missing => exact keys _ among missing
  | endTag among missing => exact endTags _ among _ missing
  | endKey among missing => exact endKeys _ among _ missing

/-! ## Properties -/

/-- What a mapping has for a property of a definition. -/
structure PropertyDefinition.IsMadeInto (definition : MappingDefinition) (p : PropertyDefinition)
    (property : Property) : Prop where
  name : property.name = propertyName p
  path : property.path = p.path
  type : p.DeclaresType definition property.type
  optional : property.optional = p.optional
  indexable : property.indexable = p.index.getD (p.indexable.getD false)
  maxLength : property.maxLength = p.maxLength
  default : property.default = p.default
  transform : property.transform = p.transform.map definition.builtTransform

section

variable {definition : MappingDefinition} {p : PropertyDefinition} {property : Property}
  {fault : MappingFault}

theorem isMadeInto_of_buildProperty
    (h : buildProperty p definition.builtSettings definition.builtTransforms = .ok property) :
    p.IsMadeInto definition property := by
  simp only [buildProperty, bind_eq_ok_iff, require_eq_ok_iff] at h
  obtain ⟨_, some, built⟩ := h
  cases built
  exact ⟨rfl, rfl, declaresType_iff.mpr ⟨rfl, of_decide_eq_true some⟩, rfl, rfl, rfl, rfl, rfl⟩

theorem untyped_of_buildProperty
    (h : buildProperty p definition.builtSettings definition.builtTransforms = .error fault) :
    (∀ type, ¬ p.DeclaresType definition type) ∧ fault = .missingType (propertyName p) := by
  simp only [buildProperty, bind_eq_error_iff, require_eq_error_iff] at h
  obtain ⟨none, rfl⟩ | ⟨_, -, ⟨⟩⟩ := h
  refine ⟨fun type declares => ?_, rfl⟩
  obtain ⟨same, some⟩ := declaresType_iff.mp declares
  exact of_decide_eq_false none (same ▸ some)

/-- Properties pass their check only with paths whose brackets are balanced. -/
theorem paths_of_checkProperties {element : String} {seen : List String}
    {properties : List Property} (h : checkProperties element seen properties = .ok ()) :
    ∀ property ∈ properties, property.path ≠ "" ∧ IsBalanced property.path := by
  induction properties generalizing seen with
  | nil => simp
  | cons property rest ih =>
    simp only [checkProperties, bind_eq_ok_iff, require_eq_ok_iff] at h
    obtain ⟨_, -, _, path, _, balanced, passed⟩ := h
    have first : property.path ≠ "" ∧ IsBalanced property.path :=
      ⟨of_decide_eq_true path, bracketsBalanced_iff.mp balanced⟩
    exact List.forall_mem_cons.mpr ⟨first, ih passed⟩

/-- Properties fail their check by a name that occurs twice among them and those seen, or by the
path of one of them. -/
theorem faulty_of_checkProperties {element : String} {seen : List String}
    {properties : List Property} (h : checkProperties element seen properties = .error fault) :
    (∃ name, 2 ≤ (properties.map (·.name)).count name + seen.count name ∧
      fault = .duplicateProperty name element) ∨
    ∃ property ∈ properties,
      property.path = "" ∧ fault = .emptyPath property.name element ∨
      ¬ IsBalanced property.path ∧ fault = .unbalancedPath property.path property.name element := by
  -- A checked name moves to those seen, so it is counted all the same.
  induction properties generalizing seen with
  | nil => cases h
  | cons property rest ih =>
    simp only [checkProperties, bind_eq_error_iff, require_eq_error_iff] at h
    obtain ⟨known, rfl⟩ | ⟨_, -, ⟨missing, rfl⟩ | ⟨_, -, ⟨unbalanced, rfl⟩ | ⟨_, -, later⟩⟩⟩ := h
    · have once : 0 < seen.count property.name := List.count_pos_iff.mpr (by simpa using known)
      refine .inl ⟨property.name, ?_, rfl⟩
      rw [List.map_cons, List.count_cons_self]
      omega
    · exact .inr ⟨property, List.mem_cons_self, .inl ⟨by simpa using missing, rfl⟩⟩
    · rw [← Bool.not_eq_true, bracketsBalanced_iff] at unbalanced
      exact .inr ⟨property, List.mem_cons_self, .inr ⟨unbalanced, rfl⟩⟩
    · obtain ⟨name, twice, rfl⟩ | ⟨other, among, faulty⟩ := ih later
      · refine .inl ⟨name, ?_, rfl⟩
        rw [List.count_cons] at twice
        rw [List.map_cons, List.count_cons]
        omega
      · exact .inr ⟨other, List.mem_cons_of_mem _ among, faulty⟩

end

/-! ## Elements -/

section

variable {definition : MappingDefinition} {properties : List Property} {fault : MappingFault}

theorem names_of_isMadeInto {definitions : List PropertyDefinition}
    (h : List.Forall₂ (PropertyDefinition.IsMadeInto definition) definitions properties) :
    properties.map (·.name) = definitions.map propertyName :=
  map_eq_map_of_forall₂ (h.flip.imp fun _ _ made => made.name)

theorem isMadeInto_of_buildProperties (element : ElementDefinition)
    (h : buildProperties element.properties element.name definition.builtSettings
      definition.builtTransforms = .ok properties) :
    List.Forall₂ (PropertyDefinition.IsMadeInto definition) element.properties properties ∧
      checkProperties element.name [] properties = .ok () := by
  simp only [buildProperties, bind_eq_ok_iff, mapM_eq_ok_iff] at h
  obtain ⟨_, built, _, passed, same⟩ := h
  cases same
  exact ⟨built.imp fun _ _ => isMadeInto_of_buildProperty, passed⟩

theorem isWellFormed_of_built (element : ElementDefinition)
    (source : checkSource element.source element.name = .ok ())
    (h : buildProperties element.properties element.name definition.builtSettings
      definition.builtTransforms = .ok properties) : element.IsWellFormed definition := by
  simp only [checkSource, bind_eq_ok_iff, require_eq_ok_iff] at source
  obtain ⟨_, some, balanced⟩ := source
  obtain ⟨made, passed⟩ := isMadeInto_of_buildProperties element h
  have distinct : (element.properties.map propertyName).Nodup :=
    names_of_isMadeInto made ▸ (nodup_of_checkProperties passed).1
  refine ⟨of_decide_eq_true some, bracketsBalanced_iff.mp balanced, fun p among => ?_, distinct⟩
  obtain ⟨property, declared, made⟩ := exists_left_of_forall₂ made.flip among
  obtain ⟨path, balanced⟩ := paths_of_checkProperties passed property declared
  rw [made.path] at path balanced
  exact ⟨path, balanced, property.type, made.type⟩

theorem lacks_of_checkSource {element : ElementDefinition}
    (h : checkSource element.source element.name = .error fault) :
    element.Lacks definition fault := by
  simp only [checkSource, bind_eq_error_iff, require_eq_error_iff] at h
  obtain ⟨missing, rfl⟩ | ⟨_, -, unbalanced, rfl⟩ := h
  · exact .source (by simpa using missing)
  · rw [← Bool.not_eq_true, bracketsBalanced_iff] at unbalanced
    exact .balance unbalanced

theorem lacks_of_buildProperties {element : ElementDefinition}
    (h : buildProperties element.properties element.name definition.builtSettings
      definition.builtTransforms = .error fault) : element.Lacks definition fault := by
  obtain failed | ⟨properties, built, rest⟩ := bind_eq_error_iff.mp h
  · obtain ⟨p, among, failed⟩ := exists_error_of_mapM failed
    obtain ⟨untyped, rfl⟩ := untyped_of_buildProperty failed
    exact .type among untyped
  · have made : List.Forall₂ (PropertyDefinition.IsMadeInto definition) element.properties
        properties := ((mapM_eq_ok_iff _ _ _).mp built).imp fun _ _ => isMadeInto_of_buildProperty
    obtain failed | ⟨_, -, ⟨⟩⟩ := bind_eq_error_iff.mp rest
    obtain ⟨name, twice, rfl⟩ | ⟨property, declared, faulty⟩ := faulty_of_checkProperties failed
    · rw [names_of_isMadeInto made] at twice
      exact .name twice
    · obtain ⟨p, among, made⟩ := exists_left_of_forall₂ made declared
      rw [made.name, made.path] at faulty
      obtain ⟨missing, rfl⟩ | ⟨unbalanced, rfl⟩ := faulty
      · exact .path among missing
      · exact .pathBalance among unbalanced

end

/-- What a mapping has for a tag of a definition. -/
structure TagDefinition.IsMadeInto (definition : MappingDefinition) (entry : String × TagDefinition)
    (v : VertexMapping) : Prop where
  tag : v.tag = entry.1
  source : v.source = entry.2.source
  key : v.key = entry.2.key
  properties :
    List.Forall₂ (PropertyDefinition.IsMadeInto definition) entry.2.properties v.properties
  dynamicFields : v.dynamicFields = buildDynamicFields entry.2.dynamicFields

/-- What a mapping has for an edge of a definition. -/
structure EdgeDefinition.IsMadeInto (definition : MappingDefinition)
    (entry : String × EdgeDefinition) (e : EdgeMapping) : Prop where
  name : e.name = entry.1
  source : e.source = entry.2.source
  start : e.start = entry.2.endpoint .source
  target : e.target = entry.2.endpoint .target
  properties :
    List.Forall₂ (PropertyDefinition.IsMadeInto definition) entry.2.properties e.properties

section

variable {definition : MappingDefinition} {fault : MappingFault}

theorem isMadeInto_of_buildVertex {entry : String × TagDefinition} {v : VertexMapping}
    (h : buildVertex definition.builtSettings definition.builtTransforms entry = .ok v) :
    (TagDefinition.element entry).IsWellFormed definition ∧ entry.2.key ≠ "" ∧
      TagDefinition.IsMadeInto definition entry v := by
  simp only [buildVertex, bind_eq_ok_iff, require_eq_ok_iff] at h
  obtain ⟨_, source, _, key, properties, checked, built⟩ := h
  cases built
  have wellFormed := isWellFormed_of_built (TagDefinition.element entry) source checked
  have made := (isMadeInto_of_buildProperties (TagDefinition.element entry) checked).1
  exact ⟨wellFormed, of_decide_eq_true key, rfl, rfl, rfl, made, rfl⟩

theorem lacks_of_buildVertex {entry : String × TagDefinition} (among : entry ∈ definition.tags)
    (h : buildVertex definition.builtSettings definition.builtTransforms entry = .error fault) :
    definition.Lacks fault := by
  have element : TagDefinition.element entry ∈ definition.elements :=
    List.mem_append_left _ (List.mem_map_of_mem among)
  simp only [buildVertex, bind_eq_error_iff, require_eq_error_iff] at h
  obtain failed | ⟨_, -, ⟨missing, rfl⟩ | ⟨_, -, failed | ⟨_, -, ⟨⟩⟩⟩⟩ := h
  · exact .element element (lacks_of_checkSource failed)
  · exact .key among (by simpa using missing)
  · exact .element element (lacks_of_buildProperties failed)

theorem checkEndpoint_eq_ok_iff {edge : String} {role : EndRole} {endpoint : Endpoint} {u : Unit} :
    checkEndpoint edge role endpoint = .ok u ↔ endpoint.tag ≠ "" ∧ endpoint.key ≠ "" := by
  simp only [checkEndpoint, bind_eq_ok_iff, require_eq_ok_iff, decide_eq_true_eq]
  exact ⟨fun ⟨_, tag, key⟩ => ⟨tag, key⟩, fun ⟨tag, key⟩ => ⟨(), tag, key⟩⟩

theorem lacks_of_checkEndpoint {entry : String × EdgeDefinition} (role : EndRole)
    (among : entry ∈ definition.edges)
    (h : checkEndpoint entry.1 role (entry.2.endpoint role) = .error fault) :
    definition.Lacks fault := by
  simp only [checkEndpoint, bind_eq_error_iff, require_eq_error_iff] at h
  obtain ⟨missing, rfl⟩ | ⟨_, -, missing, rfl⟩ := h
  · exact .endTag among (by simpa using missing)
  · exact .endKey among (by simpa using missing)

theorem isMadeInto_of_buildEdge {entry : String × EdgeDefinition} {e : EdgeMapping}
    (h : buildEdge definition.builtSettings definition.builtTransforms entry = .ok e) :
    (EdgeDefinition.element entry).IsWellFormed definition ∧
      (∀ role, (entry.2.endpoint role).tag ≠ "" ∧ (entry.2.endpoint role).key ≠ "") ∧
      EdgeDefinition.IsMadeInto definition entry e := by
  simp only [buildEdge, bind_eq_ok_iff] at h
  obtain ⟨_, source, _, start, _, target, properties, checked, built⟩ := h
  cases built
  have ends (role) : (entry.2.endpoint role).tag ≠ "" ∧ (entry.2.endpoint role).key ≠ "" := by
    cases role with
    | source => exact checkEndpoint_eq_ok_iff.mp start
    | target => exact checkEndpoint_eq_ok_iff.mp target
  have wellFormed := isWellFormed_of_built (EdgeDefinition.element entry) source checked
  have made := (isMadeInto_of_buildProperties (EdgeDefinition.element entry) checked).1
  exact ⟨wellFormed, ends, rfl, rfl, rfl, rfl, made⟩

theorem lacks_of_buildEdge {entry : String × EdgeDefinition} (among : entry ∈ definition.edges)
    (h : buildEdge definition.builtSettings definition.builtTransforms entry = .error fault) :
    definition.Lacks fault := by
  have element : EdgeDefinition.element entry ∈ definition.elements :=
    List.mem_append_right _ (List.mem_map_of_mem among)
  simp only [buildEdge, bind_eq_error_iff] at h
  obtain failed | ⟨_, -, failed | ⟨_, -, failed | ⟨_, -, failed | ⟨_, -, ⟨⟩⟩⟩⟩⟩ := h
  · exact .element element (lacks_of_checkSource failed)
  · exact lacks_of_checkEndpoint .source among failed
  · exact lacks_of_checkEndpoint .target among failed
  · exact .element element (lacks_of_buildProperties failed)

end

/-! ## Mappings -/

/-- A mapping is what a definition makes: a vertex mapping for every tag, an edge mapping for every
edge and a property for every property, in the order of the definition. -/
structure MappingDefinition.IsMadeInto (definition : MappingDefinition) (mapping : GraphMapping) :
    Prop where
  vertices : List.Forall₂ (TagDefinition.IsMadeInto definition) definition.tags mapping.vertices
  edges : List.Forall₂ (EdgeDefinition.IsMadeInto definition) definition.edges mapping.edges
  transforms : mapping.transforms = definition.builtTransforms
  settings : mapping.settings = definition.builtSettings

section

variable {definition : MappingDefinition}

theorem isMadeInto_of_buildMapping {mapping : GraphMapping}
    (h : buildMapping definition = .ok mapping) :
    definition.IsWellFormed ∧ definition.IsMadeInto mapping := by
  simp only [buildMapping, bind_eq_ok_iff, mapM_eq_ok_iff] at h
  obtain ⟨vertices, ofTags, edges, ofEdges, built⟩ := h
  cases built
  have tag (entry) (among : entry ∈ definition.tags) :
      (TagDefinition.element entry).IsWellFormed definition ∧ entry.2.key ≠ "" := by
    obtain ⟨v, -, made⟩ := exists_left_of_forall₂ ofTags.flip among
    obtain ⟨wellFormed, key, -⟩ := isMadeInto_of_buildVertex made
    exact ⟨wellFormed, key⟩
  have edge (entry) (among : entry ∈ definition.edges) :
      (EdgeDefinition.element entry).IsWellFormed definition ∧
        ∀ role, (entry.2.endpoint role).tag ≠ "" ∧ (entry.2.endpoint role).key ≠ "" := by
    obtain ⟨e, -, made⟩ := exists_left_of_forall₂ ofEdges.flip among
    obtain ⟨wellFormed, ends, -⟩ := isMadeInto_of_buildEdge made
    exact ⟨wellFormed, ends⟩
  refine ⟨⟨fun element member => ?_, fun entry among => (tag entry among).2,
    fun entry among role => ((edge entry among).2 role).1,
    fun entry among role => ((edge entry among).2 role).2⟩, ?_, ?_, rfl, rfl⟩
  · rcases List.mem_append.mp member with ofTag | ofEdge
    · obtain ⟨entry, among, rfl⟩ := List.mem_map.mp ofTag
      exact (tag entry among).1
    · obtain ⟨entry, among, rfl⟩ := List.mem_map.mp ofEdge
      exact (edge entry among).1
  · exact ofTags.imp fun _ _ made => (isMadeInto_of_buildVertex made).2.2
  · exact ofEdges.imp fun _ _ made => (isMadeInto_of_buildEdge made).2.2

/-- A fault is about something that is wrong with the definition. -/
theorem lacks_of_buildMapping {fault : MappingFault} (h : buildMapping definition = .error fault) :
    definition.Lacks fault := by
  simp only [buildMapping, bind_eq_error_iff] at h
  obtain failed | ⟨_, -, failed | ⟨_, -, ⟨⟩⟩⟩ := h
  · obtain ⟨entry, among, failed⟩ := exists_error_of_mapM failed
    exact lacks_of_buildVertex among failed
  · obtain ⟨entry, among, failed⟩ := exists_error_of_mapM failed
    exact lacks_of_buildEdge among failed

end

/-- A definition makes a mapping exactly if it is well formed. If it makes none, the fault is about
something that is wrong with it. The mapping has one part for every part of the definition, in the
same order. -/
theorem mapping_iff_wellFormed (definition : MappingDefinition) :
    ((∃ mapping, buildMapping definition = .ok mapping) ↔ definition.IsWellFormed) ∧
    (∀ fault, buildMapping definition = .error fault → definition.Lacks fault) ∧
    ∀ mapping, buildMapping definition = .ok mapping → definition.IsMadeInto mapping := by
  -- Every fault is about something that a well-formed definition has, so it has none.
  have succeeds : (∃ mapping, buildMapping definition = .ok mapping) ↔ definition.IsWellFormed :=
    exists_ok_iff (fun _ built => (isMadeInto_of_buildMapping built).1)
      fun _ failed => (lacks_of_buildMapping failed).not_isWellFormed
  exact ⟨succeeds, fun _ failed => lacks_of_buildMapping failed,
    fun _ built => (isMadeInto_of_buildMapping built).2⟩

/-- Meters with a level and a limit. The level has its type from a transform that is defined under a
name, and it has its name from its path. -/
def meterDefinition (limit : String) : MappingDefinition where
  tags := [
    ("Meter", {
      source := "plants[0].meters"
      properties := [
        { path := "level.now", transform := some { name := some "grade" } },
        { path := "limit", name := some limit, type := some "int" }] })]
  transforms := [
    ("grade", { rules := [{ name := "high", type := "string", condition := "value > 9" }] })]

/-- The level is a string, as the first rule of its transform says. -/
def meterMapping : GraphMapping :=
  let grade : PropertyTransform := {
    name := some "grade"
    rules := [{ name := "high", type := "string", condition := "value > 9" }] }
  { vertices := [
      { tag := "Meter"
        source := "plants[0].meters"
        key := "id"
        properties := [
          { name := "level_now", path := "level.now", type := "string", transform := some grade },
          { name := "limit", path := "limit", type := "int" }] }]
    transforms := [("grade", grade)] }

theorem mapping_iff_wellFormed_meters :
    (meterDefinition "limit").IsWellFormed ∧
      buildMapping (meterDefinition "limit") = .ok meterMapping ∧
      (meterDefinition "limit").IsMadeInto meterMapping ∧
      buildMapping (meterDefinition "level_now") =
        .error (.duplicateProperty "level_now" "Meter") ∧
      (meterDefinition "level_now").Lacks (.duplicateProperty "level_now" "Meter") ∧
      ¬ (meterDefinition "level_now").IsWellFormed := by
  have built : buildMapping (meterDefinition "limit") = .ok meterMapping := by decide +kernel
  have refused : buildMapping (meterDefinition "level_now") =
      .error (.duplicateProperty "level_now" "Meter") := by decide +kernel
  obtain ⟨wellFormed, -, made⟩ := mapping_iff_wellFormed (meterDefinition "limit")
  obtain ⟨-, lacks, -⟩ := mapping_iff_wellFormed (meterDefinition "level_now")
  have wrong := lacks _ refused
  exact ⟨wellFormed.mp ⟨_, built⟩, built, made _ built, refused, wrong, wrong.not_isWellFormed⟩

end DocGraph
