import DocGraph.Proofs.Definition.Texts
import DocGraph.Proofs.Mapping.Parameters

/-!
# The texts of a mapping

A mapping is made of the texts of its definition. Names of properties can be made of their paths,
and no line break comes in that way. So what a mapping shows, and what is shown of a definition that
makes none, has no other line breaks than the texts of the definition.

## Main definitions

* `Property.texts`, `Readout.texts`: the texts of a mapping that a run can show.

## Main results

* `MappingDefinition.Lacks.allWithin`: what a fault of a definition shows.
* `allWithin_of_buildMapping`: the texts of the mapping of a definition.
-/

namespace DocGraph

variable {kind : Char → Prop} {definition : MappingDefinition}

/-! ## Names of properties -/

theorem BreaksWithin.replaceChar {text : String} (h : BreaksWithin kind text) {old new : Char}
    (plain : isLineBreak new = false) : BreaksWithin kind (replaceChar old new text) := by
  refine h.of_chars fun c among => ?_
  rw [DocGraph.replaceChar, String.toList_ofList] at among
  obtain ⟨own, mem, rfl⟩ := List.mem_map.mp among
  split
  · exact .inr plain
  · exact .inl mem

theorem breaksWithin_propertyName {p : PropertyDefinition} (h : AllWithin kind p.texts) :
    BreaksWithin kind (propertyName p) := by
  have path : BreaksWithin kind p.path := h _ List.mem_cons_self
  have default : BreaksWithin kind (defaultPropertyName p.path) := by
    refine BreaksWithin.replaceChar (BreaksWithin.replaceChar ?_ rfl) rfl
    refine path.of_chars fun c among => .inl ?_
    rw [String.toList_ofList] at among
    exact (List.dropWhile_sublist _).mem among
  unfold propertyName
  cases given : p.name.filter (· ≠ "") with
  | none => exact default
  | some name =>
    have own : p.name = some name := (Option.filter_eq_some_iff.mp given).1
    exact h _ (by simp [PropertyDefinition.texts, own])

/-! ## Faults of definitions -/

theorem MappingDefinition.allWithin_iff : AllWithin kind definition.texts ↔
    (∀ entry ∈ definition.tags, BreaksWithin kind entry.1 ∧ AllWithin kind entry.2.texts) ∧
      (∀ entry ∈ definition.edges, BreaksWithin kind entry.1 ∧ AllWithin kind entry.2.texts) ∧
        ∀ entry ∈ definition.transforms, BreaksWithin kind entry.1 ∧
          AllWithin kind entry.2.texts := by
  simp only [AllWithin, texts, List.forall_mem_append, List.forall_mem_flatMap,
    List.forall_mem_cons, and_assoc]

theorem TagDefinition.allWithin_iff {tag : TagDefinition} : AllWithin kind tag.texts ↔
    BreaksWithin kind tag.source ∧ BreaksWithin kind tag.key ∧
      ∀ p ∈ tag.properties, AllWithin kind p.texts := by
  simp only [AllWithin, texts, List.forall_mem_cons, List.forall_mem_flatMap]

theorem EdgeDefinition.allWithin_iff {edge : EdgeDefinition} : AllWithin kind edge.texts ↔
    BreaksWithin kind edge.source ∧ BreaksWithin kind edge.sourceKey ∧
      BreaksWithin kind edge.targetKey ∧ ∀ p ∈ edge.properties, AllWithin kind p.texts := by
  simp only [AllWithin, texts, List.forall_mem_cons, List.forall_mem_flatMap]

/-- The texts of an element are among those of the definition. -/
theorem MappingDefinition.allWithin_element (h : AllWithin kind definition.texts)
    {element : ElementDefinition} (among : element ∈ definition.elements) :
    BreaksWithin kind element.name ∧ BreaksWithin kind element.source ∧
      ∀ p ∈ element.properties, AllWithin kind p.texts := by
  obtain ⟨tags, edges, -⟩ := allWithin_iff.mp h
  rcases List.mem_append.mp among with ofTag | ofEdge
  · obtain ⟨entry, defined, rfl⟩ := List.mem_map.mp ofTag
    obtain ⟨source, -, properties⟩ := TagDefinition.allWithin_iff.mp (tags entry defined).2
    exact ⟨(tags entry defined).1, source, properties⟩
  · obtain ⟨entry, defined, rfl⟩ := List.mem_map.mp ofEdge
    obtain ⟨source, -, -, properties⟩ := EdgeDefinition.allWithin_iff.mp (edges entry defined).2
    exact ⟨(edges entry defined).1, source, properties⟩

/-- The texts that a fault shows. -/
def MappingFault.texts (fault : MappingFault) : List String := fault.unquoted ++ [fault.context]

theorem ElementDefinition.Lacks.allWithin {element : ElementDefinition} {fault : MappingFault}
    (lacks : element.Lacks definition fault) (name : BreaksWithin kind element.name)
    (source : BreaksWithin kind element.source)
    (properties : ∀ p ∈ element.properties, AllWithin kind p.texts) :
    AllWithin kind fault.texts := by
  have dotted {p : PropertyDefinition} (among : p ∈ element.properties) :
      BreaksWithin kind s!"{element.name}.{propertyName p}" := by
    have dot : BreaksWithin kind "." := .of_lineBreaks (lineBreaks_word rfl)
    exact (name.append dot).append (breaksWithin_propertyName (properties p among))
  cases lacks with
  | source missing => exact List.forall_mem_singleton.mpr name
  | balance unbalanced =>
    exact List.forall_mem_cons.mpr ⟨source, List.forall_mem_singleton.mpr name⟩
  | type among untyped =>
    exact List.forall_mem_singleton.mpr (breaksWithin_propertyName (properties _ among))
  | path among missing => exact List.forall_mem_singleton.mpr (dotted among)
  | pathBalance among unbalanced =>
    exact List.forall_mem_cons.mpr ⟨properties _ among _ List.mem_cons_self,
      List.forall_mem_singleton.mpr (dotted among)⟩
  | @name own twice =>
    have some : 0 < (element.properties.map propertyName).count own := by omega
    obtain ⟨p, among, rfl⟩ := List.mem_map.mp (List.count_pos_iff.mp some)
    exact List.forall_mem_cons.mpr ⟨breaksWithin_propertyName (properties _ among),
      List.forall_mem_singleton.mpr name⟩

theorem MappingDefinition.Lacks.allWithin {fault : MappingFault} (lacks : definition.Lacks fault)
    (h : AllWithin kind definition.texts) : AllWithin kind fault.texts := by
  obtain ⟨tags, edges, -⟩ := allWithin_iff.mp h
  cases lacks with
  | element among lacks =>
    obtain ⟨name, source, properties⟩ := allWithin_element h among
    exact lacks.allWithin name source properties
  | key among missing => exact List.forall_mem_singleton.mpr (tags _ among).1
  | endTag among missing => exact List.forall_mem_singleton.mpr (edges _ among).1
  | endKey among missing =>
    have dot : BreaksWithin kind "." := .of_lineBreaks (lineBreaks_word rfl)
    exact List.forall_mem_singleton.mpr
      (((edges _ among).1.append dot).append (.of_lineBreaks (EndRole.lineBreaks_name _)))

/-! ## Mappings -/

/-- The texts of a transform that a run can show: how it is called, and its pattern for times. -/
def PropertyTransform.texts (transform : PropertyTransform) : List String :=
  transform.describe :: (transform.params.lookup "format").toList

def Property.texts (property : Property) : List String :=
  property.name :: property.path :: property.type ::
    property.transform.toList.flatMap PropertyTransform.texts

/-- The texts that a run can show of what a mapping reads for an element. -/
def Readout.texts (readout : Readout) : List String :=
  readout.name :: readout.source :: (readout.keys ++ readout.properties.flatMap Property.texts)

theorem TransformDefinition.allWithin_iff {transform : TransformDefinition} :
    AllWithin kind transform.texts ↔ AllWithin kind transform.name.toList ∧
      AllWithin kind transform.format.toList ∧
      (∀ param ∈ transform.params, BreaksWithin kind param.2) ∧
        ∀ rule ∈ transform.rules, BreaksWithin kind rule.type := by
  simp only [AllWithin, texts, List.forall_mem_append, List.forall_mem_map, and_assoc]

theorem PropertyDefinition.allWithin_iff {p : PropertyDefinition} : AllWithin kind p.texts ↔
    BreaksWithin kind p.path ∧ AllWithin kind p.name.toList ∧ AllWithin kind p.type.toList ∧
      ∀ transform ∈ p.transform, AllWithin kind transform.texts := by
  simp only [AllWithin, texts, List.forall_mem_cons, List.forall_mem_append,
    List.forall_mem_flatMap, Option.mem_toList, Option.mem_def, and_assoc]

section

variable (h : AllWithin kind definition.texts) {transform : TransformDefinition}

include h

theorem allWithin_of_refersTo {named : TransformDefinition}
    (refers : definition.RefersTo transform named) : AllWithin kind named.texts := by
  obtain ⟨-, name, -, found⟩ := refers
  obtain ⟨before, later, entries, -⟩ := List.lookup_eq_some_iff.mp found
  exact ((MappingDefinition.allWithin_iff.mp h).2.2 (name, named) (by simp [entries])).2

/-- A transform that stands for another means one of the definition. -/
theorem allWithin_resolve (own : AllWithin kind transform.texts) :
    AllWithin kind (definition.resolve transform).texts := by
  by_cases refers : ∃ named, definition.RefersTo transform named
  · obtain ⟨named, refers⟩ := refers
    rw [resolve_of_refersTo refers]
    exact allWithin_of_refersTo h refers
  · rwa [resolve_of_not_refersTo (not_exists.mp refers)]

theorem allWithin_name_builtTransform (own : AllWithin kind transform.texts) :
    AllWithin kind (definition.builtTransform transform).name.toList := by
  have given := (TransformDefinition.allWithin_iff.mp own).1
  by_cases refers : ∃ named, definition.RefersTo transform named
  · obtain ⟨named, refers⟩ := refers
    have ⟨untyped, name, called, found⟩ := refers
    rw [builtTransform_of_refersTo untyped called found, buildNamedTransform_eq]
    dsimp only
    split
    · rwa [called] at given
    · exact (TransformDefinition.allWithin_iff.mp (allWithin_of_refersTo h refers)).1
  · rwa [builtTransform_of_not_refersTo (not_exists.mp refers), buildTransform_nil]

theorem allWithin_builtTransform (own : AllWithin kind transform.texts) :
    AllWithin kind (definition.builtTransform transform).texts := by
  have name := allWithin_name_builtTransform h own
  obtain ⟨-, format, params, -⟩ := TransformDefinition.allWithin_iff.mp (allWithin_resolve h own)
  refine List.forall_mem_cons.mpr ⟨?_, fun pattern given => ?_⟩
  · have kinds : lineBreaks (definition.builtTransform transform).kind.name = [] := by
      cases (definition.builtTransform transform).kind <;> exact lineBreaks_word rfl
    unfold PropertyTransform.describe PropertyTransform.registryName?
    split
    next called =>
      exact name _ (Option.mem_toList.mpr (Option.filter_eq_some_iff.mp called).1)
    next =>
      split
      · exact .of_lineBreaks (lineBreaks_word rfl)
      · exact .of_lineBreaks kinds
  · have set : (definition.resolve transform).setting? "format" = some pattern := by
      simpa [lookup_params_builtTransform, MappingDefinition.parameter?] using given
    rw [TransformDefinition.setting?, TransformDefinition.ownField?, if_pos rfl,
      Option.or_eq_some_iff] at set
    obtain field | ⟨-, listed⟩ := set
    · exact format _ (Option.mem_toList.mpr field)
    · obtain ⟨before, later, entries, -⟩ := List.lookup_eq_some_iff.mp listed
      exact params ("format", pattern) (by simp [entries])

theorem breaksWithin_of_declaresType {p : PropertyDefinition} (own : AllWithin kind p.texts)
    {type : String} (declares : p.DeclaresType definition type) : BreaksWithin kind type := by
  obtain ⟨-, -, typed, transforms⟩ := PropertyDefinition.allWithin_iff.mp own
  cases declares with
  | own given some => exact typed _ (Option.mem_toList.mpr given)
  | @ofRule transform rule rest missing attached first some =>
    have meant := allWithin_resolve h (transforms transform attached)
    exact (TransformDefinition.allWithin_iff.mp meant).2.2.2 rule (by simp [first])

theorem allWithin_property {p : PropertyDefinition} (own : AllWithin kind p.texts)
    {property : Property} (made : p.IsMadeInto definition property) :
    AllWithin kind property.texts := by
  have name := breaksWithin_propertyName own
  have type := breaksWithin_of_declaresType h own made.type
  obtain ⟨path, -, -, transforms⟩ := PropertyDefinition.allWithin_iff.mp own
  rw [← made.name] at name
  rw [← made.path] at path
  simp only [AllWithin, Property.texts, List.forall_mem_cons, List.forall_mem_flatMap,
    Option.mem_toList, made.transform, Option.map_eq_some_iff]
  refine ⟨name, path, type, ?_⟩
  rintro _ ⟨transform, attached, rfl⟩
  exact allWithin_builtTransform h (transforms transform attached)

theorem allWithin_keys {mapping : GraphMapping} (built : buildMapping definition = .ok mapping) :
    ∀ readout ∈ mapping.readouts, AllWithin kind readout.keys := by
  have made := (isMadeInto_of_buildMapping built).2
  obtain ⟨tags, edges, -⟩ := MappingDefinition.allWithin_iff.mp h
  intro readout among
  rcases List.mem_append.mp among with vertex | edge
  · obtain ⟨v, mem, rfl⟩ := List.mem_map.mp vertex
    obtain ⟨entry, defined, made⟩ := exists_left_of_forall₂ made.vertices mem
    obtain ⟨-, key, -⟩ := TagDefinition.allWithin_iff.mp (tags entry defined).2
    rw [VertexMapping.readout, made.key]
    exact List.forall_mem_singleton.mpr key
  · obtain ⟨e, mem, rfl⟩ := List.mem_map.mp edge
    obtain ⟨entry, defined, made⟩ := exists_left_of_forall₂ made.edges mem
    obtain ⟨-, starts, leads, -⟩ := EdgeDefinition.allWithin_iff.mp (edges entry defined).2
    rw [EdgeMapping.readout, made.start, made.target]
    exact List.forall_mem_cons.mpr ⟨starts, List.forall_mem_singleton.mpr leads⟩

/-- What a mapping shows has no other line breaks than the texts of its definition. -/
theorem allWithin_of_buildMapping {mapping : GraphMapping}
    (built : buildMapping definition = .ok mapping) :
    ∀ readout ∈ mapping.readouts, AllWithin kind readout.texts := by
  intro readout among
  obtain ⟨element, defined, read⟩ :=
    exists_left_of_forall₂ (isReadAs_of_buildMapping built) among
  obtain ⟨name, source, properties⟩ := MappingDefinition.allWithin_element h defined
  rw [← read.name] at name
  rw [← read.source] at source
  simp only [AllWithin, Readout.texts, List.forall_mem_cons, List.forall_mem_append,
    List.forall_mem_flatMap]
  refine ⟨name, source, allWithin_keys h built readout among, fun property declared => ?_⟩
  obtain ⟨p, given, made⟩ := exists_left_of_forall₂ read.properties declared
  exact allWithin_property h (properties p given) made

end

end DocGraph
