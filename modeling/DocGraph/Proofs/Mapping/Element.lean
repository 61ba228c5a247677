import DocGraph.Proofs.Graph.Written
import DocGraph.Proofs.Mapping.WellFormed

/-!
# Elements of definitions and what is read for them

A mapping reads records for every tag and every edge of its definition. Tags and edges are taken
together here, as elements, so that what holds of their sources and their properties is said once
for both.

## Main definitions

* `ElementDefinition.IsReadAs`: what a mapping reads for an element of its definition.
* `MappingDefinition.EachProperty`: what holds of every property and of what it is made into.

## Main results

* `isReadAs_of_buildMapping`: the elements of a definition are read one by one.
* `GraphMapping.IsBuilt.balanced`: the paths of sources and properties have balanced brackets.
-/

namespace DocGraph

/-- What is read for an element of a definition. -/
structure ElementDefinition.IsReadAs (definition : MappingDefinition) (element : ElementDefinition)
    (readout : Readout) : Prop where
  name : readout.name = element.name
  source : readout.source = element.source
  properties :
    List.Forall₂ (PropertyDefinition.IsMadeInto definition) element.properties readout.properties

/-- Something holds of every property of a definition and of the property that stands at its place
in a mapping. -/
def MappingDefinition.EachProperty (definition : MappingDefinition) (mapping : GraphMapping)
    (holds : PropertyDefinition → Property → Prop) : Prop :=
  List.Forall₂ (fun element readout => List.Forall₂ holds element.properties readout.properties)
    definition.elements mapping.readouts

section

variable {definition : MappingDefinition} {mapping : GraphMapping}

theorem isReadAs_of_buildMapping (built : buildMapping definition = .ok mapping) :
    List.Forall₂ (ElementDefinition.IsReadAs definition) definition.elements mapping.readouts := by
  have made := (isMadeInto_of_buildMapping built).2
  refine List.rel_append ?_ ?_
  · rw [List.forall₂_map_left_iff, List.forall₂_map_right_iff]
    exact made.vertices.imp fun _ _ tag => ⟨tag.tag, tag.source, tag.properties⟩
  · rw [List.forall₂_map_left_iff, List.forall₂_map_right_iff]
    exact made.edges.imp fun _ _ edge => ⟨edge.name, edge.source, edge.properties⟩

theorem MappingDefinition.EachProperty.of_isMadeInto (built : buildMapping definition = .ok mapping)
    {holds : PropertyDefinition → Property → Prop}
    (each : ∀ p property, p.IsMadeInto definition property → holds p property) :
    definition.EachProperty mapping holds :=
  (isReadAs_of_buildMapping built).imp fun _ _ read => read.properties.imp each

end

/-- The paths of sources and properties have balanced brackets. -/
theorem GraphMapping.IsBuilt.balanced {mapping : GraphMapping} (built : mapping.IsBuilt)
    {readout : Readout} (among : readout ∈ mapping.readouts) :
    IsBalanced readout.source ∧ ∀ property ∈ readout.properties, IsBalanced property.path := by
  obtain ⟨definition, -, makes⟩ := built
  obtain ⟨element, defined, read⟩ :=
    exists_left_of_forall₂ (isReadAs_of_buildMapping makes) among
  have wellFormed := (isMadeInto_of_buildMapping makes).1.elements element defined
  refine ⟨read.source ▸ wellFormed.balanced, fun property declared => ?_⟩
  obtain ⟨p, given, made⟩ := exists_left_of_forall₂ read.properties declared
  exact made.path ▸ (wellFormed.properties p given).balanced

end DocGraph
