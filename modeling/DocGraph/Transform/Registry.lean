import DocGraph.Transform.Basic

/-!
# Registries of transforms

## Main definitions

* `TransformRegistry`: transforms by name, every name once.
* `TransformRegistry.register`, `TransformRegistry.apply`: adding a transform and using
  one.
-/

namespace DocGraph

/-- Transforms by name. -/
structure TransformRegistry where
  entries : List (String × TransformFunction)

namespace TransformRegistry

def empty : TransformRegistry := ⟨[]⟩

def builtin : TransformRegistry := ⟨builtinTransforms⟩

/-- Adds a transform under a name; one that had the name before is replaced. -/
def register (registry : TransformRegistry) (name : String) (transform : TransformFunction) :
    TransformRegistry :=
  ⟨insertPair registry.entries name transform⟩

def find? (registry : TransformRegistry) (name : String) : Option TransformFunction :=
  registry.entries.lookup name

/-- Whether there is a transform with a name. -/
def has (registry : TransformRegistry) (name : String) : Bool := (registry.find? name).isSome

/-- The names in the order of their characters. -/
def names (registry : TransformRegistry) : List String :=
  (registry.entries.map (·.1)).mergeSort (fun a b => decide (a ≤ b))

def apply (registry : TransformRegistry) (name : String) (value : Json) (params : Params) :
    Except TransformFault Transformed :=
  match registry.find? name with
  | some transform => transform value params
  | none => .error (.notFound name)

end TransformRegistry

end DocGraph
