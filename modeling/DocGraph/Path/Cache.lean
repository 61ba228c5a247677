import DocGraph.Path.Basic

/-!
# Remembered paths

The segments of a path are found once and then remembered, under the path as it is
written. What is remembered depends on the paths alone, and not on the documents in which
they are followed.

## Main definitions

* `PathCache`: the paths remembered so far, none with other segments than its own.
* `PathCache.segments`, `PathCache.resolve`: splitting and following a path with a cache.
* `foundIn`: what a path leads to, if anything.
* `PathCache.hasPath`, `PathCache.valueOr`: what to do when a path leads nowhere.
-/

namespace DocGraph

/-- What a path leads to, if it leads anywhere. An index with too many digits is not taken for
one that leads nowhere. -/
def foundIn (resolved : Except PathFault Json) : Except DigitExcess (Option Json) :=
  match resolved with
  | .ok value => .ok (some value)
  | .error (.longIndex excess) => .error excess
  | .error _ => .ok none

/-- Remembered paths with their segments, each path once. -/
structure PathCache where
  entries : List (String × List String)
  /-- What is remembered of a path is what splitting it gives. -/
  faithful : ∀ entry ∈ entries, entry.2 = splitPath entry.1
  deriving DecidableEq, Repr

namespace PathCache

def empty : PathCache := ⟨[], by simp⟩

def size (cache : PathCache) : Nat := cache.entries.length

def paths (cache : PathCache) : List String := cache.entries.map (·.1)

/-- One more path is remembered. -/
def remember (cache : PathCache) (path : String) : PathCache where
  entries := cache.entries ++ [(path, splitPath path)]
  faithful := by
    intro entry h
    rcases List.mem_append.mp h with h | h
    · exact cache.faithful entry h
    · rw [List.mem_singleton.mp h]

/-- The segments of a path, which are remembered from now on. -/
def segments (path : String) : StateM PathCache (List String) := do
  let cache ← get
  match cache.entries.lookup path with
  | some segments => return segments
  | none =>
    set (cache.remember path)
    return splitPath path

/-- The value that a path addresses in a document. -/
def resolve (document : Json) (path : String) : StateM PathCache (Except PathFault Json) := do
  return follow document (← segments path)

/-- Whether a path addresses anything in a document. -/
def hasPath (document : Json) (path : String) : StateM PathCache (Except DigitExcess Bool) := do
  return (foundIn (← resolve document path)).map (·.isSome)

/-- The value that a path addresses, or another value if it leads nowhere. -/
def valueOr (document : Json) (path : String) (default : Json) :
    StateM PathCache (Except DigitExcess Json) := do
  return (foundIn (← resolve document path)).map (·.getD default)

def clear : StateM PathCache Unit := set empty

end PathCache

end DocGraph
