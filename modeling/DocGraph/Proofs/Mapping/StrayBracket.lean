import DocGraph.Proofs.Mapping.Element
import DocGraph.Proofs.Path.NormalForm
import DocGraph.Proofs.Run.Memory

/-!
# Stray brackets

A bracket that opens in a path starts a segment of its own, unless it is never closed. Then it stays
in the key where it stands. A definition makes a mapping only if the brackets in the paths of its
sources and properties are balanced, so these have no stray brackets. The paths of keys are not
checked.

## Main definitions

* `HasStrayBracket`: a path that has a key with a bracket that opens.

## Main results

* `hasStrayBracket_iff`: these are the paths with a bracket that is never closed.
* `hasStrayBracket_iff_unclosedKey`: among the paths of a mapping, they are paths of keys.
-/

namespace DocGraph

/-- A bracket that opens stands in a segment that is a key. -/
def HasStrayBracket (path : String) : Prop :=
  ∃ segment ∈ splitPath path, ¬ IsBracketSegment segment ∧ '[' ∈ segment.toList

/-! ## Brackets that are never closed -/

theorem closesAll_nil : ClosesAll [] := fun rest suffix => by simp at suffix

theorem closesAll_cons_iff {c : Char} {rest : List Char} (noBracket : c ≠ '[') :
    ClosesAll (c :: rest) ↔ ClosesAll rest :=
  ⟨fun h => h.suffix (List.suffix_cons c rest),
    fun further => further.cons fun isBracket => absurd isBracket noBracket⟩

theorem not_closesAll_of_never {rest : List Char} (never : ']' ∉ rest) :
    ¬ ClosesAll ('[' :: rest) :=
  fun h => never (h rest List.suffix_rfl)

/-- In front of a closing bracket every bracket is closed. -/
theorem closesAll_append_closing_iff (inside rest : List Char) :
    ClosesAll (inside ++ ']' :: rest) ↔ ClosesAll rest := by
  induction inside with
  | nil => exact closesAll_cons_iff (by decide)
  | cons c inside ih =>
    rw [← ih]
    exact ⟨fun h => h.suffix (List.suffix_cons c _), fun further => further.cons fun _ => by simp⟩

theorem closesAll_bracketed_append_iff (inside rest : List Char) :
    ClosesAll (bracketed inside ++ rest) ↔ ClosesAll rest := by
  rw [← closesAll_append_closing_iff ('[' :: inside) rest]
  simp [bracketed]

/-- A segment is a key with a bracket that opens. -/
def IsStray (segment : List Char) : Prop :=
  (∀ inside, ']' ∉ inside → segment ≠ bracketed inside) ∧ '[' ∈ segment

theorem isStray_reverse_iff {key path : List Char} (underWay : IsUnderWay key path) :
    IsStray key.reverse ↔ '[' ∈ key := by
  rw [IsStray, List.mem_reverse]
  exact and_iff_right fun inside _ => ne_bracketed_of_unclosed underWay.unclosed inside

theorem exists_isStray_addKey_iff {key path : List Char} (underWay : IsUnderWay key path)
    (segments : List (List Char)) :
    (∃ segment ∈ addKey key segments, IsStray segment) ↔
      '[' ∈ key ∨ ∃ segment ∈ segments, IsStray segment := by
  unfold addKey
  split
  next none => simp [List.isEmpty_iff.mp none]
  next => simp [isStray_reverse_iff underWay]

/-- A bracket is stray if it stands in the key under way or is never closed in the rest. -/
theorem exists_isStray_segmentsFrom_iff {key path : List Char} (underWay : IsUnderWay key path) :
    (∃ segment ∈ segmentsFrom 0 key path, IsStray segment) ↔ '[' ∈ key ∨ ¬ ClosesAll path := by
  induction path using pathInduction generalizing key with
  | nil =>
    rw [segmentsFrom, exists_isStray_addKey_iff underWay]
    simp [closesAll_nil]
  | slash rest ih =>
    rw [segmentsFrom_slash, exists_isStray_addKey_iff underWay, ih (isUnderWay_nil rest),
      closesAll_cons_iff (by decide)]
    simp
  | bracket inside rest first ih =>
    -- The segment in brackets is no key.
    have passed : (∃ segment ∈ bracketed inside :: segmentsFrom 0 [] rest, IsStray segment) ↔
        ∃ segment ∈ segmentsFrom 0 [] rest, IsStray segment := by
      have whole : ¬ IsStray (bracketed inside) := fun stray => stray.1 inside first rfl
      simp [whole]
    rw [segmentsFrom_bracketed key first, exists_isStray_addKey_iff underWay, passed,
      ih (isUnderWay_nil rest), closesAll_bracketed_append_iff]
    simp
  | unclosed rest never ih =>
    rw [segmentsFrom_unclosed key never, ih (underWay.push (by decide) fun _ => never)]
    simp [not_closesAll_of_never never]
  | plain c rest noSlash noBracket ih =>
    have further := underWay.push noSlash fun isBracket => absurd isBracket noBracket
    rw [segmentsFrom_plain key noSlash noBracket, ih further, closesAll_cons_iff noBracket,
      List.mem_cons, or_iff_right noBracket.symm]

/-- A path has a stray bracket exactly if it has one that is never closed. -/
theorem hasStrayBracket_iff {path : String} : HasStrayBracket path ↔ ¬ ClosesAll path.toList := by
  have chars : HasStrayBracket path ↔
      ∃ segment ∈ segmentsFrom 0 [] path.toList, IsStray segment := by
    simp [HasStrayBracket, splitPath, IsStray, IsBracketSegment]
  rw [chars, exists_isStray_segmentsFrom_iff (isUnderWay_nil path.toList)]
  simp

/-! ## The paths of a mapping -/

theorem IsBalanced.not_hasStrayBracket {path : String} (balanced : IsBalanced path) :
    ¬ HasStrayBracket path := by
  rw [hasStrayBracket_iff, not_not]
  exact closesAll_of_bracketsBalanced (bracketsBalanced_iff.mpr balanced)

/-- The paths of keys in a mapping. -/
def GraphMapping.keyPaths (mapping : GraphMapping) : List String :=
  mapping.readouts.flatMap (·.keys)

theorem mem_keyPaths_of_hasStrayBracket {mapping : GraphMapping} (built : mapping.IsBuilt)
    {path : String} (among : path ∈ mapping.paths) (stray : HasStrayBracket path) :
    path ∈ mapping.keyPaths := by
  obtain ⟨readout, element, mem⟩ := List.mem_flatMap.mp among
  obtain ⟨source, properties⟩ := built.balanced element
  rcases List.mem_cons.mp mem with rfl | mem
  · exact absurd stray source.not_hasStrayBracket
  rcases List.mem_append.mp mem with key | ofProperty
  · exact List.mem_flatMap.mpr ⟨readout, element, key⟩
  · obtain ⟨property, declared, rfl⟩ := List.mem_map.mp ofProperty
    exact absurd stray (properties property declared).not_hasStrayBracket

/-- The paths of sources and properties have no stray brackets. Of the paths that a mapping looks
up, those with stray brackets are the paths of keys in which a bracket is never closed. -/
theorem hasStrayBracket_iff_unclosedKey {mapping : GraphMapping} (built : mapping.IsBuilt) :
    (∀ readout ∈ mapping.readouts, ¬ HasStrayBracket readout.source ∧
      ∀ property ∈ readout.properties, ¬ HasStrayBracket property.path) ∧
    ∀ path ∈ mapping.paths, HasStrayBracket path ↔
      path ∈ mapping.keyPaths ∧ ∃ rest, '[' :: rest <:+ path.toList ∧ ']' ∉ rest := by
  constructor
  · intro readout element
    obtain ⟨source, properties⟩ := built.balanced element
    exact ⟨source.not_hasStrayBracket,
      fun property declared => (properties property declared).not_hasStrayBracket⟩
  · intro path among
    have unclosed : HasStrayBracket path ↔
        ∃ rest, '[' :: rest <:+ path.toList ∧ ']' ∉ rest := by
      rw [hasStrayBracket_iff]
      simp [ClosesAll]
    rw [← unclosed]
    exact ⟨fun stray => ⟨mem_keyPaths_of_hasStrayBracket built among stray, stray⟩, And.right⟩

/-- Items, and pairs of items, with one path for all keys. -/
def keyedDefinition (key : String) : MappingDefinition where
  tags := [("Item", { source := "lists[0]/items", key := key })]
  edges := [("Follows", {
    source := "pairs"
    sourceTag := "Item"
    targetTag := "Item"
    sourceKey := key
    targetKey := key })]

def keyedMapping (key : String) : GraphMapping where
  vertices := [{ tag := "Item", source := "lists[0]/items", key := key }]
  edges := [{
    name := "Follows"
    source := "pairs"
    start := ⟨"Item", key⟩
    target := ⟨"Item", key⟩ }]

/-- Every path that is not empty may be the path of a key. -/
theorem isBuilt_keyedMapping {key : String} (some : key ≠ "") : (keyedMapping key).IsBuilt := by
  have items : checkSource "lists[0]/items" "Item" = .ok () := by decide +kernel
  have pairs : checkSource "pairs" "Follows" = .ok () := by decide +kernel
  have given (fault : MappingFault) : require (key ≠ "") fault = .ok () :=
    require_eq_ok_iff.mpr (decide_eq_true some)
  have ends (role : EndRole) : checkEndpoint "Follows" role ⟨"Item", key⟩ = .ok () :=
    checkEndpoint_eq_ok_iff.mpr ⟨show "Item" ≠ "" by decide, some⟩
  refine ⟨keyedDefinition key, ⟨List.nodup_singleton _, List.nodup_singleton _⟩, ?_⟩
  simp only [buildMapping, keyedDefinition, List.map_nil, List.mapM_cons, List.mapM_nil,
    buildVertex, buildEdge, items, pairs, given, ends]
  rfl

theorem hasStrayBracket_unclosed : HasStrayBracket "ids[" :=
  hasStrayBracket_iff.mpr fun closes => List.not_mem_nil (closes [] ⟨['i', 'd', 's'], by decide⟩)

theorem hasStrayBracket_iff_unclosedKey_items :
    (keyedMapping "ids[").IsBuilt ∧ ¬ HasStrayBracket "lists[0]/items" ∧
      "ids[" ∈ (keyedMapping "ids[").paths ∧ "ids[" ∈ (keyedMapping "ids[").keyPaths := by
  have built : (keyedMapping "ids[").IsBuilt := isBuilt_keyedMapping (by decide)
  have among : "ids[" ∈ (keyedMapping "ids[").paths := by decide
  obtain ⟨checked, unclosed⟩ := hasStrayBracket_iff_unclosedKey built
  exact ⟨built, (checked _ List.mem_cons_self).1, among,
    ((unclosed _ among).mp hasStrayBracket_unclosed).1⟩

/-- The path of a key is taken as it is, also with a bracket that is never closed. -/
theorem not_forall_closed :
    ¬ ∀ mapping : GraphMapping, mapping.IsBuilt →
      ∀ path ∈ mapping.paths, ¬ HasStrayBracket path := by
  intro closed
  have built : (keyedMapping "ids[").IsBuilt := isBuilt_keyedMapping (by decide)
  exact closed _ built "ids[" (by decide) hasStrayBracket_unclosed

end DocGraph
