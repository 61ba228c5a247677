import DocGraph.Proofs.Path.Segments
import DocGraph.Text.Split

/-!
# Normal forms of paths

What a path is split into is normal: no segment is empty, a segment in brackets goes up to its first
closing bracket, and a bracket that stands in a key is not closed any more. Segments that are normal
are told from each path that spells them, that is with slashes between them, of which those next to
a segment in brackets may be missing. So nothing but the spelling is lost in splitting.

## Main definitions

* `IsBracketSegment`, `IsKeySegment`: the two kinds of segments.
* `IsNormal`: segments as splitting gives them.
* `Spells`: a path that is made of segments.

## Main results

* `isNormal_splitPath`: the segments of a path are normal.
* `splitPath_of_spells`: a path that spells normal segments is split into them.
* `splitPath_normalForm`: both together.
-/

namespace DocGraph

/-- A segment in brackets, with the first closing one at its end. -/
def IsBracketSegment (segment : String) : Prop :=
  ∃ inside, ']' ∉ inside ∧ segment.toList = bracketed inside

/-- A key, with the segments behind it. No bracket in it is closed, neither in the key itself nor in
a later segment. -/
structure IsKeySegment (segment : String) (later : List String) : Prop where
  ne_empty : segment ≠ ""
  noSlash : '/' ∉ segment.toList
  unclosed : segment.toList.Pairwise fun c d => ¬(c = '[' ∧ d = ']')
  unclosedLater : '[' ∈ segment.toList → ∀ other ∈ later, ']' ∉ other.toList

/-- Segments as splitting gives them. -/
inductive IsNormal : List String → Prop
  | nil : IsNormal []
  | bracket {segment : String} {later : List String} (isBracket : IsBracketSegment segment)
      (further : IsNormal later) : IsNormal (segment :: later)
  | key {segment : String} {later : List String} (isKey : IsKeySegment segment later)
      (further : IsNormal later) : IsNormal (segment :: later)

/-- Segments stand in a path one after the other with slashes between them. A slash next to a
segment in brackets may be missing. -/
inductive Spells : List String → String → Prop
  | nil : Spells [] ""
  | single (segment : String) : Spells [segment] segment
  | slash (segment : String) {next path : String} {later : List String}
      (further : Spells (next :: later) path) :
      Spells (segment :: next :: later) (segment ++ "/" ++ path)
  | attached {segment next path : String} {later : List String}
      (bracket : IsBracketSegment segment ∨ IsBracketSegment next)
      (further : Spells (next :: later) path) :
      Spells (segment :: next :: later) (segment ++ path)

/-! ## Splitting gives normal segments -/

/-- A key under way, given in reverse, with the rest of the path. -/
structure IsUnderWay (key path : List Char) : Prop where
  noSlash : '/' ∉ key
  unclosed : key.reverse.Pairwise fun c d => ¬(c = '[' ∧ d = ']')
  unclosedLater : '[' ∈ key → ']' ∉ path

theorem isUnderWay_nil (path : List Char) : IsUnderWay [] path := ⟨by simp, by simp, by simp⟩

/-- A key goes on with a character that is no slash, and with a bracket only if that is never
closed. -/
theorem IsUnderWay.push {key rest : List Char} {c : Char} (h : IsUnderWay key (c :: rest))
    (noSlash : c ≠ '/') (unclosed : c = '[' → ']' ∉ rest) : IsUnderWay (c :: key) rest where
  noSlash := List.not_mem_cons_of_ne_of_not_mem noSlash.symm h.noSlash
  unclosed := by
    rw [List.reverse_cons, List.pairwise_append]
    refine ⟨h.unclosed, List.pairwise_singleton _ _, ?_⟩
    rintro a before b last ⟨rfl, rfl⟩
    have never := h.unclosedLater (List.mem_reverse.mp before)
    exact never (List.mem_singleton.mp last ▸ List.mem_cons_self)
  unclosedLater := by
    intro opens closes
    rcases List.mem_cons.mp opens with isBracket | before
    · exact unclosed isBracket.symm closes
    · exact h.unclosedLater before (List.mem_cons_of_mem _ closes)

theorem mem_addKey {key segment : List Char} {segments : List (List Char)}
    (h : segment ∈ addKey key segments) : segment = key.reverse ∨ segment ∈ segments := by
  unfold addKey at h
  split at h
  · exact .inr h
  · exact List.mem_cons.mp h

/-- The characters of segments are those of the key under way and of the path. -/
theorem mem_of_mem_segmentsFrom {key path segment : List Char}
    (h : segment ∈ segmentsFrom 0 key path) {c : Char} (mem : c ∈ segment) :
    c ∈ key ∨ c ∈ path := by
  induction path using pathInduction generalizing key with
  | nil =>
    rcases mem_addKey h with rfl | ⟨⟨⟩⟩
    exact .inl (List.mem_reverse.mp mem)
  | slash rest ih =>
    rw [segmentsFrom_slash] at h
    rcases mem_addKey h with rfl | h
    · exact .inl (List.mem_reverse.mp mem)
    · exact .inr (List.mem_cons_of_mem _ ((ih h).resolve_left List.not_mem_nil))
  | bracket inside rest first ih =>
    rw [segmentsFrom_bracketed key first] at h
    rcases mem_addKey h with rfl | h
    · exact .inl (List.mem_reverse.mp mem)
    · rcases List.mem_cons.mp h with rfl | h
      · exact .inr (List.mem_append_left _ mem)
      · exact .inr (List.mem_append_right _ ((ih h).resolve_left List.not_mem_nil))
  | unclosed rest never ih =>
    rw [segmentsFrom_unclosed key never] at h
    simpa [or_comm, or_left_comm, or_assoc] using ih h
  | plain d rest noSlash noBracket ih =>
    rw [segmentsFrom_plain key noSlash noBracket] at h
    simpa [or_comm, or_left_comm, or_assoc] using ih h

theorem isNormal_addKey {key path : List Char} {segments : List (List Char)}
    (underWay : IsUnderWay key path) (within : ∀ segment ∈ segments, ∀ c ∈ segment, c ∈ path)
    (further : IsNormal (segments.map String.ofList)) :
    IsNormal ((addKey key segments).map String.ofList) := by
  unfold addKey
  split
  next => exact further
  next some =>
    refine .key ⟨?_, ?_, ?_, ?_⟩ further
    · simpa using some
    · simpa using underWay.noSlash
    · simpa using underWay.unclosed
    · intro opens other mem
      obtain ⟨segment, among, rfl⟩ := List.mem_map.mp mem
      have never := underWay.unclosedLater (by simpa using opens)
      rw [String.toList_ofList]
      exact fun closes => never (within segment among _ closes)

theorem isNormal_segmentsFrom {key path : List Char} (underWay : IsUnderWay key path) :
    IsNormal ((segmentsFrom 0 key path).map String.ofList) := by
  have within (rest : List Char) : ∀ segment ∈ segmentsFrom 0 [] rest, ∀ c ∈ segment, c ∈ rest :=
    fun segment among c mem => (mem_of_mem_segmentsFrom among mem).resolve_left List.not_mem_nil
  induction path using pathInduction generalizing key with
  | nil => exact isNormal_addKey underWay (by simp) .nil
  | slash rest ih =>
    rw [segmentsFrom_slash]
    refine isNormal_addKey underWay ?_ (ih (isUnderWay_nil rest))
    exact fun segment among c mem => List.mem_cons_of_mem _ (within rest segment among c mem)
  | bracket inside rest first ih =>
    rw [segmentsFrom_bracketed key first]
    refine isNormal_addKey underWay ?_ ?_
    · intro segment among c mem
      rcases List.mem_cons.mp among with rfl | among
      · exact List.mem_append_left _ mem
      · exact List.mem_append_right _ (within rest segment among c mem)
    · exact .bracket ⟨inside, first, String.toList_ofList⟩ (ih (isUnderWay_nil rest))
  | unclosed rest never ih =>
    rw [segmentsFrom_unclosed key never]
    exact ih (underWay.push (by decide) fun _ => never)
  | plain c rest noSlash noBracket ih =>
    rw [segmentsFrom_plain key noSlash noBracket]
    exact ih (underWay.push noSlash fun isBracket => absurd isBracket noBracket)

theorem isNormal_splitPath (path : String) : IsNormal (splitPath path) :=
  isNormal_segmentsFrom (isUnderWay_nil path.toList)

/-! ## Normal segments are found again -/

theorem segmentsFrom_bracketSegment {segment : String} (h : IsBracketSegment segment)
    (key rest : List Char) : segmentsFrom 0 key (segment.toList ++ rest) =
      addKey key (segment.toList :: segmentsFrom 0 [] rest) := by
  obtain ⟨inside, first, chars⟩ := h
  rw [chars, segmentsFrom_bracketed key first]

/-- A key is passed over character by character. -/
theorem segmentsFrom_keyChars {segment : List Char} (noSlash : '/' ∉ segment)
    (unclosed : segment.Pairwise fun c d => ¬(c = '[' ∧ d = ']')) {rest : List Char}
    (unclosedLater : '[' ∈ segment → ']' ∉ rest) (key : List Char) :
    segmentsFrom 0 key (segment ++ rest) = segmentsFrom 0 (segment.reverse ++ key) rest := by
  induction segment generalizing key with
  | nil => rfl
  | cons c segment ih =>
    obtain ⟨notSlash, noSlash⟩ := List.ne_and_not_mem_of_not_mem_cons noSlash
    obtain ⟨first, unclosed⟩ := List.pairwise_cons.mp unclosed
    have further := ih noSlash unclosed
      (fun opens => unclosedLater (List.mem_cons_of_mem _ opens)) (c :: key)
    rw [List.reverse_cons, List.append_assoc, List.singleton_append, ← further, List.cons_append]
    by_cases isBracket : c = '['
    · subst isBracket
      refine segmentsFrom_unclosed key fun closes => ?_
      rcases List.mem_append.mp closes with own | later
      · exact first _ own ⟨rfl, rfl⟩
      · exact unclosedLater List.mem_cons_self later
    · exact segmentsFrom_plain key notSlash.symm isBracket _

theorem toList_slash (segment path : String) :
    (segment ++ "/" ++ path).toList = segment.toList ++ '/' :: path.toList := by
  simp

theorem Spells.exists_append {segment path : String} {later : List String}
    (h : Spells (segment :: later) path) : ∃ rest, path.toList = segment.toList ++ rest := by
  cases h with
  | single => exact ⟨[], (List.append_nil _).symm⟩
  | slash => exact ⟨_, toList_slash _ _⟩
  | attached => exact ⟨_, String.toList_append⟩

/-- A path has no characters but slashes and those of its segments. -/
theorem Spells.eq_or_mem {segments : List String} {path : String} (h : Spells segments path)
    {c : Char} (mem : c ∈ path.toList) : c = '/' ∨ ∃ segment ∈ segments, c ∈ segment.toList := by
  induction h with
  | nil => simp at mem
  | single segment => exact .inr ⟨segment, List.mem_cons_self, mem⟩
  | slash segment further ih =>
    rw [toList_slash, List.mem_append, List.mem_cons] at mem
    rcases mem with own | slash | later
    · exact .inr ⟨segment, List.mem_cons_self, own⟩
    · exact .inl slash
    · exact (ih later).imp_right fun ⟨other, among, mem⟩ => ⟨other, .tail _ among, mem⟩
  | @attached segment _ _ _ bracket further ih =>
    rw [String.toList_append, List.mem_append] at mem
    rcases mem with own | later
    · exact .inr ⟨segment, List.mem_cons_self, own⟩
    · exact (ih later).imp_right fun ⟨other, among, mem⟩ => ⟨other, .tail _ among, mem⟩

/-- A bracket in a key is not closed in a path that spells what is behind the key. -/
theorem IsKeySegment.notMem {segment path : String} {later : List String}
    (isKey : IsKeySegment segment later) (spells : Spells later path)
    (opens : '[' ∈ segment.toList) : ']' ∉ path.toList := by
  intro closes
  rcases spells.eq_or_mem closes with slash | ⟨other, among, mem⟩
  · exact absurd slash (by decide)
  · exact isKey.unclosedLater opens other among mem

/-- Where no bracket is closed, there is no segment in brackets. -/
theorem ne_bracketed_of_unclosed {segment : List Char}
    (unclosed : segment.Pairwise fun c d => ¬(c = '[' ∧ d = ']')) (inside : List Char) :
    segment ≠ bracketed inside := by
  rintro rfl
  rw [bracketed, List.pairwise_cons] at unclosed
  exact unclosed.1 ']' (by simp) ⟨rfl, rfl⟩

theorem IsKeySegment.not_isBracketSegment {segment : String} {later : List String}
    (isKey : IsKeySegment segment later) : ¬ IsBracketSegment segment :=
  fun ⟨inside, _, chars⟩ => ne_bracketed_of_unclosed isKey.unclosed inside chars

/-- A path ends the key before it. -/
def EndsKey (path : List Char) : Prop :=
  ∀ key, segmentsFrom 0 key path = addKey key (segmentsFrom 0 [] path)

theorem endsKey_nil : EndsKey [] := fun _ => rfl

theorem endsKey_slash (rest : List Char) : EndsKey ('/' :: rest) := fun key => by
  rw [segmentsFrom_slash, segmentsFrom_slash]
  rfl

theorem Spells.endsKey {segment path : String} {later : List String}
    (h : Spells (segment :: later) path) (isBracket : IsBracketSegment segment) :
    EndsKey path.toList := fun key => by
  obtain ⟨rest, chars⟩ := h.exists_append
  rw [chars, segmentsFrom_bracketSegment isBracket, segmentsFrom_bracketSegment isBracket]
  rfl

theorem segmentsFrom_keySegment {segment : String} {later : List String}
    (isKey : IsKeySegment segment later) {rest : List Char}
    (unclosed : '[' ∈ segment.toList → ']' ∉ rest) (ends : EndsKey rest) :
    segmentsFrom 0 [] (segment.toList ++ rest) = segment.toList :: segmentsFrom 0 [] rest := by
  have some : segment.toList.reverse.isEmpty = false := by simpa using isKey.ne_empty
  rw [segmentsFrom_keyChars isKey.noSlash isKey.unclosed unclosed, List.append_nil, ends, addKey,
    some, List.reverse_reverse]
  rfl

theorem segmentsFrom_of_spells {segments : List String} {path : String}
    (normal : IsNormal segments) (spells : Spells segments path) :
    segmentsFrom 0 [] path.toList = segments.map String.toList := by
  -- Whatever stands behind a segment starts with a slash or a bracket, or is nothing, so that it
  -- ends a key.
  induction spells with
  | nil => rfl
  | single segment =>
    rw [← List.append_nil segment.toList]
    cases normal with
    | bracket isBracket => rw [segmentsFrom_bracketSegment isBracket]; rfl
    | key isKey => rw [segmentsFrom_keySegment isKey (by simp) endsKey_nil]; rfl
  | slash segment further ih =>
    rw [toList_slash]
    cases normal with
    | bracket isBracket normal =>
      rw [segmentsFrom_bracketSegment isBracket, segmentsFrom_slash, ih normal]
      rfl
    | key isKey normal =>
      have unclosed (opens) : ']' ∉ '/' :: _ :=
        List.not_mem_cons_of_ne_of_not_mem (by decide) (isKey.notMem further opens)
      rw [segmentsFrom_keySegment isKey unclosed (endsKey_slash _), segmentsFrom_slash, ih normal]
      rfl
  | attached bracket further ih =>
    rw [String.toList_append]
    cases normal with
    | bracket isBracket normal =>
      rw [segmentsFrom_bracketSegment isBracket, ih normal]
      rfl
    | key isKey normal =>
      have ends := further.endsKey (bracket.resolve_left isKey.not_isBracketSegment)
      rw [segmentsFrom_keySegment isKey (isKey.notMem further) ends, ih normal]
      rfl

theorem splitPath_of_spells {segments : List String} {path : String}
    (normal : IsNormal segments) (spells : Spells segments path) : splitPath path = segments := by
  rw [splitPath, segmentsFrom_of_spells normal spells]
  simp

/-- Segments with slashes between them are spelled. -/
theorem spells_joinText (segments : List String) : Spells segments (joinText "/" segments) := by
  induction segments with
  | nil => exact .nil
  | cons segment later ih =>
    cases later with
    | nil => exact .single segment
    | cons next later =>
      have joined : joinText "/" (segment :: next :: later) =
          segment ++ "/" ++ joinText "/" (next :: later) := by
        simp [joinText]
      exact joined ▸ .slash segment ih

/-- The segments of a path are normal, and segments that are normal are found again in every path
that spells them, with a slash in front or without one. In particular, they are those of the path
that has slashes between them, and a path is split like the one that is joined from its segments. -/
theorem splitPath_normalForm :
    (∀ path, IsNormal (splitPath path)) ∧
      (∀ segments, IsNormal segments → ∀ path, Spells segments path →
        splitPath path = segments ∧ splitPath ("/" ++ path) = segments) ∧
      (∀ segments, Spells segments (joinText "/" segments)) ∧
      ∀ path, splitPath (joinText "/" (splitPath path)) = splitPath path := by
  refine ⟨isNormal_splitPath, ?_, spells_joinText, ?_⟩
  · intro segments normal path spells
    have found := splitPath_of_spells normal spells
    exact ⟨found, (splitPath_slash path).trans found⟩
  · intro path
    exact splitPath_of_spells (isNormal_splitPath path) (spells_joinText _)

/-- Segments with slashes and brackets inside of brackets, a key with a closing bracket and one with
an opening bracket. -/
def mixedSegments : List String := ["[a/[b]", "name]", "[0]", "first[", "last"]

theorem splitPath_normalForm_mixed :
    IsNormal mixedSegments ∧ Spells mixedSegments "[a/[b]name][0]first[/last" ∧
      splitPath "[a/[b]name][0]first[/last" = mixedSegments ∧
      splitPath "/[a/[b]name][0]first[/last" = mixedSegments := by
  have nested : IsBracketSegment "[a/[b]" := ⟨['a', '/', '[', 'b'], by decide, by decide⟩
  have index : IsBracketSegment "[0]" := ⟨['0'], by decide, by decide⟩
  have normal : IsNormal mixedSegments :=
    .bracket nested <| .key ⟨by decide, by decide, by decide, by decide⟩ <| .bracket index <|
      .key ⟨by decide, by decide, by decide, by decide⟩ <|
      .key ⟨by decide, by decide, by decide, by decide⟩ .nil
  have keys : Spells ["first[", "last"] "first[/last" := .slash "first[" (.single "last")
  have later : Spells ["[0]", "first[", "last"] "[0]first[/last" := .attached (.inl index) keys
  have name : Spells ["name]", "[0]", "first[", "last"] "name][0]first[/last" :=
    .attached (.inr index) later
  have spells : Spells mixedSegments "[a/[b]name][0]first[/last" := .attached (.inl nested) name
  obtain ⟨bare, slash⟩ := splitPath_normalForm.2.1 mixedSegments normal _ spells
  exact ⟨normal, spells, bare, slash⟩

end DocGraph
