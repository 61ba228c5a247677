import DocGraph.Proofs.Graph.Alike
import DocGraph.Proofs.Number.Whole
import DocGraph.Proofs.Path.Segments

/-!
# Paths one after the other

A path with balanced brackets, a slash and another path lead where the second one leads from where
the first one leads, and fail as the first of the two that fails. In particular, the records under
a source that leads to an array are reached with their indexes. An index is read unless it has too
many digits, so this holds for the first `10 ^ maxDigits` records, and there is no room for others.

## Main definitions

* `indexSegment`: the segment with an index.

## Main results

* `follow_eq_error_iff`: where segments fail.
* `splitPath_append_slash`: the segments of two paths, one after the other.
* `resolve_append_slash`: the value that two paths address, one after the other.
* `paths_compose`: the values and faults of two paths, and the records under a path.
-/

namespace DocGraph

/-! ## Following one path after the other -/

theorem follow_append (value : Json) (segments later : List String) :
    follow value (segments ++ later) = follow value segments >>= (follow · later) := by
  induction segments generalizing value with
  | nil => rfl
  | cons segment rest ih =>
    simp only [List.cons_append, follow]
    cases followSegment value segment with
    | error fault => rfl
    | ok inner => exact ih inner

/-- Segments fail as the first of them that cannot be followed from where those before it lead. -/
theorem follow_eq_error_iff {value : Json} {segments : List String} {fault : PathFault} :
    follow value segments = .error fault ↔
      ∃ front segment rest inner, segments = front ++ segment :: rest ∧
        follow value front = .ok inner ∧ followSegment inner segment = .error fault := by
  constructor
  · intro failed
    induction segments generalizing value with
    | nil => cases failed
    | cons segment rest ih =>
      obtain here | ⟨inner, first, further⟩ := bind_eq_error_iff.mp failed
      · exact ⟨[], segment, rest, value, rfl, rfl, here⟩
      · obtain ⟨front, later, behind, last, rfl, reached, stops⟩ := ih further
        exact ⟨segment :: front, later, behind, last, rfl, bind_eq_ok_iff.mpr ⟨_, first, reached⟩,
          stops⟩
  · rintro ⟨front, segment, rest, inner, rfl, reached, stops⟩
    rw [follow_append, bind_eq_error_iff]
    exact .inr ⟨inner, reached, bind_eq_error_iff.mpr (.inl stops)⟩

section

variable {path : String} (balanced : bracketsBalanced path = true)

include balanced

theorem splitPath_append_slash (later : String) :
    splitPath (path ++ "/" ++ later) = splitPath path ++ splitPath later := by
  have chars : (path ++ "/" ++ later).toList = path.toList ++ '/' :: later.toList := by simp
  rw [splitPath, chars, segmentsFrom_append_slash (closesAll_of_bracketsBalanced balanced),
    List.map_append]
  rfl

theorem resolve_append_slash (document : Json) (later : String) :
    resolve document (path ++ "/" ++ later) =
      resolve document path >>= (resolve · later) := by
  rw [resolve, splitPath_append_slash balanced, follow_append]
  rfl

end

theorem resolve_slash (document : Json) (path : String) :
    resolve document ("/" ++ path) = resolve document path :=
  congrArg (follow document) (splitPath_slash path)

/-! ## Indexes -/

/-- The segment with an index. -/
def indexSegment (index : Nat) : String := s!"[{index}]"

theorem toList_indexSegment (index : Nat) :
    (indexSegment index).toList = bracketed (Decimal.digitsOf index) := by
  have written : indexSegment index = "[" ++ index.repr ++ "]" := rfl
  simp [written, bracketed, Decimal.digitsOf]

/-- The index in a segment is read if it has no more digits than numbers are read from. -/
theorem segmentIndex?_indexSegment {index : Nat} (readable : index < 10 ^ maxDigits) :
    segmentIndex? (indexSegment index) = some (.ok index) := by
  have digits (c : Char) (mem : c ∈ Decimal.digitsOf index) :
      decimalValue? c = some (c.toNat - 0x30) :=
    decimalValue?_of_isDigit (isDigit_of_mem_digitsOf c mem)
  have taken : (Decimal.digitsOf index ++ [']']).takeWhile isDecimalDigit =
      Decimal.digitsOf index := by
    rw [List.takeWhile_append_of_pos fun c mem => by rw [isDecimalDigit, digits c mem]; rfl]
    simp [show isDecimalDigit ']' = false by decide]
  have value : (Decimal.digitsOf index).foldl
      (fun n c => n * 10 + (decimalValue? c).getD 0) 0 = index := by
    have same : ∀ n, ∀ c ∈ Decimal.digitsOf index,
        n * 10 + (decimalValue? c).getD 0 = n * 10 + (c.toNat - 0x30) :=
      fun n c mem => by rw [digits c mem, Option.getD_some]
    rw [List.foldl_ext _ _ 0 same, ← List.foldl_map (f := fun c : Char => c.toNat - 0x30),
      foldl_digits, ofDigitChars_digitsOf]
  have short : (Decimal.digitsOf index).length ≤ maxDigits :=
    (Nat.length_toDigits_le_iff (by decide) (by decide)).mpr readable
  simp [segmentIndex?, toList_indexSegment, bracketed, taken, digitsOf_ne_nil, value,
    limitDigits_eq_ok_iff, short]

theorem closing_notMem_digitsOf (index : Nat) : ']' ∉ Decimal.digitsOf index :=
  fun closing => absurd (isDigit_of_mem_digitsOf _ closing) (by decide)

/-- A path that starts with an index has it as its first segment. -/
theorem splitPath_indexSegment_append (index : Nat) (rest : String) :
    splitPath (indexSegment index ++ rest) = indexSegment index :: splitPath rest := by
  rw [splitPath, String.toList_append, toList_indexSegment,
    segmentsFrom_bracketed [] (closing_notMem_digitsOf index), ← toList_indexSegment]
  simp [addKey, splitPath]

theorem resolve_indexSegment_append {items : List Json} {index : Nat} {item : Json}
    (readable : index < 10 ^ maxDigits) (found : items[index]? = some item) (rest : String) :
    resolve (.array items) (indexSegment index ++ rest) = resolve item rest := by
  have reached : followSegment (.array items) (indexSegment index) = .ok item := by
    simp only [followSegment, segmentIndex?_indexSegment readable, found]
  rw [resolve, splitPath_indexSegment_append, follow, reached]
  rfl

/-! ## Records and what is read from them -/

section

variable {document : Json} {path : String} {items : List Json}
  (array : resolve document path = .ok (.array items))

include array

theorem outcome_recordsAt_of_array (session : Session) :
    (recordsAt document path).outcome session = .ok items := by
  have anywhere := (independent_recordsAt document path).outcome_eq session
  rw [anywhere, alone_recordsAt, array]
  rfl

theorem resolve_indexed (balanced : bracketsBalanced path = true) {index : Nat} {record : Json}
    (readable : index < 10 ^ maxDigits) (found : items[index]? = some record) (rest : String) :
    resolve document (path ++ "/" ++ (indexSegment index ++ rest)) = resolve record rest := by
  rw [resolve_append_slash balanced, array]
  simp only [bind, Except.bind, resolve_indexSegment_append readable found rest]

end

/-- Behind a path with balanced brackets and a slash, another path is read from the value that the
first one addresses: it has its segments behind those of the first one, and it addresses the same
value there or fails in the same way, if the first one does not fail. In particular, the records
under a path that leads to an array are those at its indexes, and what is read from a record is what
is read behind its index, if that has no more digits than numbers are read from. -/
theorem paths_compose {path : String} (balanced : bracketsBalanced path = true) :
    (∀ later, splitPath (path ++ "/" ++ later) = splitPath path ++ splitPath later) ∧
      (∀ document later,
        (∀ value, resolve document (path ++ "/" ++ later) = .ok value ↔
          ∃ inner, resolve document path = .ok inner ∧ resolve inner later = .ok value) ∧
        ∀ fault, resolve document (path ++ "/" ++ later) = .error fault ↔
          resolve document path = .error fault ∨
            ∃ inner, resolve document path = .ok inner ∧ resolve inner later = .error fault) ∧
      ∀ document items, resolve document path = .ok (.array items) →
        (∀ session, (recordsAt document path).outcome session = .ok items) ∧
        ∀ index record, index < 10 ^ maxDigits → items[index]? = some record →
          resolve document (path ++ "/" ++ indexSegment index) = .ok record ∧
            ∀ later, resolve document (path ++ "/" ++ indexSegment index ++ "/" ++ later) =
              resolve record later := by
  refine ⟨splitPath_append_slash balanced, ?_, ?_⟩
  · intro document later
    rw [resolve_append_slash balanced]
    exact ⟨fun _ => bind_eq_ok_iff, fun _ => bind_eq_error_iff⟩
  · intro document items array
    refine ⟨outcome_recordsAt_of_array array, ?_⟩
    intro index record readable found
    have behind := resolve_indexed array balanced readable found
    constructor
    -- A record is what stands behind its index and nothing more.
    · have whole := behind ""
      rwa [String.append_empty] at whole
    · intro later
      have within := behind ("/" ++ later)
      rwa [resolve_slash, ← String.append_assoc, ← String.append_assoc] at within

/-- A document with shelves that hold books. -/
def shelvesDocument : Json :=
  .object [("shelves", .array [.object [("books", .array
    [.object [("title", .string "Emma")], .object [("title", .string "Dune")]])]])]

theorem paths_compose_shelves :
    bracketsBalanced "shelves[0]/books" = true ∧
      splitPath ("shelves[0]/books" ++ "/" ++ "/[1]/title") =
        splitPath "shelves[0]/books" ++ splitPath "/[1]/title" ∧
      resolve shelvesDocument ("shelves[0]/books" ++ "/" ++ indexSegment 1 ++ "/" ++ "title") =
        .ok (.string "Dune") ∧
      resolve shelvesDocument ("shelves[0]/books" ++ "/" ++ "[2]/title") =
        .error (.indexOutOfBounds "[2]") := by
  have balanced : bracketsBalanced "shelves[0]/books" = true := by decide
  have array : resolve shelvesDocument "shelves[0]/books" = .ok (.array
      [.object [("title", .string "Emma")], .object [("title", .string "Dune")]]) := by rfl
  obtain ⟨segments, behind, records⟩ := paths_compose balanced
  have readable : 1 < 10 ^ maxDigits := Nat.one_lt_pow (by decide) (by decide)
  have record := ((records shelvesDocument _ array).2 1 _ readable rfl).2 "title"
  refine ⟨balanced, segments "/[1]/title", record.trans rfl, ?_⟩
  exact ((behind shelvesDocument "[2]/title").2 _).mpr (.inr ⟨_, array, rfl⟩)

end DocGraph
