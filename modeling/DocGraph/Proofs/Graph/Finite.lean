import DocGraph.Proofs.Graph.Breakdown
import DocGraph.Proofs.Graph.LiteralType
import DocGraph.Proofs.Graph.Reached

/-!
# Numbers that are not finite

A number in a document can be too large for a binary number, and is infinite then. A declared
property is not written for such a number, since reading it as any type is a fault of the document,
and built-in transforms give no binary numbers at all. Dynamic properties are written as they are.
So a literal that stands for no finite number is that of a dynamic property.

## Main definitions

* `nonFiniteWords`: how numbers are written that are not finite.
* `Property.IsInfiniteIn`: a property without a transform, for such a number in a record.
* `IsDynamicLiteral`: the literal of a dynamic property.

## Main results

* `text_mem_nonFiniteWords_iff`: the words stand for numbers that are not finite, and nothing else.
* `isFinite_of_hasLiteral`: the numbers that declared properties are written with are finite.
* `nonFinite_iff_dynamic`: literals for other numbers are those of dynamic properties.
-/

namespace DocGraph

open Generation

/-! ## Literals -/

/-- The words for the numbers that are not finite. -/
def nonFiniteWords : List String := ["inf", "-inf", "nan"]

theorem text_mem_nonFiniteWords {x : Binary64} (h : x.isFinite = false) :
    x.text ∈ nonFiniteWords := by
  cases x with
  | nan => simp [Binary64.text, nonFiniteWords]
  | infinite negative => cases negative <;> simp [Binary64.text, nonFiniteWords]
  | finite => cases h

/-- The words are literals of numbers, and texts stand between quotes. -/
theorem text_mem_nonFiniteWords_iff {literal : Literal} :
    literal.text ∈ nonFiniteWords ↔ ∃ x, literal = .value (.float x) ∧ x.isFinite = false := by
  constructor
  · intro word
    simp only [nonFiniteWords, List.mem_cons, List.not_mem_nil, or_false] at word
    rcases word with same | same | same
    · exact ⟨.infinite false, Literal.text_injective same, rfl⟩
    · exact ⟨.infinite true, Literal.text_injective same, rfl⟩
    · exact ⟨.nan, Literal.text_injective same, rfl⟩
  · rintro ⟨x, rfl, infinite⟩
    exact text_mem_nonFiniteWords infinite

/-! ## Values of declared properties -/

theorem isFinite_of_ofInt? {n : Int} {x : Binary64} (h : Binary64.ofInt? n = some x) :
    x.isFinite = true := by
  simp only [Binary64.ofInt?] at h
  split at h
  next finite =>
    obtain rfl := Option.some.inj h
    exact finite
  next => cases h

/-- A number that is read from a scalar is finite, unless it is the scalar. -/
theorem isFinite_of_readAs {type : ValueType} {scalar : Scalar} {x : Binary64}
    (finite : ∀ y, scalar = .float y → y.isFinite = true) :
    readAs type scalar = some (.ok (.float x)) → x.isFinite = true := by
  fun_cases readAs type scalar
  case case2 y _ =>
    intro h
    obtain ⟨n, -, ⟨⟩⟩ := Option.map_eq_some_iff.mp h
  case case5 n _ =>
    intro h
    rw [doubleOfInteger] at h
    cases found : Binary64.ofInt? n with
    | none => simp [found] at h
    | some y =>
      obtain rfl : y = x := by simpa [found] using h
      exact isFinite_of_ofInt? found
  case case6 y _ =>
    rintro ⟨⟩
    exact finite x rfl
  case case7 b _ =>
    rintro ⟨⟩
    cases b <;> decide +kernel
  all_goals rintro ⟨⟩

/-- What is not finite cannot be read as any type. -/
theorem convertTo_infinite {type : ValueType} {x : Binary64} (h : x.isFinite = false)
    (path : String) :
    convertTo type (.float x) path = .error (.data (.infiniteValue x path)) := by
  simp [convertTo, infinite?, h]

theorem isFinite_of_convertTo {type : ValueType} {value : Json} {path : String} {x : Binary64}
    (h : convertTo type value path = .ok (.float x)) : x.isFinite = true := by
  have finite (y : Binary64) (same : value = .float y) : y.isFinite = true := by
    by_contra infinite
    rw [same, convertTo_infinite (Bool.not_eq_true _ ▸ infinite)] at h
    cases h
  unfold convertTo at h
  split at h
  next => cases h
  next read _ found =>
    subst h
    obtain ⟨scalar, single, read⟩ := Option.bind_eq_some_iff.mp found
    refine isFinite_of_readAs (fun y same => finite y ?_) read
    cases value <;> simp_all [Scalar.ofJson?]
  next => cases h

/-- Built-in transforms do not give binary numbers. -/
theorem ne_float_of_builtin {function : TransformFunction}
    (builtin : function ∈ builtinTransforms.map Prod.snd) {value : Json} {params : Params}
    {result : Transformed} (h : function value params = .ok result) (x : Binary64) :
    result.value ≠ .float x := by
  intro float
  have known : function ∈ builtinTargets.map Prod.fst := builtin
  obtain ⟨⟨_, target⟩, among, rfl⟩ := List.mem_map.mp known
  have form := (form_builtin among h).2
  rw [float] at form
  simp only [builtinTargets, List.mem_cons, List.not_mem_nil, or_false, Prod.mk.injEq] at among
  rcases among with ⟨-, rfl⟩ | ⟨-, rfl⟩ | ⟨-, rfl⟩ | ⟨-, rfl⟩ | ⟨-, rfl⟩ <;> cases form

section

variable {registry : TransformRegistry} {record : Json} {property : Property} {literal : Literal}

/-- With built-in transforms only, the numbers that declared properties are written with are
finite. -/
theorem isFinite_of_hasLiteral (builtin : registry.OnlyBuiltin)
    (h : HasLiteral registry record property literal) : literal.text ∉ nonFiniteWords := by
  rw [text_mem_nonFiniteWords_iff]
  rintro ⟨x, rfl, infinite⟩
  obtain ⟨type, value, -, -, given⟩ := h
  obtain ⟨-, ⟨⟩⟩ | ⟨-, scalar, same, ⟨-, read⟩ | ⟨transform, -, transformed⟩⟩ :=
    literalOf_eq_ok given
  · cases same
    simp [isFinite_of_convertTo read] at infinite
  · obtain ⟨name, function, result, -, found, applied, rfl⟩ := transformed_eq_ok transformed
    exact ne_float_of_builtin (builtin.mem_of_find? found) applied x (Literal.value.inj same).symm

/-- A property is read from a record as it is, and there stands a number that is not finite. -/
def Property.IsInfiniteIn (property : Property) (record : Json) (x : Binary64) : Prop :=
  property.transform = none ∧ resolve record property.path = .ok (.float x) ∧ x.isFinite = false

theorem alone_propertyValue_of_infinite {x : Binary64} (h : property.IsInfiniteIn record x)
    {type : ValueType} (known : ValueType.resolve? property.type = some type) :
    (propertyValue registry record property).alone =
      .error (.data (.infiniteValue x property.path)) := by
  obtain ⟨plain, found, infinite⟩ := h
  have unread : literalOf registry property type (.float x) =
      .error (.data (.infiniteValue x property.path)) := by
    simp [literalOf, plain, convertTo_infinite infinite]
  rw [alone_propertyValue, resolveType_eq_ok_iff.mpr known, found]
  simp [Except.mapError, unread, bind, Except.bind, Except.map]

theorem not_hasLiteral_of_infinite {x : Binary64} (h : property.IsInfiniteIn record x) :
    ¬ HasLiteral registry record property literal := by
  rintro ⟨type, value, known, found, given⟩
  have read : (propertyValue registry record property).alone = .ok (type, literal) :=
    alone_propertyValue_eq_ok_iff.mpr ⟨known, value, found, given⟩
  rw [alone_propertyValue_of_infinite h known] at read
  cases read

end

/-! ## Dynamic properties -/

/-- A literal stands for a dynamic property of a first record with an identifier. -/
def IsDynamicLiteral (mapping : GraphMapping) (document : Json) (literal : Literal) : Prop :=
  ∃ v ∈ mapping.vertices, v.dynamicFields.enabled = true ∧
    ∃ records, (recordsAt document v.source).alone = .ok records ∧
      ∃ id record, records.find? (carries v id) = some record ∧
        ∃ entry ∈ dynamicOf v record, literal = .value entry.2

section

variable {registry : TransformRegistry} {mapping : GraphMapping} {document : Json}
  {size : BatchSize} {session : Session} {statements : List DataStatement} {literal : Literal}

theorem notMem_nonFiniteWords_of_forall₂ (builtin : registry.OnlyBuiltin) {record : Json}
    {properties : List Property} {literals : List Literal}
    (h : List.Forall₂ (HasLiteral registry record) properties literals) (mem : literal ∈ literals) :
    literal.text ∉ nonFiniteWords := by
  obtain ⟨property, -, given⟩ := exists_left_of_forall₂ h mem
  exact isFinite_of_hasLiteral builtin given

/-- Only statements for single vertices have literals for numbers that are not finite. -/
theorem isDynamicLiteral_of_mem (builtin : registry.OnlyBuiltin)
    (h : (dataStatements registry mapping document size).outcome session = .ok statements)
    {statement : DataStatement} (among : statement ∈ statements) {tuple : List Literal}
    (within : tuple ∈ statement.tuples) (mem : literal ∈ tuple)
    (word : literal.text ∈ nonFiniteWords) : IsDynamicLiteral mapping document literal := by
  cases isWritten_of_mem h among with
  | vertices vertex static found each =>
    obtain ⟨row, listed, rfl⟩ := List.mem_map.mp within
    obtain ⟨record, -, written⟩ := each row listed
    obtain ⟨-, literals⟩ := alone_vertexRow_eq_ok_iff.mp written
    exact absurd word (notMem_nonFiniteWords_of_forall₂ builtin literals mem)
  | edges edge found each =>
    obtain ⟨row, listed, rfl⟩ := List.mem_map.mp within
    obtain ⟨record, -, written⟩ := each row listed
    obtain ⟨-, -, literals⟩ := alone_edgeRow_eq_ok_iff.mp written
    exact absurd word (notMem_nonFiniteWords_of_forall₂ builtin literals mem)
  | upsert _ _ _ _ _ written =>
    obtain ⟨columns, tuple, rfl⟩ := alone_upsert_eq _ _ written
    obtain rfl := List.mem_singleton.mp within
    obtain ⟨v, vertex, dynamic, records, found, id, record, first, written⟩ :=
      exists_first_of_mem h among
    obtain ⟨values, literals, same⟩ := alone_upsert_eq_ok_iff.mp written
    obtain ⟨-, rfl⟩ := VertexRow.mk.inj (DataStatement.upsertVertex.inj same).2.2
    rcases List.mem_append.mp mem with declared | undeclared
    · exact absurd word (notMem_nonFiniteWords_of_forall₂ builtin literals declared)
    · obtain ⟨entry, listed, rfl⟩ := List.mem_map.mp undeclared
      exact ⟨v, vertex, dynamic, records, found, id, record, first, entry, listed, rfl⟩

/-- A run that succeeds has written all dynamic properties of first records as they are. -/
theorem exists_statement_of_isDynamicLiteral (built : mapping.IsBuilt)
    (h : (dataStatements registry mapping document size).outcome session = .ok statements)
    (dynamic : IsDynamicLiteral mapping document literal) :
    ∃ statement ∈ statements, ∃ tuple ∈ statement.tuples, literal ∈ tuple := by
  obtain ⟨v, vertex, dynamic, records, found, id, record, first, entry, listed, rfl⟩ := dynamic
  obtain ⟨portion, given, contained⟩ := (exists_portions_of_ok built h).1 v vertex
  obtain ⟨statement, within, written⟩ :=
    exists_upsert_of_first dynamic given found first size.size
  obtain ⟨values, -, rfl⟩ := alone_upsert_eq_ok_iff.mp written
  refine ⟨_, contained within, _, List.mem_singleton_self _, ?_⟩
  exact List.mem_append_right _ (List.mem_map_of_mem listed)

end

/-- With built-in transforms only, the literals of a run that are not finite numbers are exactly
the dynamic properties that are not. Reaching such a number for a declared property makes the run
fail, and the fault of the property is one of the document. -/
theorem nonFinite_iff_dynamic {registry : TransformRegistry} (builtin : registry.OnlyBuiltin)
    {mapping : GraphMapping} (built : mapping.IsBuilt) (document size : Json) (session : Session) :
    (∀ statements,
      (batchedStatements registry mapping document size).outcome session = .ok statements →
      ∀ literal, literal.text ∈ nonFiniteWords →
        ((∃ statement ∈ statements, ∃ tuple ∈ statement.tuples, literal ∈ tuple) ↔
          IsDynamicLiteral mapping document literal)) ∧
      ∀ readout record, IsReached mapping document readout record →
        ∀ property ∈ readout.properties, ∀ x, property.IsInfiniteIn record x →
          (∃ failure, (batchedStatements registry mapping document size).outcome session =
            .error failure) ∧
          ∀ type, ValueType.resolve? property.type = some type →
            (propertyValue registry record property).alone =
              .error (.data (.infiniteValue x property.path)) := by
  rw [outcome_batchedStatements]
  refine ⟨fun statements given literal word => ?_,
    fun readout record reached property declared x infinite => ⟨?_, fun type known => ?_⟩⟩
  · obtain ⟨size, -, h⟩ := bind_eq_ok_iff.mp given
    constructor
    · rintro ⟨statement, among, tuple, within, mem⟩
      exact isDynamicLiteral_of_mem builtin h among within mem word
    · exact exists_statement_of_isDynamicLiteral built h
  · cases BatchSize.ofJson size with
    | error failure => exact ⟨failure, rfl⟩
    | ok size =>
      exact exists_failure_of_isReached built reached declared fun literal =>
        not_hasLiteral_of_infinite infinite
  · exact alone_propertyValue_of_infinite infinite known

/-! ## Debts of a library -/

/-- A reader whose debts are infinite, and loans. -/
def indebtedLibrary (loans : List Json) : Json :=
  .object [
    ("books", .array []),
    ("readers", .array [.object [("id", .integer 7), ("debts", .float (.infinite false))]]),
    ("loans", .array loans)]

/-- A loan with an infinite fee. -/
def endlessLoan : Json :=
  .object [("book", .string "b2"), ("reader", .integer 7), ("fee", .float (.infinite false))]

theorem nonFinite_iff_dynamic_library :
    (∃ statements,
      (batchedStatements .builtin libraryMapping (indebtedLibrary []) (.integer 1)).outcome {} =
        .ok statements ∧
      ∃ statement ∈ statements, ∃ tuple ∈ statement.tuples,
        Literal.value (.float (.infinite false)) ∈ tuple) ∧
      ∃ failure, (batchedStatements .builtin libraryMapping (indebtedLibrary [endlessLoan])
        (.integer 1)).outcome {} = .error failure := by
  constructor
  · have succeeds : ((batchedStatements .builtin libraryMapping (indebtedLibrary [])
        (.integer 1)).outcome {}).toOption.isSome := by decide +kernel
    obtain ⟨statements, found⟩ := Option.isSome_iff_exists.mp succeeds
    rw [toOption_eq_some_iff] at found
    obtain ⟨exactly, -⟩ := nonFinite_iff_dynamic onlyBuiltin_builtin isBuilt_libraryMapping
      (indebtedLibrary []) (.integer 1) {}
    refine ⟨statements, found, (exactly statements found _ (by decide)).mpr ?_⟩
    refine ⟨_, List.mem_cons_of_mem _ List.mem_cons_self, rfl, _, rfl, ⟨"7"⟩, _, rfl, ?_⟩
    exact ⟨("debts", .float (.infinite false)), by decide +kernel, rfl⟩
  · obtain ⟨-, fails⟩ := nonFinite_iff_dynamic onlyBuiltin_builtin isBuilt_libraryMapping
      (indebtedLibrary [endlessLoan]) (.integer 1) {}
    have reached : IsReached libraryMapping (indebtedLibrary [endlessLoan]) _ endlessLoan :=
      .edge List.mem_cons_self rfl List.mem_cons_self
    exact (fails _ _ reached _ List.mem_cons_self (.infinite false) ⟨rfl, rfl, rfl⟩).1

/-- Players with whatever is known of them. -/
def playersDefinition : Yaml.Value :=
  .map [(.string "tags", .map [(.string "Player", .map [
    (.string "from", .string "players"),
    (.string "dynamic_fields", .map [(.string "enabled", .bool true)])])])]

def playersMapping : GraphMapping where
  vertices := [
    { tag := "Player", source := "players", key := "id", dynamicFields := { enabled := true } }]

/-- A player with a score of ten to the power of 400. -/
def endlessScore : String := "\x7b\"players\": [\x7b\"id\": 1, \"score\": 1e400\x7d]\x7d"

/-- Dynamic properties are an exception: the text of a document may hold a number that is too
large, and it is written. -/
theorem not_forall_finite :
    ¬ ∀ (definition : Yaml.Value) (mapping : GraphMapping) (text : String) (document size : Json)
      (session : Session) (statements : List DataStatement),
      mappingOf definition = .ok mapping → loadJson text none = .ok document →
      (batchedStatements .builtin mapping document size).outcome session = .ok statements →
      ∀ statement ∈ statements, ∀ tuple ∈ statement.tuples, ∀ literal ∈ tuple,
        literal.text ∉ nonFiniteWords := by
  intro always
  have written : ((loadJson endlessScore none).toOption.bind fun document =>
      ((batchedStatements .builtin playersMapping document (.integer 1)).outcome {}).toOption) =
        some [.upsertVertex "Player" ["score"]
          ⟨⟨"1"⟩, [.value (.float (.infinite false))]⟩] := by decide +kernel
  obtain ⟨document, loaded, given⟩ := Option.bind_eq_some_iff.mp written
  have finite := always playersDefinition playersMapping endlessScore document (.integer 1) {} _
    rfl (toOption_eq_some_iff.mp loaded) (toOption_eq_some_iff.mp given)
  exact finite _ List.mem_cons_self _ List.mem_cons_self _ List.mem_cons_self (by decide)

end DocGraph
