import DocGraph.Proofs.Graph.ColumnValues
import DocGraph.Proofs.Graph.Finite
import DocGraph.Proofs.Graph.NumericKey
import DocGraph.Proofs.Transform.Price

/-!
# Ranges of whole numbers

A type of whole numbers has a number of bits, and with them a range. Whole numbers are written for
such a type from numbers that are cut down to their whole parts, from truth values, and from prices.
Only a price is ever held against a range, which is that of `INT64` whatever the type is. So
everything that is written fits exactly if the numbers of the document do: those that are not
transformed, the prices for narrower types, and those that become dynamic properties.

## Main definitions

* `InSignedRange`, `Property.bits?`: the range of a number of bits, and the bits of a property.
* `IntegersFit`: the whole numbers that are written fit their types.
* `Property.GivesInteger`: the whole number of a property in a record.
* `NumbersFit`: the numbers of a document that are written unchecked fit.

## Main results

* `hasLiteral_integer_iff`: where the whole numbers of declared properties come from.
* `integersFit_iff`: when whole numbers fit their types.
-/

namespace DocGraph

open Generation

/-! ## Ranges -/

/-- A whole number can be written in two's complement with a number of bits. -/
def InSignedRange (bits : ℕ) (n : ℤ) : Prop := -2 ^ (bits - 1) ≤ n ∧ n < 2 ^ (bits - 1)

/-- How many bits there are in the whole numbers of a type. -/
def ValueType.bits? : ValueType → Option ℕ
  | .int8 => some 8
  | .int16 => some 16
  | .int32 => some 32
  | .int64 => some 64
  | _ => none

/-- How many bits there are in a property that is declared to be a whole number. -/
def Property.bits? (property : Property) : Option ℕ :=
  (ValueType.resolve? property.type).bind ValueType.bits?

theorem isInteger_of_bits? {type : ValueType} {bits : ℕ} (h : type.bits? = some bits) :
    type.isInteger = true := by
  cases type <;> first | rfl | cases h

theorem bounds_of_bits? {property : Property} {bits : ℕ} (h : property.bits? = some bits) :
    8 ≤ bits ∧ bits ≤ 64 := by
  obtain ⟨type, -, sized⟩ := Option.bind_eq_some_iff.mp h
  cases type <;> cases sized <;> decide

/-- The whole numbers of statements fit: those of declared properties their types, and all others
the type `INT64`, which dynamic properties are taken to have. -/
structure IntegersFit (mapping : GraphMapping) (statements : List DataStatement) : Prop where
  declared : ∀ readout ∈ mapping.readouts, ∀ property ∈ readout.properties, ∀ bits,
    property.bits? = some bits → ∀ n,
      StandsUnder statements readout property.name (.value (.integer n)) → InSignedRange bits n
  dynamic : ∀ readout ∈ mapping.readouts, ∀ column, column ∉ columnNames readout.properties → ∀ n,
    StandsUnder statements readout column (.value (.integer n)) → InSignedRange 64 n

/-! ## Whole numbers of properties -/

/-- A property has a whole number in a record: the whole part of a number, one or zero for a truth
value, or a price. -/
inductive Property.GivesInteger (registry : TransformRegistry) (property : Property)
    (record : Json) : ℤ → Prop
  | number {value : Json} {x : ℚ} (plain : property.transform = none)
      (found : resolve record property.path = .ok value) (number : value.number? = some x) :
      GivesInteger registry property record (towardZero x)
  | truth {b : Bool} (plain : property.transform = none)
      (found : resolve record property.path = .ok (.bool b)) :
      GivesInteger registry property record (if b then 1 else 0)
  | price {value : Json} {text : String} {n : ℕ} (priced : property.IsPriced registry)
      (found : resolve record property.path = .ok value) (written : toText value = .ok text)
      (spells : SpellsNumber text n) (within : n ≤ maxInt64) :
      GivesInteger registry property record n

theorem convertTo_of_readAs {type : ValueType} {value : Json} {scalar read : Scalar}
    (finite : infinite? value = none) (single : Scalar.ofJson? value = some scalar)
    (given : readAs type scalar = some (.ok read)) (path : String) :
    convertTo type value path = .ok read := by
  unfold convertTo
  rw [finite, single, Option.bind_some, given]

section

variable {type : ValueType} (integer : type.isInteger = true) {value : Json} {path : String}
include integer

/-- Numbers are cut down to their whole parts. -/
theorem convertTo_of_number {x : ℚ} (number : value.number? = some x) :
    convertTo type value path = .ok (.integer (towardZero x)) := by
  cases value with
  | integer m =>
    obtain rfl : (m : ℚ) = x := Option.some.inj number
    have read : readAs type (.integer m) = some (.ok (.integer m)) := by
      unfold readAs
      rw [if_pos integer]
    rw [towardZero_intCast]
    exact convertTo_of_readAs rfl rfl read path
  | float y =>
    obtain ⟨finite, rfl⟩ : y.isFinite = true ∧ y.value = x := by
      simpa [Json.number?] using number
    have read : readAs type (.float y) = some (.ok (.integer (towardZero y.value))) := by
      unfold readAs
      rw [if_pos integer]
      dsimp only
      rw [y.trunc_eq_towardZero finite]
      rfl
    have counts : infinite? (.float y) = none := if_pos finite
    exact convertTo_of_readAs counts rfl read path
  | _ => cases number

theorem convertTo_of_truth (b : Bool) :
    convertTo type (.bool b) path = .ok (.integer (if b then 1 else 0)) := by
  have read : readAs type (.bool b) = some (.ok (.integer (if b then 1 else 0))) := by
    unfold readAs
    rw [if_pos integer]
  exact convertTo_of_readAs rfl rfl read path

/-- Nothing else is read as a whole number. -/
theorem exists_number_of_convertTo {scalar : Scalar} (h : convertTo type value path = .ok scalar) :
    (∃ x, value.number? = some x) ∨ ∃ b, value = .bool b := by
  cases value with
  | integer m => exact .inl ⟨m, rfl⟩
  | float y =>
    by_cases finite : y.isFinite = true
    · exact .inl ⟨y.value, if_pos finite⟩
    · rw [convertTo_infinite (Bool.eq_false_iff.mpr finite)] at h
      cases h
  | bool b => exact .inr ⟨b, rfl⟩
  | string s =>
    have unread : readAs type (.text s) = none := by
      unfold readAs
      rw [if_pos integer]
    simp [convertTo, infinite?, Scalar.ofJson?, unread] at h
  | null | array | object => cases h

end

/-- Only prices are whole numbers among the results of built-in transforms. -/
theorem eq_priceTransform_of_integer {function : TransformFunction}
    (builtin : function ∈ builtinTransforms.map Prod.snd) {value : Json} {params : Params}
    {result : Transformed} (h : function value params = .ok result) {n : ℤ}
    (integer : result.value = .integer n) : function = priceTransform := by
  have known : function ∈ builtinTargets.map Prod.fst := builtin
  obtain ⟨⟨_, target⟩, among, rfl⟩ := List.mem_map.mp known
  have form := (form_builtin among h).2
  rw [integer] at form
  simp only [builtinTargets, List.mem_cons, List.not_mem_nil, or_false, Prod.mk.injEq] at among
  rcases among with ⟨-, rfl⟩ | ⟨rfl, -⟩ | ⟨-, rfl⟩ | ⟨-, rfl⟩ | ⟨-, rfl⟩
  · cases form
  · rfl
  · cases form
  · cases form
  · cases form

section

variable {registry : TransformRegistry} {record : Json} {property : Property}

/-- The text of a value that is transformed. -/
theorem exists_text_of_priceTransform {value : Json} {params : Params} {result : Transformed}
    (h : priceTransform value params = .ok result) : ∃ text, toText value = .ok text := by
  obtain ⟨text, read, -⟩ := bind_eq_ok_iff.mp h
  exact ⟨text, mapError_eq_ok_iff.mp read⟩

theorem literalOf_plain {type : ValueType} {value : Json} (present : value ≠ .null)
    (plain : property.transform = none) : literalOf registry property type value =
      (convertTo type value property.path).map .value := by
  unfold literalOf
  rw [plain]
  cases value <;> first | rfl | exact absurd rfl present

theorem literalOf_transformed {type : ValueType} {value : Json} (present : value ≠ .null)
    {transform : PropertyTransform} (attached : property.transform = some transform) :
    literalOf registry property type value =
      (transformed registry transform value property.path).map .value := by
  unfold literalOf
  rw [attached]
  cases value <;> first | rfl | exact absurd rfl present

/-- A value that has a text is handed to the transform. -/
theorem transformed_of_toText {value : Json} {text : String} (written : toText value = .ok text)
    {transform : PropertyTransform} {name : String} (named : transform.registryName? = some name)
    {function : TransformFunction} (entry : registry.find? name = some function) (path : String) :
    transformed registry transform value path = ((function value transform.params).mapError
      (.ofTransform (some path))).map (·.value) := by
  have single : ¬ (Scalar.ofJson? value).isNone = true := by
    cases value with
    | null | array | object => cases written
    | _ => exact Bool.false_ne_true
  have applied : registry.apply name value transform.params = function value transform.params := by
    rw [TransformRegistry.apply, entry]
  unfold transformed
  rw [if_neg single, named]
  dsimp only
  rw [applied]
  cases function value transform.params <;> rfl

section

variable {bits : ℕ} (sized : property.bits? = some bits) {n : ℤ}
include sized

/-- With built-in transforms only, a whole number is a number that was cut down, a truth value or a
price. -/
theorem givesInteger_of_hasLiteral (builtin : registry.OnlyBuiltin)
    (h : HasLiteral registry record property (.value (.integer n))) :
    property.GivesInteger registry record n := by
  obtain ⟨type, known, width⟩ := Option.bind_eq_some_iff.mp sized
  obtain ⟨type', value, known', found, given⟩ := h
  obtain rfl := Option.some.inj (known.symm.trans known')
  obtain ⟨-, ⟨⟩⟩ | ⟨-, scalar, ⟨⟩, ⟨plain, read⟩ | ⟨transform, attached, transformed⟩⟩ :=
    literalOf_eq_ok given
  · have integer := isInteger_of_bits? width
    rcases exists_number_of_convertTo integer read with ⟨x, number⟩ | ⟨b, rfl⟩
    · rw [convertTo_of_number integer number] at read
      cases read
      exact .number plain found number
    · rw [convertTo_of_truth integer] at read
      cases read
      exact .truth plain found
  · obtain ⟨name, function, result, named, entry, applied, same⟩ := transformed_eq_ok transformed
    obtain rfl := eq_priceTransform_of_integer (builtin.mem_of_find? entry) applied same
    obtain ⟨text, written⟩ := exists_text_of_priceTransform applied
    obtain ⟨d, spells, within, rfl⟩ := (price_eq_ok_iff written transform.params).mp applied
    cases same
    exact .price ⟨transform, name, attached, named, entry⟩ found written spells within

theorem Property.GivesInteger.hasLiteral (h : property.GivesInteger registry record n) :
    HasLiteral registry record property (.value (.integer n)) := by
  obtain ⟨type, known, width⟩ := Option.bind_eq_some_iff.mp sized
  have integer := isInteger_of_bits? width
  cases h with
  | @number value _ plain found number =>
    have present : value ≠ .null := by
      rintro rfl
      cases number
    refine ⟨type, value, known, found, ?_⟩
    rw [literalOf_plain present plain, convertTo_of_number integer number]
    rfl
  | @truth b plain found =>
    have present : Json.bool b ≠ .null := by simp
    refine ⟨type, .bool b, known, found, ?_⟩
    rw [literalOf_plain present plain, convertTo_of_truth integer]
    rfl
  | @price value _ d transformed found written spells within =>
    obtain ⟨transform, name, attached, named, entry⟩ := transformed
    have present : value ≠ .null := by
      rintro rfl
      cases written
    have applied : priceTransform value transform.params = .ok (priced d) :=
      (price_eq_ok_iff written transform.params).mpr ⟨d, spells, within, rfl⟩
    refine ⟨type, value, known, found, ?_⟩
    rw [literalOf_transformed present attached, transformed_of_toText written named entry, applied]
    rfl

/-- With built-in transforms only, the whole numbers of a declared property are numbers that were
cut down, truth values and prices. -/
theorem hasLiteral_integer_iff (builtin : registry.OnlyBuiltin) :
    HasLiteral registry record property (.value (.integer n)) ↔
      property.GivesInteger registry record n :=
  ⟨givesInteger_of_hasLiteral sized builtin, Property.GivesInteger.hasLiteral sized⟩

end

/-- A price beyond the range of `INT64` is none, whatever the type of the property is. -/
theorem not_hasLiteral_of_large_price {value : Json} {text : String} {n : ℕ}
    (priced : property.IsPriced registry) (found : resolve record property.path = .ok value)
    (written : toText value = .ok text) (spells : SpellsNumber text n) (large : maxInt64 < n)
    (literal : Literal) : ¬ HasLiteral registry record property literal := by
  rintro ⟨type, value', known, found', given⟩
  obtain rfl := Except.ok.inj (found.symm.trans found')
  obtain ⟨transform, name, attached, named, entry⟩ := priced
  have present : value ≠ .null := by
    rintro rfl
    cases written
  have failed : priceTransform value transform.params = .error (.priceOutOfRange text) :=
    (price_eq_error_iff written transform.params).mpr (.inr (.inr ⟨n, spells, large, rfl⟩))
  rw [literalOf_transformed present attached, transformed_of_toText written named entry,
    failed] at given
  cases given

end

/-! ## Numbers of documents -/

/-- The numbers of a document that are not held against a range fit all the same: numbers that are
read without a transform, prices for types narrower than `INT64`, and dynamic properties. -/
structure NumbersFit (registry : TransformRegistry) (mapping : GraphMapping) (document : Json) :
    Prop where
  number : ∀ readout record, IsReached mapping document readout record →
    ∀ property ∈ readout.properties, ∀ bits, property.bits? = some bits →
      property.transform = none → ∀ value x, resolve record property.path = .ok value →
        value.number? = some x → InSignedRange bits (towardZero x)
  price : ∀ readout record, IsReached mapping document readout record →
    ∀ property ∈ readout.properties, ∀ bits, property.bits? = some bits → bits < 64 →
      property.IsPriced registry → ∀ value text (n : ℕ), resolve record property.path = .ok value →
        toText value = .ok text → SpellsNumber text n → InSignedRange bits n
  dynamic : ∀ readout record dynamic, IsReachedWith mapping document readout record dynamic →
    ∀ key n, (key, .integer n) ∈ dynamic → InSignedRange 64 n

theorem inSignedRange_of_le {bits : ℕ} {n : ℕ} (h : n < 2 ^ (bits - 1)) : InSignedRange bits n := by
  constructor
  · have below : (0 : ℤ) ≤ 2 ^ (bits - 1) := by positivity
    omega
  · exact_mod_cast h

theorem inSignedRange_truth {bits : ℕ} (wide : 8 ≤ bits) (b : Bool) :
    InSignedRange bits (if b then 1 else 0) := by
  have two : 2 ^ 1 ≤ 2 ^ (bits - 1) := Nat.pow_le_pow_right (by decide) (by omega)
  cases b with
  | false => exact inSignedRange_of_le (n := 0) (by omega)
  | true => exact inSignedRange_of_le (n := 1) (by omega)

section

variable {registry : TransformRegistry} {mapping : GraphMapping} {document : Json}
  {size : BatchSize} {session : Session} {statements : List DataStatement}

theorem integersFit_of_numbersFit (builtin : registry.OnlyBuiltin) (built : mapping.IsBuilt)
    (h : (dataStatements registry mapping document size).outcome session = .ok statements)
    (fit : NumbersFit registry mapping document) : IntegersFit mapping statements where
  declared := by
    intro readout known property declared bits sized n stands
    obtain ⟨record, reached, given⟩ := (standsUnder_property_iff built h known declared).mp stands
    rw [hasLiteral_integer_iff sized builtin] at given
    obtain ⟨wide, most⟩ := bounds_of_bits? sized
    cases given with
    | number plain found number =>
      exact fit.number readout record reached property declared bits sized plain _ _ found number
    | truth => exact inSignedRange_truth wide _
    | price priced found written spells within =>
      rcases Nat.lt_or_ge bits 64 with narrow | full
      · exact fit.price readout record reached property declared bits sized narrow priced _ _ _
          found written spells
      · obtain rfl : bits = 64 := Nat.le_antisymm most full
        exact inSignedRange_of_le (Nat.lt_succ_of_le within)
  dynamic := by
    intro readout known column undeclared n stands
    obtain ⟨record, dynamic, scalar, reached, mem, same⟩ :=
      (standsUnder_dynamic_iff built h known undeclared).mp stands
    cases same
    exact fit.dynamic readout record dynamic reached column n mem

theorem numbersFit_of_integersFit (builtin : registry.OnlyBuiltin) (built : mapping.IsBuilt)
    (h : (dataStatements registry mapping document size).outcome session = .ok statements)
    (fit : IntegersFit mapping statements) : NumbersFit registry mapping document where
  number := by
    intro readout record reached property declared bits sized plain value x found number
    have known := reached.mem_readouts
    have given := (hasLiteral_integer_iff sized builtin).mpr (.number plain found number)
    exact fit.declared readout known property declared bits sized _
      ((standsUnder_property_iff built h known declared).mpr ⟨record, reached, given⟩)
  price := by
    intro readout record reached property declared bits sized narrow priced value text n found
      written spells
    have known := reached.mem_readouts
    have within : n ≤ maxInt64 := by
      by_contra large
      have fails : ∃ failure, (dataStatements registry mapping document size).outcome session =
          .error failure :=
        exists_failure_of_isReached built reached declared
          (not_hasLiteral_of_large_price priced found written spells (Nat.lt_of_not_le large))
      obtain ⟨failure, failed⟩ := fails
      rw [h] at failed
      cases failed
    have given := (hasLiteral_integer_iff sized builtin).mpr
      (.price priced found written spells within)
    exact fit.declared readout known property declared bits sized _
      ((standsUnder_property_iff built h known declared).mpr ⟨record, reached, given⟩)
  dynamic := by
    intro readout record dynamic reached key n mem
    exact fit.dynamic readout reached.mem_readouts key (reached.undeclared mem) n
      ((standsUnder_dynamic_iff built h reached.mem_readouts (reached.undeclared mem)).mpr
        ⟨record, dynamic, .integer n, reached, mem, rfl⟩)

end

/-- With built-in transforms only, the whole numbers of a run that succeeds fit their types exactly
if the numbers that are not held against a range do. The run fails if a price is beyond the range of
`INT64`, and this is the only range that counts. -/
theorem integersFit_iff {registry : TransformRegistry} (builtin : registry.OnlyBuiltin)
    {mapping : GraphMapping} (built : mapping.IsBuilt) (document size : Json) (session : Session) :
    (∀ statements,
      (batchedStatements registry mapping document size).outcome session = .ok statements →
      (IntegersFit mapping statements ↔ NumbersFit registry mapping document)) ∧
      ∀ readout record, IsReached mapping document readout record →
        ∀ property ∈ readout.properties, property.IsPriced registry → ∀ value text n,
          resolve record property.path = .ok value → toText value = .ok text →
          SpellsNumber text n → 2 ^ 63 - 1 < n →
          ∃ failure, (batchedStatements registry mapping document size).outcome session =
            .error failure := by
  rw [outcome_batchedStatements]
  constructor
  · intro statements given
    obtain ⟨size, -, h⟩ := bind_eq_ok_iff.mp given
    exact ⟨numbersFit_of_integersFit builtin built h, integersFit_of_numbersFit builtin built h⟩
  · intro readout record reached property declared priced value text n found written spells large
    cases BatchSize.ofJson size with
    | error failure => exact ⟨failure, rfl⟩
    | ok size =>
      exact exists_failure_of_isReached built reached declared
        (not_hasLiteral_of_large_price priced found written spells large)

/-! ## Balances of accounts -/

/-- Accounts with their balances. -/
def accountsDefinition : Yaml.Value :=
  .map [(.string "tags", .map [(.string "Account", .map [
    (.string "from", .string "accounts"),
    (.string "properties", .list [sampleEntry "balance" "INT64" []])])])]

def balanceProperty : Property := { name := "balance", path := "balance", type := "INT64" }

def accountVertex : VertexMapping :=
  { tag := "Account", source := "accounts", key := "id", properties := [balanceProperty] }

theorem isBuilt_accounts : GraphMapping.IsBuilt { vertices := [accountVertex] } :=
  isBuilt_of_mappingOf (show mappingOf accountsDefinition = .ok _ from rfl)

/-- An account with a balance. -/
def accountRecord (balance : ℤ) : Json :=
  .object [("id", .integer 1), ("balance", .integer balance)]

def accountsDocument (balance : ℤ) : Json :=
  .object [("accounts", .array [accountRecord balance])]

theorem bits?_balanceProperty : balanceProperty.bits? = some 64 := by decide

/-- The document fits if the balance does. -/
theorem numbersFit_accountsDocument {balance : ℤ} (fits : InSignedRange 64 balance) :
    NumbersFit .builtin { vertices := [accountVertex] } (accountsDocument balance) := by
  have only {readout : Readout} {record : Json} {dynamic : List (String × Scalar)}
      (reached : IsReachedWith { vertices := [accountVertex] } (accountsDocument balance) readout
        record dynamic) :
      readout = accountVertex.readout ∧ record = accountRecord balance ∧ dynamic = [] := by
    cases reached with
    | vertex vertex static found among =>
      obtain rfl := List.mem_singleton.mp vertex
      have accounts : (recordsAt (accountsDocument balance) "accounts").alone =
          .ok [accountRecord balance] := rfl
      obtain rfl := Except.ok.inj (accounts.symm.trans found)
      exact ⟨rfl, List.mem_singleton.mp among, rfl⟩
    | first vertex dynamic =>
      obtain rfl := List.mem_singleton.mp vertex
      cases dynamic
    | edge edge => cases edge
  constructor
  · intro readout record reached property declared bits sized plain value x found number
    obtain ⟨dynamic, reached⟩ := isReached_iff_exists.mp reached
    obtain ⟨rfl, rfl, -⟩ := only reached
    obtain rfl := List.mem_singleton.mp declared
    obtain rfl := Option.some.inj (bits?_balanceProperty.symm.trans sized)
    have here : resolve (accountRecord balance) "balance" = .ok (.integer balance) := rfl
    obtain rfl := Except.ok.inj (here.symm.trans found)
    obtain rfl : (balance : ℚ) = x := Option.some.inj number
    rwa [towardZero_intCast]
  · intro readout record reached property declared bits sized narrow priced
    obtain ⟨dynamic, reached⟩ := isReached_iff_exists.mp reached
    obtain ⟨rfl, rfl, -⟩ := only reached
    obtain rfl := List.mem_singleton.mp declared
    obtain ⟨transform, name, attached, -⟩ := priced
    cases attached
  · intro readout record dynamic reached key n mem
    obtain ⟨-, -, rfl⟩ := only reached
    cases mem

/-- A library with a book at a price that is too large. -/
def dearLibrary : Json :=
  .object [("books", .array [.object [("id", .string "b1"), ("title", .string "Logic"),
    ("cents", .string "$ 92,233,720,368,547,758.08")]])]

theorem integersFit_iff_balance :
    (∃ statements,
      (batchedStatements .builtin { vertices := [accountVertex] } (accountsDocument 30)
        (.integer 1)).outcome {} = .ok statements ∧
      IntegersFit { vertices := [accountVertex] } statements) ∧
      ∃ failure, (batchedStatements .builtin libraryMapping dearLibrary (.integer 1)).outcome {} =
        .error failure := by
  constructor
  · obtain ⟨fit, -⟩ := integersFit_iff onlyBuiltin_builtin isBuilt_accounts (accountsDocument 30)
      (.integer 1) {}
    exact ⟨_, rfl, (fit _ rfl).mpr (numbersFit_accountsDocument ⟨by decide, by decide⟩)⟩
  · obtain ⟨-, fails⟩ := integersFit_iff onlyBuiltin_builtin isBuilt_libraryMapping dearLibrary
      (.integer 1) {}
    have reached : IsReached libraryMapping dearLibrary _ _ :=
      .vertex List.mem_cons_self rfl rfl List.mem_cons_self
    have spells : SpellsNumber "$ 92,233,720,368,547,758.08" (2 ^ 63) := by
      unfold SpellsNumber
      decide
    exact fails _ _ reached _ (List.mem_cons_of_mem _ List.mem_cons_self)
      ⟨_, _, rfl, rfl, rfl⟩ _ _ _ rfl rfl spells (by decide)

/-- The text of a document with a balance beyond the range of `INT64`. -/
def richText : String :=
  "\x7b\"accounts\": [\x7b\"id\": 1, \"balance\": 9223372036854775808\x7d]\x7d"

def richStatement : DataStatement :=
  .insertVertices "Account" ["balance"] [⟨⟨"1"⟩, [.value (.integer 9223372036854775808)]⟩]

/-- A number that does not fit its type is written for it. -/
theorem not_forall_integersFit :
    ¬ ∀ (definition : Yaml.Value) (mapping : GraphMapping) (text : String) (document size : Json)
      (session : Session) (statements : List DataStatement),
      mappingOf definition = .ok mapping → loadJson text none = .ok document →
      (batchedStatements .builtin mapping document size).outcome session = .ok statements →
      IntegersFit mapping statements := by
  intro always
  have written : ((loadJson richText none).toOption.bind fun document =>
      ((batchedStatements .builtin { vertices := [accountVertex] } document
        (.integer 1)).outcome {}).toOption) = some [richStatement] := by decide +kernel
  obtain ⟨document, loaded, given⟩ := Option.bind_eq_some_iff.mp written
  have fit := always accountsDefinition { vertices := [accountVertex] } richText document
    (.integer 1) {} _ rfl (toOption_eq_some_iff.mp loaded) (toOption_eq_some_iff.mp given)
  have stands : StandsUnder [richStatement] accountVertex.readout "balance"
      (.value (.integer 9223372036854775808)) :=
    ⟨_, List.mem_cons_self, rfl, rfl, _, List.mem_cons_self, List.mem_cons_self⟩
  have within := fit.declared accountVertex.readout List.mem_cons_self balanceProperty
    List.mem_cons_self 64 bits?_balanceProperty 9223372036854775808 stands
  exact absurd within.2 (by decide)

end DocGraph
