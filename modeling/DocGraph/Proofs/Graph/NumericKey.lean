import DocGraph.Proofs.Graph.FirstOccurrence
import DocGraph.Proofs.Graph.Record
import DocGraph.Proofs.Number.Whole
import Mathlib.Data.Rat.Floor

/-!
# Vertices whose keys are numbers

A key that is a number is cut down to its whole part, and the digits of the whole part are the
identifier of the vertex. So keys meet in one vertex exactly if their whole parts are equal: whole
numbers are told apart however large they are, and it makes no difference whether a whole number is
written as one or with a point. A key with a fraction meets the whole number that it is cut down to.

## Main definitions

* `Json.number?`: the number that a JSON value is.
* `towardZero`: the whole part of a number.
* `VertexId.ofNumber`: the identifier of a number.

## Main results

* `vertexIdAt_of_number`: what the identifier of a vertex with a numeric key is.
* `sameVertex_iff_sameWhole`: when two numeric keys have the same identifier.
-/

namespace DocGraph

open Generation

/-! ## Whole parts -/

/-- The whole part of a number, which is cut down toward zero. -/
def towardZero (x : ℚ) : ℤ := if 0 ≤ x then ⌊x⌋ else ⌈x⌉

theorem towardZero_intCast (n : ℤ) : towardZero n = n := by
  unfold towardZero
  split
  · exact Int.floor_intCast n
  · exact Int.ceil_intCast n

/-- Cutting a number down to its whole part commutes with changing the sign. -/
theorem towardZero_neg (x : ℚ) : towardZero (-x) = -towardZero x := by
  rcases lt_trichotomy x 0 with negative | rfl | positive
  · rw [towardZero, if_pos (by linarith), Int.floor_neg, towardZero, if_neg (by linarith)]
  · simp [towardZero]
  · rw [towardZero, if_neg (by linarith), Int.ceil_neg, towardZero, if_pos positive.le]

theorem towardZero_natCast_div (n d : ℕ) : towardZero (n / d) = (n / d : ℕ) := by
  have positive : (0 : ℚ) ≤ n / d := by positivity
  rw [towardZero, if_pos positive, Rat.floor_natCast_div_natCast, Int.natCast_ediv]

/-! ## Numbers of a document -/

/-- The value of a finite binary number. -/
def Binary64.value (x : Binary64) : ℚ := x.signedUnits / unitDenominator

/-- The whole part of a binary number is that of its value. -/
theorem Binary64.trunc_eq_towardZero {x : Binary64} (finite : x.isFinite = true) :
    x.trunc = some (towardZero x.value) := by
  cases x with
  | nan => cases finite
  | infinite => cases finite
  | finite negative rank =>
    have magnitude := towardZero_natCast_div (unitsOfRank rank) unitDenominator
    cases negative with
    | false =>
      have above : value (.finite false rank) = (unitsOfRank rank : ℚ) / unitDenominator := by
        simp [value, signedUnits, Binary64.negative, units]
      rw [above, magnitude]
      rfl
    | true =>
      have below : value (.finite true rank) =
          -((unitsOfRank rank : ℚ) / unitDenominator) := by
        simp [value, signedUnits, Binary64.negative, units, neg_div]
      rw [below, towardZero_neg, magnitude]
      rfl

/-- The number that a JSON value is. Numbers that are not finite are none. -/
def Json.number? : Json → Option ℚ
  | .integer n => some n
  | .float x => if x.isFinite then some x.value else none
  | _ => none

/-- A record has a number as its key. -/
def HasNumericKey (record : Json) (path : String) (x : ℚ) : Prop :=
  ∃ key, resolve record path = .ok key ∧ key.number? = some x

/-! ## Identifiers -/

/-- The identifier of a number: the digits of its whole part. -/
def VertexId.ofNumber (x : ℚ) : VertexId := ⟨toString (towardZero x)⟩

theorem vertexIdOf_of_number {key : Json} {x : ℚ} (number : key.number? = some x)
    (path : String) : vertexIdOf key path = .ok (.ofNumber x) := by
  cases key with
  | integer n =>
    obtain rfl : (n : ℚ) = x := Option.some.inj number
    simp only [vertexIdOf, VertexId.ofNumber, towardZero_intCast]
  | float y =>
    obtain ⟨finite, rfl⟩ : y.isFinite = true ∧ y.value = x := by
      simpa [Json.number?] using number
    simp only [vertexIdOf, y.trunc_eq_towardZero finite, VertexId.ofNumber]
  | _ => cases number

/-- A numeric key always gives an identifier, and it depends on the number alone. -/
theorem vertexIdAt_of_number {record : Json} {path : String} {x : ℚ}
    (h : HasNumericKey record path x) : (vertexIdAt record path).alone = .ok (.ofNumber x) := by
  obtain ⟨key, found, number⟩ := h
  rw [alone_vertexIdAt, found]
  exact congrArg (Except.mapError _) (vertexIdOf_of_number number path)

theorem toString_int_injective : Function.Injective (toString : ℤ → String) := by
  intro m n same
  have read : readInteger? 10 (toString m) = readInteger? 10 (toString n) := by rw [same]
  rw [readInteger?_toString, readInteger?_toString] at read
  exact Option.some.inj read

theorem VertexId.text_injective : Function.Injective VertexId.text := by
  rintro ⟨key⟩ ⟨other⟩ same
  have chars := congrArg String.toList same
  simp only [VertexId.text, String.toList_append, List.append_cancel_left_eq,
    List.append_cancel_right_eq, String.toList_inj] at chars
  rw [chars]

theorem VertexId.text_ofNumber_eq_iff {x y : ℚ} :
    (ofNumber x).text = (ofNumber y).text ↔ towardZero x = towardZero y := by
  rw [VertexId.text_injective.eq_iff, ofNumber, ofNumber, VertexId.mk.injEq,
    toString_int_injective.eq_iff]

/-! ## Vertices with dynamic fields -/

/-- A record makes its vertex known, and no other one. -/
theorem mem_seen_after_upsert? {registry : TransformRegistry} {mapping : VertexMapping}
    {record : Json} {id : VertexId} (key : (vertexIdAt record mapping.key).alone = .ok id)
    (session : Session) (other : VertexId) :
    other ∈ ((upsert? registry mapping record).after session).seen ↔
      other ∈ session.seen ∨ other = id := by
  rw [(hasEffect_upsert? registry mapping record).seen_after]
  simp only [key]
  by_cases known : id ∈ session.seen
  · rw [if_pos known, iff_self_or]
    rintro rfl
    exact known
  · rw [if_neg known, List.mem_append, List.mem_singleton]

/-- A record gives nothing exactly if its vertex is known. -/
theorem upsert?_eq_none_iff {registry : TransformRegistry} {mapping : VertexMapping}
    {record : Json} {id : VertexId} (key : (vertexIdAt record mapping.key).alone = .ok id)
    (session : Session) :
    (upsert? registry mapping record).outcome session = .ok none ↔ id ∈ session.seen := by
  rw [(hasEffect_upsert? registry mapping record).outcome_eq]
  simp only [key]
  by_cases known : id ∈ session.seen
  · simp [known]
  · cases (upsert registry mapping id record).alone <;> simp [known, Except.map]

/-- Keys that are numbers always give identifiers, and the same one exactly if their whole parts are
equal. Whole numbers are told apart, in whatever form they stand. With dynamic fields, a record
whose vertex was not known is passed over behind another one in just these cases. -/
theorem sameVertex_iff_sameWhole {record other : Json} {path otherPath : String} {x y : ℚ}
    (first : HasNumericKey record path x) (second : HasNumericKey other otherPath y) :
    (∀ session, (vertexIdAt record path).outcome session = .ok (.ofNumber x)) ∧
      (∀ session, (vertexIdAt other otherPath).outcome session = .ok (.ofNumber y)) ∧
      ((VertexId.ofNumber x).text = (VertexId.ofNumber y).text ↔
        towardZero x = towardZero y) ∧
      (x.isInt = true → y.isInt = true →
        ((VertexId.ofNumber x).text = (VertexId.ofNumber y).text ↔ x = y)) ∧
      ∀ (registry : TransformRegistry) (mapping : VertexMapping) (session : Session),
        mapping.key = path → mapping.key = otherPath → .ofNumber y ∉ session.seen →
        ((upsert? registry mapping other).outcome
            ((upsert? registry mapping record).after session) = .ok none ↔
          towardZero x = towardZero y) := by
  have key := vertexIdAt_of_number first
  have key' := vertexIdAt_of_number second
  refine ⟨fun session => ?_, fun session => ?_, VertexId.text_ofNumber_eq_iff, ?_, ?_⟩
  · rw [(independent_vertexIdAt record path).outcome_eq, key]
  · rw [(independent_vertexIdAt other otherPath).outcome_eq, key']
  · intro whole whole'
    rw [VertexId.text_ofNumber_eq_iff]
    rw [Rat.isInt, beq_iff_eq] at whole whole'
    rw [← Rat.coe_int_num_of_den_eq_one whole, ← Rat.coe_int_num_of_den_eq_one whole',
      towardZero_intCast, towardZero_intCast, Int.cast_inj]
  · rintro registry mapping session rfl rfl unknown
    rw [upsert?_eq_none_iff key', mem_seen_after_upsert? key, or_iff_right unknown,
      ← VertexId.text_injective.eq_iff, eq_comm, VertexId.text_ofNumber_eq_iff]

/-- A record with a key. -/
def keyedRecord (key : Json) : Json := .object [("id", key)]

theorem resolve_keyedRecord (key : Json) : resolve (keyedRecord key) "id" = .ok key := rfl

/-- One and a half. -/
def oneAndHalf : Binary64 := .finite false ⟨0x3ff8000000000000, by decide⟩

theorem value_oneAndHalf : oneAndHalf.value = 3 / 2 := by
  have units : 2 * oneAndHalf.units = 3 * Binary64.unitDenominator := by decide +kernel
  have positive : (Binary64.unitDenominator : ℚ) ≠ 0 :=
    Nat.cast_ne_zero.mpr Binary64.unitDenominator_pos.ne'
  have signed : oneAndHalf.signedUnits = oneAndHalf.units := rfl
  rw [Binary64.value, signed, div_eq_div_iff positive two_ne_zero]
  exact_mod_cast (mul_comm _ 2).trans units

theorem hasNumericKey_oneAndHalf :
    HasNumericKey (keyedRecord (.float oneAndHalf)) "id" (3 / 2) :=
  ⟨.float oneAndHalf, resolve_keyedRecord _, congrArg some value_oneAndHalf⟩

theorem hasNumericKey_integer (n : ℤ) : HasNumericKey (keyedRecord (.integer n)) "id" n :=
  ⟨.integer n, resolve_keyedRecord _, rfl⟩

theorem towardZero_oneAndHalf : towardZero (1 : ℤ) = towardZero (3 / 2) := by
  rw [towardZero_intCast]
  norm_num [towardZero]

theorem sameVertex_iff_sameWhole_oneAndHalf :
    HasNumericKey (keyedRecord (.integer 1)) "id" (1 : ℤ) ∧
      HasNumericKey (keyedRecord (.float oneAndHalf)) "id" (3 / 2) ∧
      (VertexId.ofNumber (1 : ℤ)).text = (VertexId.ofNumber (3 / 2)).text ∧
      (upsert? .builtin sampleUsers (keyedRecord (.float oneAndHalf))).outcome
        ((upsert? .builtin sampleUsers (keyedRecord (.integer 1))).after {}) = .ok none := by
  obtain ⟨-, -, same, -, dropped⟩ :=
    sameVertex_iff_sameWhole (hasNumericKey_integer 1) hasNumericKey_oneAndHalf
  exact ⟨hasNumericKey_integer 1, hasNumericKey_oneAndHalf, same.mpr towardZero_oneAndHalf,
    (dropped .builtin sampleUsers {} rfl rfl (by simp)).mpr towardZero_oneAndHalf⟩

/-- So different numbers may share a vertex. -/
theorem not_forall_sameVertex_iff_eq :
    ¬ ∀ (record other : Json) (path : String) (x y : ℚ) (id id' : VertexId),
      HasNumericKey record path x → HasNumericKey other path y →
      (vertexIdAt record path).alone = .ok id → (vertexIdAt other path).alone = .ok id' →
      (id.text = id'.text ↔ x = y) := by
  intro apart
  have half := hasNumericKey_oneAndHalf
  have one := hasNumericKey_integer 1
  have equal := (apart _ _ "id" _ _ _ _ one half (vertexIdAt_of_number one)
    (vertexIdAt_of_number half)).mp (VertexId.text_ofNumber_eq_iff.mpr towardZero_oneAndHalf)
  norm_num at equal

end DocGraph
