import DocGraph.Proofs.Graph.LiteralText
import DocGraph.Proofs.Graph.Record

/-!
# Literals and types

A type calls for literals of one form: truth values, whole numbers, binary numbers, or texts
between quotes. A value that is read as a type has its form, and so has what a built-in transform
gives.

## Main definitions

* `LiteralForm.Shows`: the texts of a form.
* `ValueType.form`, `formOfWritten`: the form that a type calls for, also as it is written.
* `builtinTargets`: the types that the built-in transforms give.

## Main results

* `form_convertTo`, `form_builtin`: values that are read, and values that are transformed.
* `formOfWritten_text`: what is written for a type calls for the form of the type.
-/

namespace DocGraph

/-! ## Texts of literals -/

/-- A text has a form. -/
def LiteralForm.Shows : LiteralForm → String → Prop
  | .null, text => text = "NULL"
  | .truth, text => text = "true" ∨ text = "false"
  | .whole, text => ∃ n : Int, text = toString n
  | .float, text => ∃ x : Binary64, text = x.text
  | .quoted, text => ∃ s : String, text = "\"" ++ s ++ "\""

theorem shows_form (literal : Literal) : literal.form.Shows literal.text := by
  match literal with
  | .null => rfl
  | .value (.bool true) => exact .inl rfl
  | .value (.bool false) => exact .inr rfl
  | .value (.integer n) => exact ⟨n, rfl⟩
  | .value (.float x) => exact ⟨x, rfl⟩
  | .value (.text s) => exact ⟨s, rfl⟩

theorem text_eq_null_iff {literal : Literal} : literal.text = "NULL" ↔ literal = .null :=
  Literal.text_injective.eq_iff (b := .null)

/-! ## Types -/

/-- The form of the literals of a type. -/
def ValueType.form : ValueType → LiteralForm
  | .bool => .truth
  | .int8 | .int16 | .int32 | .int64 => .whole
  | .double => .float
  | _ => .quoted

/-- The form of the literals of a type as it is written in a declaration. -/
def formOfWritten (written : String) : LiteralForm :=
  if written = "BOOL" then .truth
  else if ["INT8", "INT16", "INT32", "INT64"].contains written then .whole
  else if written = "DOUBLE" then .float
  else .quoted

theorem formOfWritten_of_paren {written : String} (h : '(' ∈ written.toList) :
    formOfWritten written = .quoted := by
  have differs {other : String} (bare : '(' ∉ other.toList) : written ≠ other := by
    rintro rfl
    exact bare h
  have bool := @differs "BOOL" (by decide)
  have int8 := @differs "INT8" (by decide)
  have int16 := @differs "INT16" (by decide)
  have int32 := @differs "INT32" (by decide)
  have int64 := @differs "INT64" (by decide)
  have double := @differs "DOUBLE" (by decide)
  simp [formOfWritten, bool, int8, int16, int32, int64, double]

/-- Types with a length are types of texts. -/
theorem formOfWritten_text {type : ValueType} {requested : Option Int} {written : ColumnType}
    (h : ColumnType.ofValueType type requested = .ok written) :
    formOfWritten written.text = type.form := by
  unfold ColumnType.ofValueType at h
  split at h
  next plain =>
    obtain rfl := Except.ok.inj h
    cases type <;> rfl
  next default sized =>
    dsimp only at h
    split at h
    next => cases h
    next =>
      obtain rfl := Except.ok.inj h
      have quoted : type.form = .quoted := by cases type <;> first | rfl | cases sized
      rw [quoted]
      apply formOfWritten_of_paren
      simp [ColumnType.text, toString]

theorem form_of_isInteger {type : ValueType} (h : type.isInteger = true) : type.form = .whole := by
  cases type <;> first | rfl | cases h

theorem form_doubleOfInteger {n : Int} {read : Scalar} (h : doubleOfInteger n = .ok read) :
    (Literal.value read).form = .float := by
  rw [doubleOfInteger] at h
  cases found : Binary64.ofInt? n with
  | none => simp [found] at h
  | some x =>
    obtain rfl : .float x = read := by simpa [found] using h
    rfl

theorem form_readAs {type : ValueType} {scalar read : Scalar} :
    readAs type scalar = some (.ok read) → (Literal.value read).form = type.form := by
  fun_cases readAs type scalar
  -- Whole numbers.
  case case1 n integer | case3 b integer =>
    rintro ⟨⟩
    exact (form_of_isInteger integer).symm
  case case2 x integer =>
    intro h
    obtain ⟨n, -, whole⟩ := Option.map_eq_some_iff.mp h
    cases whole
    exact (form_of_isInteger integer).symm
  -- Binary numbers.
  case case5 n _ =>
    intro h
    exact form_doubleOfInteger (Option.some.inj h)
  case case6 | case7 | case9 =>
    rintro ⟨⟩
    rfl
  -- Texts.
  case case11 s integer bool double =>
    rintro ⟨⟩
    cases type <;> first | rfl | simp [ValueType.isInteger] at integer bool double
  all_goals rintro ⟨⟩

/-- A value that is read as a type has the form of the type. -/
theorem form_convertTo {type : ValueType} {value : Json} {path : String} {scalar : Scalar}
    (h : convertTo type value path = .ok scalar) : (Literal.value scalar).form = type.form := by
  unfold convertTo at h
  split at h
  next => cases h
  next read _ found =>
    subst h
    obtain ⟨single, -, read⟩ := Option.bind_eq_some_iff.mp found
    exact form_readAs read
  next => cases h

/-! ## Transforms -/

/-- The built-in transforms with the types that they give. -/
def builtinTargets : List (TransformFunction × ValueType) :=
  [(timeTransform, .timestamp), (priceTransform, .int64), (tidyTransform, .string),
   (rejoinTransform, .string), (truthTransform, .bool)]

example : builtinTargets.map Prod.fst = builtinTransforms.map Prod.snd := rfl

/-- A built-in transform gives a value of its type, and the value has the form of the type. -/
theorem form_builtin {function : TransformFunction} {target : ValueType}
    (builtin : (function, target) ∈ builtinTargets) {value : Json} {params : Params}
    {result : Transformed} (h : function value params = .ok result) :
    result.target = target ∧ (Literal.value result.value).form = target.form := by
  simp only [builtinTargets, List.mem_cons, List.not_mem_nil, or_false, Prod.mk.injEq] at builtin
  rcases builtin with ⟨rfl, rfl⟩ | ⟨rfl, rfl⟩ | ⟨rfl, rfl⟩ | ⟨rfl, rfl⟩ | ⟨rfl, rfl⟩
  · unfold timeTransform at h
    cases given : params.given? "format" with
    | none => simp [given] at h
    | some pattern =>
      simp only [given, bind_eq_ok_iff] at h
      obtain ⟨text, -, time, -, made⟩ := h
      cases made
      exact ⟨rfl, rfl⟩
  · obtain ⟨text, -, rest⟩ := bind_eq_ok_iff.mp h
    obtain ⟨price, -, made⟩ := bind_eq_ok_iff.mp rest
    cases made
    exact ⟨rfl, rfl⟩
  · obtain ⟨text, -, made⟩ := bind_eq_ok_iff.mp h
    cases made
    exact ⟨rfl, rfl⟩
  · obtain ⟨text, -, made⟩ := bind_eq_ok_iff.mp h
    cases made
    exact ⟨rfl, rfl⟩
  · obtain ⟨text, -, rest⟩ := bind_eq_ok_iff.mp h
    obtain ⟨truth, -, made⟩ := bind_eq_ok_iff.mp rest
    cases made
    exact ⟨rfl, rfl⟩

/-! ## Literals of properties -/

section

variable {registry : TransformRegistry} {property : Property} {type : ValueType} {value : Json}
  {literal : Literal}

/-- A literal is null for null, and is read from any other value or transformed. -/
theorem literalOf_eq_ok (h : literalOf registry property type value = .ok literal) :
    (value = .null ∧ literal = .null) ∨ value ≠ .null ∧ ∃ scalar, literal = .value scalar ∧
      ((property.transform = none ∧ convertTo type value property.path = .ok scalar) ∨
        ∃ transform, property.transform = some transform ∧
          transformed registry transform value property.path = .ok scalar) := by
  unfold literalOf at h
  split at h
  next => exact .inl ⟨rfl, (Except.ok.inj h).symm⟩
  next transform present attached =>
    obtain ⟨scalar, given, rfl⟩ := map_eq_ok_iff.mp h
    exact .inr ⟨present, scalar, rfl, .inr ⟨transform, attached, given⟩⟩
  next present plain =>
    obtain ⟨scalar, given, rfl⟩ := map_eq_ok_iff.mp h
    exact .inr ⟨present, scalar, rfl, .inl ⟨plain, given⟩⟩

theorem text_literalOf_eq_null_iff (h : literalOf registry property type value = .ok literal) :
    literal.text = "NULL" ↔ value = .null := by
  rw [text_eq_null_iff]
  obtain ⟨rfl, rfl⟩ | ⟨present, scalar, rfl, -⟩ := literalOf_eq_ok h
  · simp
  · simp [present]

theorem form_of_plain (h : literalOf registry property type value = .ok literal)
    (present : value ≠ .null) (plain : property.transform = none) :
    literal.form = type.form := by
  obtain ⟨rfl, -⟩ | ⟨-, scalar, rfl, ⟨-, read⟩ | ⟨transform, attached, -⟩⟩ := literalOf_eq_ok h
  · exact absurd rfl present
  · exact form_convertTo read
  · simp [plain] at attached

theorem form_of_builtin (h : literalOf registry property type value = .ok literal)
    (present : value ≠ .null) {transform : PropertyTransform} {name : String}
    {function : TransformFunction} {target : ValueType}
    (attached : property.transform = some transform) (named : transform.registryName? = some name)
    (found : registry.find? name = some function) (builtin : (function, target) ∈ builtinTargets) :
    literal.form = target.form := by
  obtain ⟨rfl, -⟩ | ⟨-, scalar, rfl, ⟨plain, -⟩ | ⟨other, attached', given⟩⟩ := literalOf_eq_ok h
  · exact absurd rfl present
  · simp [plain] at attached
  · obtain rfl : transform = other := Option.some.inj (attached.symm.trans attached')
    obtain ⟨name', function', result, named', found', applied, rfl⟩ := transformed_eq_ok given
    obtain rfl : name = name' := Option.some.inj (named.symm.trans named')
    obtain rfl : function = function' := Option.some.inj (found.symm.trans found')
    exact (form_builtin builtin applied).2

end

end DocGraph
