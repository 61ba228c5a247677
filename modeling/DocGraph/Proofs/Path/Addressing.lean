import DocGraph.Proofs.Json.Keyed
import DocGraph.Proofs.Path.Composition
import DocGraph.Proofs.Path.NormalForm

/-!
# Paths to all parts of a document

Every part of a document has a path. The steps that lead to it, into the value of a key or to an
item of an array, are written one after the other with slashes between them, and as long as the keys
can stand in a path, this path addresses the part and nothing else.

## Main definitions

* `Json.Step`, `Json.Enters`: a step, and what it leads to.
* `Json.Reaches`: what steps lead to one after the other.
* `Json.Step.address`: the path of steps.

## Main results

* `splitPath_address`: a path of steps is split into them.
* `follow_eq_ok_iff_reaches`: its segments lead where the steps lead.
* `resolve_address_iff`: so does the path, with a slash in front or without one.
-/

namespace DocGraph

namespace Json

/-- A step from a value to a part of it. -/
inductive Step where
  /-- Into the value of a key of an object. -/
  | key (name : String)
  /-- To the item of an array with an index. -/
  | index (position : Nat)
  deriving DecidableEq, Repr

/-- A part of a value that one step leads to. -/
inductive Enters : Json → Step → Json → Prop
  | key {fields : List (String × Json)} {name : String} {part : Json}
      (mem : (name, part) ∈ fields) : Enters (.object fields) (.key name) part
  | index {items : List Json} {position : Nat} {part : Json}
      (found : items[position]? = some part) : Enters (.array items) (.index position) part

/-- A part of a value, at any depth, that steps lead to one after the other. -/
inductive Reaches : Json → List Step → Json → Prop
  | here (value : Json) : Reaches value [] value
  | step {value inner part : Json} {step : Step} {steps : List Step}
      (enters : value.Enters step inner) (further : Reaches inner steps part) :
      Reaches value (step :: steps) part

namespace Step

/-- A step as it is written: a key as it is, and an index in brackets. -/
def text : Step → String
  | .key name => name
  | .index position => indexSegment position

/-- The path of steps: they are written with slashes between them. -/
def address (steps : List Step) : String := joinText "/" (steps.map text)

/-- A key can stand in a path if it is not empty and has neither slashes nor opening brackets. An
index can if it has no more digits than numbers are read from; there is no room for an array with
items beyond. -/
def IsPlain : Step → Prop
  | .key name => name ≠ "" ∧ '/' ∉ name.toList ∧ '[' ∉ name.toList
  | .index position => position < 10 ^ maxDigits

end Step

end Json

open Json

/-! ## Segments of steps -/

theorem isBracketSegment_indexSegment (index : Nat) : IsBracketSegment (indexSegment index) :=
  ⟨Decimal.digitsOf index, closing_notMem_digitsOf index, toList_indexSegment index⟩

/-- A key without brackets is one, whatever stands behind it. -/
theorem isKeySegment_of_notMem {name : String} (some : name ≠ "") (noSlash : '/' ∉ name.toList)
    (noBracket : '[' ∉ name.toList) (later : List String) : IsKeySegment name later where
  ne_empty := some
  noSlash := noSlash
  unclosed := by
    -- Without an opening bracket there is nothing that a later one could close.
    refine List.pairwise_of_forall_mem_list ?_
    rintro c mem d - ⟨rfl, -⟩
    exact noBracket mem
  unclosedLater := fun opens => absurd opens noBracket

theorem isNormal_texts {steps : List Step} (plain : ∀ step ∈ steps, step.IsPlain) :
    IsNormal (steps.map Step.text) := by
  induction steps with
  | nil => exact .nil
  | cons step rest ih =>
    obtain ⟨first, further⟩ := List.forall_mem_cons.mp plain
    cases step with
    | key name => exact .key (isKeySegment_of_notMem first.1 first.2.1 first.2.2 _) (ih further)
    | index position => exact .bracket (isBracketSegment_indexSegment position) (ih further)

/-- A path of steps is split into them. -/
theorem splitPath_address {steps : List Step} (plain : ∀ step ∈ steps, step.IsPlain) :
    splitPath (Step.address steps) = steps.map Step.text :=
  splitPath_of_spells (isNormal_texts plain) (spells_joinText _)

/-! ## Following segments -/

/-- Where all keys differ, a value is found under its key. -/
theorem lookup_eq_some_iff_mem {fields : List (String × Json)}
    (distinct : (fields.map Prod.fst).Nodup) {key : String} {value : Json} :
    fields.lookup key = some value ↔ (key, value) ∈ fields := by
  constructor
  · intro found
    obtain ⟨before, after, rfl, -⟩ := List.lookup_eq_some_iff.mp found
    simp
  · intro mem
    obtain ⟨before, after, rfl⟩ := List.append_of_mem mem
    refine List.lookup_eq_some_iff.mpr ⟨before, after, rfl, fun field earlier => ?_⟩
    rw [List.map_append, List.nodup_append] at distinct
    have apart := distinct.2.2 field.1 (List.mem_map_of_mem earlier) key (by simp)
    simpa using apart.symm

/-- Only what starts with a bracket is an index. -/
theorem segmentIndex?_of_notMem {segment : String} (noBracket : '[' ∉ segment.toList) :
    segmentIndex? segment = none := by
  unfold segmentIndex?
  split
  next chars => exact absurd (chars ▸ List.mem_cons_self) noBracket
  next => rfl

/-- A key leads into an object that has it. -/
theorem followSegment_key_iff {value : Json} (keyed : value.IsKeyed) {name : String}
    (noBracket : '[' ∉ name.toList) {part : Json} :
    followSegment value name = .ok part ↔ value.Enters (.key name) part := by
  simp only [followSegment, segmentIndex?_of_notMem noBracket]
  cases value with
  | object fields =>
    have stored (part : Json) : fields.lookup name = some part ↔ (name, part) ∈ fields :=
      lookup_eq_some_iff_mem keyed.fields.1
    constructor
    · intro followed
      cases found : fields.lookup name with
      | none => simp [found] at followed
      | some other =>
        obtain rfl : other = part := by simpa [found] using followed
        exact .key ((stored other).mp found)
    · intro enters
      cases enters with
      | key mem => simp only [(stored part).mpr mem]
  | _ => constructor <;> rintro ⟨⟩

/-- An index leads into an array that is long enough. -/
theorem followSegment_index_iff {value : Json} {position : Nat}
    (readable : position < 10 ^ maxDigits) {part : Json} :
    followSegment value (indexSegment position) = .ok part ↔
      value.Enters (.index position) part := by
  simp only [followSegment, segmentIndex?_indexSegment readable]
  cases value with
  | array items =>
    constructor
    · intro followed
      cases found : items[position]? with
      | none => simp [found] at followed
      | some other =>
        obtain rfl : other = part := by simpa [found] using followed
        exact .index found
    · intro enters
      cases enters with
      | index found => simp only [found]
  | _ => constructor <;> rintro ⟨⟩

theorem followSegment_text_iff {value : Json} (keyed : value.IsKeyed) {step : Step}
    (plain : step.IsPlain) {part : Json} :
    followSegment value step.text = .ok part ↔ value.Enters step part := by
  cases step with
  | key name => exact followSegment_key_iff keyed plain.2.2
  | index position => exact followSegment_index_iff plain

/-- The segments of steps lead where the steps lead. -/
theorem follow_eq_ok_iff_reaches {value : Json} (keyed : value.IsKeyed) {steps : List Step}
    (plain : ∀ step ∈ steps, step.IsPlain) {part : Json} :
    follow value (steps.map Step.text) = .ok part ↔ value.Reaches steps part := by
  -- Each step leads to a value whose keys differ as well, from which the others go on.
  induction steps generalizing value with
  | nil =>
    constructor
    · intro followed
      cases followed
      exact .here _
    · intro reaches
      cases reaches
      rfl
  | cons step rest ih =>
    obtain ⟨first, further⟩ := List.forall_mem_cons.mp plain
    rw [List.map_cons, follow, bind_eq_ok_iff]
    constructor
    · rintro ⟨inner, reached, later⟩
      have enters := (followSegment_text_iff keyed first).mp reached
      exact .step enters ((ih (keyed.followSegment reached) further).mp later)
    · intro reaches
      cases reaches with
      | @step _ inner _ _ _ enters later =>
        have reached := (followSegment_text_iff keyed first).mpr enters
        exact ⟨inner, reached, (ih (keyed.followSegment reached) further).mpr later⟩

/-! ## Addresses -/

/-- What steps lead to in a document is found at their address, with a slash in front or without
one, and nothing else is, as long as the keys can stand in a path. -/
theorem resolve_address_iff {document : Json} (keyed : document.IsKeyed) {steps : List Step}
    (plain : ∀ step ∈ steps, step.IsPlain) (part : Json) :
    (resolve document (Step.address steps) = .ok part ↔ document.Reaches steps part) ∧
      (resolve document ("/" ++ Step.address steps) = .ok part ↔ document.Reaches steps part) := by
  have found : resolve document (Step.address steps) = .ok part ↔ document.Reaches steps part := by
    rw [resolve, splitPath_address plain]
    exact follow_eq_ok_iff_reaches keyed plain
  exact ⟨found, by rwa [resolve_slash]⟩

/-- A document with a key that has a closing bracket, a point and blanks, and one of digits. -/
def oddDocument : Json :=
  .object [("a. ]", .array [.null, .object [("01", .string "x"), ("1", .bool true)]])]

theorem isKeyed_oddDocument : oddDocument.IsKeyed := by
  have digits : (Json.object [("01", .string "x"), ("1", .bool true)]).IsKeyed :=
    .object (by decide) (by simpa using ⟨.string _, .bool _⟩)
  have items : (Json.array [.null, .object [("01", .string "x"), ("1", .bool true)]]).IsKeyed :=
    .array (by simpa using ⟨.null, digits⟩)
  exact .object (by decide) (by simpa using items)

theorem resolve_address_iff_odd :
    oddDocument.IsKeyed ∧
      (∀ step ∈ [Step.key "a. ]", .index 1, .key "01"], step.IsPlain) ∧
      resolve oddDocument "a. ]/[1]/01" = .ok (.string "x") ∧
      resolve oddDocument "/a. ]/[1]/01" = .ok (.string "x") := by
  have plain : ∀ step ∈ [Step.key "a. ]", .index 1, .key "01"], step.IsPlain := by
    simp only [List.forall_mem_cons]
    have readable : 1 < 10 ^ maxDigits := Nat.one_lt_pow (by decide) (by decide)
    exact ⟨⟨by decide, by decide, by decide⟩, readable, ⟨by decide, by decide, by decide⟩, nofun⟩
  have reaches : oddDocument.Reaches [.key "a. ]", .index 1, .key "01"] (.string "x") :=
    .step (.key List.mem_cons_self) <| .step (.index rfl) <| .step (.key List.mem_cons_self) <|
      .here _
  obtain ⟨bare, slash⟩ := resolve_address_iff isKeyed_oddDocument plain (.string "x")
  exact ⟨isKeyed_oddDocument, plain, bare.mpr reaches, slash.mpr reaches⟩

end DocGraph
