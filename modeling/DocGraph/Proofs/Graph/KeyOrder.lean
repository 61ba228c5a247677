import DocGraph.Proofs.Graph.Alike
import Mathlib.Data.List.Nodup

/-!
# The order of keys

Objects hold their pairs in an order, and dynamic properties are taken from a record in that
order. All else is looked up by key. Two documents that differ only in the order of keys
therefore have the same batches and the same failures; their upserts write the same vertices
with the same values, and only the dynamic columns may stand in another order.

## Main definitions

* `Json.Reordered`: two values that differ only in the order of keys, at any depth.

## Main results

* `lookup_eq_of_perm`: under distinct keys a value is found in any order.
* `alike_followSegment`, `alike_follow`: a path leads to reordered values, or fails in the same
  way.
* `perm_dynamicOf`: the dynamic properties of a reordered record are the same in another order.
* `keyOrder_is_irrelevant`: statements correspond whatever the order of keys.
-/

namespace DocGraph

open Generation

/-- Two values differ only in the order of keys, at any depth. In objects the values may have
been reordered in their places (`moved`) before the pairs are put in another order. -/
inductive Json.Reordered : Json → Json → Prop
  | null : Reordered .null .null
  | bool (value : Bool) : Reordered (.bool value) (.bool value)
  | integer (value : Int) : Reordered (.integer value) (.integer value)
  | float (value : Binary64) : Reordered (.float value) (.float value)
  | string (value : String) : Reordered (.string value) (.string value)
  | array {items others : List Json} (each : List.Forall₂ Reordered items others) :
      Reordered (.array items) (.array others)
  | object {fields moved others : List (String × Json)}
      (distinct : (fields.map Prod.fst).Nodup)
      (names : fields.map Prod.fst = moved.map Prod.fst)
      (values : List.Forall₂ Reordered (fields.map Prod.snd) (moved.map Prod.snd))
      (order : moved.Perm others) : Reordered (.object fields) (.object others)

/-! ## Pairs in another order -/

theorem lookup_eq_of_perm {κ α : Type} [BEq κ] [LawfulBEq κ] {fields others : List (κ × α)}
    (order : fields.Perm others) (distinct : (fields.map Prod.fst).Nodup) (key : κ) :
    fields.lookup key = others.lookup key := by
  induction order with
  | nil => rfl
  | cons field _ ih =>
    obtain ⟨name, value⟩ := field
    rw [List.lookup_cons, List.lookup_cons, ih (List.nodup_cons.mp distinct).2]
  | swap first second rest =>
    obtain ⟨name, value⟩ := first
    obtain ⟨name', value'⟩ := second
    have apart : name ≠ name' := fun same => (List.nodup_cons.mp distinct).1 (by simp [same])
    simp only [List.lookup_cons]
    by_cases here : key = name
    · have elsewhere : (key == name') = false := by simpa [here] using apart
      simp only [elsewhere]
    · have elsewhere : (key == name) = false := by simpa using here
      simp only [elsewhere]
  | trans first _ ih ih' =>
    rw [ih distinct, ih' ((first.map Prod.fst).nodup_iff.mp distinct)]

section

variable {κ α β : Type} {R : α → β → Prop}

theorem forall₂_pairs {fields : List (κ × α)} {others : List (κ × β)}
    (names : fields.map Prod.fst = others.map Prod.fst)
    (values : List.Forall₂ R (fields.map Prod.snd) (others.map Prod.snd)) :
    List.Forall₂ (fun field other => field.1 = other.1 ∧ R field.2 other.2) fields others := by
  induction fields generalizing others with
  | nil =>
    obtain rfl : others = [] := by simpa using names.symm
    exact .nil
  | cons field rest ih =>
    cases others with
    | nil => exact absurd names (by simp)
    | cons other rest' =>
      obtain ⟨name, names⟩ := List.cons.inj names
      obtain ⟨value, values⟩ := List.forall₂_cons.mp values
      exact .cons ⟨name, value⟩ (ih names values)

theorem rel_lookup [BEq κ] {fields : List (κ × α)} {others : List (κ × β)}
    (h : List.Forall₂ (fun field other => field.1 = other.1 ∧ R field.2 other.2) fields others)
    (key : κ) : Option.Rel R (fields.lookup key) (others.lookup key) := by
  induction h with
  | nil => exact .none
  | @cons field other _ _ first _ ih =>
    rw [List.lookup_cons, List.lookup_cons, ← first.1]
    cases key == field.1 with
    | true => exact .some first.2
    | false => exact ih

theorem rel_getElem? {items : List α} {others : List β} (h : List.Forall₂ R items others)
    (index : Nat) : Option.Rel R items[index]? others[index]? := by
  induction h generalizing index with
  | nil => exact .none
  | cons first _ ih =>
    cases index with
    | zero => exact .some first
    | succ index => exact ih index

end

/-! ## Reordered values -/

namespace Json.Reordered

variable {value other : Json}

theorem sameOutside (h : value.Reordered other) : value.SameOutside other := by
  cases h with
  | array => exact .arrays _ _
  | object => exact .objects _ _
  | null | bool | integer | float | string => exact .refl _

/-- The values under a key of objects in another order are reordered, or there is none in
either. -/
theorem lookup {fields others : List (String × Json)}
    (h : (Json.object fields).Reordered (.object others)) (key : String) :
    Option.Rel Reordered (fields.lookup key) (others.lookup key) := by
  cases h with
  | object distinct names values order =>
    rw [← lookup_eq_of_perm order (names ▸ distinct)]
    exact rel_lookup (forall₂_pairs names values) key

theorem records (h : value.Reordered other) :
    List.Forall₂ Reordered value.records other.records := by
  have alone : List.Forall₂ Reordered [value] [other] := .cons h .nil
  cases h with
  | array each => exact each
  | null | bool | integer | float | string | object => exact alone

theorem alike_followSegment (h : value.Reordered other) (segment : String) :
    Alike Reordered (followSegment value segment) (followSegment other segment) := by
  unfold followSegment
  cases segmentIndex? segment with
  | some index =>
    cases h with
    | @array items others each =>
      cases index with
      | error excess => exact .error _
      | ok position =>
        have found := rel_getElem? each position
        dsimp only
        generalize items[position]? = item, others[position]? = item' at found ⊢
        cases found with
        | none => exact .error _
        | some related => exact .ok related
    | null | bool | integer | float | string | object => exact .error _
  | none =>
    cases h with
    | @object fields moved others distinct names values order =>
      have found := lookup (.object distinct names values order) segment
      dsimp only
      generalize fields.lookup segment = field, others.lookup segment = field' at found ⊢
      cases found with
      | none => exact .error _
      | some related => exact .ok related
    | null | bool | integer | float | string | array => exact .error _

theorem alike_follow (h : value.Reordered other) (segments : List String) :
    Alike Reordered (follow value segments) (follow other segments) := by
  induction segments generalizing value other with
  | nil => exact .ok h
  | cons segment rest ih => exact (h.alike_followSegment segment).bind fun _ _ field => ih field

theorem looksSame (h : value.Reordered other) (path : String) : LooksSame value other path :=
  (h.alike_follow (splitPath path)).mono fun _ _ found => found.sameOutside

/-- A source leads to the same records in the same order, but for the order of their keys. -/
theorem alike_recordsAt (h : value.Reordered other) (source : String) :
    Alike (List.Forall₂ Reordered) (recordsAt value source).alone
      (recordsAt other source).alone := by
  rw [alone_recordsAt, alone_recordsAt]
  exact ((h.alike_follow (splitPath source)).mapError _).map fun _ _ found => found.records

/-- Dynamic properties do not look into arrays and objects. -/
theorem dynamicEntries_eq (settings : DynamicFields) (taken : List String)
    {fields others : List (String × Json)}
    (h : List.Forall₂ (fun field other => field.1 = other.1 ∧ field.2.Reordered other.2) fields
      others) :
    dynamicEntries settings taken fields = dynamicEntries settings taken others := by
  simp only [dynamicEntries]
  induction h with
  | nil => rfl
  | cons first _ ih =>
    simp only [List.filterMap_cons, ih, first.1, first.2.sameOutside.ofJson?_eq]

/-- The dynamic properties of a reordered record are the same in another order. -/
theorem perm_dynamicOf (h : value.Reordered other) (mapping : VertexMapping) :
    (dynamicOf mapping value).Perm (dynamicOf mapping other) := by
  cases h with
  | object _ names values order =>
    rw [dynamicOf, dynamicEntries_eq _ _ (forall₂_pairs names values)]
    exact order.filterMap _
  | null | bool | integer | float | string | array => exact .refl _

variable (registry : TransformRegistry)

theorem vertexSeesAlike (h : value.Reordered other) (v : VertexMapping) :
    v.SeesAlike registry List.Perm value other :=
  .of_looksSame registry (h.looksSame _) (fun property _ => h.looksSame property.path)
    fun _ => h.perm_dynamicOf v

theorem edgeSeesAlike (h : value.Reordered other) (e : EdgeMapping) :
    e.SeesAlike registry value other :=
  .of_looksSame registry (h.looksSame _) (h.looksSame _) fun property _ =>
    h.looksSame property.path

theorem seesAlike (h : value.Reordered other) (mapping : GraphMapping) :
    mapping.SeesAlike registry List.Perm value other where
  vertices := fun v _ => (h.alike_recordsAt v.source).mono fun _ _ each =>
    each.imp fun _ _ record => record.vertexSeesAlike registry v
  edges := fun e _ => (h.alike_recordsAt e.source).mono fun _ _ each =>
    each.imp fun _ _ record => record.edgeSeesAlike registry e

end Json.Reordered

/-- Documents that differ only in the order of keys have the same failure, or statements that
correspond one by one: the same batches, and upserts of the same vertices with the same declared
values, where the dynamic columns and their values may stand in another order. -/
theorem keyOrder_is_irrelevant (registry : TransformRegistry) (mapping : GraphMapping)
    (document other : Json) (h : document.Reordered other) (size : Json) (session : Session) :
    Alike (List.Forall₂ (DataStatement.Corresponds List.Perm mapping))
      ((batchedStatements registry mapping document size).outcome session)
      ((batchedStatements registry mapping other size).outcome session) :=
  (h.seesAlike registry mapping).outcome size session session

/-- Guests with whatever is known of them. -/
def guestsVertex : VertexMapping where
  tag := "Guest"
  source := "guests"
  key := "id"
  dynamicFields := { enabled := true }

def guestFields (address : Json) : List (String × Json) :=
  [("id", .integer 1), ("name", .string "kim"), ("address", address), ("age", .integer 30)]

def guestDocument (guest : List (String × Json)) : Json :=
  .object [("guests", .array [.object guest])]

def guestAddress : List (String × Json) := [("city", .string "Bern"), ("zip", .integer 3000)]

theorem reordered_guestDocument :
    (guestDocument (guestFields (.object guestAddress))).Reordered
      (guestDocument (guestFields (.object guestAddress.reverse)).reverse) := by
  have address : (Json.object guestAddress).Reordered (.object guestAddress.reverse) :=
    .object (by decide) rfl (.cons (.string _) (.cons (.integer _) .nil))
      (List.reverse_perm _).symm
  have guest : (Json.object (guestFields (.object guestAddress))).Reordered
      (.object (guestFields (.object guestAddress.reverse)).reverse) := by
    refine .object (by decide) ?_ ?_ (List.reverse_perm _).symm
    · rfl
    · exact .cons (.integer _) (.cons (.string _) (.cons address (.cons (.integer _) .nil)))
  refine .object (by decide) ?_ ?_ (.refl _)
  · rfl
  · exact .cons (.array (.cons guest .nil)) .nil

theorem keyOrder_is_irrelevant_guests :
    let mapping : GraphMapping := { vertices := [guestsVertex] }
    let document := guestDocument (guestFields (.object guestAddress))
    let other := guestDocument (guestFields (.object guestAddress.reverse)).reverse
    document.Reordered other ∧
      ((batchedStatements .builtin mapping document (.integer 5)).outcome {}).toOption =
        some [.upsertVertex "Guest" ["name", "age"]
          ⟨⟨"1"⟩, [.value (.text "kim"), .value (.integer 30)]⟩] ∧
      ((batchedStatements .builtin mapping other (.integer 5)).outcome {}).toOption =
        some [.upsertVertex "Guest" ["age", "name"]
          ⟨⟨"1"⟩, [.value (.integer 30), .value (.text "kim")]⟩] ∧
      Alike (List.Forall₂ (DataStatement.Corresponds List.Perm mapping))
        ((batchedStatements .builtin mapping document (.integer 5)).outcome {})
        ((batchedStatements .builtin mapping other (.integer 5)).outcome {}) :=
  ⟨reordered_guestDocument, by decide +kernel, by decide +kernel,
    keyOrder_is_irrelevant .builtin _ _ _ reordered_guestDocument (.integer 5) {}⟩

end DocGraph
