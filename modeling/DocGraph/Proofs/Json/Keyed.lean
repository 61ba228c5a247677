import DocGraph.Json.Reader
import DocGraph.Path.Basic
import DocGraph.Proofs.Outcome
import Mathlib.Data.List.Nodup

/-!
# Objects with different keys

An object is a list of pairs, and a list could have one key twice. No value that is read from a text
is of this kind, and neither is what a path leads to in it.

## Main definitions

* `Json.IsKeyed`: a value in which the keys of all objects differ.

## Main results

* `nodup_keys_insertPair`, `nodup_keys_orderedPairs`: keys of dictionaries differ.
* `Json.isKeyed_read`: so do those of all objects in what is read from a text.
* `Json.IsKeyed.resolve`: what a path leads to in such a value is such a value again.
-/

namespace DocGraph

/-! ## Keys of dictionaries -/

section

variable {κ α : Type} [BEq κ] [LawfulBEq κ]

theorem mem_keys_insertPair {fields : List (κ × α)} {key k : κ} {value : α} :
    k ∈ (insertPair fields key value).map Prod.fst ↔ k = key ∨ k ∈ fields.map Prod.fst := by
  induction fields with
  | nil => simp [insertPair]
  | cons field rest ih =>
    obtain ⟨other, stored⟩ := field
    by_cases same : other = key
    · simp [insertPair, same]
    · have apart : (other == key) = false := by simpa using same
      simp only [insertPair, apart, Bool.false_eq_true, if_false, List.map_cons, List.mem_cons, ih]
      exact or_left_comm

omit [LawfulBEq κ] in
theorem mem_insertPair {fields : List (κ × α)} {key : κ} {value : α} {field : κ × α}
    (h : field ∈ insertPair fields key value) : field.2 = value ∨ field ∈ fields := by
  induction fields with
  | nil =>
    rw [insertPair, List.mem_singleton] at h
    exact .inl (congrArg Prod.snd h)
  | cons other rest ih =>
    rw [insertPair] at h
    split at h
    next =>
      rcases List.mem_cons.mp h with rfl | h
      · exact .inl rfl
      · exact .inr (List.mem_cons_of_mem _ h)
    next =>
      rcases List.mem_cons.mp h with rfl | h
      · exact .inr List.mem_cons_self
      · exact (ih h).imp_right (List.mem_cons_of_mem _)

theorem nodup_keys_insertPair {fields : List (κ × α)} (h : (fields.map Prod.fst).Nodup) (key : κ)
    (value : α) : ((insertPair fields key value).map Prod.fst).Nodup := by
  induction fields with
  | nil => simp [insertPair]
  | cons field rest ih =>
    obtain ⟨other, stored⟩ := field
    obtain ⟨fresh, distinct⟩ := List.nodup_cons.mp h
    by_cases same : other = key
    · simpa [insertPair, same] using h
    · have apart : (other == key) = false := by simpa using same
      simp only [insertPair, apart, Bool.false_eq_true, if_false, List.map_cons, List.nodup_cons,
        mem_keys_insertPair, not_or]
      exact ⟨⟨same, fresh⟩, ih distinct⟩

theorem nodup_keys_orderedPairs (pairs : List (κ × α)) :
    ((orderedPairs pairs).map Prod.fst).Nodup := by
  have kept (fields : List (κ × α)) (h : (fields.map Prod.fst).Nodup) :
      ((pairs.foldl (fun fields pair => insertPair fields pair.1 pair.2) fields).map
        Prod.fst).Nodup := by
    induction pairs generalizing fields with
    | nil => exact h
    | cons pair rest ih => exact ih _ (nodup_keys_insertPair h pair.1 pair.2)
  exact kept [] List.nodup_nil

end

namespace Json

/-- The keys of every object in a value are different, at any depth. -/
inductive IsKeyed : Json → Prop
  | null : IsKeyed .null
  | bool (value : Bool) : IsKeyed (.bool value)
  | integer (value : Int) : IsKeyed (.integer value)
  | float (value : Binary64) : IsKeyed (.float value)
  | string (value : String) : IsKeyed (.string value)
  | array {items : List Json} (each : ∀ item ∈ items, IsKeyed item) : IsKeyed (.array items)
  | object {fields : List (String × Json)} (distinct : (fields.map Prod.fst).Nodup)
      (each : ∀ field ∈ fields, IsKeyed field.2) : IsKeyed (.object fields)

/-! ## What a path leads to -/

namespace IsKeyed

variable {value found : Json}

theorem items {items : List Json} (h : (Json.array items).IsKeyed) :
    ∀ item ∈ items, item.IsKeyed := by
  cases h with
  | array each => exact each

theorem fields {fields : List (String × Json)} (h : (Json.object fields).IsKeyed) :
    (fields.map Prod.fst).Nodup ∧ ∀ field ∈ fields, field.2.IsKeyed := by
  cases h with
  | object distinct each => exact ⟨distinct, each⟩

theorem followSegment (keyed : value.IsKeyed) {segment : String}
    (h : DocGraph.followSegment value segment = .ok found) : found.IsKeyed := by
  unfold DocGraph.followSegment at h
  split at h
  next index _ =>
    split at h
    next items =>
      split at h
      next => cases h
      next position =>
        split at h
        next place =>
          cases h
          exact keyed.items found (List.mem_of_getElem? place)
        next => cases h
    next => cases h
  next =>
    split at h
    next fields =>
      split at h
      next under =>
        cases h
        obtain ⟨before, after, rfl, -⟩ := List.lookup_eq_some_iff.mp under
        exact keyed.fields.2 (segment, found) (by simp)
      next => cases h
    next => cases h

theorem follow (keyed : value.IsKeyed) {segments : List String}
    (h : DocGraph.follow value segments = .ok found) : found.IsKeyed := by
  induction segments generalizing value with
  | nil =>
    cases h
    exact keyed
  | cons segment rest ih =>
    obtain ⟨inner, first, further⟩ := bind_eq_ok_iff.mp h
    exact ih (keyed.followSegment first) further

theorem resolve (keyed : value.IsKeyed) {path : String}
    (h : DocGraph.resolve value path = .ok found) : found.IsKeyed :=
  keyed.follow h

end IsKeyed

/-! ## What is read from a text -/

theorem isKeyed_of_mem_words {name : String} {value : Json}
    (h : (name, value) ∈ words ∨ (name, value) ∈ constants) : value.IsKeyed := by
  simp only [words, constants, List.mem_cons, Prod.mk.injEq, List.not_mem_nil, or_false] at h
  rcases h with (⟨-, rfl⟩ | ⟨-, rfl⟩ | ⟨-, rfl⟩) | ⟨-, rfl⟩ | ⟨-, rfl⟩ | ⟨-, rfl⟩
  · exact .null
  · exact .bool _
  · exact .bool _
  · exact .float _
  · exact .float _
  · exact .float _

theorem isKeyed_word? {strict : Bool} {c after : Cursor} {value : Json}
    (h : word? strict c = some (.ok (value, after))) : value.IsKeyed := by
  unfold word? at h
  split at h
  next stands =>
    cases h
    exact isKeyed_of_mem_words (.inl (List.mem_of_find?_eq_some stands))
  next stands =>
    split at h
    next => cases h
    next =>
      cases h
      exact isKeyed_of_mem_words (.inr (List.mem_of_find?_eq_some stands))
  next => cases h

theorem isKeyed_readNumber {strict : Bool} {c after : Cursor} {value : Json}
    (h : readNumber strict c = .ok (value, after)) : value.IsKeyed := by
  revert h
  fun_cases readNumber strict c
  case case1 | case2 => nofun
  case case3 =>
    rintro ⟨⟩
    exact .integer _
  case case4 =>
    rintro ⟨⟩
    exact .float _

theorem isKeyed_insertPair {fields : List (String × Json)} (keyed : (Json.object fields).IsKeyed)
    (name : String) {value : Json} (h : value.IsKeyed) :
    (Json.object (insertPair fields name value)).IsKeyed := by
  refine .object (nodup_keys_insertPair keyed.fields.1 name value) fun field mem => ?_
  rcases mem_insertPair mem with same | among
  · exact same ▸ h
  · exact keyed.fields.2 field among

section

variable {strict : Bool} {fuel : Nat}

/-- What is read with less fuel has different keys. -/
structure ReadsKeyed (strict : Bool) (fuel : Nat) : Prop where
  value : ∀ {c after : Cursor} {value : Json},
    readValue strict fuel c = .ok (value, after) → value.IsKeyed
  fields : ∀ {c after : Cursor} {before fields : List (String × Json)},
    (Json.object before).IsKeyed → readFields strict fuel before c = .ok (fields, after) →
      (Json.object fields).IsKeyed
  items : ∀ {c after : Cursor} {before items : List Json}, (Json.array before).IsKeyed →
    readItems strict fuel before c = .ok (items, after) → (Json.array items).IsKeyed

theorem isKeyed_readValue (less : ReadsKeyed strict fuel) {c after : Cursor} {value : Json}
    (h : readValue strict (fuel + 1) c = .ok (value, after)) : value.IsKeyed := by
  have nothing : (Json.array []).IsKeyed := .array (by simp)
  have none : (Json.object []).IsKeyed := .object List.nodup_nil (by simp)
  rw [readValue] at h
  split at h
  next =>
    obtain ⟨⟨s, c⟩, -, h⟩ := bind_eq_ok_iff.mp h
    cases h
    exact .string s
  next =>
    dsimp only at h
    split at h
    next =>
      cases h
      exact none
    next =>
      obtain ⟨⟨fields, c⟩, read, h⟩ := bind_eq_ok_iff.mp h
      cases h
      exact less.fields none read
  next =>
    dsimp only at h
    split at h
    next =>
      cases h
      exact nothing
    next =>
      obtain ⟨⟨items, c⟩, read, h⟩ := bind_eq_ok_iff.mp h
      cases h
      exact less.items nothing read
  next =>
    split at h
    next outcome word =>
      subst h
      exact isKeyed_word? word
    next => exact isKeyed_readNumber h

theorem isKeyed_readFields (less : ReadsKeyed strict fuel) {c after : Cursor}
    {before fields : List (String × Json)} (keyed : (Json.object before).IsKeyed)
    (h : readFields strict (fuel + 1) before c = .ok (fields, after)) :
    (Json.object fields).IsKeyed := by
  rw [readFields] at h
  split at h
  next =>
    obtain ⟨⟨name, c⟩, -, h⟩ := bind_eq_ok_iff.mp h
    dsimp only at h
    split at h
    next =>
      obtain ⟨⟨value, c⟩, read, h⟩ := bind_eq_ok_iff.mp h
      have more := isKeyed_insertPair keyed name (less.value read)
      dsimp only at h
      split at h
      next =>
        cases h
        exact more
      next => exact less.fields more h
      next => cases h
    next => cases h
  next => cases h

theorem isKeyed_readItems (less : ReadsKeyed strict fuel) {c after : Cursor}
    {before items : List Json} (keyed : (Json.array before).IsKeyed)
    (h : readItems strict (fuel + 1) before c = .ok (items, after)) :
    (Json.array items).IsKeyed := by
  rw [readItems] at h
  obtain ⟨⟨item, c⟩, read, h⟩ := bind_eq_ok_iff.mp h
  have more : (Json.array (item :: before)).IsKeyed :=
    .array (List.forall_mem_cons.mpr ⟨less.value read, keyed.items⟩)
  dsimp only at h
  split at h
  next =>
    cases h
    exact .array fun other mem => more.items other (List.mem_reverse.mp mem)
  next => exact less.items more h
  next => cases h

end

theorem readsKeyed (strict : Bool) (fuel : Nat) : ReadsKeyed strict fuel := by
  induction fuel with
  | zero =>
    constructor
    · intro c after value h
      rw [readValue] at h
      cases h
    · intro c after before fields _ h
      rw [readFields] at h
      cases h
    · intro c after before items _ h
      rw [readItems] at h
      cases h
  | succ fuel less =>
    exact ⟨isKeyed_readValue less, isKeyed_readFields less, isKeyed_readItems less⟩

/-- A key that stands in an object a second time takes the place of the first. -/
theorem isKeyed_read {text : List Char} {value : Json} (h : read text = .ok value) :
    value.IsKeyed := by
  unfold read readText at h
  split at h
  next => cases h
  next =>
    obtain ⟨⟨value, c⟩, found, h⟩ := bind_eq_ok_iff.mp h
    dsimp only at h
    split at h
    next =>
      cases h
      exact (readsKeyed _ _).value found
    next => cases h

end Json

end DocGraph
