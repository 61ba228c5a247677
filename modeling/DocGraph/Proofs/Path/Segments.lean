import DocGraph.Mapping.Build
import DocGraph.Path.Basic
import Mathlib.Data.List.Basic

/-!
# How a path comes apart

A path is split from left to right. What stands at its head decides what is done: a slash ends the
key under way, a bracket that is closed later ends it too and makes a segment of its own up to the
first closing one, and everything else goes on with the key. Here this is said once for each kind of
head, together with the induction that goes along them.

## Main definitions

* `bracketed`: what stands in brackets, with the brackets.
* `ClosesAll`: every bracket that opens is followed by one that closes.

## Main results

* `pathInduction`: induction along the heads of a path.
* `segmentsFrom_append_slash`: a slash separates if all brackets before it are closed before it.
* `closesAll_of_bracketsBalanced`: this is so for balanced brackets.
-/

namespace DocGraph

/-- Characters in brackets. -/
def bracketed (inside : List Char) : List Char := '[' :: (inside ++ [']'])

theorem throughBracket?_of_first {inside : List Char} (first : ']' ∉ inside) (rest : List Char) :
    throughBracket? (inside ++ ']' :: rest) = some (inside ++ [']'], rest) := by
  induction inside with
  | nil => rfl
  | cons c inside ih =>
    obtain ⟨other, further⟩ := List.ne_and_not_mem_of_not_mem_cons first
    simp only [List.cons_append, throughBracket?, other.symm, if_false, ih further,
      Option.map_some]

theorem throughBracket?_of_never {rest : List Char} (never : ']' ∉ rest) :
    throughBracket? rest = none := by
  induction rest with
  | nil => rfl
  | cons c rest ih =>
    obtain ⟨other, further⟩ := List.ne_and_not_mem_of_not_mem_cons never
    simp only [throughBracket?, other.symm, if_false, ih further, Option.map_none]

/-! ## The heads of a path -/

theorem addKey_append (key : List Char) (segments others : List (List Char)) :
    addKey key (segments ++ others) = addKey key segments ++ others := by
  unfold addKey
  split <;> rfl

section

variable (key : List Char)

/-- The characters of a segment that is there already are passed over. -/
theorem segmentsFrom_skip (skip : Nat) (path : List Char) :
    segmentsFrom skip key path = segmentsFrom 0 key (path.drop skip) := by
  induction skip generalizing path with
  | zero => rfl
  | succ skip ih =>
    cases path with
    | nil => rfl
    | cons c rest => exact ih rest

theorem segmentsFrom_slash (rest : List Char) :
    segmentsFrom 0 key ('/' :: rest) = addKey key (segmentsFrom 0 [] rest) := by
  simp [segmentsFrom]

/-- A bracket that is closed makes a segment up to the first closing one. -/
theorem segmentsFrom_bracketed {inside : List Char} (first : ']' ∉ inside) (rest : List Char) :
    segmentsFrom 0 key (bracketed inside ++ rest) =
      addKey key (bracketed inside :: segmentsFrom 0 [] rest) := by
  have path : bracketed inside ++ rest = '[' :: (inside ++ ']' :: rest) := by simp [bracketed]
  have passed : (inside ++ ']' :: rest).drop (inside ++ [']']).length = rest := by
    rw [List.append_cons inside ']' rest, List.drop_left]
  have skipped := segmentsFrom_skip [] (inside ++ [']']).length (inside ++ ']' :: rest)
  rw [passed] at skipped
  simp only [path, segmentsFrom, throughBracket?_of_first first, skipped]
  rfl

/-- A bracket that is never closed belongs to the key. -/
theorem segmentsFrom_unclosed {rest : List Char} (never : ']' ∉ rest) :
    segmentsFrom 0 key ('[' :: rest) = segmentsFrom 0 ('[' :: key) rest := by
  simp [segmentsFrom, throughBracket?_of_never never]

theorem segmentsFrom_plain {c : Char} (noSlash : c ≠ '/') (noBracket : c ≠ '[')
    (rest : List Char) : segmentsFrom 0 key (c :: rest) = segmentsFrom 0 (c :: key) rest := by
  simp [segmentsFrom, noSlash, noBracket]

end

/-- A slash in front makes no difference. -/
theorem splitPath_slash (path : String) : splitPath ("/" ++ path) = splitPath path := by
  have chars : ("/" ++ path).toList = '/' :: path.toList := by simp
  rw [splitPath, chars, segmentsFrom_slash]
  rfl

/-- Induction along the heads of a path. -/
@[elab_as_elim]
theorem pathInduction {motive : List Char → Prop} (nil : motive [])
    (slash : ∀ rest, motive rest → motive ('/' :: rest))
    (bracket : ∀ inside rest, ']' ∉ inside → motive rest → motive (bracketed inside ++ rest))
    (unclosed : ∀ rest, ']' ∉ rest → motive rest → motive ('[' :: rest))
    (plain : ∀ c rest, c ≠ '/' → c ≠ '[' → motive rest → motive (c :: rest))
    (path : List Char) : motive path := by
  -- A segment in brackets is passed at once, so the induction is on the length.
  induction length : path.length using Nat.strongRecOn generalizing path with
  | ind n ih =>
    cases path with
    | nil => exact nil
    | cons c rest =>
      have further (later : List Char) (shorter : later.length ≤ rest.length) : motive later :=
        ih later.length (by simp only [List.length_cons] at length; omega) later rfl
      by_cases isSlash : c = '/'
      · exact isSlash ▸ slash rest (further rest (Nat.le_refl _))
      by_cases isBracket : c = '['
      · subst isBracket
        by_cases closed : ']' ∈ rest
        · obtain ⟨inside, later, rfl, first⟩ := List.eq_append_cons_of_mem closed
          have path : '[' :: (inside ++ ']' :: later) = bracketed inside ++ later := by
            simp [bracketed]
          exact path ▸ bracket inside later first (further later (by simp; omega))
        · exact unclosed rest closed (further rest (Nat.le_refl _))
      · exact plain c rest isSlash isBracket (further rest (Nat.le_refl _))

/-! ## Closed brackets -/

/-- Every bracket that opens is followed by one that closes. -/
def ClosesAll (path : List Char) : Prop := ∀ rest, '[' :: rest <:+ path → ']' ∈ rest

theorem ClosesAll.suffix {path later : List Char} (h : ClosesAll path) (suffix : later <:+ path) :
    ClosesAll later :=
  fun rest opens => h rest (opens.trans suffix)

/-- A slash separates the segments of what stands before it from those of what stands behind it, as
long as no bracket that opens before it is closed behind it only. -/
theorem segmentsFrom_append_slash {path : List Char} (closed : ClosesAll path) (key : List Char)
    (later : List Char) : segmentsFrom 0 key (path ++ '/' :: later) =
      segmentsFrom 0 key path ++ segmentsFrom 0 [] later := by
  induction path using pathInduction generalizing key with
  | nil => exact (segmentsFrom_slash key later).trans (addKey_append key [] _)
  | slash rest ih =>
    have after := ih (closed.suffix (List.suffix_cons _ _)) []
    rw [List.cons_append, segmentsFrom_slash, segmentsFrom_slash, after, addKey_append]
  | bracket inside rest first ih =>
    have after := ih (closed.suffix (List.suffix_append _ _)) []
    rw [List.append_assoc, segmentsFrom_bracketed key first, segmentsFrom_bracketed key first,
      after, ← List.cons_append, addKey_append]
  | unclosed rest never ih => exact absurd (closed rest List.suffix_rfl) never
  | plain c rest noSlash noBracket ih =>
    have after := ih (closed.suffix (List.suffix_cons _ _)) (c :: key)
    rw [List.cons_append, segmentsFrom_plain key noSlash noBracket,
      segmentsFrom_plain key noSlash noBracket, after]

theorem ClosesAll.cons {c : Char} {rest : List Char} (further : ClosesAll rest)
    (closed : c = '[' → ']' ∈ rest) : ClosesAll (c :: rest) := by
  intro later suffix
  rcases List.suffix_cons_iff.mp suffix with same | within
  · obtain ⟨rfl, rfl⟩ := List.cons.inj same
    exact closed rfl
  · exact further later within

/-- Where brackets close what is open and nothing else, each one that opens is closed. If some are
open at the start, one of those that close is for them. -/
theorem closesAll_of_closesBrackets {depth : Nat} {path : List Char}
    (h : closesBrackets depth path = true) : ClosesAll path ∧ (0 < depth → ']' ∈ path) := by
  induction path generalizing depth with
  | nil =>
    have none : depth = 0 := by simpa [closesBrackets] using h
    exact ⟨fun rest suffix => by simp at suffix, fun some => by omega⟩
  | cons c rest ih =>
    unfold closesBrackets at h
    split at h
    next =>
      obtain ⟨further, closed⟩ := ih h
      have later : ']' ∈ rest := closed (Nat.succ_pos depth)
      exact ⟨further.cons fun _ => later, fun _ => List.mem_cons_of_mem _ later⟩
    next other =>
      split at h
      next isClosing =>
        cases depth with
        | zero => cases h
        | succ depth =>
          have further : ClosesAll rest := (ih h).1
          exact ⟨further.cons fun opens => absurd opens other, fun _ => by simp [isClosing]⟩
      next =>
        obtain ⟨further, closed⟩ := ih h
        exact ⟨further.cons fun opens => absurd opens other,
          fun some => List.mem_cons_of_mem _ (closed some)⟩

theorem closesAll_of_bracketsBalanced {path : String} (h : bracketsBalanced path = true) :
    ClosesAll path.toList :=
  (closesAll_of_closesBrackets h).1

end DocGraph
