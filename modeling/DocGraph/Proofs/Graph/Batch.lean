import DocGraph.Graph.Statement
import Mathlib.Algebra.Order.Floor.Div

/-!
# Batches

Rows are gathered into a batch under way, which is given out as soon as it is complete and once
more when the rows have ended. The batches given out are the rows cut into consecutive blocks,
all of them complete but perhaps the last one, and never an empty one.

## Main definitions

* `IsCut`: a list cut into consecutive blocks of a size.
-/

namespace DocGraph

variable {α : Type}

/-- Blocks are rows cut into consecutive pieces of a size. Only the last piece may be smaller,
and it is not empty. -/
structure IsCut (size : Nat) (rows : List α) (blocks : List (List α)) : Prop where
  flatten_eq : blocks.flatten = rows
  length_eq : blocks.length = rows.length ⌈/⌉ size
  full : ∀ block ∈ blocks.dropLast, block.length = size
  last : ∀ block ∈ blocks.getLast?, 1 ≤ block.length ∧ block.length ≤ size

namespace IsCut

/-- No rows are cut into no blocks. -/
theorem nil (size : Nat) : IsCut size ([] : List α) [] where
  flatten_eq := rfl
  length_eq := by simp
  full := by simp
  last := by simp

/-- Rows that fit into one block are one block. -/
theorem single {size : Nat} {rows : List α} (pos : 1 ≤ rows.length) (fits : rows.length ≤ size) :
    IsCut size rows [rows] where
  flatten_eq := by simp
  length_eq := by
    have split : rows.length + size - 1 = rows.length - 1 + size := by omega
    rw [Nat.ceilDiv_eq_add_pred_div, split, Nat.add_div_right _ (by omega),
      Nat.div_eq_of_lt (by omega)]
    rfl
  full := by simp
  last := by simp [pos, fits]

/-- A complete block may be put in front. -/
theorem cons {size : Nat} {block rows : List α} {blocks : List (List α)} (pos : 0 < size)
    (complete : block.length = size) (h : IsCut size rows blocks) :
    IsCut size (block ++ rows) (block :: blocks) where
  flatten_eq := by simp [h.flatten_eq]
  length_eq := by
    have shifted : size + rows.length + size - 1 = rows.length + size - 1 + size := by omega
    rw [List.length_cons, h.length_eq, List.length_append, complete, Nat.ceilDiv_eq_add_pred_div,
      Nat.ceilDiv_eq_add_pred_div, shifted, Nat.add_div_right _ pos]
  full := by
    cases blocks with
    | nil => simp
    | cons next rest => simpa [complete] using h.full
  last := by
    cases blocks with
    | nil =>
      intro only h
      obtain rfl : block = only := by simpa using h
      exact ⟨by omega, complete.le⟩
    | cons next rest => simpa using h.last

end IsCut

/-- The batches of the rows to come, behind a batch under way that is not complete. -/
theorem batchesFrom_isCut {size : Nat} (pos : 0 < size) (rows batch : List α)
    (incomplete : batch.length < size) :
    IsCut size (batch.reverse ++ rows) (batchesFrom size batch rows) := by
  induction rows generalizing batch with
  | nil =>
    cases batch with
    | nil => exact .nil size
    | cons row batch =>
      have one : IsCut size (row :: batch).reverse [(row :: batch).reverse] :=
        .single (by simp) (by simpa using incomplete.le)
      simpa [batchesFrom] using one
  | cons row rest ih =>
    have moved : batch.reverse ++ row :: rest = (row :: batch).reverse ++ rest := by simp
    rw [batchesFrom, moved]
    split
    next complete =>
      -- The row completes the batch, and the next one starts empty.
      refine .cons pos ?_ (ih [] pos)
      rw [List.length_reverse, List.length_cons]
      omega
    next => exact ih (row :: batch) (by rw [List.length_cons]; omega)

/-- Batches of a positive size are the rows cut into blocks of this size. -/
theorem batches_isCut {size : Nat} (pos : 0 < size) (rows : List α) :
    IsCut size rows (batches size rows) :=
  batchesFrom_isCut pos rows [] pos

end DocGraph
