import DocGraph.Proofs.Outcome
import DocGraph.Schema.Merge
import Mathlib.Data.List.Nodup
import Mathlib.Order.Lattice
import Mathlib.Algebra.Order.Group.Int

/-!
# Merged declarations

Where no two columns of an element have one name, a merge goes column by column: what stands
under a name in the merged element is what stands under it in the two elements, merged.

## Main definitions

* `columnNamed`: the column of a name.
* `mergeNamed`: what is merged of a column that one element may not have.

## Main results

* `mergeLength_of_pos`, `eq_or_eq_of_mergeLength`: of two lengths the greater one is taken, if it
  is positive.
* `columnNamed_foldl_mergeColumn`: the columns of a merged element, name by name.
* `nodup_foldl_mergeColumn`: they have different names again.
* `merge_eq_ok`: a merge, part by part.
-/

namespace DocGraph

/-! ## Columns by their names -/

/-- The column of a name, if there is one. -/
def columnNamed (name : String) (columns : List Column) : Option Column :=
  columns.find? fun column => decide (column.name = name)

theorem columnNamed_cons (name : String) (column : Column) (columns : List Column) :
    columnNamed name (column :: columns) =
      if column.name = name then some column else columnNamed name columns := by
  by_cases same : column.name = name <;> simp [columnNamed, same]

theorem columnNamed_eq_none_iff {name : String} {columns : List Column} :
    columnNamed name columns = none ↔ name ∉ columns.map (·.name) := by
  simp [columnNamed]

theorem mem_of_columnNamed {name : String} {columns : List Column} {column : Column}
    (h : columnNamed name columns = some column) : column ∈ columns ∧ column.name = name :=
  ⟨List.mem_of_find?_eq_some h, by simpa using List.find?_some h⟩

/-- Where all names differ, a column is found under its name. -/
theorem columnNamed_of_mem {columns : List Column} (distinct : (columns.map (·.name)).Nodup)
    {column : Column} (mem : column ∈ columns) :
    columnNamed column.name columns = some column := by
  cases found : columnNamed column.name columns with
  | none => exact absurd (List.mem_map_of_mem mem) (columnNamed_eq_none_iff.mp found)
  | some other =>
    obtain ⟨among, name⟩ := mem_of_columnNamed found
    rw [List.inj_on_of_nodup_map distinct among mem name]

/-! ## Lengths -/

/-- Where one of two lengths is positive, the greater one is taken. -/
theorem mergeLength_of_pos {first second : Option Int} {length : Int} (positive : 0 < length)
    (h : first = some length ∨ second = some length) :
    ∃ greatest, mergeLength first second = some greatest ∧ length ≤ greatest := by
  rcases h with rfl | rfl
  · cases counts : countingLength second with
    | none => exact ⟨length, by simp [mergeLength, counts], le_rfl⟩
    | some other => exact ⟨max length other, by simp [mergeLength, counts], le_max_left _ _⟩
  · have counts : countingLength (some length) = some length := by
      simp [countingLength, positive.ne']
    exact ⟨max (first.getD 0) length, by simp [mergeLength, counts], le_max_right _ _⟩

theorem eq_or_eq_of_mergeLength {first second : Option Int} {length : Int}
    (positive : 0 < length) (h : mergeLength first second = some length) :
    first = some length ∨ second = some length := by
  cases counts : countingLength second with
  | none => exact .inl (by simpa [mergeLength, counts] using h)
  | some other =>
    have given : second = some other := (Option.filter_eq_some_iff.mp counts).1
    have greatest : max (first.getD 0) other = length := by
      simpa [mergeLength, counts] using h
    rcases max_choice (first.getD 0) other with former | latter
    · cases first with
      | none =>
        rw [former, Option.getD_none] at greatest
        omega
      | some own => exact .inl (by rw [← greatest, former, Option.getD_some])
    · exact .inr (by rw [given, ← greatest, latter])

/-! ## One column -/

/-- What two elements have under one name, merged. -/
def mergeNamed : Option Column → Option Column → Option Column
  | some first, some second => some (first.merge second)
  | first, none => first
  | none, second => second

@[simp] theorem mergeNamed_none (first : Option Column) : mergeNamed first none = first := by
  cases first <;> rfl

@[simp] theorem none_mergeNamed (second : Option Column) : mergeNamed none second = second := by
  cases second <;> rfl

theorem name_merge (first second : Column) : (first.merge second).name = first.name := rfl

/-- The last column of its name takes up a column. -/
theorem mergeColumn_cons_of_last {c column : Column} {rest : List Column}
    (same : c.name = column.name) (last : column.name ∉ rest.map (·.name)) :
    mergeColumn (c :: rest) column = c.merge column :: rest := by
  have none : rest.any (fun other => decide (other.name = column.name)) = false := by
    simpa using last
  simp only [mergeColumn, same, none, decide_true, Bool.not_false, Bool.and_self, if_true]

theorem mergeColumn_cons_of_later {c column : Column} {rest : List Column}
    (later : c.name ≠ column.name ∨ column.name ∈ rest.map (·.name)) :
    mergeColumn (c :: rest) column = c :: mergeColumn rest column := by
  rw [mergeColumn, if_neg]
  simpa [Classical.or_iff_not_imp_left] using later

/-- A column is merged into one of its name, or added behind all. -/
theorem names_mergeColumn (columns : List Column) (column : Column) :
    (mergeColumn columns column).map (·.name) =
      if column.name ∈ columns.map (·.name) then columns.map (·.name)
      else columns.map (·.name) ++ [column.name] := by
  induction columns with
  | nil => simp [mergeColumn]
  | cons c rest ih =>
    by_cases later : column.name ∈ rest.map (·.name)
    · rw [mergeColumn_cons_of_later (.inr later), List.map_cons, ih, if_pos later, List.map_cons,
        if_pos (List.mem_cons_of_mem _ later)]
    · by_cases same : c.name = column.name
      · rw [mergeColumn_cons_of_last same later, List.map_cons, List.map_cons, name_merge,
          if_pos (same ▸ List.mem_cons_self)]
      · have fresh : column.name ∉ (c :: rest).map (·.name) :=
          List.not_mem_cons_of_ne_of_not_mem (Ne.symm same) later
        rw [mergeColumn_cons_of_later (.inl same), List.map_cons, ih, if_neg later, if_neg fresh,
          List.map_cons, List.cons_append]

theorem nodup_mergeColumn {columns : List Column} (distinct : (columns.map (·.name)).Nodup)
    (column : Column) : ((mergeColumn columns column).map (·.name)).Nodup := by
  rw [names_mergeColumn]
  split
  next => exact distinct
  next fresh => exact distinct.append (List.nodup_singleton _) (by simpa using fresh)

theorem columnNamed_mergeColumn {columns : List Column}
    (distinct : (columns.map (·.name)).Nodup) (column : Column) (name : String) :
    columnNamed name (mergeColumn columns column) =
      mergeNamed (columnNamed name columns) (columnNamed name [column]) := by
  induction columns with
  | nil => simp [mergeColumn, columnNamed]
  | cons c rest ih =>
    obtain ⟨fresh, distinct⟩ := List.nodup_cons.mp distinct
    by_cases same : c.name = column.name
    · rw [mergeColumn_cons_of_last same (same ▸ fresh), columnNamed_cons, columnNamed_cons,
        columnNamed_cons, name_merge, same]
      by_cases asked : column.name = name
      · rw [if_pos asked, if_pos asked, if_pos asked]
        rfl
      · rw [if_neg asked, if_neg asked, if_neg asked]
        exact (mergeNamed_none _).symm
    · rw [mergeColumn_cons_of_later (.inl same), columnNamed_cons, columnNamed_cons, ih distinct]
      by_cases asked : c.name = name
      · have apart : column.name ≠ name := fun h => same (asked.trans h.symm)
        rw [if_pos asked, if_pos asked, columnNamed_cons, if_neg apart]
        exact (mergeNamed_none _).symm
      · rw [if_neg asked, if_neg asked]

/-! ## All columns of an element -/

theorem nodup_foldl_mergeColumn {first : List Column} (distinct : (first.map (·.name)).Nodup)
    (second : List Column) : ((second.foldl mergeColumn first).map (·.name)).Nodup := by
  induction second generalizing first with
  | nil => exact distinct
  | cons column rest ih => exact ih (nodup_mergeColumn distinct column)

/-- The columns of two elements are merged name by name. -/
theorem columnNamed_foldl_mergeColumn {first second : List Column}
    (distinct : (first.map (·.name)).Nodup) (distinct' : (second.map (·.name)).Nodup)
    (name : String) :
    columnNamed name (second.foldl mergeColumn first) =
      mergeNamed (columnNamed name first) (columnNamed name second) := by
  induction second generalizing first with
  | nil => simp [columnNamed]
  | cons column rest ih =>
    obtain ⟨fresh, distinct'⟩ := List.nodup_cons.mp distinct'
    rw [List.foldl_cons, ih (nodup_mergeColumn distinct column) distinct',
      columnNamed_mergeColumn distinct, columnNamed_cons, columnNamed_cons]
    by_cases asked : column.name = name
    · have absent : columnNamed name rest = none := columnNamed_eq_none_iff.mpr (asked ▸ fresh)
      simp [asked, absent]
    · simp [asked, columnNamed]

/-- Only declarations of one element are merged. -/
theorem merge_eq_ok {first second merged : Element} (h : first.merge second = .ok merged) :
    first.name = second.name ∧ first.kind = second.kind ∧ merged.name = first.name ∧
      merged.kind = first.kind ∧ merged.columns = second.columns.foldl mergeColumn first.columns := by
  unfold Element.merge at h
  split at h
  next => cases h
  next alike =>
    simp only [ne_eq, Bool.or_eq_true, decide_eq_true_eq, not_or, not_not] at alike
    dsimp only at h
    split at h <;> cases h <;> exact ⟨alike.1, alike.2, rfl, rfl, rfl⟩

end DocGraph
