import DocGraph.Proofs.Schema.Merging
import Mathlib.Data.List.Induction

/-!
# Summaries of declarations

Where several declarations of one element are merged one after the other, the outcome can be said
at once. Every column that occurs in one of them occurs once, in the order of the first occurrences,
and what is declared for it is summed up. So it makes no difference how merges are nested, and an
element that is merged with itself stays as it is.

## Main definitions

* `Element.IsProper`: columns have different names and positive lengths.
* `Column.summary?`: what declarations of one column come to.
* `summaries`, `Element.summary`: what lists of columns, and elements, come to.

## Main results

* `summary?_append`: declarations in two parts are summed up part by part.
* `foldl_mergeColumn_eq_summaries`: columns that are merged one after the other.
* `merge_eq_summary`: elements that are merged one after the other, and the laws of merging.
-/

namespace DocGraph

/-- The columns of an element have different names and lengths that are positive, if there are any.
The tags at the ends of an edge are listed once. -/
structure Element.IsProper (element : Element) : Prop where
  distinct : (element.columns.map (·.name)).Nodup
  positive : ∀ column ∈ element.columns, ∀ length ∈ column.fixedLength, 0 < length
  fromOnce : element.fromTags.Nodup
  toOnce : element.toTags.Nodup

/-- What declarations of one column come to: name, type and index are those of the first one. The
column can be null if one of them says so, its default is the last one that is given, and its length
the greatest one. -/
def Column.summary? : List Column → Option Column
  | [] => none
  | first :: rest => some {
      name := first.name
      type := first.type
      indexable := first.indexable
      nullable := (first :: rest).any (·.nullable)
      default := ((first :: rest).filterMap (·.default)).getLast?
      fixedLength := ((first :: rest).filterMap (·.fixedLength)).max? }

/-- The columns of a list, every name once and in the order in which the names first occur. -/
def summaries (columns : List Column) : List Column :=
  (columns.map (·.name)).eraseDups.filterMap fun name =>
    Column.summary? (columns.filter (·.name = name))

/-- What declarations of one element come to. The tags at the ends of an edge are taken together. -/
def Element.summary (first : Element) (rest : List Element) : Element where
  kind := first.kind
  name := first.name
  columns := summaries ((first :: rest).flatMap (·.columns))
  fromTags := match first.kind with
    | .tag => first.fromTags
    | .edge => ((first :: rest).flatMap (·.fromTags)).eraseDups
  toTags := match first.kind with
    | .tag => first.toTags
    | .edge => ((first :: rest).flatMap (·.toTags)).eraseDups

/-! ## Names taken once -/

section

variable {α : Type} [BEq α] [LawfulBEq α]

theorem eraseDups_concat_of_mem {xs : List α} {x : α} (mem : x ∈ xs) :
    (xs ++ [x]).eraseDups = xs.eraseDups := by
  rw [List.eraseDups_append]
  simp [List.removeAll, mem]

theorem eraseDups_concat_of_notMem {xs : List α} {x : α} (fresh : x ∉ xs) :
    (xs ++ [x]).eraseDups = xs.eraseDups ++ [x] := by
  rw [List.eraseDups_append]
  simp [List.removeAll, fresh, List.eraseDups_cons]

theorem eraseDups_of_nodup {xs : List α} (distinct : xs.Nodup) : xs.eraseDups = xs := by
  induction xs using List.reverseRecOn with
  | nil => rfl
  | append_singleton xs x ih =>
    obtain ⟨before, -, apart⟩ := List.nodup_append.mp distinct
    have fresh : x ∉ xs := fun mem => apart x mem x (List.mem_singleton_self x) rfl
    rw [eraseDups_concat_of_notMem fresh, ih before]

theorem nodup_eraseDups (xs : List α) : xs.eraseDups.Nodup := by
  induction xs using List.reverseRecOn with
  | nil => exact List.nodup_nil
  | append_singleton xs x ih =>
    by_cases mem : x ∈ xs
    · rwa [eraseDups_concat_of_mem mem]
    · rw [eraseDups_concat_of_notMem mem]
      exact ih.append (List.nodup_singleton x) (by simpa using mem)

/-- What is taken once already makes no difference in front. -/
theorem eraseDups_eraseDups_append (xs ys : List α) :
    (xs.eraseDups ++ ys).eraseDups = (xs ++ ys).eraseDups := by
  induction ys using List.reverseRecOn with
  | nil => rw [List.append_nil, List.append_nil, eraseDups_of_nodup (nodup_eraseDups xs)]
  | append_singleton ys y ih =>
    rw [← List.append_assoc, ← List.append_assoc]
    by_cases mem : y ∈ xs ++ ys
    · rw [eraseDups_concat_of_mem mem, eraseDups_concat_of_mem (by simpa using mem), ih]
    · rw [eraseDups_concat_of_notMem mem, eraseDups_concat_of_notMem (by simpa using mem), ih]

/-- Nor does it make one behind. -/
theorem eraseDups_append_eraseDups (xs ys : List α) :
    (xs ++ ys.eraseDups).eraseDups = (xs ++ ys).eraseDups := by
  induction ys using List.reverseRecOn with
  | nil => rfl
  | append_singleton ys y ih =>
    by_cases mem : y ∈ ys
    · rw [eraseDups_concat_of_mem mem, ih, ← List.append_assoc,
        eraseDups_concat_of_mem (List.mem_append_right xs mem)]
    · rw [eraseDups_concat_of_notMem mem, ← List.append_assoc, ← List.append_assoc]
      by_cases before : y ∈ xs
      · rw [eraseDups_concat_of_mem (List.mem_append_left _ before), ih,
          eraseDups_concat_of_mem (List.mem_append_left _ before)]
      · rw [eraseDups_concat_of_notMem (by simp [before, mem]), ih,
          eraseDups_concat_of_notMem (by simp [before, mem])]

theorem eraseDups_append_self {xs : List α} (distinct : xs.Nodup) :
    (xs ++ xs).eraseDups = xs := by
  have rest : xs.removeAll xs = [] := by simp [List.removeAll]
  rw [List.eraseDups_append, rest, List.eraseDups_nil, List.append_nil,
    eraseDups_of_nodup distinct]

end

theorem unionNames_assoc (first second third : List String) :
    unionNames (unionNames first second) third = unionNames first (unionNames second third) := by
  rw [unionNames, unionNames, eraseDups_eraseDups_append, List.append_assoc, unionNames, unionNames,
    eraseDups_append_eraseDups]

/-! ## Declarations of one column -/

theorem max?_append (lengths others : List Int) :
    (lengths ++ others).max? = Option.merge max lengths.max? others.max? := by
  cases lengths with
  | nil => exact Option.merge_none_left.symm
  | cons length lengths =>
    cases others with
    | nil => simp
    | cons other others =>
      rw [List.cons_append, List.max?_cons', List.max?_cons', List.max?_cons', List.foldl_append,
        List.foldl_cons, List.foldl_assoc]
      rfl

/-- Where lengths are positive, the greater one is taken. -/
theorem mergeLength_eq_merge {first second : Option Int} (positive : ∀ length ∈ first, 0 < length)
    (positive' : ∀ length ∈ second, 0 < length) :
    mergeLength first second = Option.merge max first second := by
  cases second with
  | none => cases first <;> rfl
  | some other =>
    have more : 0 < other := positive' other rfl
    have counts : countingLength (some other) = some other := by simp [countingLength, more.ne']
    cases first with
    | none => simp [mergeLength, counts, more.le]
    | some length => simp [mergeLength, counts]

/-- All lengths in some columns are positive. -/
def PositiveLengths (columns : List Column) : Prop :=
  ∀ column ∈ columns, ∀ length ∈ column.fixedLength, 0 < length

theorem PositiveLengths.max? {columns : List Column} (h : PositiveLengths columns) :
    ∀ length ∈ (columns.filterMap (·.fixedLength)).max?, 0 < length := by
  intro length greatest
  obtain ⟨column, mem, given⟩ := List.mem_filterMap.mp (List.max?_mem greatest)
  exact h column mem length given

theorem summary?_singleton (column : Column) : Column.summary? [column] = some column := by
  obtain ⟨name, type, nullable, indexable, default, length⟩ := column
  cases default <;> cases length <;> simp [Column.summary?]

/-- Declarations in two parts are summed up part by part. -/
theorem summary?_append {declared others : List Column} (h : PositiveLengths declared)
    (h' : PositiveLengths others) :
    Column.summary? (declared ++ others) =
      mergeNamed (Column.summary? declared) (Column.summary? others) := by
  cases declared with
  | nil => exact (none_mergeNamed _).symm
  | cons first rest =>
    cases others with
    | nil => rw [List.append_nil, Column.summary?, mergeNamed_none]
    | cons other further =>
      have lengths := mergeLength_eq_merge h.max? h'.max?
      rw [← max?_append, ← List.filterMap_append] at lengths
      have defaults : (((first :: rest) ++ other :: further).filterMap (·.default)).getLast? =
          (((other :: further).filterMap (·.default)).getLast?).or
            ((first :: rest).filterMap (·.default)).getLast? := by
        rw [List.filterMap_append, List.getLast?_append]
      have nullable : ((first :: rest) ++ other :: further).any (·.nullable) =
          ((first :: rest).any (·.nullable) || (other :: further).any (·.nullable)) :=
        List.any_append
      rw [List.cons_append] at lengths defaults nullable ⊢
      simp only [Column.summary?, mergeNamed, Column.merge, lengths, defaults, nullable]

/-- It makes no difference which of three declarations are merged first. -/
theorem mergeNamed_assoc {first second third : Option Column}
    (h : PositiveLengths first.toList) (h' : PositiveLengths second.toList)
    (h'' : PositiveLengths third.toList) :
    mergeNamed (mergeNamed first second) third = mergeNamed first (mergeNamed second third) := by
  -- Declarations that may be missing are lists of at most one, and those are summed up.
  have each (declared : Option Column) : Column.summary? declared.toList = declared := by
    cases declared with
    | none => rfl
    | some column => exact summary?_singleton column
  have both : PositiveLengths (first.toList ++ second.toList) := List.forall_mem_append.mpr ⟨h, h'⟩
  have others : PositiveLengths (second.toList ++ third.toList) :=
    List.forall_mem_append.mpr ⟨h', h''⟩
  calc mergeNamed (mergeNamed first second) third
      = Column.summary? ((first.toList ++ second.toList) ++ third.toList) := by
        rw [summary?_append both h'', summary?_append h h', each, each, each]
    _ = Column.summary? (first.toList ++ (second.toList ++ third.toList)) := by
        rw [List.append_assoc]
    _ = mergeNamed first (mergeNamed second third) := by
        rw [summary?_append h others, summary?_append h' h'', each, each, each]

theorem Column.merge_self {column : Column} (positive : ∀ length ∈ column.fixedLength, 0 < length) :
    column.merge column = column := by
  have length : mergeLength column.fixedLength column.fixedLength = column.fixedLength := by
    rw [mergeLength_eq_merge positive positive]
    cases column.fixedLength <;> simp
  have default : column.default.or column.default = column.default := by
    cases column.default <;> rfl
  rw [Column.merge, Bool.or_self, length, default]

/-! ## Columns of several elements -/

theorem names_foldl_mergeColumn {first : List Column} (distinct : (first.map (·.name)).Nodup)
    (second : List Column) :
    (second.foldl mergeColumn first).map (·.name) =
      (first.map (·.name) ++ second.map (·.name)).eraseDups := by
  induction second using List.reverseRecOn with
  | nil => simpa using (eraseDups_of_nodup distinct).symm
  | append_singleton second column ih =>
    rw [List.foldl_concat, names_mergeColumn, ih, List.map_append, List.map_singleton,
      ← List.append_assoc]
    by_cases mem : column.name ∈ first.map (·.name) ++ second.map (·.name)
    · rw [if_pos (List.mem_eraseDups.mpr mem), eraseDups_concat_of_mem mem]
    · rw [if_neg (mt List.mem_eraseDups.mp mem), eraseDups_concat_of_notMem mem]

/-- Columns with different names are listed by what stands under each name. -/
theorem filterMap_columnNamed {columns : List Column} (distinct : (columns.map (·.name)).Nodup) :
    (columns.map (·.name)).filterMap (columnNamed · columns) = columns := by
  have found : ∀ column ∈ columns, columnNamed column.name columns = some column :=
    fun _ mem => columnNamed_of_mem distinct mem
  calc (columns.map (·.name)).filterMap (columnNamed · columns)
      = columns.filterMap fun column => columnNamed column.name columns := List.filterMap_map
    _ = columns.filterMap some := List.filterMap_congr found
    _ = columns := List.filterMap_some

theorem columns_ext {columns others : List Column} (distinct : (columns.map (·.name)).Nodup)
    (names : columns.map (·.name) = others.map (·.name))
    (each : ∀ name, columnNamed name columns = columnNamed name others) : columns = others := by
  calc columns = (columns.map (·.name)).filterMap (columnNamed · columns) :=
        (filterMap_columnNamed distinct).symm
    _ = (others.map (·.name)).filterMap (columnNamed · others) := by
        rw [names]
        exact List.filterMap_congr fun name _ => each name
    _ = others := filterMap_columnNamed (names ▸ distinct)

theorem nodup_names_nil : (([] : List Column).map (·.name)).Nodup := List.nodup_nil

theorem foldl_mergeColumn_nil {columns : List Column} (distinct : (columns.map (·.name)).Nodup) :
    columns.foldl mergeColumn [] = columns := by
  refine columns_ext (nodup_foldl_mergeColumn nodup_names_nil columns) ?_ fun name => ?_
  · rw [names_foldl_mergeColumn nodup_names_nil, List.map_nil, List.nil_append,
      eraseDups_of_nodup distinct]
  · rw [columnNamed_foldl_mergeColumn nodup_names_nil distinct]
    exact none_mergeNamed _

/-- What stands under a name after all columns are merged sums up the columns of this name. -/
theorem columnNamed_foldl_mergeColumn_nil {columns : List Column} (h : PositiveLengths columns)
    (name : String) :
    columnNamed name (columns.foldl mergeColumn []) =
      Column.summary? (columns.filter (·.name = name)) := by
  induction columns using List.reverseRecOn with
  | nil => rfl
  | append_singleton columns column ih =>
    obtain ⟨before, last⟩ := List.forall_mem_append.mp h
    have single : columnNamed name [column] =
        Column.summary? ([column].filter (·.name = name)) := by
      by_cases asked : column.name = name
      · simp [columnNamed, asked, summary?_singleton]
      · simp [columnNamed, asked, Column.summary?]
    have within {columns : List Column} (h : PositiveLengths columns) :
        PositiveLengths (columns.filter (·.name = name)) :=
      fun column mem => h column (List.mem_of_mem_filter mem)
    rw [List.foldl_concat, columnNamed_mergeColumn (nodup_foldl_mergeColumn nodup_names_nil _),
      ih before, single, List.filter_append, summary?_append (within before) (within last)]

/-- Columns that are merged one after the other come to their summaries. -/
theorem foldl_mergeColumn_eq_summaries {columns : List Column} (h : PositiveLengths columns) :
    columns.foldl mergeColumn [] = summaries columns := by
  have names := names_foldl_mergeColumn nodup_names_nil columns
  rw [← filterMap_columnNamed (nodup_foldl_mergeColumn nodup_names_nil columns), names, summaries]
  exact List.filterMap_congr fun name _ => columnNamed_foldl_mergeColumn_nil h name

theorem foldl_mergeColumn_self {columns : List Column}
    (distinct : (columns.map (·.name)).Nodup) (h : PositiveLengths columns) :
    columns.foldl mergeColumn columns = columns := by
  refine columns_ext (nodup_foldl_mergeColumn distinct columns) ?_ fun name => ?_
  · rw [names_foldl_mergeColumn distinct, eraseDups_append_self distinct]
  · rw [columnNamed_foldl_mergeColumn distinct distinct]
    cases found : columnNamed name columns with
    | none => rfl
    | some column =>
      exact congrArg some (Column.merge_self (h column (mem_of_columnNamed found).1))

/-- It makes no difference which columns of three elements are merged first. -/
theorem foldl_mergeColumn_assoc {first second third : List Column}
    (distinct : (first.map (·.name)).Nodup) (distinct' : (second.map (·.name)).Nodup)
    (distinct'' : (third.map (·.name)).Nodup) (h : PositiveLengths first)
    (h' : PositiveLengths second) (h'' : PositiveLengths third) :
    third.foldl mergeColumn (second.foldl mergeColumn first) =
      (third.foldl mergeColumn second).foldl mergeColumn first := by
  have left := nodup_foldl_mergeColumn distinct second
  have right := nodup_foldl_mergeColumn distinct' third
  have named {columns : List Column} (h : PositiveLengths columns) (name : String) :
      PositiveLengths (columnNamed name columns).toList :=
    fun column mem => h column (mem_of_columnNamed (Option.mem_toList.mp mem)).1
  -- Names come in the same order, and under each of them the same is merged.
  refine columns_ext (nodup_foldl_mergeColumn left third) ?_ fun name => ?_
  · rw [names_foldl_mergeColumn left, names_foldl_mergeColumn distinct second,
      names_foldl_mergeColumn distinct, names_foldl_mergeColumn distinct']
    exact unionNames_assoc _ _ _
  · rw [columnNamed_foldl_mergeColumn left distinct'',
      columnNamed_foldl_mergeColumn distinct distinct',
      columnNamed_foldl_mergeColumn distinct right,
      columnNamed_foldl_mergeColumn distinct' distinct'']
    exact mergeNamed_assoc (named h name) (named h' name) (named h'' name)

/-! ## Elements -/

/-- Tags at one end of an edge are taken together. Vertices have none. -/
def unionTags (kind : ElementKind) (first second : List String) : List String :=
  match kind with
  | .tag => first
  | .edge => unionNames first second

/-- What two declarations of one element come to, part by part. -/
def Element.joined (first second : Element) : Element where
  kind := first.kind
  name := first.name
  columns := second.columns.foldl mergeColumn first.columns
  fromTags := unionTags first.kind first.fromTags second.fromTags
  toTags := unionTags first.kind first.toTags second.toTags

/-- Two elements are declared for the same thing: they have one kind and one name. -/
def Element.IsAlike (element other : Element) : Prop :=
  element.kind = other.kind ∧ element.name = other.name

theorem merge_of_isAlike {first second : Element} (h : second.IsAlike first) :
    first.merge second = .ok (first.joined second) := by
  obtain ⟨kind, name⟩ := h
  unfold Element.merge Element.joined
  rw [kind, name]
  cases first.kind <;> simp [unionTags]

theorem merge_of_not_isAlike {first second : Element} (h : ¬ second.IsAlike first) :
    first.merge second = .error (.mismatch first.name second.name) := by
  rw [Element.merge, if_pos]
  by_contra same
  simp only [ne_eq, Bool.or_eq_true, decide_eq_true_eq, not_or, not_not] at same
  exact h ⟨same.2.symm, same.1.symm⟩

theorem Element.IsProper.summary_nil {element : Element} (h : element.IsProper) :
    element.summary [] = element := by
  obtain ⟨distinct, positive, fromOnce, toOnce⟩ := h
  have columns : summaries element.columns = element.columns := by
    rw [← foldl_mergeColumn_eq_summaries positive, foldl_mergeColumn_nil distinct]
  obtain ⟨kind, name, _, fromTags, toTags⟩ := element
  cases kind <;>
    simp [Element.summary, columns, eraseDups_of_nodup fromOnce, eraseDups_of_nodup toOnce]

/-- One more declaration is merged into a summary. -/
theorem merge_summary {first part : Element} {rest : List Element} (alike : part.IsAlike first)
    (positive : PositiveLengths ((first :: rest).flatMap (·.columns)))
    (positive' : PositiveLengths part.columns) :
    (first.summary rest).merge part = .ok (first.summary (rest ++ [part])) := by
  have flat {α : Type} (f : Element → List α) :
      (first :: (rest ++ [part])).flatMap f = (first :: rest).flatMap f ++ f part := by
    simp
  have columns : part.columns.foldl mergeColumn (summaries ((first :: rest).flatMap (·.columns))) =
      summaries ((first :: (rest ++ [part])).flatMap (·.columns)) := by
    rw [flat, ← foldl_mergeColumn_eq_summaries positive, ← List.foldl_append,
      foldl_mergeColumn_eq_summaries (List.forall_mem_append.mpr ⟨positive, positive'⟩)]
  have tags (f : Element → List String) :
      unionNames ((first :: rest).flatMap f).eraseDups (f part) =
        ((first :: (rest ++ [part])).flatMap f).eraseDups := by
    rw [flat, unionNames, eraseDups_eraseDups_append]
  have joined : (first.summary rest).joined part = first.summary (rest ++ [part]) := by
    simp only [Element.joined, Element.summary, columns]
    cases first.kind with
    | tag => rfl
    | edge => simp only [unionTags, tags]
  exact joined ▸ merge_of_isAlike alike

/-- Declarations of one element that are merged one after the other come to their summary. -/
theorem foldlM_merge_eq_summary {first : Element} {rest : List Element}
    (proper : first.IsProper) (positive : ∀ part ∈ rest, PositiveLengths part.columns)
    (alike : ∀ part ∈ rest, part.IsAlike first) :
    rest.foldlM Element.merge first = .ok (first.summary rest) := by
  -- From the end: the last declaration is merged into the summary of those before it.
  induction rest using List.reverseRecOn with
  | nil => exact congrArg Except.ok proper.summary_nil.symm
  | append_singleton rest part ih =>
    obtain ⟨positive, ofPart⟩ := List.forall_mem_append.mp positive
    obtain ⟨alike, same⟩ := List.forall_mem_append.mp alike
    have all : PositiveLengths ((first :: rest).flatMap (·.columns)) := by
      intro column mem
      obtain ⟨element, among, declared⟩ := List.mem_flatMap.mp mem
      exact (List.forall_mem_cons.mpr ⟨proper.positive, positive⟩) element among column declared
    rw [List.foldlM_append, ih positive alike]
    have last : part ∈ [part] := List.mem_singleton_self part
    have merged := merge_summary (same part last) all (ofPart part last)
    simp [bind, Except.bind, merged, pure, Except.pure]

theorem unionTags_assoc (kind : ElementKind) (first second third : List String) :
    unionTags kind (unionTags kind first second) third =
      unionTags kind first (unionTags kind second third) := by
  cases kind with
  | tag => rfl
  | edge => exact unionNames_assoc first second third

theorem unionTags_self (kind : ElementKind) {tags : List String} (once : tags.Nodup) :
    unionTags kind tags tags = tags := by
  cases kind with
  | tag => rfl
  | edge => exact eraseDups_append_self once

namespace Element.IsProper

variable {first second third : Element}

theorem joined_self (h : first.IsProper) : first.joined first = first := by
  rw [Element.joined, foldl_mergeColumn_self h.distinct h.positive, unionTags_self _ h.fromOnce,
    unionTags_self _ h.toOnce]

theorem joined_assoc (h : first.IsProper) (h' : second.IsProper) (h'' : third.IsProper)
    (kind : second.kind = first.kind) :
    (first.joined second).joined third = first.joined (second.joined third) := by
  have columns := foldl_mergeColumn_assoc h.distinct h'.distinct h''.distinct h.positive h'.positive
    h''.positive
  simp only [Element.joined, columns, kind, unionTags_assoc]

end Element.IsProper

/-- Declarations of one element that are merged one after the other come to their summary. So
merging is associative, and an element that is merged with itself stays as it is. Only elements of
different names or kinds cannot be merged. -/
theorem merge_eq_summary :
    (∀ first rest, (∀ part ∈ first :: rest, part.IsProper ∧ part.IsAlike first) →
      rest.foldlM Element.merge first = .ok (first.summary rest)) ∧
    (∀ first second third : Element, first.IsProper → second.IsProper → third.IsProper →
      second.IsAlike first → third.IsAlike first →
      ∃ left right merged, first.merge second = .ok left ∧ second.merge third = .ok right ∧
        left.merge third = .ok merged ∧ first.merge right = .ok merged) ∧
    (∀ element : Element, element.IsProper → element.merge element = .ok element) ∧
    ∀ first second : Element, first.merge second = .error (.mismatch first.name second.name) ↔
      first.name ≠ second.name ∨ first.kind ≠ second.kind := by
  refine ⟨?_, ?_, ?_, ?_⟩
  · intro first rest parts
    obtain ⟨⟨proper, -⟩, further⟩ := List.forall_mem_cons.mp parts
    exact foldlM_merge_eq_summary proper (fun part mem => (further part mem).1.positive)
      fun part mem => (further part mem).2
  · intro first second third h h' h'' alike alike'
    have last : third.IsAlike second := ⟨alike'.1.trans alike.1.symm, alike'.2.trans alike.2.symm⟩
    have outer : (second.joined third).IsAlike first := alike
    exact ⟨_, _, _, merge_of_isAlike alike, merge_of_isAlike last, merge_of_isAlike alike',
      h.joined_assoc h' h'' alike.1 ▸ merge_of_isAlike outer⟩
  · intro element h
    exact (merge_of_isAlike ⟨rfl, rfl⟩).trans (congrArg Except.ok h.joined_self)
  · intro first second
    by_cases alike : second.IsAlike first
    · rw [merge_of_isAlike alike, alike.1, alike.2]
      simp
    · refine iff_of_true (merge_of_not_isAlike alike) ?_
      by_contra same
      obtain ⟨name, kind⟩ := not_or.mp same
      exact alike ⟨(not_not.mp kind).symm, (not_not.mp name).symm⟩

/-- An edge between guests, as it is declared in a place. -/
def knowsEdge (place : String) (columns : List Column) : Element where
  kind := .edge
  name := "knows"
  columns := columns
  fromTags := ["Guest", place]
  toTags := ["Guest"]

/-- The edge as it is declared in a hotel. -/
def hotelKnows : Element := knowsEdge "Hotel" [{ name := "since", type := "DATE" }]

/-- The edge as it is declared in a bar, with a type of its own. -/
def barKnows : Element :=
  knowsEdge "Bar" [
    { name := "note", type := "STRING(9)", indexable := true, fixedLength := some 9 },
    { name := "since", type := "INT64", nullable := true, default := some "0" }]

/-- The edge as it is declared in an inn. -/
def innKnows : Element :=
  knowsEdge "Inn" [
    { name := "since", type := "DATE", default := some "1" },
    { name := "note", type := "STRING(20)", fixedLength := some 20 }]

/-- What the three declarations come to. -/
def knowsSummary : Element where
  kind := .edge
  name := "knows"
  columns := [
    { name := "since", type := "DATE", nullable := true, default := some "1" },
    { name := "note", type := "STRING(9)", indexable := true, fixedLength := some 20 }]
  fromTags := ["Guest", "Hotel", "Bar", "Inn"]
  toTags := ["Guest"]

theorem isProper_knows :
    ∀ part ∈ [hotelKnows, barKnows, innKnows], part.IsProper ∧ part.IsAlike hotelKnows := by
  simp only [List.forall_mem_cons]
  exact ⟨⟨⟨by decide, by decide, by decide, by decide⟩, rfl, rfl⟩,
    ⟨⟨by decide, by decide, by decide, by decide⟩, rfl, rfl⟩,
    ⟨⟨by decide, by decide, by decide, by decide⟩, rfl, rfl⟩, nofun⟩

theorem merge_eq_summary_knows :
    (∀ part ∈ [hotelKnows, barKnows, innKnows], part.IsProper ∧ part.IsAlike hotelKnows) ∧
      [barKnows, innKnows].foldlM Element.merge hotelKnows = .ok knowsSummary ∧
      (∃ right, barKnows.merge innKnows = .ok right ∧
        hotelKnows.merge right = .ok knowsSummary) ∧
      barKnows.merge barKnows = .ok barKnows ∧
      barKnows.merge { barKnows with kind := .tag } = .error (.mismatch "knows" "knows") := by
  obtain ⟨folded, associative, same, refused⟩ := merge_eq_summary
  have parts := isProper_knows
  have summary : hotelKnows.summary [barKnows, innKnows] = knowsSummary := by decide
  have all := summary ▸ folded hotelKnows [barKnows, innKnows] parts
  simp only [List.forall_mem_cons] at parts
  obtain ⟨⟨hotel, -⟩, ⟨bar, barAlike⟩, ⟨inn, innAlike⟩, -⟩ := parts
  obtain ⟨left, right, merged, first, second, ofLeft, ofRight⟩ :=
    associative hotelKnows barKnows innKnows hotel bar inn barAlike innAlike
  have nested : merged = knowsSummary := by
    have whole : [barKnows, innKnows].foldlM Element.merge hotelKnows = .ok merged := by
      simp [bind, Except.bind, first, ofLeft, pure, Except.pure]
    exact Except.ok.inj (whole.symm.trans all)
  exact ⟨isProper_knows, all, ⟨right, second, nested ▸ ofRight⟩, same barKnows bar,
    (refused barKnows _).mpr (.inr (by decide))⟩

end DocGraph
