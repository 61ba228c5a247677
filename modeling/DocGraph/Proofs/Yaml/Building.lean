import DocGraph.Proofs.Outcome
import DocGraph.Proofs.Yaml.Wording
import DocGraph.Yaml.Reader

/-!
# Faults of building values

A tree has no value where something is wrong at a place of it, or where a node in it has a tag for
values of one kind but names none of them. The faults of a collection are those of the nodes in it,
merged mappings included, so that every fault of a scalar leads down to that scalar.

## Main definitions

* `Node.Occurs`: a node stands somewhere in a tree.
* `Node.NamesNone`: a node names no value under its tag.

## Main results

* `occurs_of_mem_mergedPairs`: the pairs of a mapping come from that mapping.
* `exists_namesNone_of_build`: every fault of a scalar in a built value is that of a node.
-/

namespace DocGraph.Yaml

/-- A node is a tree itself, or stands somewhere in it. -/
inductive Node.Occurs : Node → Node → Prop where
  | here (node : Node) : Occurs node node
  | item {inner item : Node} {items : List Node} (tag : Tag) (start : Mark) (mem : item ∈ items)
      (inside : Occurs inner item) : Occurs inner (.sequence tag items start)
  | key {inner key value : Node} {pairs : List (Node × Node)} (tag : Tag) (start : Mark)
      (mem : (key, value) ∈ pairs) (inside : Occurs inner key) :
      Occurs inner (.mapping tag pairs start)
  | value {inner key value : Node} {pairs : List (Node × Node)} (tag : Tag) (start : Mark)
      (mem : (key, value) ∈ pairs) (inside : Occurs inner value) :
      Occurs inner (.mapping tag pairs start)

theorem Node.Occurs.trans {a b c : Node} (inner : a.Occurs b) (outer : b.Occurs c) :
    a.Occurs c := by
  induction outer with
  | here => exact inner
  | item tag start mem _ ih => exact .item tag start mem ih
  | key tag start mem _ ih => exact .key tag start mem ih
  | value tag start mem _ ih => exact .value tag start mem ih

/-- A node names no value under its tag. -/
inductive Node.NamesNone : Node → ScalarFault → Prop where
  /-- Its text is that of no value. -/
  | text {node : Node} {fault : ScalarFault} {depth : Nat} {written : String}
      (reads : scalarText depth node = .ok written)
      (none : scalarValue node.tag written node.start = .error (.scalar fault)) :
      NamesNone node fault
  /-- It is a mapping, which is never a date. -/
  | pairs (pairs : List (Node × Node)) (start : Mark) :
      NamesNone (.mapping .timestamp pairs start) .timestampOfPairs

/-! ## Texts and pairs -/

theorem scalarText_ne_scalar (depth : Nat) (node : Node) (fault : ScalarFault) :
    scalarText depth node ≠ .error (.scalar fault) := by
  fun_induction scalarText depth node <;> simp_all

theorem lineBreaks_shape (node : Node) : lineBreaks node.shape = [] := by
  cases node <;> exact lineBreaks_of_all (all_toList_ofList rfl)

namespace Problem

theorem inOneLine_wrongShape {what : String} (words : lineBreaks what = []) (node : Node) :
    (wrongShape what node.shape).InOneLine := by
  simp [InOneLine, unquoted, words, lineBreaks_shape]

theorem inOneLine_mergeItem (node : Node) : (mergeItem node.shape).InOneLine := by
  simp [InOneLine, unquoted, lineBreaks_shape]

theorem inOneLine_mergeValue (node : Node) : (mergeValue node.shape).InOneLine := by
  simp [InOneLine, unquoted, lineBreaks_shape]

theorem inOneLine_items (count : Nat) :
    (wrongShape "a single mapping item" s!"{count} items").InOneLine := by
  simp (disch := (apply all_toList_ofList; decide)) [InOneLine, unquoted, lineBreaks_of_all]

end Problem

/-- Pairs cannot be merged where something else stands for a mapping. -/
theorem isProblem_of_mergedPairs {depth : Nat} {pairs : List (Node × Node)} {fault : Fault}
    (failed : mergedPairs depth pairs = .error fault) : fault.IsProblem := by
  induction depth generalizing pairs with
  | zero => simp [mergedPairs] at failed
  | succ depth ih =>
    rw [mergedPairs] at failed
    obtain failed | ⟨_, -, ⟨⟩⟩ := bind_eq_error_iff.mp failed
    obtain ⟨⟨key, value⟩, -, failed⟩ := exists_error_of_mapM failed
    cases value with
    | scalar tag text start =>
      obtain rfl := Except.error.inj failed
      exact (Problem.inOneLine_mergeValue (.scalar tag text start)).isProblem start
    | mapping tag inner start => exact ih failed
    | sequence tag items start =>
      obtain failed | ⟨_, -, ⟨⟩⟩ := bind_eq_error_iff.mp failed
      obtain ⟨item, -, failed⟩ := exists_error_of_mapM failed
      cases item with
      | mapping tag inner start => exact ih failed
      | scalar | sequence =>
        obtain rfl := Except.error.inj failed
        exact (Problem.inOneLine_mergeItem _).isProblem _

/-- The key of a pair, perhaps as an ordinary text, and its value stand in a tree. -/
def PairOccurs (pair : Node × Node) (tree : Node) : Prop :=
  (∃ key, key.Occurs tree ∧ (pair.1 = key ∨ pair.1 = plainKey key)) ∧ pair.2.Occurs tree

theorem PairOccurs.trans {pair : Node × Node} {tree outer : Node} (h : PairOccurs pair tree)
    (inside : tree.Occurs outer) : PairOccurs pair outer := by
  obtain ⟨⟨key, occurs, same⟩, value⟩ := h
  exact ⟨⟨key, occurs.trans inside, same⟩, value.trans inside⟩

theorem pairOccurs_of_mem {pairs : List (Node × Node)} {pair : Node × Node} (mem : pair ∈ pairs)
    (tag : Tag) (start : Mark) : PairOccurs pair (.mapping tag pairs start) :=
  ⟨⟨pair.1, .key tag start mem (.here pair.1), .inl rfl⟩, .value tag start mem (.here pair.2)⟩

theorem pairOccurs_of_item {items : List Node} {pair : Node × Node} {inner : Tag} {place : Mark}
    (mem : .mapping inner [pair] place ∈ items) (tag : Tag) (start : Mark) :
    PairOccurs pair (.sequence tag items start) :=
  (pairOccurs_of_mem (List.mem_singleton_self pair) inner place).trans
    (.item tag start mem (.here _))

/-- The pairs of a mapping come from that mapping. -/
theorem occurs_of_mem_mergedPairs {depth : Nat} {pairs merged : List (Node × Node)}
    (h : mergedPairs depth pairs = .ok merged) {pair : Node × Node} (mem : pair ∈ merged)
    (tag : Tag) (start : Mark) : PairOccurs pair (.mapping tag pairs start) := by
  induction depth generalizing pairs merged tag start with
  | zero =>
    cases h
    exact pairOccurs_of_mem mem tag start
  | succ depth ih =>
    rw [mergedPairs] at h
    obtain ⟨lists, merges, ⟨⟩⟩ := bind_eq_ok_iff.mp h
    rcases List.mem_append.mp mem with mem | mem
    · obtain ⟨list, among, mem⟩ := List.mem_flatten.mp mem
      obtain ⟨⟨key, value⟩, own, merge⟩ := exists_of_mem_mapM merges among
      have own := (List.mem_filter.mp own).1
      refine PairOccurs.trans ?_ (.value tag start own (.here value))
      cases value with
      | scalar => cases merge
      | mapping inner start => exact ih merge mem _ _
      | sequence _ items place =>
        obtain ⟨parts, taken, ⟨⟩⟩ := bind_eq_ok_iff.mp merge
        obtain ⟨part, among, mem⟩ := List.mem_flatten.mp mem
        obtain ⟨item, found, merge⟩ := exists_of_mem_mapM taken (List.mem_reverse.mp among)
        refine PairOccurs.trans ?_ (.item _ place found (.here item))
        cases item with
        | mapping => exact ih merge mem _ _
        | scalar | sequence => cases merge
    · obtain ⟨⟨key, value⟩, own, ⟨⟩⟩ := List.mem_map.mp mem
      have own := (List.mem_filter.mp own).1
      exact ⟨⟨key, .key tag start own (.here key), .inr rfl⟩, .value tag start own (.here value)⟩

/-! ## Levels -/

/-- A value has a fault on one of its levels. -/
def Built.HasFault (b : Built) (fault : Fault) : Prop := some fault ∈ b.levels

namespace Built

variable {fault : Fault}

theorem hasFault_of_firstFault {b : Built} (h : b.firstFault? = some fault) : b.HasFault fault := by
  obtain ⟨level, mem, same⟩ := List.exists_of_findSome?_eq_some h
  obtain rfl : level = some fault := same
  exact mem

theorem hasFault_of_outerFault {b : Built} (h : b.outerFault = some fault) : b.HasFault fault := by
  obtain ⟨levels, same⟩ : ∃ levels, b.levels = some fault :: levels := by
    unfold outerFault at h
    rcases list : b.levels with _ | ⟨level, levels⟩ <;> rw [list] at h
    · cases h
    · exact ⟨levels, by rw [show level = some fault from h]⟩
  rw [HasFault, same]
  exact List.mem_cons_self

theorem mem_sideBySide {xs ys : List (Option Fault)} (h : some fault ∈ sideBySide xs ys) :
    some fault ∈ xs ∨ some fault ∈ ys := by
  fun_induction sideBySide xs ys with
  | case1 | case2 => simp_all
  | case3 x xs y ys ih =>
    rcases List.mem_cons.mp h with same | deeper
    · cases x with
      | none => exact .inr (by simp_all)
      | some first => exact .inl (by simp_all)
    · rcases ih deeper with mem | mem
      · exact .inl (List.mem_cons_of_mem x mem)
      · exact .inr (List.mem_cons_of_mem y mem)

theorem mem_deeper {content : List Built} {levels : List (Option Fault)}
    (h : some fault ∈ content.foldl (fun levels b => sideBySide levels (b.levels.drop 1)) levels) :
    some fault ∈ levels ∨ ∃ b ∈ content, b.HasFault fault := by
  induction content generalizing levels with
  | nil => exact .inl h
  | cons b content ih =>
    obtain mem | ⟨other, among, faulty⟩ := ih h
    · rcases mem_sideBySide mem with mem | mem
      · exact .inl mem
      · exact .inr ⟨b, List.mem_cons_self, List.mem_of_mem_drop mem⟩
    · exact .inr ⟨other, List.mem_cons_of_mem b among, faulty⟩

/-- A fault of a collection is one of its content. -/
theorem hasFault_around {value : Value} {contentFault : Option Fault} {content : List Built}
    (h : (around value contentFault content).HasFault fault) :
    contentFault = some fault ∨ ∃ b ∈ content, b.HasFault fault := by
  have mem := (List.mem_cons.mp h).resolve_left nofun
  obtain same | mem := List.mem_cons.mp mem
  · exact .inl same.symm
  · exact .inr ((mem_deeper mem).resolve_left List.not_mem_nil)

end Built

/-! ## Contents of collections -/

variable {fault : Fault} {make : Node → Built}

/-- What a node in a tree becomes has a fault, perhaps as a key. -/
def FaultyWithin (make : Node → Built) (fault : Fault) (tree : Node) : Prop :=
  ∃ node, node.Occurs tree ∧
    ((make node).HasFault fault ∨ (make (plainKey node)).HasFault fault)

theorem PairOccurs.faultyWithin {pair : Node × Node} {tree : Node} (h : PairOccurs pair tree)
    (faulty : (make pair.1).HasFault fault ∨ (make pair.2).HasFault fault) :
    FaultyWithin make fault tree := by
  obtain ⟨⟨key, occurs, same⟩, value⟩ := h
  obtain faulty | faulty := faulty
  · obtain same | same := same <;> rw [same] at faulty
    · exact ⟨key, occurs, .inl faulty⟩
    · exact ⟨key, occurs, .inr faulty⟩
  · exact ⟨pair.2, value, .inl faulty⟩

theorem hasFault_of_orElse {b b' : Built}
    (h : (b.outerFault <|> b'.outerFault) = some fault) : b.HasFault fault ∨ b'.HasFault fault := by
  rw [Option.orElse_eq_orElse, Option.orElse_eq_or, Option.or_eq_some_iff] at h
  exact h.imp Built.hasFault_of_outerFault fun h => Built.hasFault_of_outerFault h.2

theorem exists_of_pairsFault {built : List ((Mark × Built) × Built)}
    (h : pairsFault built = some fault) :
    (∃ entry ∈ built, entry.1.2.HasFault fault ∨ entry.2.HasFault fault) ∨ fault.IsProblem := by
  obtain ⟨entry, mem, found⟩ := List.exists_of_findSome?_eq_some h
  simp only [Option.orElse_eq_orElse, Option.orElse_eq_or, Option.or_eq_some_iff] at found
  obtain key | ⟨-, unusable | ⟨-, value⟩⟩ := found
  · exact .inl ⟨entry, mem, .inl (Built.hasFault_of_outerFault key)⟩
  · split at unusable <;> cases unusable
    exact .inr ⟨.unhashableKey, _, rfl, rfl⟩
  · exact .inl ⟨entry, mem, .inr (Built.hasFault_of_outerFault value)⟩

theorem faultyWithin_of_items {items : List Node} {tag : Tag} {start : Mark}
    (h : (items.map make).findSome? (·.outerFault) = some fault ∨
      ∃ b ∈ items.map make, b.HasFault fault) :
    FaultyWithin make fault (.sequence tag items start) := by
  obtain ⟨b, mem, faulty⟩ : ∃ b ∈ items.map make, b.HasFault fault := by
    obtain found | found := h
    · obtain ⟨b, mem, outer⟩ := List.exists_of_findSome?_eq_some found
      exact ⟨b, mem, Built.hasFault_of_outerFault outer⟩
    · exact found
  obtain ⟨item, among, rfl⟩ := List.mem_map.mp mem
  exact ⟨item, .item tag start among (.here item), .inl faulty⟩

theorem faultyWithin_of_buildEntries {depth : Nat} {node : Node}
    (h : (buildEntries make depth node).2.1 = some fault ∨
      ∃ b ∈ (buildEntries make depth node).2.2, b.HasFault fault) :
    FaultyWithin make fault node ∨ fault.IsProblem := by
  unfold buildEntries at h
  split at h
  next tag pairs start =>
    split at h
    next failed =>
      obtain same | ⟨b, ⟨⟩, -⟩ := h
      obtain rfl := Option.some.inj same
      exact .inr (isProblem_of_mergedPairs failed)
    next merged merge =>
      have within {pair : Node × Node} (mem : pair ∈ merged)
          (faulty : (make pair.1).HasFault fault ∨ (make pair.2).HasFault fault) :
          FaultyWithin make fault (.mapping tag pairs start) :=
        (occurs_of_mem_mergedPairs merge mem tag start).faultyWithin faulty
      obtain found | ⟨b, mem, faulty⟩ := h
      · obtain ⟨entry, mem, faulty⟩ | problem := exists_of_pairsFault found
        · obtain ⟨pair, among, rfl⟩ := List.mem_map.mp mem
          exact .inl (within among faulty)
        · exact .inr problem
      · obtain ⟨entry, mem, among⟩ := List.mem_flatMap.mp mem
        obtain ⟨pair, own, rfl⟩ := List.mem_map.mp mem
        rcases List.mem_pair.mp among with rfl | rfl
        · exact .inl (within own (.inl faulty))
        · exact .inl (within own (.inr faulty))
  next =>
    obtain same | ⟨b, ⟨⟩, -⟩ := h
    obtain rfl := Option.some.inj same
    have asked : lineBreaks "a mapping node" = [] := lineBreaks_of_all (all_toList_ofList rfl)
    exact .inr ((Problem.inOneLine_wrongShape asked node).isProblem node.start)

theorem faultyWithin_of_buildOrdered {node : Node}
    (h : (buildOrdered make node).2.1 = some fault ∨
      ∃ b ∈ (buildOrdered make node).2.2, b.HasFault fault) :
    FaultyWithin make fault node ∨ fault.IsProblem := by
  unfold buildOrdered at h
  split at h
  next tag items start =>
    obtain found | ⟨b, mem, faulty⟩ := h
    · obtain ⟨entry, mem, own⟩ := List.exists_of_findSome?_eq_some found
      obtain ⟨item, among, rfl⟩ := List.mem_map.mp mem
      split at own
      · exact .inl ((pairOccurs_of_item among tag start).faultyWithin (hasFault_of_orElse own))
      · obtain rfl := Option.some.inj own
        exact .inr ((Problem.inOneLine_items _).isProblem _)
      · obtain rfl := Option.some.inj own
        have asked : lineBreaks "a mapping of length 1" = [] :=
          lineBreaks_of_all (all_toList_ofList rfl)
        exact .inr ((Problem.inOneLine_wrongShape asked item).isProblem item.start)
    · obtain ⟨entry, mem, among⟩ := List.mem_flatMap.mp mem
      obtain ⟨level, mem, own⟩ := List.mem_flatMap.mp mem
      obtain ⟨item, found, rfl⟩ := List.mem_map.mp mem
      split at own
      · refine .inl ((pairOccurs_of_item found tag start).faultyWithin ?_)
        obtain rfl := List.mem_singleton.mp own
        rcases List.mem_pair.mp among with rfl | rfl
        · exact .inl faulty
        · exact .inr faulty
      · cases own
      · cases own
  next =>
    obtain same | ⟨b, ⟨⟩, -⟩ := h
    obtain rfl := Option.some.inj same
    have asked : lineBreaks "a sequence" = [] := lineBreaks_of_all (all_toList_ofList rfl)
    exact .inr ((Problem.inOneLine_wrongShape asked node).isProblem node.start)

/-! ## Values -/

theorem plainKey_eq_or (node : Node) : plainKey node = node ∨ (plainKey node).tag = .str := by
  fun_cases plainKey node <;> simp [Node.tag]

theorem scalarOf_of_hasFault {depth : Nat} {node : Node}
    (h : (Built.ofScalar (scalarOf depth node)).HasFault fault) :
    scalarOf depth node = .error fault := by
  unfold Built.ofScalar at h
  split at h
  next => cases List.mem_singleton.mp h
  next failed =>
    obtain rfl := Option.some.inj (List.mem_singleton.mp h)
    exact failed

/-- A fault of a value is one of a node in it, or a problem, or the text of a scalar is at fault. -/
theorem hasFault_build {depth : Nat} {node : Node}
    (h : (build (depth + 1) node).HasFault fault) :
    FaultyWithin (build depth) fault node ∨ fault.IsProblem ∨
      scalarOf (depth + 1) node = .error fault := by
  unfold build at h
  -- the tags in turn: collections, those that name no values, and those of scalars
  split at h
  case h_1 =>
    split at h
    · exact .inl (faultyWithin_of_items (Built.hasFault_around h))
    · obtain same | ⟨b, ⟨⟩, -⟩ := Built.hasFault_around h
      obtain rfl := Option.some.inj same
      have asked : lineBreaks "a sequence node" = [] := lineBreaks_of_all (all_toList_ofList rfl)
      exact .inr (.inl ((Problem.inOneLine_wrongShape asked node).isProblem node.start))
  case h_2 | h_3 =>
    exact (faultyWithin_of_buildEntries (Built.hasFault_around h)).imp_right .inl
  case h_4 | h_5 =>
    exact (faultyWithin_of_buildOrdered (Built.hasFault_around h)).imp_right .inl
  case h_6 | h_7 | h_8 =>
    obtain rfl := Option.some.inj (List.mem_singleton.mp h)
    exact .inr (.inl ⟨.unknownTag _, _, rfl, rfl⟩)
  case h_9 => exact .inr (.inr (scalarOf_of_hasFault h))

section

variable {cause : ScalarFault}

/-- A node that has a tag for scalars becomes a value of that tag, or its text is at fault. -/
theorem namesNone_of_scalarOf {depth : Nat} {node : Node}
    (h : scalarOf depth node = .error (.scalar cause)) : node.NamesNone cause := by
  obtain failed | ⟨written, reads, failed⟩ := bind_eq_error_iff.mp h
  · exact absurd failed (scalarText_ne_scalar depth node cause)
  · split at failed
    next date =>
      cases failed
      obtain rfl : _ = Tag.timestamp := date
      exact .pairs _ _
    next => exact .text reads failed

theorem not_namesNone_of_str {node : Node} (h : node.tag = .str) : ¬node.NamesNone cause := by
  intro none
  cases none with
  | text _ failed =>
    rw [h] at failed
    cases failed
  | pairs => cases h

theorem not_hasFault_of_str {node : Node} (h : node.tag = .str) (depth : Nat) :
    ¬(build depth node).HasFault (.scalar cause) := by
  cases depth with
  | zero => exact List.not_mem_nil
  | succ depth =>
    intro faulty
    have scalar : (Built.ofScalar (scalarOf (depth + 1) node)).HasFault (.scalar cause) := by
      unfold build at faulty
      rwa [h] at faulty
    exact not_namesNone_of_str h (namesNone_of_scalarOf (scalarOf_of_hasFault scalar))

/-- A scalar that is at fault in the value of a tree stands somewhere in the tree. -/
theorem exists_namesNone_of_build {depth : Nat} {node : Node}
    (h : (build depth node).HasFault (.scalar cause)) :
    ∃ inner : Node, inner.Occurs node ∧ inner.NamesNone cause := by
  induction depth generalizing node with
  | zero => cases h
  | succ depth ih =>
    obtain ⟨found, occurs, faulty⟩ | ⟨_, _, ⟨⟩, -⟩ | failed := hasFault_build h
    · have faulty : (build depth found).HasFault (.scalar cause) := by
        obtain faulty | faulty := faulty
        · exact faulty
        · obtain same | plain := plainKey_eq_or found
          · rwa [same] at faulty
          · exact absurd faulty (not_hasFault_of_str plain depth)
      obtain ⟨inner, inside, none⟩ := ih faulty
      exact ⟨inner, inside.trans occurs, none⟩
    · exact ⟨node, .here node, namesNone_of_scalarOf failed⟩

end

end DocGraph.Yaml
