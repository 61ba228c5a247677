import DocGraph.Proofs.Graph.Step
import Mathlib.Data.Finset.Card
import Mathlib.Data.List.DropRight

/-!
# Remembered paths make no difference

A cache of paths can be asked for the segments of a path, for what a path leads to in a document,
and to forget everything. Whatever it was asked before, and whether those paths led anywhere, it
answers as an empty cache does. What it remembers are the paths that were looked up since it forgot
everything, each of them once, as it was written, with the segments that splitting it gives.

## Main definitions

* `PathCache.learn`: the cache after a path is looked up.
* `PathQuery`, `PathQuery.answers`: what a cache can be asked, and its answers one after the other.
* `PathQuery.lookedUp`: the paths that are looked up behind the last query to forget.
* `PathCache.Remembers`: a cache that remembers given paths and no others.

## Main results

* `PathQuery.run_answer`: a query is answered without regard to the cache.
* `answers_transparent`: this for queries one after the other, and what is remembered after them.
-/

namespace DocGraph

namespace PathCache

variable {cache : PathCache} {path : String} {used : List String}

/-- The cache after a path is looked up. -/
def learn (cache : PathCache) (path : String) : PathCache :=
  if path ∈ cache.paths then cache else cache.remember path

theorem lookup_entries (cache : PathCache) (path : String) :
    cache.entries.lookup path = if path ∈ cache.paths then some (splitPath path) else none := by
  cases found : cache.entries.lookup path with
  | none =>
    have missing : path ∉ cache.paths := by
      intro mem
      obtain ⟨entry, among, rfl⟩ := List.mem_map.mp mem
      simpa using List.lookup_eq_none_iff.mp found entry among
    rw [if_neg missing]
  | some segments =>
    obtain ⟨before, later, entries, -⟩ := List.lookup_eq_some_iff.mp found
    have among : (path, segments) ∈ cache.entries := by simp [entries]
    have mem : path ∈ cache.paths := List.mem_map_of_mem among
    rw [if_pos mem, ← cache.faithful _ among]

/-- A path that was not there is split, and one that was there already is not split again, even
if it has no segments at all. -/
theorem run_segments (path : String) (cache : PathCache) :
    (segments path).run cache = (splitPath path, cache.learn path) := by
  rw [segments_run_eq, lookup_entries, learn]
  by_cases mem : path ∈ cache.paths <;> simp only [mem, if_true, if_false]

theorem run_resolve (document : Json) (path : String) (cache : PathCache) :
    (resolve document path).run cache = (DocGraph.resolve document path, cache.learn path) := by
  simp only [resolve, StateT.run_bind, run_segments]
  rfl

theorem paths_learn (cache : PathCache) (path : String) :
    (cache.learn path).paths =
      if path ∈ cache.paths then cache.paths else cache.paths ++ [path] := by
  rw [learn]
  split
  · rfl
  · simp [paths, remember]

theorem mem_paths_learn {other : String} :
    other ∈ (cache.learn path).paths ↔ other ∈ cache.paths ∨ other = path := by
  rw [paths_learn]
  split
  next known =>
    refine (or_iff_left_of_imp ?_).symm
    rintro rfl
    exact known
  next => simp

/-- A cache remembers given paths, however often they are given, and no others. -/
structure Remembers (cache : PathCache) (used : List String) : Prop where
  nodup_paths : cache.paths.Nodup
  mem_paths : ∀ path, path ∈ cache.paths ↔ path ∈ used
  lookup_eq : ∀ path ∈ used, cache.entries.lookup path = some (splitPath path)
  size_eq : cache.size = used.toFinset.card

theorem remembers_of_mem_paths (nodup : cache.paths.Nodup)
    (mem_paths : ∀ path, path ∈ cache.paths ↔ path ∈ used) : cache.Remembers used where
  nodup_paths := nodup
  mem_paths := mem_paths
  lookup_eq := by
    intro path mem
    rw [lookup_entries, if_pos ((mem_paths path).mpr mem)]
  size_eq := by
    have same : used.toFinset = cache.paths.toFinset := by
      ext path
      simp [mem_paths]
    rw [same, List.toFinset_card_of_nodup nodup, size, paths, List.length_map]

theorem remembers_empty : empty.Remembers [] :=
  remembers_of_mem_paths List.nodup_nil fun _ => Iff.rfl

/-- A path that is looked up is remembered besides the others. -/
theorem Remembers.learn (h : cache.Remembers used) (path : String) :
    (cache.learn path).Remembers (used ++ [path]) := by
  refine remembers_of_mem_paths ?_ fun other => ?_
  · rw [paths_learn]
    split
    · exact h.nodup_paths
    · next fresh => exact List.concat_eq_append ▸ h.nodup_paths.concat fresh
  · rw [mem_paths_learn, h.mem_paths, List.mem_append, List.mem_singleton]

end PathCache

/-! ## Queries -/

/-- What a cache of paths can be asked. -/
inductive PathQuery where
  | segments (path : String)
  | resolve (document : Json) (path : String)
  | hasPath (document : Json) (path : String)
  | valueOr (document : Json) (path : String) (default : Json)
  /-- All paths are to be forgotten. -/
  | clear

/-- What a cache of paths answers. -/
inductive PathAnswer where
  | split (segments : List String)
  | resolved (result : Except PathFault Json)
  | found (any : Except DigitExcess Bool)
  | value (value : Except DigitExcess Json)
  | cleared

namespace PathQuery

def answer : PathQuery → StateM PathCache PathAnswer
  | segments path => return .split (← PathCache.segments path)
  | resolve document path => return .resolved (← PathCache.resolve document path)
  | hasPath document path => return .found (← PathCache.hasPath document path)
  | valueOr document path default => return .value (← PathCache.valueOr document path default)
  | clear => do
    PathCache.clear
    return .cleared

/-- The answers to queries one after the other. -/
def answers (queries : List PathQuery) : StateM PathCache (List PathAnswer) :=
  queries.mapM answer

/-- The path that a query looks up. -/
def path? : PathQuery → Option String
  | segments path | resolve _ path | hasPath _ path | valueOr _ path _ => some path
  | clear => none

/-- The paths that are looked up behind the last query to forget, as often as they are. -/
def lookedUp (queries : List PathQuery) : List String :=
  (queries.rtakeWhile (·.path?.isSome)).filterMap path?

/-- The answer to a query, found without a cache. -/
def directAnswer : PathQuery → PathAnswer
  | segments path => .split (splitPath path)
  | resolve document path => .resolved (DocGraph.resolve document path)
  | hasPath document path => .found ((foundIn (DocGraph.resolve document path)).map (·.isSome))
  | valueOr document path default =>
    .value ((foundIn (DocGraph.resolve document path)).map (·.getD default))
  | clear => .cleared

/-- The cache after a query. -/
def cacheAfter (cache : PathCache) (query : PathQuery) : PathCache :=
  query.path?.elim .empty cache.learn

/-- A query is answered without regard to the cache. The cache learns the path that is looked up,
also if it leads nowhere. -/
theorem run_answer (query : PathQuery) (cache : PathCache) :
    query.answer.run cache = (query.directAnswer, cacheAfter cache query) := by
  cases query with
  | segments path =>
    simp only [answer, StateT.run_bind, PathCache.run_segments]
    rfl
  | resolve document path =>
    simp only [answer, StateT.run_bind, PathCache.run_resolve]
    rfl
  | hasPath document path =>
    simp only [answer, PathCache.hasPath, StateT.run_bind, PathCache.run_resolve]
    rfl
  | valueOr document path default =>
    simp only [answer, PathCache.valueOr, StateT.run_bind, PathCache.run_resolve]
    rfl
  | clear => rfl

theorem run_answers (queries : List PathQuery) (cache : PathCache) :
    (answers queries).run cache =
      (queries.map directAnswer, queries.foldl cacheAfter cache) := by
  induction queries generalizing cache with
  | nil => rfl
  | cons query rest ih =>
    have split : (answers (query :: rest)).run cache =
        (((query.answer.run cache).1 :: ((answers rest).run (query.answer.run cache).2).1),
          ((answers rest).run (query.answer.run cache).2).2) := by
      simp only [answers, List.mapM_cons, StateT.run_bind]
      rfl
    rw [split, run_answer, ih]
    rfl

theorem lookedUp_concat (queries : List PathQuery) (query : PathQuery) :
    lookedUp (queries ++ [query]) = query.path?.elim [] (lookedUp queries ++ [·]) := by
  rw [lookedUp, List.rtakeWhile_concat]
  cases found : query.path? with
  | none => simp
  | some path => simp [lookedUp, found]

/-- A query to forget leaves nothing, and any other one adds its path. -/
theorem remembers_cacheAfter {queries : List PathQuery} {cache : PathCache}
    (h : cache.Remembers (lookedUp queries)) (query : PathQuery) :
    (cacheAfter cache query).Remembers (lookedUp (queries ++ [query])) := by
  rw [lookedUp_concat, cacheAfter]
  cases query.path? with
  | none => exact PathCache.remembers_empty
  | some path => exact h.learn path

/-- After any queries, exactly the paths behind the last query to forget are remembered. -/
theorem remembers_lookedUp (queries : List PathQuery) :
    (queries.foldl cacheAfter .empty).Remembers (lookedUp queries) := by
  induction queries using List.reverseRecOn with
  | nil => exact PathCache.remembers_empty
  | append_singleton earlier query ih =>
    rw [List.foldl_append]
    exact remembers_cacheAfter ih query

end PathQuery

/-- Queries one after the other are answered as each of them is by an empty cache. Then the cache
remembers the paths that were looked up behind the last query to forget: each spelling of a path
once, the empty path like any other, and with the segments that splitting gives. -/
theorem answers_transparent (queries : List PathQuery) :
    ((PathQuery.answers queries).run .empty).1 =
        queries.map (fun query => (query.answer.run .empty).1) ∧
      ((PathQuery.answers queries).run .empty).2.Remembers (PathQuery.lookedUp queries) := by
  rw [PathQuery.run_answers]
  refine ⟨?_, PathQuery.remembers_lookedUp queries⟩
  refine List.map_congr_left fun query _ => ?_
  rw [query.run_answer]

example :
    ((PathQuery.answers [.segments "a", .clear, .segments "b/c", .hasPath .null "/b/c",
      .segments "", .segments "b/c", .segments ""]).run .empty).2.entries =
      [("b/c", ["b", "c"]), ("/b/c", ["b", "c"]), ("", [])] := by decide

end DocGraph
