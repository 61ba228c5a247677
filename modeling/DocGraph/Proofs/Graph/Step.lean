import DocGraph.Graph.Generate
import DocGraph.Proofs.Outcome

/-!
# What the steps of a run depend on

A step is taken in a session, and what it gives could depend on the paths remembered there and
on the vertices written before. It never depends on the paths: the segments of a path are the
same whether they are found or remembered. Most steps do not depend on the vertices either, and
write none. Such a step gives in every session what it gives by itself.

## Main definitions

* `Generation.outcome`, `Generation.after`: what a step gives in a session, and the session
  after it.
* `Generation.HasEffect`: a step seen as a function of the vertices written before it.
* `Generation.Independent`, `Generation.alone`: a step that depends on no session, and what it
  gives by itself.
-/

namespace DocGraph

namespace PathCache

theorem segments_run_eq (path : String) (cache : PathCache) :
    (segments path).run cache = match cache.entries.lookup path with
      | some found => (found, cache)
      | none => (splitPath path, cache.remember path) := by
  change (match cache.entries.lookup path with
    | some found => (pure found : StateM PathCache (List String))
    | none => do set (cache.remember path); return splitPath path).run cache = _
  cases cache.entries.lookup path <;> rfl

/-- The segments of a path are those that splitting it gives, whatever is remembered. -/
theorem segments_run (path : String) (cache : PathCache) :
    ((segments path).run cache).1 = splitPath path := by
  rw [segments_run_eq]
  cases h : cache.entries.lookup path with
  | none => rfl
  | some found =>
    -- What is remembered was split once, whichever run it was that did.
    obtain ⟨before, after, entries, -⟩ := List.lookup_eq_some_iff.mp h
    exact cache.faithful (path, found) (by simp [entries])

/-- A path leads to the same value, whatever is remembered. -/
theorem resolve_run (document : Json) (path : String) (cache : PathCache) :
    ((resolve document path).run cache).1 = DocGraph.resolve document path :=
  congrArg (follow document) (segments_run path cache)

end PathCache

namespace Generation

variable {α β ε : Type}

/-- What a step gives in a session. -/
def outcome (step : Generation α) (session : Session) : Except Failure α := (step.run session).1

/-- The session after a step. -/
def after (step : Generation α) (session : Session) : Session := (step.run session).2

/-- What a step gives by itself, in a fresh session. -/
def alone (step : Generation α) : Except Failure α := step.outcome {}

/-- Two steps one after the other; a failure is the end. -/
theorem run_bind (step : Generation α) (next : α → Generation β) (session : Session) :
    (step >>= next).run session = match step.run session with
      | (.ok a, session) => (next a).run session
      | (.error failure, session) => (.error failure, session) := by
  simp only [ExceptT.run, bind, ExceptT.bind, ExceptT.mk, StateT.bind, ExceptT.bindCont]
  cases step session with
  | mk result session => cases result <;> rfl

/-- A step whose result is changed afterwards. -/
theorem outcome_map (step : Generation α) (f : α → β) (session : Session) :
    (step >>= fun a => pure (f a)).outcome session = (step.outcome session).map f := by
  simp only [outcome, run_bind]
  rcases step.run session with ⟨failure | a, after⟩ <;> rfl

theorem run_markSeen (id : VertexId) (session : Session) :
    (markSeen id).run session =
      if session.seen.contains id then (.ok false, session)
      else (.ok true, { session with seen := session.seen ++ [id] }) := by
  have read : (markSeen id).run session =
      (if session.seen.contains id then (pure false : Generation Bool)
        else do set { session with seen := session.seen ++ [id] }; return true).run session := rfl
  rw [read]
  split <;> rfl

/-- What a step may do, seen from the vertices written before it: it gives a result, and leaves
the vertices written after it. -/
abbrev Effect (α : Type) := List VertexId → Except Failure α × List VertexId

/-- One effect, and another one that takes its result; a failure is the end. -/
def Effect.andThen (effect : Effect α) (next : α → Effect β) : Effect β := fun seen =>
  match effect seen with
  | (.ok a, seen) => next a seen
  | (.error failure, seen) => (.error failure, seen)

/-- A step has the effect in every session, whatever paths are remembered. -/
def HasEffect (step : Generation α) (effect : Effect α) : Prop :=
  ∀ session, (step.outcome session, (step.after session).seen) = effect session.seen

/-- A step gives the same in every session, and writes no vertices. -/
def Independent (step : Generation α) : Prop := step.HasEffect fun seen => (step.alone, seen)

namespace HasEffect

theorem outcome_eq {step : Generation α} {effect : Effect α} (h : step.HasEffect effect)
    (session : Session) : step.outcome session = (effect session.seen).1 :=
  congrArg Prod.fst (h session)

theorem seen_after {step : Generation α} {effect : Effect α} (h : step.HasEffect effect)
    (session : Session) : (step.after session).seen = (effect session.seen).2 :=
  congrArg Prod.snd (h session)

theorem congr {step : Generation α} {effect effect' : Effect α} (h : step.HasEffect effect)
    (same : ∀ seen, effect seen = effect' seen) : step.HasEffect effect' :=
  fun session => (h session).trans (same session.seen)

/-- A step that gives the same in all sessions and writes no vertices gives it by itself. -/
theorem alone_eq {step : Generation α} {result : Except Failure α}
    (h : step.HasEffect fun seen => (result, seen)) : step.alone = result :=
  h.outcome_eq {}

theorem independent {step : Generation α} {result : Except Failure α}
    (h : step.HasEffect fun seen => (result, seen)) : step.Independent := by
  rw [Independent, h.alone_eq]
  exact h

theorem pure (a : α) : HasEffect (Pure.pure a) fun seen => (.ok a, seen) := fun _ => rfl

theorem ofExcept (toFailure : ε → Failure) (result : Except ε α) :
    HasEffect (Generation.ofExcept toFailure result)
      fun seen => (result.mapError toFailure, seen) := by
  cases result <;> exact fun _ => rfl

/-- A step that uses only the cache has no effect on vertices, if the cache makes no difference
to what it gives. -/
theorem ofCache {step : StateM PathCache α} {a : α} (h : ∀ cache, (step.run cache).1 = a) :
    HasEffect (Generation.ofCache step) fun seen => (.ok a, seen) := by
  intro session
  exact congrArg (fun a => (Except.ok a, session.seen)) (h session.cache)

theorem markSeen (id : VertexId) :
    HasEffect (Generation.markSeen id) fun seen =>
      (.ok (!seen.contains id), if seen.contains id then seen else seen ++ [id]) := by
  intro session
  simp only [outcome, after, run_markSeen]
  split <;> simp_all

/-- The effects of two steps one after the other. -/
theorem bind {step : Generation α} {next : α → Generation β} {effect : Effect α}
    {effects : α → Effect β} (h : step.HasEffect effect)
    (hn : ∀ a, (next a).HasEffect (effects a)) :
    HasEffect (step >>= next) (effect.andThen effects) := by
  intro session
  have first := h session
  simp only [outcome, after, run_bind, Effect.andThen] at first ⊢
  rw [← first]
  rcases step.run session with ⟨a | failure, session⟩
  · rfl
  · exact hn _ session

/-- A step with written vertices of its own depends on none of the session around it. -/
theorem apart {step : Generation α} {effect : Effect α} (h : step.HasEffect effect)
    (known : List VertexId) :
    HasEffect (Generation.apart known step)
      fun seen => ((effect known).1.map (·, (effect known).2), seen) := by
  intro session
  rw [← h { session with seen := known }]
  rfl

end HasEffect

namespace Independent

theorem pure (a : α) : Independent (Pure.pure a) := (HasEffect.pure a).independent

theorem ofExcept (toFailure : ε → Failure) (result : Except ε α) :
    Independent (Generation.ofExcept toFailure result) :=
  (HasEffect.ofExcept toFailure result).independent

theorem ofCache {step : StateM PathCache α} {a : α} (h : ∀ cache, (step.run cache).1 = a) :
    Independent (Generation.ofCache step) :=
  (HasEffect.ofCache h).independent

theorem hasEffect_bind {step : Generation α} {next : α → Generation β} (h : step.Independent)
    (hn : ∀ a, (next a).Independent) :
    HasEffect (step >>= next) fun seen => (step.alone >>= fun a => (next a).alone, seen) := by
  intro session
  rw [HasEffect.bind h hn session]
  cases hr : step.alone <;> simp [Effect.andThen, Bind.bind, Except.bind]

theorem bind {step : Generation α} {next : α → Generation β} (h : step.Independent)
    (hn : ∀ a, (next a).Independent) : Independent (step >>= next) :=
  (hasEffect_bind h hn).independent

theorem hasEffect_map {step : Generation α} {result : Except Failure α}
    (h : step.HasEffect fun seen => (result, seen)) (f : α → β) :
    HasEffect (step >>= fun a => Pure.pure (f a)) fun seen => (result.map f, seen) := by
  refine (hasEffect_bind h.independent fun a => .pure (f a)).congr fun seen => ?_
  rw [h.alone_eq]
  cases result <;> rfl

theorem hasEffect_mapM {step : α → Generation β} (h : ∀ a, (step a).Independent) (xs : List α) :
    HasEffect (xs.mapM step) fun seen => (xs.mapM fun x => (step x).alone, seen) := by
  induction xs with
  | nil => exact HasEffect.pure []
  | cons x xs ih =>
    have rest : Independent (xs.mapM step) := ih.independent
    have tail (b : β) : (xs.mapM step >>= fun bs => Pure.pure (b :: bs)).alone =
        (xs.mapM fun x => (step x).alone) >>= fun bs => (Pure.pure (b :: bs) : Except _ _) :=
      (hasEffect_map ih (b :: ·)).alone_eq
    have both := hasEffect_bind (h x) fun b => rest.bind fun bs => .pure (b :: bs)
    simp only [List.mapM_cons]
    simpa only [tail] using both

theorem mapM {step : α → Generation β} (h : ∀ a, (step a).Independent) (xs : List α) :
    Independent (xs.mapM step) :=
  (hasEffect_mapM h xs).independent

end Independent

/-- By themselves, two independent steps are taken as two results. -/
theorem alone_bind {step : Generation α} {next : α → Generation β} (h : step.Independent)
    (hn : ∀ a, (next a).Independent) :
    (step >>= next).alone = step.alone >>= fun a => (next a).alone :=
  (Independent.hasEffect_bind h hn).alone_eq

end Generation

open Generation

/-! ## The steps of the program -/

theorem independent_valueAt (document : Json) (path : String) (toFault : PathFault → DataFault) :
    (valueAt document path toFault).Independent :=
  .bind (.ofCache (PathCache.resolve_run document path)) fun _ => .ofExcept _ _

theorem independent_recordsAt (document : Json) (path : String) :
    (recordsAt document path).Independent := by
  refine .bind (independent_valueAt _ _ _) fun value => ?_
  cases value <;> exact .pure _

theorem independent_vertexIdAt (record : Json) (path : String) :
    (vertexIdAt record path).Independent :=
  .bind (independent_valueAt _ _ _) fun _ => .ofExcept _ _

theorem independent_propertyValue (registry : TransformRegistry) (record : Json)
    (property : Property) : (propertyValue registry record property).Independent :=
  .bind (.ofExcept _ _) fun _ => .bind (independent_valueAt _ _ _) fun _ =>
    .bind (.ofExcept _ _) fun _ => .pure _

theorem independent_propertyValues (registry : TransformRegistry) (record : Json)
    (properties : List Property) : (propertyValues registry record properties).Independent :=
  .mapM (fun _ => .bind (independent_propertyValue _ _ _) fun _ => .pure _) _

theorem independent_firstSegment (path : String) : (firstSegment path).Independent :=
  .bind (.ofCache (PathCache.segments_run path)) fun _ => .pure _

theorem independent_spokenFor (mapping : VertexMapping) : (spokenFor mapping).Independent :=
  .bind (independent_firstSegment _) fun _ =>
    .bind (.mapM (fun _ => independent_firstSegment _) _) fun _ => .pure _

theorem independent_dynamicProperties (mapping : VertexMapping) (record : Json) :
    (dynamicProperties mapping record).Independent := by
  cases record with
  | object entries => exact .bind (independent_spokenFor _) fun _ => .pure _
  | _ => exact .pure _

theorem independent_vertexRow (registry : TransformRegistry) (mapping : VertexMapping)
    (record : Json) : (vertexRow registry mapping record).Independent :=
  .bind (independent_vertexIdAt _ _) fun _ =>
    .bind (independent_propertyValues _ _ _) fun _ => .pure _

theorem independent_edgeRow (registry : TransformRegistry) (mapping : EdgeMapping)
    (record : Json) : (edgeRow registry mapping record).Independent :=
  .bind (independent_vertexIdAt _ _) fun _ => .bind (independent_vertexIdAt _ _) fun _ =>
    .bind (independent_propertyValues _ _ _) fun _ => .pure _

theorem independent_upsert (registry : TransformRegistry) (mapping : VertexMapping)
    (id : VertexId) (record : Json) : (upsert registry mapping id record).Independent :=
  .bind (independent_propertyValues _ _ _) fun _ =>
    .bind (independent_dynamicProperties _ _) fun _ => .pure _

end DocGraph
