import DocGraph.Proofs.Mapping.Element

/-!
# Parameters of transforms

A transform in a definition sets parameters: its format, its delimiter, and others that it lists.
The format and the delimiter come before listed parameters of these names. A transform that joins
arrays and sets no delimiter takes that of the settings. In the mapping these are the parameters of
the transform, unless its name stands for a named transform. Then the parameters are those of the
named one, and what is set beside the name is lost.

## Main definitions

* `TransformDefinition.setting?`: the value that a transform sets for a parameter.
* `MappingDefinition.parameter?`: the value of a parameter, with the delimiter of the settings.
* `MappingDefinition.JoinsByPlace`: one that joins arrays because of the name it is defined under.

## Main results

* `lookup_params_builtTransform`: the parameters of a transform in a mapping.
* `settings_kept_iff`: which settings of a transform are kept.
* `delimiter_of_join`: which delimiter a transform that joins arrays has.
-/

namespace DocGraph

/-! ## What a transform sets -/

namespace TransformDefinition

/-- The value that a transform gives to a parameter by a field of its own. -/
def ownField? (transform : TransformDefinition) (name : String) : Option String :=
  if name = "format" then transform.format
  else if name = "delimiter" then transform.delimiter
  else none

/-- The value that a transform sets for a parameter. Its own fields come before the parameters that
it lists. -/
def setting? (transform : TransformDefinition) (name : String) : Option String :=
  (transform.ownField? name).or (transform.params.lookup name)

/-- A transform joins arrays by its kind or by its name. -/
def joinsArrays (transform : TransformDefinition) : Bool :=
  TransformKind.ofDeclared transform.type = .arrayJoin || transform.name = some joinTransformName

end TransformDefinition

/-- A parameter that is given comes before a listed one. -/
theorem lookup_insertGiven (params : Params) (key : String) (given : Option String)
    (name : String) :
    (given.elim params (insertPair params key)).lookup name =
      (if name = key then given else none).or (params.lookup name) := by
  cases given with
  | none => simp
  | some value => by_cases same : name = key <;> simp [lookup_insertPair, same]

/-- A parameter that is filled in comes after a listed one. -/
theorem lookup_insertMissing (params : Params) (key value name : String) (fills : Bool) :
    (if fills && (params.lookup key).isNone then insertPair params key value else params).lookup
        name =
      (params.lookup name).or (if name = key ∧ fills then some value else none) := by
  by_cases same : name = key
  · subst same
    cases fills <;> cases found : params.lookup name <;> simp [lookup_insertPair, found]
  · split <;> simp [lookup_insertPair, same]

/-- The value that a transform has for a parameter: the one that it sets, or else the delimiter of
the settings if it joins arrays. -/
def MappingDefinition.parameter? (definition : MappingDefinition) (transform : TransformDefinition)
    (name : String) : Option String :=
  (transform.setting? name).or
    (if name = "delimiter" ∧ transform.joinsArrays then some definition.settings.arrayDelimiter
      else none)

theorem lookup_buildParams (definition : MappingDefinition) (transform : TransformDefinition)
    (name : String) :
    (buildParams transform (.ofDeclared transform.type) definition.builtSettings).lookup name =
      definition.parameter? transform name := by
  have inOrder : buildParams transform (.ofDeclared transform.type) definition.builtSettings =
      let formatted := transform.format.elim transform.params (insertPair transform.params "format")
      transform.delimiter.elim
        (if transform.joinsArrays && (formatted.lookup "delimiter").isNone then
          insertPair formatted "delimiter" definition.settings.arrayDelimiter else formatted)
        (insertPair formatted "delimiter") := by
    unfold buildParams
    cases transform.format <;> cases transform.delimiter <;> rfl
  rw [inOrder, MappingDefinition.parameter?, TransformDefinition.setting?,
    TransformDefinition.ownField?]
  dsimp only
  cases transform.delimiter with
  | some delimiter =>
    rw [Option.elim_some, lookup_insertPair, lookup_insertGiven]
    by_cases isDelimiter : name = "delimiter"
    · simp [isDelimiter]
    · simp [isDelimiter]
  | none => rw [Option.elim_none, lookup_insertMissing, lookup_insertGiven, ite_self]

/-- The parameters of a transform in a mapping are those of the transform that is meant. -/
theorem lookup_params_builtTransform (definition : MappingDefinition)
    (transform : TransformDefinition) (name : String) :
    (definition.builtTransform transform).params.lookup name =
      definition.parameter? (definition.resolve transform) name := by
  obtain ⟨own, same⟩ := exists_builtTransform_eq definition transform
  rw [same, buildTransform_nil]
  exact lookup_buildParams definition (definition.resolve transform) name

/-! ## Settings of a transform -/

/-- Visits with two days, marks and words. Two transforms are defined under the names of registered
ones. -/
def visitDefinition : MappingDefinition where
  settings := { arrayDelimiter := ";" }
  tags := [("Visit", {
    source := "visits"
    properties := [
      { path := "begun"
        type := some "TIMESTAMP"
        transform := some {
          name := some "time_format", type := some "CUSTOM", format := some "%d.%m.%Y" } },
      { path := "ended"
        type := some "TIMESTAMP"
        transform := some { name := some "time_format", format := some "%d.%m.%Y" } },
      { path := "marks"
        type := some "STRING"
        transform := some { name := some "array_join" } },
      { path := "words"
        type := some "STRING"
        transform := some { type := some "array_join" } }] })]
  transforms := [("time_format", { format := some "%Y-%m-%d" }), ("array_join", {})]

/-- The day of the end has the other format, and only the words have a delimiter. -/
def visitMapping : GraphMapping where
  vertices := [{
    tag := "Visit"
    source := "visits"
    key := "id"
    properties := [
      { name := "begun"
        path := "begun"
        type := "TIMESTAMP"
        transform := some {
          kind := .custom, name := some "time_format", params := [("format", "%d.%m.%Y")] } },
      { name := "ended"
        path := "ended"
        type := "TIMESTAMP"
        transform := some { name := some "time_format", params := [("format", "%Y-%m-%d")] } },
      { name := "marks"
        path := "marks"
        type := "STRING"
        transform := some { name := some "array_join" } },
      { name := "words"
        path := "words"
        type := "STRING"
        transform := some { kind := .arrayJoin, params := [("delimiter", ";")] } }] }]
  transforms := [
    ("time_format", { name := some "time_format", params := [("format", "%Y-%m-%d")] }),
    ("array_join", { name := some "array_join" })]
  settings := { arrayDelimiter := ";" }

theorem isKeyed_visitDefinition : visitDefinition.IsKeyed := ⟨by decide, by decide⟩

theorem buildMapping_visits : buildMapping visitDefinition = .ok visitMapping := by decide +kernel

/-- What a transform sets is kept, unless its name stands for a named transform. In that case a
setting is kept exactly if the named transform has the same value for the parameter. -/
theorem settings_kept_iff {definition : MappingDefinition} {mapping : GraphMapping}
    (built : buildMapping definition = .ok mapping) :
    definition.EachProperty mapping fun p property =>
      ∀ transform, p.transform = some transform →
        ∃ made, property.transform = some made ∧
          ∀ name value, transform.setting? name = some value →
            (made.params.lookup name = some value ↔
              ∀ named, definition.RefersTo transform named →
                definition.parameter? named name = some value) := by
  refine .of_isMadeInto built fun p property into transform attached => ?_
  refine ⟨definition.builtTransform transform, by rw [into.transform, attached]; rfl, ?_⟩
  intro name value sets
  rw [lookup_params_builtTransform]
  by_cases refers : ∃ named, definition.RefersTo transform named
  · obtain ⟨named, refers⟩ := refers
    rw [resolve_of_refersTo refers]
    constructor
    · intro same other also
      rwa [← resolve_of_refersTo also, resolve_of_refersTo refers]
    · exact fun kept => kept named refers
  · have own := not_exists.mp refers
    have kept : definition.parameter? transform name = some value := by
      rw [MappingDefinition.parameter?, sets, Option.some_or]
    rw [resolve_of_not_refersTo own]
    exact iff_of_true kept fun named also => absurd also (own named)

/-- With a type the name stands for itself, so the format of the first day is kept. -/
theorem settings_kept_iff_visits :
    buildMapping visitDefinition = .ok visitMapping ∧
      ∃ made : PropertyTransform, made.kind = .custom ∧
        made.params.lookup "format" = some "%d.%m.%Y" := by
  refine ⟨buildMapping_visits, ?_⟩
  obtain _ | ⟨_ | ⟨begun, -⟩, -⟩ := settings_kept_iff buildMapping_visits
  obtain ⟨made, attached, kept⟩ := begun _ rfl
  cases attached
  refine ⟨_, rfl, (kept "format" "%d.%m.%Y" (by decide)).mpr ?_⟩
  rintro named ⟨untyped, -⟩
  exact absurd untyped (by decide)

/-- Without one the format of the second day is lost. -/
theorem not_forall_settings_kept :
    ¬ ∀ (definition : MappingDefinition) (mapping : GraphMapping), definition.IsKeyed →
      buildMapping definition = .ok mapping →
      definition.EachProperty mapping fun p property =>
        ∀ transform, p.transform = some transform →
          ∃ made, property.transform = some made ∧
            ∀ name value, transform.setting? name = some value →
              made.params.lookup name = some value := by
  intro kept
  obtain _ | ⟨_ | ⟨-, _ | ⟨ended, -⟩⟩, -⟩ :=
    kept visitDefinition visitMapping isKeyed_visitDefinition buildMapping_visits
  obtain ⟨made, attached, kept⟩ := ended _ rfl
  cases attached
  exact absurd (kept "format" "%d.%m.%Y" (by decide)) (by decide)

/-! ## Delimiters -/

/-- A transform joins arrays only because of its place: its name stands for a named transform that
has neither a name nor a kind, and that is defined under the name of the transform that joins
arrays. -/
structure MappingDefinition.JoinsByPlace (definition : MappingDefinition)
    (transform named : TransformDefinition) : Prop where
  refers : definition.RefersTo transform named
  place : transform.name = some joinTransformName
  unnamed : named.name = none
  noKind : TransformKind.ofDeclared named.type = .none

theorem MappingDefinition.JoinsByPlace.not_joinsArrays {definition : MappingDefinition}
    {transform named : TransformDefinition} (joins : definition.JoinsByPlace transform named) :
    named.joinsArrays = false := by
  simp [TransformDefinition.joinsArrays, joins.unnamed, joins.noKind]

/-- A transform that is registered as the one that joins arrays has its name or its kind. -/
theorem registryName?_eq_join_iff {transform : PropertyTransform} :
    transform.registryName? = some joinTransformName ↔
      transform.name = some joinTransformName ∨
        transform.name.getD "" = "" ∧ transform.kind = .arrayJoin := by
  unfold PropertyTransform.registryName?
  cases transform.name with
  | none => simp
  | some name =>
    by_cases empty : name = ""
    · simp [empty, Option.filter_some, show "" ≠ joinTransformName by decide]
    · simp [empty, Option.filter_some]

theorem joins_of_registryName? {definition : MappingDefinition} {transform : TransformDefinition}
    (registered : (definition.builtTransform transform).registryName? = some joinTransformName) :
    (∃ named, definition.JoinsByPlace transform named) ∨
      (definition.resolve transform).joinsArrays = true := by
  have joins {own : TransformDefinition}
      (h : own.name = some joinTransformName ∨
        own.name.getD "" = "" ∧ TransformKind.ofDeclared own.type = .arrayJoin) :
      own.joinsArrays = true := by
    rcases h with name | ⟨-, kind⟩ <;> simp [TransformDefinition.joinsArrays, *]
  by_cases refers : ∃ named, definition.RefersTo transform named
  · obtain ⟨named, refers⟩ := refers
    have ⟨untyped, name, given, found⟩ := refers
    rw [builtTransform_of_refersTo untyped given found, buildNamedTransform_eq, buildTransform_nil,
      registryName?_eq_join_iff] at registered
    dsimp only at registered
    rw [resolve_of_refersTo refers]
    split at registered
    next bare =>
      -- Without a kind the name can only be that of its place.
      rcases registered with place | ⟨-, kind⟩
      · exact .inl ⟨named, refers, given.trans place, bare.1, bare.2⟩
      · rw [bare.2] at kind
        cases kind
    next => exact .inr (joins registered)
  · have own := not_exists.mp refers
    rw [builtTransform_of_not_refersTo own, buildTransform_nil,
      registryName?_eq_join_iff] at registered
    rw [resolve_of_not_refersTo own]
    exact .inr (joins registered)

/-- A transform that joins arrays has the delimiter that is set by the transform that is meant, or
else that of the settings. It has none exactly if none is set and it joins arrays only because of
its place. -/
theorem delimiter_of_join {definition : MappingDefinition} {mapping : GraphMapping}
    (built : buildMapping definition = .ok mapping) :
    definition.EachProperty mapping fun p property =>
      ∀ made, property.transform = some made → made.registryName? = some joinTransformName →
        ∃ transform, p.transform = some transform ∧
          let given := (definition.resolve transform).setting? "delimiter"
          (made.params.lookup "delimiter" = some (given.getD definition.settings.arrayDelimiter) ∨
            made.params.lookup "delimiter" = none) ∧
          (made.params.lookup "delimiter" = none ↔
            given = none ∧ ∃ named, definition.JoinsByPlace transform named) := by
  refine .of_isMadeInto built fun p property into made attached registered => ?_
  rw [into.transform] at attached
  obtain ⟨transform, given, rfl⟩ := Option.map_eq_some_iff.mp attached
  refine ⟨transform, given, ?_⟩
  dsimp only
  rw [lookup_params_builtTransform, MappingDefinition.parameter?]
  obtain ⟨named, byPlace⟩ | joins := joins_of_registryName? registered
  · have none := byPlace.not_joinsArrays
    rw [resolve_of_refersTo byPlace.refers, none]
    cases sets : named.setting? "delimiter" with
    | none => simpa using ⟨named, byPlace⟩
    | some delimiter => simp
  · have notByPlace (named) : ¬ definition.JoinsByPlace transform named := by
      intro byPlace
      have none := byPlace.not_joinsArrays
      rw [resolve_of_refersTo byPlace.refers, none] at joins
      cases joins
    cases sets : (definition.resolve transform).setting? "delimiter" with
    | none => simp [joins, notByPlace]
    | some delimiter => simp

/-- The words are joined with the delimiter of the settings. -/
theorem delimiter_of_join_visits :
    buildMapping visitDefinition = .ok visitMapping ∧
      ∃ made : PropertyTransform, made.registryName? = some joinTransformName ∧
        made.params.lookup "delimiter" ≠ none := by
  refine ⟨buildMapping_visits, ?_⟩
  obtain _ | ⟨_ | ⟨-, _ | ⟨-, _ | ⟨-, _ | ⟨words, -⟩⟩⟩⟩, -⟩ := delimiter_of_join buildMapping_visits
  obtain ⟨transform, attached, -, missing⟩ := words _ rfl (by decide)
  cases attached
  refine ⟨{ kind := .arrayJoin, params := [("delimiter", ";")] }, by decide, fun none => ?_⟩
  obtain ⟨-, named, byPlace⟩ := missing.mp none
  exact absurd byPlace.place (by decide)

/-- The marks are joined without one. -/
theorem not_forall_delimiter :
    ¬ ∀ (definition : MappingDefinition) (mapping : GraphMapping), definition.IsKeyed →
      buildMapping definition = .ok mapping →
      definition.EachProperty mapping fun p property =>
        ∀ made, property.transform = some made → made.registryName? = some joinTransformName →
          ∃ transform, p.transform = some transform ∧
            made.params.lookup "delimiter" =
              some (((definition.resolve transform).setting? "delimiter").getD
                definition.settings.arrayDelimiter) := by
  intro given
  obtain _ | ⟨_ | ⟨-, _ | ⟨-, _ | ⟨marks, -⟩⟩⟩, -⟩ :=
    given visitDefinition visitMapping isKeyed_visitDefinition buildMapping_visits
  obtain ⟨transform, -, found⟩ := marks _ rfl (by decide)
  cases found

end DocGraph
