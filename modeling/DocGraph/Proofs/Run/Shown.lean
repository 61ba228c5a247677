import DocGraph.Proofs.Graph.Texts
import DocGraph.Proofs.Json.OneLine
import DocGraph.Proofs.Run.Phases
import DocGraph.Proofs.Run.Wording
import DocGraph.Proofs.Schema.Declarable
import DocGraph.Proofs.Yaml.OneLine

/-!
# What the parts of a run show

A diagnostic takes one line, except for the texts that stand in it as they are. Here every part of a
run is asked what it shows when it fails: loading the mapping and the document, the size of batches,
the schema and the data. All that they show comes from the source of a text, from the texts of the
mapping, or from a text of the document that a transform has failed on.

## Main definitions

* `Failure.DescribedWithin`: the line breaks of a diagnostic are of a kind.
* `GraphMapping.TextsWithin`: those of the texts of a mapping are.

## Main results

* `settles_loadJson`, `settles_loadMapping`: texts that cannot be loaded.
* `Pipeline.describedWithin_run`: a mapping and a document that cannot be run.
-/

namespace DocGraph

open Generation

variable {kind : Char → Prop}

/-! ## Diagnostics with line breaks of a kind -/

namespace Failure

variable {failure : Failure}

/-- All line breaks of a diagnostic are of a kind. -/
def DescribedWithin (kind : Char → Prop) (failure : Failure) : Prop :=
  BreaksWithin kind failure.describe

theorem describedWithin_iff : failure.DescribedWithin kind ↔
    (∀ c ∈ failure.ownBreaks, kind c) ∧ AllWithin kind failure.verbatim := by
  unfold DescribedWithin BreaksWithin
  rw [lineBreaks_describe, List.forall_mem_append, List.forall_mem_flatMap]
  rfl

theorem ownBreaks_of_kind (h : failure.kind ≠ .text) : failure.ownBreaks = [] := by
  cases failure with
  | yaml => exact absurd rfl h
  | _ => rfl

theorem describedWithin_of_verbatim (worded : failure.ownBreaks = [])
    (verbatim : AllWithin kind failure.verbatim) : failure.DescribedWithin kind := by
  refine describedWithin_iff.mpr ⟨?_, verbatim⟩
  rw [worded]
  exact List.forall_mem_nil _

/-- A failure that is about no document shows its words and what it is about. -/
theorem describedWithin_of_words (worded : failure.ownBreaks = [])
    (pathless : failure.dataPath = none) (words : AllWithin kind failure.unquoted)
    (context : AllWithin kind failure.context.toList) : failure.DescribedWithin kind := by
  refine describedWithin_of_verbatim worded (allWithin_verbatim words context ?_)
  rw [pathless]
  exact List.forall_mem_nil _

end Failure

/-! ## Loading -/

section

variable {text source : String}

/-- What is wrong with a JSON text takes one line, and the source of the text stands behind it. -/
theorem settles_loadJson (within : BreaksWithin kind source) :
    Settles (Json.read text.toList = .ok ·) (Failure.DescribedWithin kind)
      (loadJson text (some source)) := by
  have named : AllWithin kind (some source).toList := List.forall_mem_singleton.mpr within
  have reading := Json.inOneLine_readText true text.toList
  unfold loadJson
  change Settles _ _ (Except.mapError _ (Json.readText true text.toList))
  cases read : Json.readText true text.toList with
  | ok document => exact read
  | error fault =>
    have words : AllWithin kind fault.unquoted := .of_lineBreaks (reading.of_error read)
    exact Failure.describedWithin_of_words rfl rfl words named

theorem settles_loadYaml (within : BreaksWithin kind source)
    (forbidden : ∀ code position, Yaml.read text = .error (.character code position) →
      kind '\n') :
    Settles (Yaml.read text = .ok ·) (Failure.DescribedWithin kind)
      (loadYaml text (some source)) := by
  have named : AllWithin kind (some source).toList := List.forall_mem_singleton.mpr within
  unfold loadYaml loadYamlBy readYaml
  cases read : Yaml.read text with
  | ok value => rfl
  | error fault =>
    have oneLine := Yaml.inOneLine_of_read read
    cases fault with
    | character code position =>
      refine Failure.describedWithin_iff.mpr ⟨?_, ?_⟩
      · exact List.forall_mem_singleton.mpr (forbidden code position read)
      · exact Failure.allWithin_verbatim (List.forall_mem_nil _) named (List.forall_mem_nil _)
    | problem found mark =>
      have words : AllWithin kind found.unquoted := .of_lineBreaks (oneLine found mark rfl)
      exact Failure.describedWithin_of_words rfl rfl words named
    | scalar fault =>
      exact Failure.describedWithin_of_words rfl rfl (List.forall_mem_nil _) (List.forall_mem_nil _)

theorem settles_definitionOf {value : Yaml.Value} (within : value.BreaksWithin kind) :
    Settles (AllWithin kind ·.texts) (Failure.DescribedWithin kind) (definitionOf value) := by
  refine (allWithin_ofValue within).mapError fun fault shown => ?_
  obtain ⟨words, context⟩ := List.forall_mem_append.mp shown
  exact Failure.describedWithin_of_words rfl rfl words context

/-- The texts of the elements of a mapping have line breaks of a kind only. -/
def GraphMapping.TextsWithin (kind : Char → Prop) (mapping : GraphMapping) : Prop :=
  ∀ readout ∈ mapping.readouts, AllWithin kind readout.texts

theorem settles_buildMapping {definition : MappingDefinition}
    (within : AllWithin kind definition.texts) :
    Settles (GraphMapping.TextsWithin kind) (Failure.DescribedWithin kind)
      ((buildMapping definition).mapError .mapping) := by
  cases built : buildMapping definition with
  | ok mapping => exact allWithin_of_buildMapping within built
  | error fault =>
    obtain ⟨words, context⟩ :=
      List.forall_mem_append.mp ((lacks_of_buildMapping built).allWithin within)
    exact Failure.describedWithin_of_words rfl rfl words context

theorem settles_loadMapping (within : BreaksWithin kind source)
    (forbidden : ∀ code position, Yaml.read text = .error (.character code position) →
      kind '\n')
    (values : ∀ value, Yaml.read text = .ok value → value.BreaksWithin kind) :
    Settles (GraphMapping.TextsWithin kind) (Failure.DescribedWithin kind)
      (loadMapping text (some source)) := by
  rw [loadMapping_eq_bind]
  refine (settles_loadYaml within forbidden).bind fun value read => ?_
  refine (settles_definitionOf (values value read)).bind fun definition texts => ?_
  exact settles_buildMapping texts

end

/-! ## Runs -/

/-- A size that is refused is a number, or it is displayed with its texts in quotes. -/
theorem settles_resolveBatchSize (config : Config) (asked : Option Json) :
    Settles (fun _ => True) (Failure.DescribedWithin kind) (config.resolveBatchSize asked) := by
  have refused {shown : String} (plain : lineBreaks shown = []) :
      (Failure.batchSize shown).DescribedWithin kind :=
    Failure.describedWithin_of_words rfl rfl
      (List.forall_mem_singleton.mpr (.of_lineBreaks plain)) (List.forall_mem_nil _)
  have ofInt (n : Int) :
      Settles (fun _ => True) (Failure.DescribedWithin kind) (BatchSize.ofInt n) := by
    unfold BatchSize.ofInt
    split
    · trivial
    · exact refused (lineBreaks_repr_int n)
  unfold Config.resolveBatchSize BatchSize.ofJson
  split
  · exact ofInt _
  · exact ofInt _
  · split
    · exact ofInt _
    · exact refused (Json.lineBreaks_nestedDisplay _)

/-- Why an element cannot be declared is said with its own texts. -/
theorem Readout.Lacks.describedWithin {settings : Settings} {readout : Readout}
    {fault : SchemaFault} (lacks : readout.Lacks settings fault)
    (within : AllWithin kind readout.texts) : (Failure.schema fault).DescribedWithin kind := by
  simp only [AllWithin, Readout.texts, List.forall_mem_cons, List.forall_mem_append,
    List.forall_mem_flatMap] at within
  obtain ⟨name, -, -, properties⟩ := within
  have own {property : Property} (declared : property ∈ readout.properties) :
      BreaksWithin kind property.name ∧ BreaksWithin kind property.type := by
    have texts := properties property declared
    simp only [Property.texts, List.forall_mem_cons] at texts
    exact ⟨texts.1, texts.2.2.1⟩
  have shown (words : AllWithin kind fault.unquoted)
      (context : AllWithin kind fault.context.toList) :
      (Failure.schema fault).DescribedWithin kind :=
    Failure.describedWithin_of_words rfl rfl words context
  cases lacks with
  | type declared unknown =>
    exact shown (List.forall_mem_singleton.mpr (own declared).2) (List.forall_mem_nil _)
  | length declared known isString tooLong =>
    exact shown (List.forall_mem_nil _) (List.forall_mem_singleton.mpr (own declared).2)
  | name refused => exact shown (List.forall_mem_singleton.mpr name) (List.forall_mem_nil _)
  | propertyName declared refused =>
    exact shown (List.forall_mem_singleton.mpr (own declared).1)
      (List.forall_mem_singleton.mpr name)

namespace Pipeline

variable {pipeline : Pipeline} {mapping : GraphMapping}

theorem settles_schema (within : mapping.TextsWithin kind) (includeIndexes : Option Bool) :
    Settles (fun _ => True) (Failure.DescribedWithin kind)
      (pipeline.schema mapping includeIndexes) := by
  cases declared : pipeline.schema mapping includeIndexes with
  | ok statements => trivial
  | error failure =>
    obtain ⟨fault, failed, rfl⟩ := mapError_eq_error_iff.mp declared
    obtain refused | ⟨_, -, ⟨⟩⟩ := bind_eq_error_iff.mp failed
    obtain ⟨readout, among, lacks⟩ := lacks_of_schemaElements refused
    exact lacks.describedWithin (within readout among)

/-- Every line break in the diagnostic of a run is one of the mapping, or one of the text that a
transform has failed on. -/
theorem describedWithin_run (builtin : pipeline.registry.OnlyBuiltin)
    (within : mapping.TextsWithin kind) {document : Json} {options : RunOptions}
    {session : Session} {failure : Failure}
    (h : (pipeline.run mapping document options).outcome session = .error failure)
    (repeats : ∀ c, failure.Repeats document c → kind c) : failure.DescribedWithin kind := by
  rw [pipeline.outcome_run] at h
  obtain refused | ⟨size, resolved, h⟩ := bind_eq_error_iff.mp h
  · exact (settles_resolveBatchSize _ _).of_error refused
  obtain refused | ⟨schema, declared, h⟩ := bind_eq_error_iff.mp h
  · exact (settles_schema within _).of_error refused
  have failed := map_eq_error_iff.mp h
  split at failed
  · cases failed
  rw [outcome_batchedStatements, ofJson_size] at failed
  have notText : failure.kind ≠ .text := by
    intro text
    obtain reading | ⟨_, _, _, _, _, rfl⟩ := kind_dataStatements failed
    · simp [text, readingKinds] at reading
    · cases text
  refine Failure.describedWithin_of_verbatim (Failure.ownBreaks_of_kind notText) ?_
  exact (showsWithin_dataStatements builtin within failed).imp fun c => Or.rec id (repeats c)

end Pipeline

end DocGraph
