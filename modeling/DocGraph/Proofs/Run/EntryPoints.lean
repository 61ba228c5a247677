import DocGraph.Proofs.Run.Asking
import DocGraph.Proofs.Run.Isolation
import DocGraph.Proofs.Run.Phases
import DocGraph.Proofs.Text.Utf8
import DocGraph.Run.Command

/-!
# The command and the service agree

The command and the service are two ways to the same run. One reads a mapping and a document from
files and prints statements, the other has them in a request and answers with JSON. On the same
texts both succeed with the same statements, or both fail, or both break down. The service for
schemas gives those of the statements that declare the schema.

## Main definitions

* `RunInputs`: what a run is asked for, in either way.
* `Folder.Holds`: a file has a text.
* `EntryPointsAgree`: what the command leaves behind against what the service answers.

## Main results

* `run_runOnFiles`: the command comes to the run that the service comes to, but for the names
  of sources in failures.
* `entryPoints_agree`: the command and the service agree.
-/

namespace DocGraph

open Generation

/-! ## Failures without the names of sources -/

/-- What ends a run without a diagnostic, if the failure is of this kind. -/
def Failure.breakdown? : Failure → Option Breakdown
  | .breakdown cause => some cause
  | _ => none

/-- Two results are the same up to diagnostics: both succeed with the same, both break down with
the same, or both have a diagnostic. -/
def SameButDiagnostics {α : Type} (x y : Except Failure α) : Prop :=
  x.mapError Failure.breakdown? = y.mapError Failure.breakdown?

namespace SameButDiagnostics

variable {α β : Type} {x y : Except Failure α}

theorem refl (x : Except Failure α) : SameButDiagnostics x x := rfl

theorem cases (h : SameButDiagnostics x y) :
    (∃ a, x = .ok a ∧ y = .ok a) ∨
      ∃ f g, x = .error f ∧ y = .error g ∧ f.breakdown? = g.breakdown? := by
  cases x with
  | ok a =>
    cases y with
    | ok b =>
      obtain rfl : a = b := Except.ok.inj h
      exact .inl ⟨a, rfl, rfl⟩
    | error g => exact absurd h nofun
  | error f =>
    cases y with
    | ok b => exact absurd h nofun
    | error g => exact .inr ⟨f, g, rfl, rfl, Except.error.inj h⟩

theorem bind (h : SameButDiagnostics x y) {next next' : α → Except Failure β}
    (each : ∀ a, SameButDiagnostics (next a) (next' a)) :
    SameButDiagnostics (x >>= next) (y >>= next') := by
  rcases h.cases with ⟨a, rfl, rfl⟩ | ⟨f, g, rfl, rfl, same⟩
  · exact each a
  · exact congrArg Except.error same

theorem mapError {ε : Type} (result : Except ε α) {f g : ε → Failure}
    (same : ∀ fault, (f fault).breakdown? = (g fault).breakdown?) :
    SameButDiagnostics (result.mapError f) (result.mapError g) := by
  cases result with
  | ok a => rfl
  | error fault => exact congrArg Except.error (same fault)

end SameButDiagnostics

theorem sameButDiagnostics_loadMapping (text : String) (source other : Option String) :
    SameButDiagnostics (loadMapping text source) (loadMapping text other) := by
  rw [loadMapping_eq_bind, loadMapping_eq_bind]
  refine .bind ?_ fun value => .refl _
  unfold loadYaml loadYamlBy readYaml
  cases Yaml.read text with
  | ok value => exact .refl _
  | error fault => cases fault <;> rfl

theorem sameButDiagnostics_loadJson (text : String) (source other : Option String) :
    SameButDiagnostics (loadJson text source) (loadJson text other) :=
  .mapError _ fun _ => rfl

/-! ## What is asked for -/

/-- What a run is asked for, in either way: on which texts, and how. -/
structure RunInputs where
  mapping : String
  document : String
  schemaOnly : Bool := false
  batchSize : Option Int := none
  withIndexes : Bool := false

namespace RunInputs

variable (inputs : RunInputs)

/-- Indexes are asked for, or it is left to the configuration whether there are any. -/
def includeIndexes : Option Bool := if inputs.withIndexes then some true else none

def options : RunOptions where
  schemaOnly := inputs.schemaOnly
  batchSize := inputs.batchSize.map .integer
  includeIndexes := inputs.includeIndexes

/-- The run asked of the command, with the texts in files and the statements printed. -/
def arguments (mappingFile documentFile : String) : CommandArguments where
  mapping := mappingFile
  input := documentFile
  schemaOnly := inputs.schemaOnly
  batchSize := inputs.batchSize
  withIndexes := inputs.withIndexes

def request : GenerateRequest where
  mapping := inputs.mapping
  document := inputs.document
  schemaOnly := inputs.schemaOnly
  batchSize := inputs.batchSize
  includeIndexes := inputs.includeIndexes

def schemaRequest : SchemaRequest where
  mapping := inputs.mapping
  includeIndexes := inputs.includeIndexes

end RunInputs

/-! ## The command -/

/-- A file has a text: its bytes encode the text. -/
def Folder.Holds (folder : Folder) (file text : String) : Prop :=
  folder.read (.ofText file) = .ok (utf8Bytes text)

theorem run_bind_of_run {σ α β : Type} {step : StateM σ α} {s s' : σ} {a : α}
    (h : step.run s = (a, s')) (next : α → StateM σ β) :
    (step >>= next).run s = (next a).run s' := by
  rw [StateT.run_bind, h]
  rfl

theorem run_readFile {folder : Folder} {file text : String} (h : folder.Holds file text)
    (noReturn : '\r' ∉ text.toList) :
    (readFile Folder.access file).run folder = (.ok text, folder) := by
  have read : Folder.access.read (.ofText file) folder = (.ok (utf8Bytes text), folder) :=
    congrArg (·, folder) h
  have decoded := decodeText_utf8Bytes noReturn
  simp only [readFile, StateT.run, bind, StateT.bind, read, decoded]
  rfl

/-- The run on two texts, whose sources have names. -/
def runOfTexts (pipeline : Pipeline) (inputs : RunInputs) (source other : String) :
    Except Failure RunResult := do
  let mapping ← loadMapping inputs.mapping (some source)
  let document ← loadJson inputs.document (some other)
  (pipeline.run mapping document inputs.options).alone

section

variable (pipeline : Pipeline) {inputs : RunInputs} {folder : Folder}
  {mappingFile documentFile : String}

theorem sameButDiagnostics_runOfTexts (inputs : RunInputs) (source source' other other' : String) :
    SameButDiagnostics (runOfTexts pipeline inputs source other)
      (runOfTexts pipeline inputs source' other') :=
  .bind (sameButDiagnostics_loadMapping _ _ _) fun _ =>
    .bind (sameButDiagnostics_loadJson _ _ _) fun _ => .refl _

/-- On files with its texts the command comes to the run, and leaves the files as they are. -/
theorem run_runOnFiles (mapping : folder.Holds mappingFile inputs.mapping)
    (noReturn : '\r' ∉ inputs.mapping.toList)
    (document : folder.Holds documentFile inputs.document)
    (noReturn' : '\r' ∉ inputs.document.toList) :
    (runOnFiles pipeline Folder.access (inputs.arguments mappingFile documentFile)).run folder =
      (runOfTexts pipeline inputs mappingFile documentFile, folder) := by
  have first := run_readFile mapping noReturn
  have second := run_readFile document noReturn'
  rw [runOnFiles, RunInputs.arguments, run_bind_of_run first, runOfTexts]
  simp only
  cases loadMapping inputs.mapping (some mappingFile) with
  | error failure => rfl
  | ok loaded =>
    simp only
    rw [run_bind_of_run second]
    simp only
    cases loadJson inputs.document (some documentFile) with
    | error failure => rfl
    | ok read => rfl

theorem alone_runTexts (inputs : RunInputs) :
    (pipeline.runTexts inputs.mapping inputs.document inputs.options).alone =
      runOfTexts pipeline inputs "mapping" "input" := by
  rw [Pipeline.runTexts, runOfTexts]
  cases loadMapping inputs.mapping (some "mapping") with
  | error failure => rfl
  | ok mapping =>
    cases loadJson inputs.document (some "input") with
    | error failure => rfl
    | ok document => rfl

end

/-! ## What is printed -/

theorem append_ne_empty (s : String) {t : String} (h : t ≠ "") : s ++ t ≠ "" := by
  simp [h]

theorem SchemaStatement.text_ne_empty (statement : SchemaStatement) : statement.text ≠ "" := by
  cases statement with
  | create => exact append_ne_empty _ (by decide)
  | createIndex => exact append_ne_empty _ (append_ne_empty _ (by decide))
  | dropIndex => exact append_ne_empty _ (by decide)
  | drop => exact append_ne_empty _ (by decide)

theorem DataStatement.text_ne_empty (statement : DataStatement) : statement.text ≠ "" := by
  cases statement with
  | insertVertices | upsertVertex | insertEdges => exact append_ne_empty _ (by decide)

theorem RunResult.statements_ne_empty {result : RunResult} {text : String}
    (h : text ∈ result.statements) : text ≠ "" := by
  simp only [RunResult.statements, List.mem_append, List.mem_map] at h
  rcases h with (⟨s, -, rfl⟩ | ⟨s, -, rfl⟩) | ⟨s, -, rfl⟩
  · exact s.text_ne_empty
  · exact s.text_ne_empty
  · exact s.text_ne_empty

theorem joinText_ne_empty {parts : List String} (some : parts ≠ [])
    (each : ∀ part ∈ parts, part ≠ "") (delimiter : String) : joinText delimiter parts ≠ "" := by
  obtain ⟨part, rest, rfl⟩ := List.exists_cons_of_ne_nil some
  have first := each part (by simp)
  cases rest with
  | nil => simpa [joinText] using first
  | cons next rest =>
    simp [joinText, first]

/-- The statements of a run are printed one after the other, with a line break after the last
one. -/
theorem printedText_eq (result : RunResult) :
    printedText result = if result.statements = [] then "" else
      joinText "\n" result.statements ++ "\n" := by
  rw [printedText, RunResult.text]
  by_cases none : result.statements = []
  · simp [none, joinText]
  · rw [if_neg none, if_neg (joinText_ne_empty none (fun _ => RunResult.statements_ne_empty) _)]

/-! ## The command and the service -/

section

variable (pipeline : Pipeline) {inputs : RunInputs} {folder : Folder}
  {mappingFile documentFile : String}

/-- What the command leaves behind after a run. -/
def commandOutcome : Except Failure RunResult → Except Breakdown CommandOutcome
  | .ok result => .ok { exitCode := 0, output := printedText result }
  | .error (.breakdown cause) => .error cause
  | .error failure => .ok { exitCode := 1, errors := failure.describe ++ "\n" }

def serviceAnswer : Except Failure RunResult → Response
  | .ok result => Service.success result.statements result.schema.length result.data.length
  | .error failure => Service.failed "Generation" failure

theorem run_runCommand {words : List String}
    (asked : readArguments words = some (.run (inputs.arguments mappingFile documentFile)))
    (mapping : folder.Holds mappingFile inputs.mapping)
    (noReturn : '\r' ∉ inputs.mapping.toList)
    (document : folder.Holds documentFile inputs.document)
    (noReturn' : '\r' ∉ inputs.document.toList) :
    (runCommand pipeline Folder.access words).run folder =
      (commandOutcome (runOfTexts pipeline inputs mappingFile documentFile), folder) := by
  have run := run_runOnFiles pipeline mapping noReturn document noReturn'
  rw [runCommand, asked]
  simp only
  rw [run_bind_of_run run]
  cases runOfTexts pipeline inputs mappingFile documentFile with
  | ok result => rfl
  | error failure => cases failure <;> rfl

theorem answer_generate {body : Option String}
    (sent : Service.readBody GenerateRequest.ofEntries body = .ok inputs.request)
    (session : Session) :
    ((Service.answer pipeline ⟨"POST", "/api/generate", body⟩).run session).1 =
      serviceAnswer (runOfTexts pipeline inputs "mapping" "input") := by
  have route : Service.routeOf "/api/generate" = "/api/generate" := by decide +kernel
  have answered : Service.answer pipeline ⟨"POST", "/api/generate", body⟩ =
      Service.generate pipeline inputs.request := by
    simp only [Service.answer, route, sent]
  let step := pipeline.runTexts inputs.mapping inputs.document inputs.options
  have run : StateT.run step.run session =
      (runOfTexts pipeline inputs "mapping" "input", step.after session) := by
    refine Prod.ext ?_ rfl
    exact ((pipeline.independent_runTexts _ _ _).outcome_eq session).trans
      (alone_runTexts pipeline inputs)
  rw [answered, Service.generate]
  refine (congrArg Prod.fst (run_bind_of_run run _)).trans ?_
  cases runOfTexts pipeline inputs "mapping" "input" with
  | ok result => rfl
  | error failure => rfl

theorem answer_schema {body : Option String}
    (sent : Service.readBody SchemaRequest.ofEntries body = .ok inputs.schemaRequest)
    (session : Session) :
    ((Service.answer pipeline ⟨"POST", "/api/schema", body⟩).run session).1 =
      Service.schema pipeline inputs.schemaRequest := by
  have route : Service.routeOf "/api/schema" = "/api/schema" := by decide +kernel
  have answered : Service.answer pipeline ⟨"POST", "/api/schema", body⟩ =
      pure (Service.schema pipeline inputs.schemaRequest) := by
    simp only [Service.answer, route, sent]
  rw [answered]
  rfl

/-- A run that succeeds removes nothing, and the service for schemas answers with its schema. -/
theorem schema_of_runOfTexts {result : RunResult}
    (h : runOfTexts pipeline inputs "mapping" "input" = .ok result) :
    result.cleanup = [] ∧ Service.schema pipeline inputs.schemaRequest =
      Service.success (result.schema.map SchemaStatement.text) result.schema.length 0 := by
  obtain ⟨mapping, loaded, h⟩ := bind_eq_ok_iff.mp h
  obtain ⟨document, -, h⟩ := bind_eq_ok_iff.mp h
  have phases := (pipeline.outcome_run mapping document inputs.options {}).symm.trans h
  obtain ⟨size, -, h⟩ := bind_eq_ok_iff.mp phases
  obtain ⟨schema, declared, h⟩ := bind_eq_ok_iff.mp h
  obtain ⟨data, -, rfl⟩ := map_eq_ok_iff.mp h
  refine ⟨rfl, ?_⟩
  have statements : (loadMapping inputs.schemaRequest.mapping (some "mapping") >>= fun mapping =>
      pipeline.schema mapping inputs.schemaRequest.includeIndexes) = .ok schema :=
    bind_eq_ok_iff.mpr ⟨mapping, loaded, declared⟩
  -- Not `rw`: it would derive an equation of `Service.schema` for seconds.
  delta Service.schema
  simp only [statements]

end

/-! ## Agreement -/

/-- What the command leaves behind agrees with what the service answers. -/
structure EntryPointsAgree (pipeline : Pipeline) (inputs : RunInputs) (folder : Folder)
    (left : Except Breakdown CommandOutcome × Folder) (answer schemaAnswer : Response) :
    Prop where
  /-- No file is written. -/
  untouched : left.2 = folder
  success_iff : (∃ outcome, left.1 = .ok outcome ∧ outcome.exitCode = 0) ↔ answer.status = 200
  failure_iff : (∃ outcome, left.1 = .ok outcome ∧ outcome.exitCode = 1) ↔ answer.status = 400
  /-- Nothing is printed after a failure. -/
  silent : ∀ outcome, left.1 = .ok outcome → outcome.exitCode = 1 → outcome.output = ""
  /-- What is printed are the statements of the answer. The first of them declare the schema, and
  are those of the service for schemas; the others write the data of the run. -/
  statements : answer.status = 200 → ∃ result : RunResult,
    (pipeline.runTexts inputs.mapping inputs.document inputs.options).alone = .ok result ∧
      answer = Service.success result.statements result.schema.length result.data.length ∧
      left.1 = .ok {
        exitCode := 0
        output := if result.statements = [] then "" else
          joinText "\n" result.statements ++ "\n" } ∧
      schemaAnswer = Service.success (result.statements.take result.schema.length)
        result.schema.length 0 ∧
      result.statements.drop result.schema.length = result.data.map DataStatement.text

theorem status_failed (activity : String) (failure : Failure) :
    (Service.failed activity failure).status = match failure.breakdown? with
      | some _ => 500
      | none => 400 := by
  cases failure <;> rfl

theorem commandOutcome_error (failure : Failure) :
    commandOutcome (.error failure) = match failure.breakdown? with
      | some cause => .error cause
      | none => .ok { exitCode := 1, errors := failure.describe ++ "\n" } := by
  cases failure <;> rfl

/-- After a run that succeeds both succeed, with its statements. -/
theorem agree_of_ok {pipeline : Pipeline} {inputs : RunInputs} {result : RunResult}
    (ran : runOfTexts pipeline inputs "mapping" "input" = .ok result) (folder : Folder) :
    EntryPointsAgree pipeline inputs folder (commandOutcome (.ok result), folder)
      (serviceAnswer (.ok result)) (Service.schema pipeline inputs.schemaRequest) := by
  obtain ⟨noCleanup, schema⟩ := schema_of_runOfTexts pipeline ran
  have statements : result.statements = result.schema.map SchemaStatement.text ++
      result.data.map DataStatement.text := by
    rw [RunResult.statements, noCleanup]
    rfl
  refine ⟨rfl, iff_of_true ⟨_, rfl, rfl⟩ rfl, iff_of_false ?_ nofun, ?_,
    fun _ => ⟨result, ?_, rfl, ?_, ?_, ?_⟩⟩
  · rintro ⟨outcome, ⟨⟩, exitCode⟩
    cases exitCode
  · rintro outcome ⟨⟩ exitCode
    cases exitCode
  · rw [alone_runTexts, ran]
  · rw [commandOutcome, printedText_eq]
  · rw [schema, statements, ← List.length_map SchemaStatement.text, List.take_left]
  · rw [statements, ← List.length_map SchemaStatement.text, List.drop_left]

/-- After a run that fails both fail, or break down, in the same way. -/
theorem agree_of_error {failure failure' : Failure}
    (same : failure.breakdown? = failure'.breakdown?) (pipeline : Pipeline) (inputs : RunInputs)
    (folder : Folder) (schemaAnswer : Response) :
    EntryPointsAgree pipeline inputs folder (commandOutcome (.error failure), folder)
      (serviceAnswer (.error failure')) schemaAnswer := by
  have status := status_failed "Generation" failure'
  rw [commandOutcome_error, serviceAnswer, same]
  cases broken : failure'.breakdown? with
  | some cause =>
    have status : (Service.failed "Generation" failure').status = 500 := by rw [status, broken]
    refine ⟨rfl, iff_of_false ?_ (by simp [status]), iff_of_false ?_ (by simp [status]), ?_,
      by simp [status]⟩
    · rintro ⟨outcome, ⟨⟩, -⟩
    · rintro ⟨outcome, ⟨⟩, -⟩
    · rintro outcome ⟨⟩
  | none =>
    have status : (Service.failed "Generation" failure').status = 400 := by rw [status, broken]
    refine ⟨rfl, iff_of_false ?_ (by simp [status]), iff_of_true ⟨_, rfl, rfl⟩ status, ?_,
      by simp [status]⟩
    · rintro ⟨outcome, ⟨⟩, exitCode⟩
      cases exitCode
    · rintro outcome ⟨⟩ -
      rfl

/-- The command and the service agree on every run: whatever words ask for it on files with its
texts, and whatever bodies ask for it. It can be asked for in both ways. -/
theorem entryPoints_agree (size : Int) (indexes : Bool) (inputs : RunInputs)
    (noReturn : '\r' ∉ inputs.mapping.toList) (noReturn' : '\r' ∉ inputs.document.toList)
    (folder : Folder) (mappingFile documentFile : String)
    (mapping : folder.Holds mappingFile inputs.mapping)
    (document : folder.Holds documentFile inputs.document) :
    let pipeline : Pipeline := { config := { batchSize := size, includeIndexes := indexes } }
    let asked := some (.run (inputs.arguments mappingFile documentFile))
    (∃ words, readArguments words = asked) ∧
      (∃ body, Service.readBody GenerateRequest.ofEntries body = .ok inputs.request) ∧
      (∃ body, Service.readBody SchemaRequest.ofEntries body = .ok inputs.schemaRequest) ∧
      ∀ words body schemaBody session session', readArguments words = asked →
        Service.readBody GenerateRequest.ofEntries body = .ok inputs.request →
        Service.readBody SchemaRequest.ofEntries schemaBody = .ok inputs.schemaRequest →
        EntryPointsAgree pipeline inputs folder
          ((runCommand pipeline Folder.access words).run folder)
          ((Service.answer pipeline ⟨"POST", "/api/generate", body⟩).run session).1
          ((Service.answer pipeline ⟨"POST", "/api/schema", schemaBody⟩).run session').1 := by
  intro pipeline asked
  refine ⟨⟨_, readArguments_words _⟩, ⟨_, readBody_body _⟩, ⟨_, readBody_schemaBody _⟩, ?_⟩
  intro words body schemaBody session session' read sent schemaSent
  rw [run_runCommand pipeline read mapping noReturn document noReturn',
    answer_generate pipeline sent, answer_schema pipeline schemaSent]
  -- The texts have other sources in the two ways, which only the diagnostics tell.
  rcases (sameButDiagnostics_runOfTexts pipeline inputs mappingFile "mapping" documentFile
    "input").cases with ⟨result, ran, ran'⟩ | ⟨failure, failure', failed, failed', same⟩
  · rw [ran, ran']
    exact agree_of_ok ran' folder
  · rw [failed, failed']
    exact agree_of_error same pipeline inputs folder _

/-- A run on a shelf with one book. -/
def shelf : RunInputs where
  mapping := "tags:\n  Book:\n    from: books\n    key: id\n    properties:\n" ++
    "      - json: title\n        type: STRING\n"
  document := "\x7b\"books\": [\x7b\"id\": 1, \"title\": \"Emma\"\x7d]\x7d"

def shelfFolder : Folder :=
  ⟨[(["shelf.yaml"], utf8Bytes shelf.mapping), (["shelf.json"], utf8Bytes shelf.document)]⟩

theorem entryPoints_agree_shelf :
    let pipeline : Pipeline := { config := { batchSize := 500, includeIndexes := false } }
    let words := (shelf.arguments "shelf.yaml" "shelf.json").words
    let left := (runCommand pipeline Folder.access words).run shelfFolder
    let answer := ((Service.answer pipeline
      ⟨"POST", "/api/generate", some shelf.request.body⟩).run {}).1
    let schemaAnswer := ((Service.answer pipeline
      ⟨"POST", "/api/schema", some shelf.schemaRequest.body⟩).run {}).1
    ('\r' ∉ shelf.mapping.toList ∧ '\r' ∉ shelf.document.toList ∧
      shelfFolder.Holds "shelf.yaml" shelf.mapping ∧
      shelfFolder.Holds "shelf.json" shelf.document) ∧
    answer.status = 200 ∧ EntryPointsAgree pipeline shelf shelfFolder left answer schemaAnswer := by
  intro pipeline words left answer schemaAnswer
  have noReturn : '\r' ∉ shelf.mapping.toList := by decide +kernel
  have noReturn' : '\r' ∉ shelf.document.toList := by decide +kernel
  have mapping : shelfFolder.Holds "shelf.yaml" shelf.mapping := rfl
  have document : shelfFolder.Holds "shelf.json" shelf.document := rfl
  have ran : (serviceAnswer (runOfTexts pipeline shelf "mapping" "input")).status = 200 := by
    decide +kernel
  have answered : answer = serviceAnswer (runOfTexts pipeline shelf "mapping" "input") :=
    answer_generate pipeline (readBody_body _) {}
  obtain ⟨-, -, -, agree⟩ := entryPoints_agree 500 false shelf noReturn noReturn' shelfFolder
    "shelf.yaml" "shelf.json" mapping document
  exact ⟨⟨noReturn, noReturn', mapping, document⟩, answered ▸ ran,
    agree _ _ _ {} {} (readArguments_words _) (readBody_body _) (readBody_schemaBody _)⟩

end DocGraph
