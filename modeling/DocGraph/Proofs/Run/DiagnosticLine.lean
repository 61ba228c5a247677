import DocGraph.Proofs.Run.EntryPoints
import DocGraph.Proofs.Run.Shown

/-!
# How many lines a diagnostic takes

Diagnostics are meant to take one line, but texts stand in them that are shown as they are. So every
line break of a diagnostic can be traced back to what the run was given. It comes from the name of a
file, from a text of the mapping, from the one text of the document that a transform has refused, or
from the report of a character that no YAML text may have. If none of these breaks a line, the
command prints exactly one.

## Main definitions

* `RunTexts`: what a run is given.
* `RunTexts.BreakOrigin`: where a line break of a diagnostic comes from.
* `RunTexts.Plain`: there is nowhere for it to come from.
* `RunTexts.Shows`: what is said of the line breaks of a diagnostic.

## Main results

* `run_runOnFiles_access`: the run of the command, on any folder.
* `oneLine_or_shown`: the line breaks of diagnostics, after a run and after the command.
-/

namespace DocGraph

open Generation

variable {kind : Char → Prop}

/-! ## What a run is given -/

/-- What a run is given: the names that its sources have, and the texts of the mapping and of the
document, as far as they can be read. -/
structure RunTexts where
  names : List String := []
  mapping : Option String
  document : Option String

/-- Where a line break in the diagnostic of a failure comes from. -/
inductive RunTexts.BreakOrigin (texts : RunTexts) (failure : Failure) (c : Char) : Prop
  /-- From the name of a source. -/
  | name {name : String} (among : name ∈ texts.names) (mem : c ∈ name.toList)
  /-- The text of the mapping has a character that is not allowed, and is reported in two lines. -/
  | forbidden {text : String} {code position : Nat} (given : texts.mapping = some text)
      (refused : Yaml.read text = .error (.character code position)) (feed : c = '\n')
  /-- From a text in the mapping. -/
  | mapping {text inside : String} {value : Yaml.Value} (given : texts.mapping = some text)
      (reads : Yaml.read text = .ok value) (holds : value.HasText inside)
      (mem : c ∈ inside.toList)
  /-- From the text in the document that a transform has refused. -/
  | document {text : String} {document : Json} (given : texts.document = some text)
      (reads : Json.read text.toList = .ok document) (refused : failure.Repeats document c)

/-- No line breaks where a diagnostic could take one from: the text of the mapping has no character
that is not allowed, and no name and no text in the mapping or the document has a line break. -/
structure RunTexts.Plain (texts : RunTexts) : Prop where
  names : ∀ name ∈ texts.names, lineBreaks name = []
  allowed : ∀ text code position, texts.mapping = some text →
    Yaml.read text ≠ .error (.character code position)
  mapping : ∀ text value inside, texts.mapping = some text → Yaml.read text = .ok value →
    value.HasText inside → lineBreaks inside = []
  document : ∀ text value inside, texts.document = some text → Json.read text.toList = .ok value →
    value.HasText inside → lineBreaks inside = []

/-- The line breaks of a diagnostic are those of the texts that it shows as they are, and all of
them come from what the run was given. -/
structure RunTexts.Shows (texts : RunTexts) (failure : Failure) : Prop where
  breaks : lineBreaks failure.describe = failure.ownBreaks ++ failure.verbatim.flatMap lineBreaks
  origin : ∀ c ∈ lineBreaks failure.describe, texts.BreakOrigin failure c
  oneLine : texts.Plain → lineBreaks failure.describe = []

namespace RunTexts

variable {texts : RunTexts} {failure : Failure}

theorem Plain.not_breakOrigin (plain : texts.Plain) {c : Char} (breaks : c ∈ lineBreakChars) :
    ¬ texts.BreakOrigin failure c := by
  have absent {text : String} (none : lineBreaks text = []) : c ∉ text.toList := fun mem => by
    have among := mem_lineBreaks.mpr ⟨mem, breaks⟩
    rw [none] at among
    cases among
  intro origin
  cases origin with
  | name among mem => exact absent (plain.names _ among) mem
  | forbidden given refused => exact plain.allowed _ _ _ given refused
  | mapping given reads holds mem => exact absent (plain.mapping _ _ _ given reads holds) mem
  | document given reads refused =>
    obtain ⟨_, _, _, -, -, holds, mem⟩ := refused
    exact absent (plain.document _ _ _ given reads holds) mem

theorem Shows.of_describedWithin (h : failure.DescribedWithin (texts.BreakOrigin failure)) :
    texts.Shows failure := by
  refine ⟨failure.lineBreaks_describe, h, fun plain => ?_⟩
  refine List.eq_nil_iff_forall_not_mem.mpr fun c mem => ?_
  exact plain.not_breakOrigin (mem_lineBreaks.mp mem).2 (h c mem)

theorem breaksWithin_name {name : String} (among : name ∈ texts.names) :
    BreaksWithin (texts.BreakOrigin failure) name :=
  fun _ breaks => .name among (mem_lineBreaks.mp breaks).1

theorem settles_loadMapping (texts : RunTexts) (failure : Failure) {text : String}
    {source : String} (given : texts.mapping = some text)
    (named : BreaksWithin (texts.BreakOrigin failure) source) :
    Settles (GraphMapping.TextsWithin (texts.BreakOrigin failure))
      (Failure.DescribedWithin (texts.BreakOrigin failure)) (loadMapping text (some source)) := by
  refine DocGraph.settles_loadMapping named ?_ ?_
  · intro code position refused
    exact .forbidden given refused rfl
  · intro value reads inside holds c breaks
    exact .mapping given reads holds (mem_lineBreaks.mp breaks).1

/-- The mapping is loaded, then the document, then they are run. -/
theorem describedWithin_of_load {pipeline : Pipeline} (builtin : pipeline.registry.OnlyBuiltin)
    {text source : String} (given : texts.document = some text)
    (named : BreaksWithin (texts.BreakOrigin failure) source) {mapping : GraphMapping}
    (within : mapping.TextsWithin (texts.BreakOrigin failure)) {options : RunOptions}
    {session : Session}
    (h : (loadJson text (some source) >>= fun document =>
      (pipeline.run mapping document options).outcome session) = .error failure) :
    failure.DescribedWithin (texts.BreakOrigin failure) := by
  have loading : Settles (Json.read text.toList = .ok ·)
      (Failure.DescribedWithin (texts.BreakOrigin failure)) (loadJson text (some source)) :=
    settles_loadJson named
  obtain malformed | ⟨document, loaded, failed⟩ := bind_eq_error_iff.mp h
  · exact loading.of_error malformed
  · refine pipeline.describedWithin_run builtin within failed fun c repeats => ?_
    exact .document given (loading.of_ok loaded) repeats

end RunTexts

/-! ## The run on two texts -/

theorem Pipeline.outcome_runTexts (pipeline : Pipeline) (mapping document : String)
    (options : RunOptions) (session : Session) :
    (pipeline.runTexts mapping document options).outcome session =
      loadMapping mapping (some "mapping") >>= fun loaded =>
        loadJson document (some "input") >>= fun read =>
          (pipeline.run loaded read options).outcome session := by
  rw [Pipeline.runTexts]
  cases loadMapping mapping (some "mapping") with
  | error failure => rfl
  | ok loaded => cases loadJson document (some "input") <;> rfl

theorem shows_of_runTexts {pipeline : Pipeline} (builtin : pipeline.registry.OnlyBuiltin)
    {mapping document : String} {options : RunOptions} {session : Session} {failure : Failure}
    (h : (pipeline.runTexts mapping document options).outcome session = .error failure) :
    RunTexts.Shows { mapping, document } failure := by
  refine .of_describedWithin ?_
  have source : lineBreaks "mapping" = [] := lineBreaks_word rfl
  have other : lineBreaks "input" = [] := lineBreaks_word rfl
  rw [pipeline.outcome_runTexts] at h
  have loading := RunTexts.settles_loadMapping { mapping, document } failure rfl
    (.of_lineBreaks source)
  obtain malformed | ⟨loaded, found, failed⟩ := bind_eq_error_iff.mp h
  · exact loading.of_error malformed
  · exact RunTexts.describedWithin_of_load builtin rfl (.of_lineBreaks other)
      (loading.of_ok found) failed

/-! ## The command -/

/-- The text of a file in a folder. -/
def Folder.textOf (folder : Folder) (file : String) : Except Failure String := do
  let path := FilePath.ofText file
  let bytes ← (folder.read path).mapError fun fault => .unreadableFile (fault.message path) file
  (decodeText bytes).mapError fun fault => .unreadableFile fault.message file

def CommandArguments.options (arguments : CommandArguments) : RunOptions where
  schemaOnly := arguments.schemaOnly
  batchSize := arguments.batchSize.map .integer
  includeIndexes := if arguments.withIndexes then some true else none
  dropSchema := arguments.dropSchema

/-- The run that the command is asked for, on the texts of its files. -/
def CommandArguments.runIn (arguments : CommandArguments) (pipeline : Pipeline) (folder : Folder) :
    Except Failure RunResult := do
  let mappingText ← folder.textOf arguments.mapping
  let mapping ← loadMapping mappingText (some arguments.mapping)
  let documentText ← folder.textOf arguments.input
  let document ← loadJson documentText (some arguments.input)
  (pipeline.run mapping document arguments.options).alone

/-- What the command is given: the names of its files and their texts. -/
def CommandArguments.texts (arguments : CommandArguments) (folder : Folder) : RunTexts where
  names := [arguments.mapping, arguments.input]
  mapping := (folder.textOf arguments.mapping).toOption
  document := (folder.textOf arguments.input).toOption

section

variable {folder : Folder}

/-- Reading a file leaves the folder as it is. -/
theorem run_readFile_access (file : String) :
    (readFile Folder.access file).run folder = (folder.textOf file, folder) := by
  have read : Folder.access.read (.ofText file) folder =
      (folder.read (.ofText file), folder) := rfl
  simp only [readFile, Folder.textOf, StateT.run, bind, StateT.bind, read]
  cases folder.read (.ofText file) <;> rfl

theorem run_runOnFiles_access (pipeline : Pipeline) (arguments : CommandArguments) :
    (runOnFiles pipeline Folder.access arguments).run folder =
      (arguments.runIn pipeline folder, folder) := by
  rw [runOnFiles, run_bind_of_run (run_readFile_access _), CommandArguments.runIn]
  cases folder.textOf arguments.mapping with
  | error failure => rfl
  | ok mappingText =>
    change _ = (loadMapping mappingText (some arguments.mapping) >>= _, folder)
    simp only
    cases loadMapping mappingText (some arguments.mapping) with
    | error failure => rfl
    | ok mapping =>
      change _ = (folder.textOf arguments.input >>= _, folder)
      simp only
      rw [run_bind_of_run (run_readFile_access _)]
      cases folder.textOf arguments.input with
      | error failure => rfl
      | ok documentText =>
        change _ = (loadJson documentText (some arguments.input) >>= _, folder)
        simp only
        cases loadJson documentText (some arguments.input) <;> rfl

theorem lineBreaks_faultMessage {fault : FileFault} (worded : lineBreaks fault.numbered.2 = [])
    (path : FilePath) : lineBreaks (fault.message path) = [] := by
  unfold FileFault.message
  simp (disch := (apply all_toList_ofList; decide)) [lineBreaks_of_all, worded]

theorem settles_walk (place : Option (List String)) (parts : List String) :
    Settles (fun _ => True) (fun fault => lineBreaks fault.numbered.2 = [])
      (folder.walk place parts) := by
  fun_induction folder.walk place parts
  case case2 ih | case4 ih | case6 ih => exact ih
  case case1 => trivial
  all_goals exact lineBreaks_word rfl

theorem settles_read (path : FilePath) :
    Settles (fun _ => True) (fun fault => lineBreaks fault.numbered.2 = [])
      (folder.read path) := by
  unfold Folder.read Folder.placeOf
  refine (settles_walk _ _).andThen fun place => ?_
  split
  · exact lineBreaks_word rfl
  split
  · exact lineBreaks_word rfl
  split
  · trivial
  · exact lineBreaks_word rfl

/-- A file that cannot be read is named, and its path stands in quotes. -/
theorem settles_textOf {file : String} (within : BreaksWithin kind file) :
    Settles (fun _ => True) (Failure.DescribedWithin kind) (folder.textOf file) := by
  have unreadable {reason : String} (plain : lineBreaks reason = []) :
      (Failure.unreadableFile reason file).DescribedWithin kind :=
    Failure.describedWithin_of_words rfl rfl
      (List.forall_mem_singleton.mpr (.of_lineBreaks plain))
      (List.forall_mem_singleton.mpr within)
  refine ((settles_read _).mapError fun fault worded => ?_).andThen fun bytes => ?_
  · exact unreadable (lineBreaks_faultMessage worded _)
  · exact (Settles.of_any _).mapError fun fault _ => unreadable fault.lineBreaks_message

theorem shows_of_runIn {pipeline : Pipeline} (builtin : pipeline.registry.OnlyBuiltin)
    {arguments : CommandArguments} {failure : Failure}
    (h : arguments.runIn pipeline folder = .error failure) :
    (arguments.texts folder).Shows failure := by
  refine .of_describedWithin ?_
  have mappingFile : BreaksWithin ((arguments.texts folder).BreakOrigin failure)
      arguments.mapping := RunTexts.breaksWithin_name List.mem_cons_self
  have inputFile : BreaksWithin ((arguments.texts folder).BreakOrigin failure)
      arguments.input := RunTexts.breaksWithin_name (List.mem_cons_of_mem _ List.mem_cons_self)
  obtain unreadable | ⟨mappingText, given, h⟩ := bind_eq_error_iff.mp h
  · exact (settles_textOf mappingFile).of_error unreadable
  have loading := RunTexts.settles_loadMapping (arguments.texts folder) failure
    (toOption_eq_some_iff.mpr given) mappingFile
  obtain malformed | ⟨mapping, loaded, h⟩ := bind_eq_error_iff.mp h
  · exact loading.of_error malformed
  obtain unreadable | ⟨documentText, given, h⟩ := bind_eq_error_iff.mp h
  · exact (settles_textOf inputFile).of_error unreadable
  · exact RunTexts.describedWithin_of_load builtin (toOption_eq_some_iff.mpr given)
      inputFile (loading.of_ok loaded) h

/-- After a failure the command prints its diagnostic and nothing else, unless it breaks down. -/
theorem run_runCommand_error {pipeline : Pipeline} {words : List String}
    {arguments : CommandArguments} {failure : Failure}
    (asked : readArguments words = some (.run arguments))
    (failed : (runOnFiles pipeline Folder.access arguments).run folder = (.error failure, folder)) :
    (runCommand pipeline Folder.access words).run folder =
      (commandOutcome (.error failure), folder) := by
  rw [runCommand, asked]
  simp only
  rw [run_bind_of_run failed]
  cases failure <;> rfl

end

/-! ## All diagnostics -/

/-- With built-in transforms only, diagnostics show the line breaks of what a run was given, and no
others, whatever the texts of the mapping and the document and whatever is asked for. The command
prints the diagnostic of a run on its files and ends the line. -/
theorem oneLine_or_shown {pipeline : Pipeline} (builtin : pipeline.registry.OnlyBuiltin) :
    (∀ (mapping document : String) (options : RunOptions) (session : Session) (failure : Failure),
      (pipeline.runTexts mapping document options).outcome session = .error failure →
      RunTexts.Shows { mapping, document } failure) ∧
    ∀ (folder : Folder) (words : List String) (arguments : CommandArguments) (failure : Failure),
      readArguments words = some (.run arguments) →
      ((runOnFiles pipeline Folder.access arguments).run folder).1 = .error failure →
      (arguments.texts folder).Shows failure ∧
        (failure.breakdown? = none →
          (runCommand pipeline Folder.access words).run folder =
            (.ok { exitCode := 1, output := "", errors := failure.describe ++ "\n" }, folder)) := by
  refine ⟨fun _ _ _ _ _ => shows_of_runTexts builtin, ?_⟩
  intro folder words arguments failure asked failed
  have run := @run_runOnFiles_access folder pipeline arguments
  rw [run] at failed
  refine ⟨shows_of_runIn builtin failed, fun reported => ?_⟩
  rw [run_runCommand_error asked (run.trans (congrArg (·, folder) failed)), commandOutcome_error,
    reported]

/-- Items with a flag that is to be a truth value. One item has a flag that is none, in two lines. -/
def flaggedItems : RunInputs where
  mapping := "tags:\n  Item:\n    from: items\n    properties:\n" ++
    "      - json: flag\n        type: BOOL\n        transform: to_boolean\n"
  document := "\x7b\"items\": [\x7b\"id\": 1, \"flag\": \"no\\nidea\"\x7d]\x7d"

def flaggedFolder : Folder where
  files := [(["flags.yaml"], utf8Bytes flaggedItems.mapping),
    (["flags.json"], utf8Bytes flaggedItems.document)]

/-- The run on the items fails, with a diagnostic in two lines. -/
theorem refused_flaggedItems : (runOfTexts {} flaggedItems "mapping" "input").mapError
    (fun failure => (failure.breakdown?, failure.describe)) =
      .error (none, "Transform Error: Invalid boolean value (no\nidea)") := by
  decide +kernel

theorem oneLine_or_shown_flaggedItems :
    let asked := flaggedItems.arguments "flags.yaml" "flags.json"
    ∃ failure failure' : Failure,
      (({} : Pipeline).runTexts flaggedItems.mapping flaggedItems.document {}).outcome {} =
        .error failure ∧
      RunTexts.Shows { mapping := flaggedItems.mapping, document := flaggedItems.document }
        failure ∧
      readArguments ["flags.yaml", "flags.json"] = some (.run asked) ∧
      ((runOnFiles {} Folder.access asked).run flaggedFolder).1 = .error failure' ∧
      (asked.texts flaggedFolder).Shows failure' ∧ failure'.breakdown? = none ∧
      (runCommand {} Folder.access ["flags.yaml", "flags.json"]).run flaggedFolder =
        (.ok { exitCode := 1, output := "", errors := failure'.describe ++ "\n" },
          flaggedFolder) := by
  intro asked
  have read : readArguments ["flags.yaml", "flags.json"] = some (.run asked) := by decide +kernel
  have mapping : flaggedFolder.Holds "flags.yaml" flaggedItems.mapping := rfl
  have document : flaggedFolder.Holds "flags.json" flaggedItems.document := rfl
  have run := run_runOnFiles {} mapping (by decide +kernel) document (by decide +kernel)
  obtain ⟨failure, failed, same⟩ := mapError_eq_error_iff.mp refused_flaggedItems
  obtain ⟨reported, -⟩ := Prod.mk.inj same
  -- From files the texts have other sources, but the run fails on them too.
  have other := sameButDiagnostics_runOfTexts {} flaggedItems "mapping" "flags.yaml" "input"
    "flags.json"
  rw [SameButDiagnostics, failed] at other
  obtain ⟨failure', failed', kind⟩ := mapError_eq_error_iff.mp other.symm
  have reported' : failure'.breakdown? = none := kind.trans reported
  rw [← alone_runTexts] at failed
  have onFile : ((runOnFiles {} Folder.access asked).run flaggedFolder).1 = .error failure' := by
    rw [run, failed']
  have builtin : ({} : Pipeline).registry.OnlyBuiltin := onlyBuiltin_builtin
  obtain ⟨onTexts, onFiles⟩ := oneLine_or_shown builtin
  obtain ⟨shows, printed⟩ := onFiles flaggedFolder _ asked failure' read onFile
  exact ⟨failure, failure', failed, onTexts _ _ _ _ failure failed, read, onFile, shows, reported',
    printed reported'⟩

/-- Without exceptions the statement would be wrong: a text that is no truth value is shown with its
line breaks. -/
theorem not_forall_oneLine :
    ¬ ∀ (mapping document : String) (options : RunOptions) (session : Session)
      (failure : Failure),
      (({} : Pipeline).runTexts mapping document options).outcome session = .error failure →
      failure.breakdown? = none → lineBreaks failure.describe = [] := by
  intro always
  obtain ⟨failure, failed, same⟩ := mapError_eq_error_iff.mp refused_flaggedItems
  obtain ⟨reported, text⟩ := Prod.mk.inj same
  rw [← alone_runTexts] at failed
  have oneLine := always _ _ _ _ failure failed reported
  rw [text] at oneLine
  revert oneLine
  decide

end DocGraph
