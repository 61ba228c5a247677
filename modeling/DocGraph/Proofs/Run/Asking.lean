import DocGraph.Proofs.Definition.Dump
import DocGraph.Proofs.Json.Written
import DocGraph.Run.Arguments
import DocGraph.Run.Service

/-!
# How a run is asked for

Whatever may be asked of the command can be written on a command line, and whatever may be asked
of the service can be written as the body of a request.

## Main definitions

* `CommandArguments.words`: words that ask the command for a run.
* `GenerateRequest.body`, `SchemaRequest.body`: bodies that ask the service for statements.

## Main results

* `readArguments_words`: the words are read as what they ask for.
* `readBody_body`: a body is read as what it asks for.
-/

namespace DocGraph

open Yaml (Value)

/-! ## Single words -/

/-- A word with an equals sign is none without. -/
theorem attached_ne {word : String} (h : '=' ∉ word.toList) (name value : String) :
    name ++ "=" ++ value ≠ word := by
  rintro rfl
  exact h (by simp)

theorem cutAtEquals_attached {name : String} (h : '=' ∉ name.toList) (value : String) :
    cutAtEquals (name ++ "=" ++ value) = (name, some value) := by
  have chars : (name ++ "=" ++ value).toList = name.toList ++ '=' :: value.toList := by simp
  have inside : ∀ c ∈ name.toList, (c != '=') = true := by
    intro c mem
    simpa using fun same : c = '=' => h (same ▸ mem)
  rw [cutAtEquals, chars, List.dropWhile_append_of_pos inside, List.takeWhile_append_of_pos inside]
  simp

/-- A word that starts with the name of an option and an equals sign is this option. -/
theorem classifyWord?_attached {name : String} {option : CommandOption}
    (named : CommandOption.named.lookup name = some option) (starts : startsText "-" name = true)
    (value : String) :
    classifyWord? (name ++ "=" ++ value) = some (.option option name (some value)) := by
  have noEquals : ∀ entry ∈ CommandOption.named, '=' ∉ entry.1.toList := by decide
  obtain ⟨before, later, entries, -⟩ := List.lookup_eq_some_iff.mp named
  have cut := cutAtEquals_attached (noEquals (name, option) (by simp [entries])) value
  have whole : CommandOption.named.lookup (name ++ "=" ++ value) = none := by
    rw [List.lookup_eq_none_iff]
    intro entry mem
    simpa using attached_ne (noEquals entry mem) name value
  have dash : name ++ "=" ++ value ≠ "-" := attached_ne (by decide) name value
  have front : startsText "-" (name ++ "=" ++ value) = true := by
    rw [startsText, List.isPrefixOf_iff_prefix] at starts ⊢
    rw [String.append_assoc, String.toList_append]
    exact starts.trans (List.prefix_append _ _)
  simp only [classifyWord?, cut, front, dash, whole, named, Option.bind, Bool.not_true,
    decide_false, Bool.or_self, Bool.false_eq_true, if_false]

/-! ## Command lines -/

/-- Words set what a command line asks for, whatever stands after them. -/
def Sets (words : List String) (change : CommandState → CommandState) : Prop :=
  ∀ state rest, (classifyWords? (words ++ rest)).bind (readWords? none state) =
    (classifyWords? rest).bind (readWords? none (change state))

namespace Sets

variable {words others : List String} {change further : CommandState → CommandState}

theorem nil : Sets [] id := fun _ _ => rfl

theorem append (h : Sets words change) (h' : Sets others further) :
    Sets (words ++ others) (further ∘ change) := by
  intro state rest
  rw [List.append_assoc, h, h']
  rfl

/-- A word for an option, with its value if it takes one, sets what the option is about. -/
theorem option {word name : String} {option : CommandOption} {attached : Option String}
    (notSeparator : word ≠ "--") (asked : option ≠ .help)
    (classified : classifyWord? word = some (.option option name attached))
    (valued : option.takesValue = attached.isSome)
    (taken : ∀ state : CommandState,
      state.takeOption? option (attached.getD "") = some (change state)) :
    Sets [word] change := by
  intro state rest
  rw [List.singleton_append, classifyWords?, if_neg notSeparator, classified]
  cases classifyWords? rest with
  | none => rfl
  | some words =>
    have here := taken state
    cases attached with
    | none =>
      rw [Option.getD_none] at here
      simp only [bind, Option.bind, pure, readWords?, asked, if_false, valued, Option.isSome_none,
        here]
    | some value =>
      rw [Option.getD_some] at here
      simp only [bind, Option.bind, pure, readWords?, asked, if_false, valued, Option.isSome_some,
        here]

theorem attached {name value : String} {option : CommandOption}
    (named : CommandOption.named.lookup name = some option) (starts : startsText "-" name = true)
    (valued : option.takesValue = true)
    (taken : ∀ state : CommandState, state.takeOption? option value = some (change state)) :
    Sets [name ++ "=" ++ value] change := by
  have asked : option ≠ .help := by
    rintro rfl
    cases valued
  exact .option (attached_ne (by decide) name value) asked
    (classifyWord?_attached named starts value) valued taken

theorem flag (asked : Bool) (h : Sets words change) :
    Sets (if asked then words else []) (if asked then change else id) := by
  cases asked with
  | true => exact h
  | false => exact nil

theorem optional {α : Type} {word : α → String} {change : α → CommandState → CommandState}
    (h : ∀ a, Sets [word a] (change a)) (value : Option α) :
    Sets (value.map word).toList ((value.map change).getD id) := by
  cases value with
  | none => exact nil
  | some a => exact h a

end Sets

namespace CommandArguments

/-- Words that ask for a run. Two dashes keep the names of files apart from options. -/
def words (arguments : CommandArguments) : List String :=
  (if arguments.schemaOnly then ["--schema-only"] else [])
    ++ (arguments.batchSize.map fun n => "--batch-size" ++ "=" ++ toString n).toList
    ++ (if arguments.withIndexes then ["--with-indexes"] else [])
    ++ (if arguments.dropSchema then ["--drop-schema"] else [])
    ++ (arguments.output.map fun file => "--output" ++ "=" ++ file).toList
    ++ ["--", arguments.mapping, arguments.input]

end CommandArguments

/-- The words for a run are read as what they ask for. -/
theorem readArguments_words (arguments : CommandArguments) :
    readArguments arguments.words = some (.run arguments) := by
  have schemaOnly : Sets ["--schema-only"]
      ({ · with schemaOnly := true, afterPosition := false }) := by
    have word : classifyWord? "--schema-only" =
        some (.option .schemaOnly "--schema-only" none) := by decide +kernel
    exact .option (by decide) (by decide) word rfl fun _ => rfl
  have withIndexes : Sets ["--with-indexes"]
      ({ · with withIndexes := true, afterPosition := false }) := by
    have word : classifyWord? "--with-indexes" =
        some (.option .withIndexes "--with-indexes" none) := by decide +kernel
    exact .option (by decide) (by decide) word rfl fun _ => rfl
  have dropSchema : Sets ["--drop-schema"]
      ({ · with dropSchema := true, afterPosition := false }) := by
    have word : classifyWord? "--drop-schema" =
        some (.option .dropSchema "--drop-schema" none) := by decide +kernel
    exact .option (by decide) (by decide) word rfl fun _ => rfl
  have batchSize (n : Int) : Sets ["--batch-size" ++ "=" ++ toString n]
      ({ · with batchSize := some n, afterPosition := false }) := by
    have named : CommandOption.named.lookup "--batch-size" = some .batchSize := by decide
    refine .attached named (by decide) rfl fun state => ?_
    simp only [CommandState.takeOption?, readInteger?_toString]
    rfl
  have output (file : String) : Sets ["--output" ++ "=" ++ file]
      ({ · with output := some file, afterPosition := false }) := by
    have named : CommandOption.named.lookup "--output" = some .output := by decide
    exact .attached named (by decide) rfl fun _ => rfl
  -- After the options there are only the two names.
  have options := ((((schemaOnly.flag arguments.schemaOnly).append
    (.optional batchSize arguments.batchSize)).append
    (withIndexes.flag arguments.withIndexes)).append
    (dropSchema.flag arguments.dropSchema)).append (.optional output arguments.output)
  refine (options {} ["--", arguments.mapping, arguments.input]).trans ?_
  obtain ⟨mapping, input, schemaOnly, batchSize, withIndexes, dropSchema, output⟩ := arguments
  cases schemaOnly <;> cases batchSize <;> cases withIndexes <;> cases dropSchema <;>
    cases output <;> rfl

/-! ## Bodies of requests -/

def GenerateRequest.fields (request : GenerateRequest) : List (String × Json) :=
  [("mapping_yaml", .string request.mapping), ("json_content", .string request.document),
    ("schema_only", .bool request.schemaOnly), ("batch_size", .ofInteger? request.batchSize),
    ("include_indexes", .ofBool? request.includeIndexes)]

/-- A body that asks for all statements. -/
def GenerateRequest.body (request : GenerateRequest) : String :=
  (Json.object request.fields).text

def SchemaRequest.fields (request : SchemaRequest) : List (String × Json) :=
  [("mapping_yaml", .string request.mapping), ("include_indexes", .ofBool? request.includeIndexes)]

/-- A body that asks for the statements of a schema. -/
def SchemaRequest.body (request : SchemaRequest) : String :=
  (Json.object request.fields).text

theorem isPlain_ofBool? (b : Option Bool) : (Json.ofBool? b).IsPlain := by
  cases b with
  | none => exact .null
  | some b => exact .bool b

theorem isPlain_ofInteger? (n : Option Int) : (Json.ofInteger? n).IsPlain := by
  cases n with
  | none => exact .null
  | some n => exact .integer n

/-- A body that is an object of single values has its fields. -/
theorem bodyValue_text {fields : List (String × Json)}
    (plain : ∀ field ∈ fields, field.2.IsPlain) (distinct : (fields.map Prod.fst).Nodup) :
    Service.bodyValue (some (Json.object fields).text) = .ok (.object fields) := by
  have chars := Json.toList_text_object fields
  have some : (Json.object fields).text ≠ "" := by
    intro none
    rw [none] at chars
    cases chars
  have noMark : Service.bodyText (Json.object fields).text = (Json.object fields).text.toList := by
    rw [Service.bodyText, chars]
    rfl
  rw [Service.bodyValue, Option.filter_some_pos (by simpa using some)]
  simp only [noMark, Json.readLenient_text plain, orderedPairs_of_nodup distinct]

theorem readBody_text {α : Type} {ofEntries : List (Value × Value) → ReadsAll α}
    {fields : List (String × Json)} {a : α} (plain : ∀ field ∈ fields, field.2.IsPlain)
    (distinct : (fields.map Prod.fst).Nodup) (reads : ofEntries (Value.ofFields fields) = .ok a) :
    Service.readBody ofEntries (some (Json.object fields).text) = .ok a := by
  rw [Service.readBody, bodyValue_text plain distinct]
  simp only [bind, Except.bind, Value.ofJson, reads]
  rfl

theorem readBody_body (request : GenerateRequest) :
    Service.readBody GenerateRequest.ofEntries (some request.body) = .ok request := by
  refine readBody_text ?_ ?_ ?_
  · simp only [GenerateRequest.fields, List.forall_mem_cons]
    exact ⟨.string _, .string _, .bool _, isPlain_ofInteger? _, isPlain_ofBool? _, by simp⟩
  · have names : request.fields.map Prod.fst =
        ["mapping_yaml", "json_content", "schema_only", "batch_size", "include_indexes"] := rfl
    rw [names]
    decide
  · have mapping : requireField (Value.ofFields request.fields) ["mapping_yaml"] (readText false) =
        .ok request.mapping := requireField_ofFields rfl rfl
    have document : requireField (Value.ofFields request.fields) ["json_content"]
        (readText false) = .ok request.document := requireField_ofFields rfl rfl
    have schemaOnly : readField (Value.ofFields request.fields) ["schema_only"] false readBool =
        .ok request.schemaOnly := readField_ofFields rfl rfl
    have batchSize : readField (Value.ofFields request.fields) ["batch_size"] none
        (readOptional readWhole) = .ok request.batchSize :=
      readField_ofFields rfl (readOptional_ofInteger? _)
    have includeIndexes : readField (Value.ofFields request.fields) ["include_indexes"] none
        (readOptional readBool) = .ok request.includeIndexes :=
      readField_ofFields rfl (readOptional_ofBool? _)
    simp only [GenerateRequest.ofEntries, mapping, document, schemaOnly, batchSize,
      includeIndexes, alongside]

theorem readBody_schemaBody (request : SchemaRequest) :
    Service.readBody SchemaRequest.ofEntries (some request.body) = .ok request := by
  refine readBody_text ?_ ?_ ?_
  · simp only [SchemaRequest.fields, List.forall_mem_cons]
    exact ⟨.string _, isPlain_ofBool? _, by simp⟩
  · have names : request.fields.map Prod.fst = ["mapping_yaml", "include_indexes"] := rfl
    rw [names]
    decide
  · have mapping : requireField (Value.ofFields request.fields) ["mapping_yaml"] (readText false) =
        .ok request.mapping := requireField_ofFields rfl rfl
    have includeIndexes : readField (Value.ofFields request.fields) ["include_indexes"] none
        (readOptional readBool) = .ok request.includeIndexes :=
      readField_ofFields rfl (readOptional_ofBool? _)
    simp only [SchemaRequest.ofEntries, mapping, includeIndexes, alongside]

end DocGraph
