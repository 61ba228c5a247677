import DocGraph.Failure
import DocGraph.Proofs.Yaml.Wording

/-!
# What a diagnostic shows as it is

A diagnostic is put together from literal words, from numbers, from texts in quotes, and from texts
that stand in it as they are. All but the last take one line. So the line breaks of a diagnostic are
exactly those of the texts that it shows as they are, with one exception: a character that is not
allowed in YAML texts is reported in two lines.

## Main definitions

* `Failure.unquoted`, `Failure.verbatim`: the texts that stand in a message, and in a diagnostic, as
  they are.
* `Failure.ownBreaks`: the line breaks of the wording itself.

## Main results

* `Failure.lineBreaks_message`, `Failure.lineBreaks_describe`: the line breaks of a diagnostic.
-/

namespace DocGraph

/-! ## Times -/

theorem CalendarFault.lineBreaks_message (fault : CalendarFault) :
    lineBreaks fault.message = [] := by
  unfold CalendarFault.message
  cases fault <;> simp (disch := (apply all_toList_ofList; decide)) [lineBreaks_of_all]

theorem lineBreaks_sizes {parts : List (String × Int)}
    (names : ∀ part ∈ parts, lineBreaks part.1 = []) :
    lineBreaks (joinText ", " (parts.map fun (name, size) => s!"{name}={size}")) = [] := by
  rw [lineBreaks_joinText (lineBreaks_of_all (all_toList_ofList rfl)), List.flatMap_map,
    List.flatMap_eq_nil_iff]
  intro part among
  simp (disch := (apply all_toList_ofList; decide)) [lineBreaks_of_all, names part among]

theorem lineBreaks_spanText (microseconds : Int) : lineBreaks (spanText microseconds) = [] := by
  have around {inside : String} (h : lineBreaks inside = []) :
      lineBreaks s!"datetime.timedelta({inside})" = [] := by
    simp (disch := (apply all_toList_ofList; decide)) [lineBreaks_of_all, h]
  unfold spanText
  refine around ?_
  split
  · exact lineBreaks_of_all (all_toList_ofList rfl)
  · refine lineBreaks_sizes fun part among => ?_
    have named := (List.mem_filter.mp among).1
    simp only [List.mem_cons, List.not_mem_nil, or_false] at named
    obtain rfl | rfl | rfl := named <;> exact lineBreaks_of_all (all_toList_ofList rfl)

theorem lineBreaks_offsetMessage (microseconds : Int) :
    lineBreaks (offsetMessage microseconds) = [] := by
  unfold offsetMessage
  simp (disch := (apply all_toList_ofList; decide)) [lineBreaks_of_all, lineBreaks_spanText]

def TimeFault.unquoted : TimeFault → List String
  | .badDirective name pattern => [String.singleton name, pattern]
  | .stray pattern => [pattern]
  | .unconverted rest => [rest]
  | .inconsistentColons written => [written]
  | _ => []

theorem TimeFault.lineBreaks_message (fault : TimeFault) :
    lineBreaks fault.message = fault.unquoted.flatMap lineBreaks := by
  unfold TimeFault.message TimeFault.unquoted
  cases fault <;>
    simp (disch := (apply all_toList_ofList; decide)) [-String.reduceAppend, lineBreaks_of_all,
      CalendarFault.lineBreaks_message, lineBreaks_offsetMessage]

/-! ## Documents and transforms -/

theorem DigitExcess.lineBreaks_message (excess : DigitExcess) :
    lineBreaks excess.message = [] := by
  unfold DigitExcess.message
  simp (disch := (apply all_toList_ofList; decide)) [lineBreaks_of_all]

def PathFault.unquoted : PathFault → List String
  | .expectedArray segment | .indexOutOfBounds segment | .expectedObject segment
  | .notFound segment => [segment]
  | .longIndex _ => []

theorem PathFault.lineBreaks_message (fault : PathFault) :
    lineBreaks fault.message = fault.unquoted.flatMap lineBreaks := by
  unfold PathFault.message PathFault.unquoted
  cases fault <;>
    simp (disch := (apply all_toList_ofList; decide)) [lineBreaks_of_all,
      DigitExcess.lineBreaks_message]

theorem JsonKind.lineBreaks_name (kind : JsonKind) : lineBreaks kind.name = [] := by
  cases kind <;> exact lineBreaks_of_all (all_toList_ofList rfl)

theorem ValueType.lineBreaks_name (type : ValueType) : lineBreaks type.name = [] := by
  cases type <;> exact lineBreaks_of_all (all_toList_ofList rfl)

def DataFault.unquoted : DataFault → List String
  | .source fault _ | .key fault _ | .value fault _ _ => fault.unquoted
  | _ => []

theorem DataFault.lineBreaks_message (fault : DataFault) :
    lineBreaks fault.message = fault.unquoted.flatMap lineBreaks := by
  unfold DataFault.message DataFault.unquoted
  cases fault <;>
    simp (disch := (apply all_toList_ofList; decide)) [lineBreaks_of_all,
      PathFault.lineBreaks_message, JsonKind.lineBreaks_name, ValueType.lineBreaks_name]

theorem CoercionFault.lineBreaks_message (fault : CoercionFault) :
    lineBreaks fault.message = [] := by
  unfold CoercionFault.message
  cases fault <;> simp (disch := (apply all_toList_ofList; decide)) [lineBreaks_of_all]

theorem Repetition.lineBreaks_message (repetition : Repetition) :
    lineBreaks repetition.message = lineBreaks (String.singleton repetition.name) := by
  unfold Repetition.message
  simp (disch := (apply all_toList_ofList; decide)) [lineBreaks_of_all]

def TransformFault.unquoted : TransformFault → List String
  | .notFound name => [name]
  | .unreadableTime _ _ fault => fault.unquoted
  | .ambiguousPattern repetition => [String.singleton repetition.name]
  | _ => []

theorem TransformFault.lineBreaks_message (fault : TransformFault) :
    lineBreaks fault.message = fault.unquoted.flatMap lineBreaks := by
  unfold TransformFault.message TransformFault.unquoted
  cases fault <;>
    simp (disch := (apply all_toList_ofList; decide)) [lineBreaks_of_all,
      CoercionFault.lineBreaks_message, TimeFault.lineBreaks_message,
      Repetition.lineBreaks_message, DigitExcess.lineBreaks_message]

/-! ## Definitions, mappings and schemas -/

def FieldFault.unquoted : FieldFault → List String
  | .notRecord kind => [kind]
  | _ => []

theorem FieldFault.lineBreaks_message (fault : FieldFault) :
    lineBreaks fault.message = fault.unquoted.flatMap lineBreaks := by
  unfold FieldFault.message FieldFault.unquoted
  cases fault <;> simp (disch := (apply all_toList_ofList; decide)) [lineBreaks_of_all]

def DefinitionFault.unquoted : DefinitionFault → List String
  | .notMapping => []
  | .field located => located.fault.unquoted

theorem DefinitionFault.lineBreaks_message (fault : DefinitionFault) :
    lineBreaks fault.message = fault.unquoted.flatMap lineBreaks := by
  unfold DefinitionFault.message DefinitionFault.unquoted
  cases fault <;>
    simp (disch := (apply all_toList_ofList; decide)) [lineBreaks_of_all,
      FieldFault.lineBreaks_message]

def MappingFault.unquoted : MappingFault → List String
  | .unbalancedSource path _ | .unbalancedPath path .. => [path]
  | .duplicateProperty property _ => [property]
  | _ => []

theorem EndRole.lineBreaks_name (role : EndRole) : lineBreaks role.name = [] := by
  cases role <;> exact lineBreaks_of_all (all_toList_ofList rfl)

theorem MappingFault.lineBreaks_message (fault : MappingFault) :
    lineBreaks fault.message = fault.unquoted.flatMap lineBreaks := by
  unfold MappingFault.message MappingFault.unquoted
  cases fault <;>
    simp (disch := (apply all_toList_ofList; decide)) [lineBreaks_of_all, EndRole.lineBreaks_name]

def SchemaFault.unquoted : SchemaFault → List String
  | .unsupportedType declared => declared.toList
  | .elementName name | .columnName name _ => [name]
  | _ => []

theorem SchemaFault.lineBreaks_message (fault : SchemaFault) :
    lineBreaks fault.message = fault.unquoted.flatMap lineBreaks := by
  unfold SchemaFault.message SchemaFault.unquoted
  rcases fault with (_ | declared) | _ | _ | _ | _ <;>
    simp (disch := (apply all_toList_ofList; decide)) [lineBreaks_of_all]

/-! ## Texts -/

def Json.Fault.unquoted : Json.Fault → List String
  | .at .. => []
  | .constant name => [name]
  | .longInteger _ => []

theorem Json.Fault.lineBreaks_message (fault : Json.Fault) :
    lineBreaks fault.message = fault.unquoted.flatMap lineBreaks := by
  unfold Json.Fault.message Json.Fault.unquoted
  rcases fault with ⟨kind, offset⟩ | name | excess
  · unfold FaultKind.message
    cases kind <;> simp (disch := (apply all_toList_ofList; decide)) [lineBreaks_of_all]
  · simp (disch := (apply all_toList_ofList; decide)) [lineBreaks_of_all]
  · exact excess.lineBreaks_message.trans rfl

theorem Yaml.ScalarFault.lineBreaks_message (fault : ScalarFault) :
    lineBreaks fault.message = [] := by
  have cut (digits : String) :
      lineBreaks (String.ofList ((quoted digits).toList.take 200)) = [] := by
    have whole : (quoted digits).toList.filter isLineBreak = [] := lineBreaks_quoted digits
    rw [lineBreaks_ofList, List.filter_eq_nil_iff]
    exact fun c among => List.filter_eq_nil_iff.mp whole c (List.mem_of_mem_take among)
  unfold ScalarFault.message
  cases fault with
  | characterCode code =>
    dsimp only
    split <;> exact lineBreaks_of_all (all_toList_ofList rfl)
  | _ =>
    simp (disch := (apply all_toList_ofList; decide)) [lineBreaks_of_all, cut,
      CalendarFault.lineBreaks_message, lineBreaks_offsetMessage, DigitExcess.lineBreaks_message]

def Yaml.Fault.unquoted : Yaml.Fault → List String
  | .problem found _ => found.unquoted
  | .character .. | .scalar _ => []

/-- The line breaks of the wording itself: a character that is not allowed anywhere is reported in
two lines. -/
def Yaml.Fault.ownBreaks : Yaml.Fault → List Char
  | .character .. => ['\n']
  | .problem .. | .scalar _ => []

theorem Yaml.Fault.lineBreaks_message (fault : Yaml.Fault) :
    lineBreaks fault.message = fault.ownBreaks ++ fault.unquoted.flatMap lineBreaks := by
  cases fault with
  | problem found mark => exact found.lineBreaks_message
  | character code position => exact (lineBreaks_character code position).trans rfl
  | scalar cause => exact cause.lineBreaks_message

/-! ## Diagnostics -/

def Breakdown.unquoted : Breakdown → List String
  | .pattern repetition => [String.singleton repetition.name]
  | .scalar _ | .oversizedNumber | .longNumber _ => []

theorem Breakdown.lineBreaks_message (cause : Breakdown) :
    lineBreaks cause.message = cause.unquoted.flatMap lineBreaks := by
  unfold Breakdown.message Breakdown.unquoted
  cases cause <;>
    simp (disch := (apply all_toList_ofList; decide)) [lineBreaks_of_all,
      Yaml.ScalarFault.lineBreaks_message, Repetition.lineBreaks_message,
      DigitExcess.lineBreaks_message]

namespace Failure

/-- The texts that stand in the message of a failure as they are. -/
def unquoted : Failure → List String
  | .definition fault => fault.unquoted
  | .mapping fault => fault.unquoted
  | .batchSize shown => [shown]
  | .unreadableFile reason _ => [reason]
  | .path fault _ => fault.unquoted
  | .data fault => fault.unquoted
  | .transform fault _ => fault.unquoted
  | .schema fault => fault.unquoted
  | .json fault _ _ => fault.unquoted
  | .yaml fault _ => fault.unquoted
  | .breakdown cause => cause.unquoted

/-- The texts that stand in the diagnostic of a failure as they are: those in its message, what it
is about, and its path if that is not what it is about. -/
def verbatim (failure : Failure) : List String :=
  failure.unquoted ++ failure.context.toList ++
    (failure.dataPath.filter fun path => failure.context ≠ some path).toList

/-- The line breaks of the wording itself. -/
def ownBreaks : Failure → List Char
  | .yaml fault _ => fault.ownBreaks
  | _ => []

theorem lineBreaks_message (failure : Failure) :
    lineBreaks failure.message = failure.ownBreaks ++ failure.unquoted.flatMap lineBreaks := by
  unfold message unquoted ownBreaks
  cases failure <;>
    simp (disch := (apply all_toList_ofList; decide)) [lineBreaks_of_all,
      DefinitionFault.lineBreaks_message, MappingFault.lineBreaks_message,
      PathFault.lineBreaks_message, DataFault.lineBreaks_message,
      TransformFault.lineBreaks_message, SchemaFault.lineBreaks_message,
      Json.Fault.lineBreaks_message, Yaml.Fault.lineBreaks_message, Breakdown.lineBreaks_message]

theorem lineBreaks_label (failure : Failure) : lineBreaks failure.label = [] := by
  cases failure <;> exact lineBreaks_of_all (all_toList_ofList rfl)

end Failure

namespace Diagnostic

variable (d : Diagnostic)

theorem lineBreaks_placeText : lineBreaks d.placeText = [] := by
  unfold placeText
  split
  · rfl
  · dsimp only
    split <;> simp (disch := (apply all_toList_ofList; decide)) [lineBreaks_of_all]

theorem lineBreaks_contextText :
    lineBreaks d.contextText = d.context.toList.flatMap lineBreaks := by
  unfold contextText
  split
  next none => simp [none, lineBreaks]
  next empty => simp [empty, lineBreaks]
  next context _ given =>
    simp (disch := (apply all_toList_ofList; decide)) [lineBreaks_of_all, given]

theorem lineBreaks_pathText : lineBreaks d.pathText =
    (d.path.filter fun path => d.context ≠ some path).toList.flatMap lineBreaks := by
  unfold pathText
  split
  next none => simp [none, lineBreaks]
  next path given =>
    split
    next same => simp [given, same, lineBreaks]
    next other =>
      simp (disch := (apply all_toList_ofList; decide)) [lineBreaks_of_all, given, Option.filter,
        other]

/-- The line breaks of a diagnostic are those of its parts. -/
theorem lineBreaks_describe : lineBreaks d.describe =
    lineBreaks d.label ++ lineBreaks d.message ++ d.context.toList.flatMap lineBreaks ++
      (d.path.filter fun path => d.context ≠ some path).toList.flatMap lineBreaks := by
  unfold describe
  simp (disch := (apply all_toList_ofList; decide)) [lineBreaks_of_all, lineBreaks_placeText,
    lineBreaks_contextText, lineBreaks_pathText]

end Diagnostic

/-- The line breaks of a diagnostic are those of the wording itself and of the texts that stand in
it as they are. -/
theorem Failure.lineBreaks_describe (failure : Failure) :
    lineBreaks failure.describe = failure.ownBreaks ++ failure.verbatim.flatMap lineBreaks := by
  unfold describe verbatim
  cases failure <;>
    simp only [diagnostic?, Diagnostic.lineBreaks_describe, lineBreaks_label, lineBreaks_message,
      List.nil_append, List.flatMap_append, List.append_assoc]
  -- What breaks a run down is about nothing.
  simp [context, dataPath]

end DocGraph
