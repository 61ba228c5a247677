import DocGraph.Proofs.Definition.Dump
import DocGraph.Proofs.Run.Wording

/-!
# The texts of a definition

A definition is read from a value, and the texts in it are texts of the value, written forms of
numbers, or defaults. A fault shows where in the value it is. So wherever a text of a definition or
the place of a fault has a line break, a text of the value has it.

## Main definitions

* `Yaml.Value.HasText`, `Yaml.Value.BreaksWithin`: the texts in a value, and their line breaks.
* `ReadsWithin`, `KeepsWithin`: what readers do with values whose line breaks are of a kind.
* `MappingDefinition.texts`: the texts of a definition that a run can show.

## Main results

* `keepsWithin_rule`, `keepsWithin_transform`, `keepsWithin_property`, `keepsWithin_tag`,
  `keepsWithin_edge`: the parts of a definition.
* `allWithin_ofValue`: the definition of a value.
-/

namespace DocGraph

open Yaml (Value)

/-- A text stands in a value, as one or as the bytes of one; the keys of mappings count. -/
inductive Yaml.Value.HasText (text : String) : Value → Prop
  | string : HasText text (.string text)
  | binary {bytes : List Nat} (decoded : decodeUtf8 bytes = .ok text) : HasText text (.binary bytes)
  | item {items : List Value} {item : Value} (among : item ∈ items) (inside : HasText text item) :
      HasText text (.list items)
  | member {members : List Value} {member : Value} (among : member ∈ members)
      (inside : HasText text member) : HasText text (.set members)
  | first {key value : Value} (inside : HasText text key) : HasText text (.pair key value)
  | second {key value : Value} (inside : HasText text value) : HasText text (.pair key value)
  | key {entries : List (Value × Value)} {entry : Value × Value} (among : entry ∈ entries)
      (inside : HasText text entry.1) : HasText text (.map entries)
  | value {entries : List (Value × Value)} {entry : Value × Value} (among : entry ∈ entries)
      (inside : HasText text entry.2) : HasText text (.map entries)

/-- The line breaks of all texts in a value are of a kind. -/
def Yaml.Value.BreaksWithin (kind : Char → Prop) (value : Value) : Prop :=
  ∀ text, value.HasText text → DocGraph.BreaksWithin kind text

variable {kind : Char → Prop}

namespace Yaml.Value.BreaksWithin

theorem string {text : String} (h : (Value.string text).BreaksWithin kind) :
    DocGraph.BreaksWithin kind text :=
  h text .string

theorem of_string {text : String} (h : DocGraph.BreaksWithin kind text) :
    (Value.string text).BreaksWithin kind := by
  rintro _ ⟨⟩
  exact h

theorem of_list {items : List Value} (h : ∀ item ∈ items, item.BreaksWithin kind) :
    (Value.list items).BreaksWithin kind := by
  rintro text (_ | _ | ⟨among, inside⟩)
  exact h _ among text inside

theorem of_map {entries : List (Value × Value)}
    (h : ∀ entry ∈ entries, entry.1.BreaksWithin kind ∧ entry.2.BreaksWithin kind) :
    (Value.map entries).BreaksWithin kind := by
  rintro text (_ | _ | _ | _ | _ | _ | ⟨among, inside⟩ | ⟨among, inside⟩)
  · exact (h _ among).1 text inside
  · exact (h _ among).2 text inside

theorem entries {entries : List (Value × Value)} (h : (Value.map entries).BreaksWithin kind) :
    ∀ entry ∈ entries, entry.1.BreaksWithin kind ∧ entry.2.BreaksWithin kind :=
  fun _ among => ⟨fun text inside => h text (.key among inside),
    fun text inside => h text (.value among inside)⟩

/-- The entry of a mapping under one of some names. -/
theorem entryOf? {entries : List (Value × Value)} (h : (Value.map entries).BreaksWithin kind)
    {names : List String} {name : String} {value : Value}
    (found : DocGraph.entryOf? entries names = some (name, value)) :
    name ∈ names ∧ value.BreaksWithin kind := by
  obtain ⟨other, among, found⟩ := List.exists_of_findSome?_eq_some found
  obtain ⟨_, held, same⟩ := Option.map_eq_some_iff.mp found
  cases same
  obtain ⟨entry, first, rfl⟩ := Option.map_eq_some_iff.mp held
  exact ⟨among, (h.entries entry (List.mem_of_find?_eq_some first)).2⟩

end Yaml.Value.BreaksWithin

/-! ## Locations -/

theorem lineBreaks_bytesText (bytes : List Nat) : lineBreaks (bytesText bytes) = [] := by
  have quote := not_isLineBreak_chooseQuote (bytes.map Char.ofNat)
  have inside (n : Nat) : (if n < 128 then quotedChar (chooseQuote (bytes.map Char.ofNat))
      (Char.ofNat n) else '\\' :: 'x' :: hexDigits 2 n).filter isLineBreak = [] := by
    split
    · exact filter_quotedChar quote _
    · exact filter_escape rfl (filter_hexDigits 2 n)
  rw [bytesText, lineBreaks_ofList, List.filter_append, List.filter_cons_of_neg (by decide),
    List.filter_cons_of_neg (by simp [quote]), List.filter_flatMap]
  simp [inside, quote]

theorem lineBreaks_momentText (m : Moment) (offset : Option Int) :
    lineBreaks (momentText m offset) = [] := by
  have around {inside : String} (h : lineBreaks inside = []) :
      lineBreaks s!"datetime.datetime({inside})" = [] := by
    simp (disch := (apply all_toList_ofList; decide)) [lineBreaks_of_all, h]
  unfold momentText
  refine around ?_
  rw [lineBreaks_joinText (lineBreaks_word rfl), List.flatMap_append, List.append_eq_nil_iff,
    List.flatMap_map]
  constructor
  · simp
  · split <;>
      simp (disch := (apply all_toList_ofList; decide)) [lineBreaks_of_all, lineBreaks_spanText]

theorem Yaml.Value.BreaksWithin.keyText {key : Value} (h : key.BreaksWithin kind) :
    DocGraph.BreaksWithin kind (keyText key) := by
  unfold DocGraph.keyText
  split
  case h_1 => exact h.string
  all_goals refine .of_lineBreaks ?_
  case h_2 => split <;> exact lineBreaks_word rfl
  case h_6 => exact lineBreaks_momentText _ _
  case h_7 => exact lineBreaks_bytesText _
  all_goals simp (disch := (apply all_toList_ofList; decide)) [lineBreaks_of_all]

/-! ## Readers -/

/-- The texts that a fault shows: those in its location, and those in its wording. -/
def LocatedFault.texts (f : LocatedFault) : List String := f.location ++ f.fault.unquoted

/-- Something of a sort is read, or the line breaks that the fault shows are of a kind. -/
def ReadsWithin {α : Type} (kind : Char → Prop) (sort : α → Prop) (result : Reads α) : Prop :=
  Settles sort (fun f => AllWithin kind f.texts) result

section

variable {α β : Type} {sort : α → Prop} {other : β → Prop} {result : Reads α}

theorem readsWithin_failHere {fault : FieldFault} (plain : fault.unquoted = []) :
    ReadsWithin kind sort (failHere fault) := by
  intro text among
  simp [LocatedFault.texts, plain] at among

theorem ReadsWithin.bind {next : α → Reads β} (h : ReadsWithin kind sort result)
    (further : ∀ a, sort a → ReadsWithin kind other (next a)) :
    ReadsWithin kind other (result >>= next) :=
  Settles.bind h further

theorem ReadsWithin.map {f : α → β} (h : ReadsWithin kind sort result)
    (further : ∀ a, sort a → other (f a)) : ReadsWithin kind other (f <$> result) :=
  Settles.map h further

theorem ReadsWithin.below {name : String} (plain : BreaksWithin kind name)
    (h : ReadsWithin kind sort result) : ReadsWithin kind sort (below name result) :=
  Settles.mapError h fun _ shown => List.forall_mem_cons.mpr ⟨plain, shown⟩

/-- From values whose line breaks are of a kind a reader takes what is of a sort. -/
def KeepsWithin (kind : Char → Prop) (sort : α → Prop) (read : Value → Reads α) : Prop :=
  ∀ value, value.BreaksWithin kind → ReadsWithin kind sort (read value)

end

/-! ## Single values -/

theorem keepsWithin_text (numbers : Bool) :
    KeepsWithin kind (BreaksWithin kind) (readText numbers) := by
  intro value within
  unfold readText
  split
  case h_1 => exact within.string
  case h_2 =>
    split
    next decoded => exact within _ (.binary decoded)
    next => exact readsWithin_failHere rfl
  case h_3 | h_4 =>
    split
    · exact BreaksWithin.of_lineBreaks (by simp)
    · exact readsWithin_failHere rfl
  case h_5 => exact readsWithin_failHere rfl

theorem keepsWithin_written : KeepsWithin kind (BreaksWithin kind) readWritten :=
  keepsWithin_text true

theorem readsWithin_boolOfText (text : String) :
    ReadsWithin kind (fun _ => True) (boolOfText text) := by
  unfold boolOfText
  split
  · trivial
  · exact readsWithin_failHere rfl

theorem readsWithin_boolOfInteger (n : Int) :
    ReadsWithin kind (fun _ => True) (boolOfInteger n) := by
  unfold boolOfInteger
  split
  · trivial
  split
  · trivial
  split <;> exact readsWithin_failHere rfl

theorem keepsWithin_bool : KeepsWithin kind (fun _ => True) readBool := by
  intro value _
  unfold readBool
  split
  case h_1 => trivial
  case h_2 => exact readsWithin_boolOfText _
  case h_3 =>
    split
    · exact readsWithin_boolOfText _
    · exact readsWithin_failHere rfl
  case h_4 => exact readsWithin_boolOfInteger _
  case h_5 =>
    split
    · exact readsWithin_boolOfInteger _
    · exact readsWithin_failHere rfl
  case h_6 => exact readsWithin_failHere rfl

theorem readsWithin_integerOfField (text : String) :
    ReadsWithin kind (fun _ => True) (integerOfField text) := by
  unfold integerOfField
  dsimp only
  split
  · trivial
  · exact readsWithin_failHere rfl

theorem readsWithin_wholeOfFloat (x : Binary64) :
    ReadsWithin kind (fun _ => True) (wholeOfFloat x) := by
  unfold wholeOfFloat
  split
  · exact readsWithin_failHere rfl
  split
  · exact readsWithin_failHere rfl
  split
  · trivial
  · exact readsWithin_failHere rfl

theorem keepsWithin_whole : KeepsWithin kind (fun _ => True) readWhole := by
  intro value _
  unfold readWhole
  split
  case h_1 | h_2 => trivial
  case h_3 => exact readsWithin_wholeOfFloat _
  case h_4 => exact readsWithin_integerOfField _
  case h_5 =>
    split
    · exact readsWithin_integerOfField _
    · exact readsWithin_failHere rfl
  case h_6 => exact readsWithin_failHere rfl

/-! ## Lists, dictionaries and records -/

section

variable {α : Type} {sort : α → Prop} {read : Value → Reads α}

namespace KeepsWithin

theorem imp {other : α → Prop} (h : KeepsWithin kind sort read) (weaker : ∀ a, sort a → other a) :
    KeepsWithin kind other read :=
  fun value within => (h value within).imp weaker fun _ => id

theorem optional (h : KeepsWithin kind sort read) :
    KeepsWithin kind (fun a? => ∀ a ∈ a?, sort a) (readOptional read) := by
  intro value within
  unfold readOptional
  split
  · exact nofun
  · refine (h value within).map fun a holds => ?_
    rintro _ ⟨⟩
    exact holds

theorem each (h : KeepsWithin kind sort read) (start : Nat) {values : List Value}
    (within : ∀ value ∈ values, value.BreaksWithin kind) :
    ReadsWithin kind (fun items => ∀ a ∈ items, sort a) (readEach read start values) := by
  induction values generalizing start with
  | nil => exact nofun
  | cons value rest ih =>
    obtain ⟨first, others⟩ := List.forall_mem_cons.mp within
    have number : BreaksWithin kind (toString start) := .of_lineBreaks (lineBreaks_repr_nat start)
    refine (ReadsWithin.below number (h value first)).bind fun a holds => ?_
    refine (ih (start + 1) others).bind fun items further => ?_
    exact List.forall_mem_cons.mpr ⟨holds, further⟩

theorem items (h : KeepsWithin kind sort read) :
    KeepsWithin kind (fun items => ∀ a ∈ items, sort a) (readItems read) := by
  intro value within
  unfold readItems
  split
  next => exact h.each 0 fun item among text inside => within text (.item among inside)
  next => exact h.each 0 fun item among text inside => within text (.member among inside)
  next key item =>
    have both : ∀ part ∈ [key, item], part.BreaksWithin kind := by
      rw [List.forall_mem_cons, List.forall_mem_singleton]
      exact ⟨fun text inside => within text (.first inside),
        fun text inside => within text (.second inside)⟩
    exact h.each 0 both
  next => exact readsWithin_failHere rfl

theorem entries (h : KeepsWithin kind sort read) {entries : List (Value × Value)}
    (within : (Value.map entries).BreaksWithin kind) :
    ReadsWithin kind (fun things => ∀ thing ∈ things, BreaksWithin kind thing.1 ∧ sort thing.2)
      (readEntries read entries) := by
  replace within := within.entries
  induction entries with
  | nil => exact nofun
  | cons entry rest ih =>
    obtain ⟨⟨key, value⟩, others⟩ := List.forall_mem_cons.mp within
    have marked : BreaksWithin kind "[key]" := .of_lineBreaks (lineBreaks_word rfl)
    have named := ReadsWithin.below key.keyText
      (ReadsWithin.below marked (keepsWithin_text true entry.1 key))
    refine named.bind fun name plain => ?_
    refine (ReadsWithin.below key.keyText (h entry.2 value)).bind fun a holds => ?_
    refine (ih others).bind fun things further => ?_
    exact List.forall_mem_cons.mpr ⟨⟨plain, holds⟩, further⟩

theorem dictionary (h : KeepsWithin kind sort read) :
    KeepsWithin kind (fun things => ∀ thing ∈ things, BreaksWithin kind thing.1 ∧ sort thing.2)
      (readDictionary read) := by
  intro value within
  unfold readDictionary
  split
  next =>
    refine (h.entries within).map fun pairs holds thing among => ?_
    obtain ⟨named, first, key⟩ := List.mem_map.mp (fst_mem_of_mem_orderedPairs among)
    obtain ⟨held, second, value⟩ := List.mem_map.mp (snd_mem_of_mem_orderedPairs among)
    exact ⟨key ▸ (holds named first).1, value ▸ (holds held second).2⟩
  next => exact readsWithin_failHere rfl

theorem field (h : KeepsWithin kind sort read) {entries : List (Value × Value)}
    (within : (Value.map entries).BreaksWithin kind) {name : String} (plain : lineBreaks name = [])
    {default : α} (ofDefault : sort default) :
    ReadsWithin kind sort (readField entries [name] default read) := by
  unfold readField
  split
  next _ value found =>
    obtain ⟨among, inside⟩ := within.entryOf? found
    obtain rfl := List.mem_singleton.mp among
    exact ReadsWithin.below (.of_lineBreaks plain) (h value inside)
  next => exact ofDefault

theorem optionalField (h : KeepsWithin kind sort read) {entries : List (Value × Value)}
    (within : (Value.map entries).BreaksWithin kind) {name : String}
    (plain : lineBreaks name = []) :
    ReadsWithin kind (fun a? => ∀ a ∈ a?.toList, sort a)
      (readField entries [name] none (readOptional read)) := by
  refine (h.optional.imp fun a? holds => ?_).field within plain nofun
  simpa using holds

theorem required (h : KeepsWithin kind sort read) {entries : List (Value × Value)}
    (within : (Value.map entries).BreaksWithin kind) {names : List String}
    (plain : ∀ name ∈ names, lineBreaks name = []) :
    ReadsWithin kind sort (requireField entries names read) := by
  unfold requireField
  split
  next name value found =>
    obtain ⟨among, inside⟩ := within.entryOf? found
    exact ReadsWithin.below (.of_lineBreaks (plain name among)) (h value inside)
  next =>
    intro text shown
    have named : text ∈ names.take 1 := by
      simpa [LocatedFault.texts, FieldFault.unquoted] using shown
    exact .of_lineBreaks (plain text (List.mem_of_mem_take named))

end KeepsWithin

end

theorem readsWithin_record {name : String} (plain : lineBreaks name = []) {value : Value}
    (within : value.BreaksWithin kind) :
    ReadsWithin kind (fun entries => (Value.map entries).BreaksWithin kind)
      (readRecord name value) := by
  unfold readRecord
  split
  next => exact within
  next =>
    intro text shown
    obtain rfl := List.mem_singleton.mp shown
    exact .of_lineBreaks plain

/-! ## Definitions -/

/-- The texts of a transform that a run can show: its name, its formats and the types of its
rules. -/
def TransformDefinition.texts (transform : TransformDefinition) : List String :=
  transform.name.toList ++ transform.format.toList ++ transform.params.map Prod.snd ++
    transform.rules.map (·.type)

def PropertyDefinition.texts (property : PropertyDefinition) : List String :=
  property.path :: (property.name.toList ++ property.type.toList ++
    property.transform.toList.flatMap TransformDefinition.texts)

def TagDefinition.texts (tag : TagDefinition) : List String :=
  tag.source :: tag.key :: tag.properties.flatMap PropertyDefinition.texts

def EdgeDefinition.texts (edge : EdgeDefinition) : List String :=
  edge.source :: edge.sourceKey :: edge.targetKey ::
    edge.properties.flatMap PropertyDefinition.texts

/-- The texts of a definition that a run can show. -/
def MappingDefinition.texts (definition : MappingDefinition) : List String :=
  (definition.tags.flatMap fun (name, tag) => name :: tag.texts) ++
    (definition.edges.flatMap fun (name, edge) => name :: edge.texts) ++
      definition.transforms.flatMap fun (name, transform) => name :: transform.texts

theorem keepsWithin_texts :
    KeepsWithin kind (fun things => ∀ thing ∈ things, BreaksWithin kind thing.1 ∧
      BreaksWithin kind thing.2) readTexts :=
  keepsWithin_written.dictionary

theorem keepsWithin_rule : KeepsWithin kind (fun rule => BreaksWithin kind rule.type) readRule := by
  intro value within
  refine (readsWithin_record (lineBreaks_word rfl) within).bind fun entries inside => ?_
  have empty : BreaksWithin kind "" := .of_lineBreaks rfl
  have text {name : String} (plain : lineBreaks name = []) :
      ReadsWithin kind (BreaksWithin kind) (readField entries [name] "" readWritten) :=
    keepsWithin_written.field inside plain empty
  refine (text (lineBreaks_word rfl)).bind fun name _ => ?_
  refine (text (lineBreaks_word rfl)).bind fun type shown => ?_
  refine (text (lineBreaks_word rfl)).bind fun condition _ => ?_
  refine (text (lineBreaks_word rfl)).bind fun value _ => ?_
  refine (text (lineBreaks_word rfl)).bind fun field _ => ?_
  refine (keepsWithin_texts.field inside (lineBreaks_word rfl) (List.forall_mem_nil _)).bind
    fun mappings _ => ?_
  exact shown

theorem Yaml.Value.BreaksWithin.expandTransform {value : Value} (h : value.BreaksWithin kind) :
    (expandTransform value).BreaksWithin kind := by
  have word {cs : List Char} (plain : (cs.all fun c => !isLineBreak c) = true) :
      (Value.string (String.ofList cs)).BreaksWithin kind :=
    .of_string (.of_lineBreaks (lineBreaks_word plain))
  unfold DocGraph.expandTransform
  split
  next => exact .of_map (List.forall_mem_singleton.mpr ⟨word rfl, h⟩)
  next =>
    exact .of_map (List.forall_mem_cons.mpr ⟨⟨word rfl, word rfl⟩,
      List.forall_mem_singleton.mpr ⟨word rfl, h⟩⟩)
  next => exact h

theorem Yaml.Value.BreaksWithin.orEmpty {empty value : Value} (h : value.BreaksWithin kind)
    (plain : empty.BreaksWithin kind) : (orEmpty empty value).BreaksWithin kind := by
  unfold DocGraph.orEmpty
  split
  · exact plain
  · exact h

theorem keepsWithin_transform :
    KeepsWithin kind (fun transform => AllWithin kind transform.texts) readTransform := by
  intro value within
  refine (readsWithin_record (lineBreaks_word rfl) within.expandTransform).bind
    fun entries inside => ?_
  have text? {name : String} (plain : lineBreaks name = []) :=
    keepsWithin_written.optionalField inside plain
  have texts {name : String} (plain : lineBreaks name = []) :=
    keepsWithin_texts.field inside plain (List.forall_mem_nil _)
  refine (text? (lineBreaks_word rfl)).bind fun name named => ?_
  refine (text? (lineBreaks_word rfl)).bind fun type _ => ?_
  refine (text? (lineBreaks_word rfl)).bind fun delimiter _ => ?_
  refine (text? (lineBreaks_word rfl)).bind fun format formatted => ?_
  refine (text? (lineBreaks_word rfl)).bind fun field _ => ?_
  refine (text? (lineBreaks_word rfl)).bind fun condition _ => ?_
  refine (texts (lineBreaks_word rfl)).bind fun mappings _ => ?_
  refine (keepsWithin_rule.items.field inside (lineBreaks_word rfl) (List.forall_mem_nil _)).bind
    fun rules typed => ?_
  refine (texts (lineBreaks_word rfl)).bind fun params given => ?_
  simp only [AllWithin, TransformDefinition.texts, List.forall_mem_append, List.forall_mem_map]
  exact ⟨⟨⟨named, formatted⟩, fun param among => (given param among).2⟩, typed⟩

theorem keepsWithin_default : KeepsWithin kind (fun _ => True) readDefault := by
  intro value within
  unfold readDefault
  split
  · trivial
  · exact (keepsWithin_written.imp fun _ _ => trivial) value within

theorem Yaml.Value.BreaksWithin.expandDynamicFields {value : Value} (h : value.BreaksWithin kind) :
    (expandDynamicFields value).BreaksWithin kind := by
  unfold DocGraph.expandDynamicFields
  split
  next =>
    exact .of_map (List.forall_mem_singleton.mpr ⟨.of_string (.of_lineBreaks (lineBreaks_word rfl)),
      nofun⟩)
  next => exact .of_map (List.forall_mem_nil _)
  next => exact h

theorem keepsWithin_dynamicFields : KeepsWithin kind (fun _ => True) readDynamicFields := by
  intro value within
  refine (readsWithin_record (lineBreaks_word rfl) within.expandDynamicFields).bind
    fun entries inside => ?_
  have names {name : String} (plain : lineBreaks name = []) :=
    (keepsWithin_text false).items.field inside plain (List.forall_mem_nil _)
  refine (keepsWithin_bool.field inside (lineBreaks_word rfl) trivial).bind fun enabled _ => ?_
  refine (names (lineBreaks_word rfl)).bind fun allowedTypes _ => ?_
  refine (names (lineBreaks_word rfl)).bind fun excludedProperties _ => ?_
  trivial

theorem keepsWithin_property :
    KeepsWithin kind (fun property => AllWithin kind property.texts) readProperty := by
  intro value within
  refine (readsWithin_record (lineBreaks_word rfl) within).bind fun entries inside => ?_
  have text? {name : String} (plain : lineBreaks name = []) :=
    keepsWithin_written.optionalField inside plain
  have bool? {name : String} (plain : lineBreaks name = []) :=
    keepsWithin_bool.optionalField inside plain
  have addresses : ∀ name ∈ ["json", "json_path"], lineBreaks name = [] :=
    List.forall_mem_cons.mpr ⟨lineBreaks_word rfl, List.forall_mem_singleton.mpr
      (lineBreaks_word rfl)⟩
  refine (keepsWithin_written.required inside addresses).bind fun path addressed => ?_
  refine (text? (lineBreaks_word rfl)).bind fun name named => ?_
  refine (text? (lineBreaks_word rfl)).bind fun type typed => ?_
  refine (keepsWithin_bool.field inside (lineBreaks_word rfl) trivial).bind fun optional _ => ?_
  refine (bool? (lineBreaks_word rfl)).bind fun index _ => ?_
  refine (bool? (lineBreaks_word rfl)).bind fun indexable _ => ?_
  refine (keepsWithin_whole.optionalField inside (lineBreaks_word rfl)).bind fun maxLength _ => ?_
  refine (keepsWithin_default.optionalField inside (lineBreaks_word rfl)).bind fun default _ => ?_
  refine (keepsWithin_transform.optionalField inside (lineBreaks_word rfl)).bind
    fun transform transforms => ?_
  simp only [AllWithin, PropertyDefinition.texts, List.forall_mem_cons, List.forall_mem_append,
    List.forall_mem_flatMap]
  exact ⟨addressed, ⟨named, typed⟩, transforms⟩

theorem keepsWithin_properties :
    KeepsWithin kind (fun properties => ∀ property ∈ properties, AllWithin kind property.texts)
      readProperties :=
  fun _ within => keepsWithin_property.items _
    (within.orEmpty (.of_list (List.forall_mem_nil _)))

theorem lineBreaks_sourceNames : ∀ name ∈ ["from", "source"], lineBreaks name = [] :=
  List.forall_mem_cons.mpr ⟨lineBreaks_word rfl, List.forall_mem_singleton.mpr
    (lineBreaks_word rfl)⟩

theorem keepsWithin_tag : KeepsWithin kind (fun tag => AllWithin kind tag.texts) readTag := by
  intro value within
  refine (readsWithin_record (lineBreaks_word rfl) within).bind fun entries inside => ?_
  refine (keepsWithin_written.required inside lineBreaks_sourceNames).bind fun source found => ?_
  have default : BreaksWithin kind defaultKey := .of_lineBreaks (lineBreaks_word rfl)
  refine (keepsWithin_written.field inside (lineBreaks_word rfl) default).bind fun key keyed => ?_
  refine (keepsWithin_dynamicFields.field inside (lineBreaks_word rfl) trivial).bind
    fun dynamicFields _ => ?_
  refine (keepsWithin_properties.field inside (lineBreaks_word rfl) (List.forall_mem_nil _)).bind
    fun properties each => ?_
  simp only [AllWithin, TagDefinition.texts, List.forall_mem_cons, List.forall_mem_flatMap]
  exact ⟨found, keyed, each⟩

theorem keepsWithin_edge : KeepsWithin kind (fun edge => AllWithin kind edge.texts) readEdge := by
  intro value within
  refine (readsWithin_record (lineBreaks_word rfl) within).bind fun entries inside => ?_
  have tag {name : String} (plain : lineBreaks name = []) :=
    keepsWithin_written.required inside (List.forall_mem_singleton.mpr plain)
  have default : BreaksWithin kind defaultKey := .of_lineBreaks (lineBreaks_word rfl)
  have key {name : String} (plain : lineBreaks name = []) :=
    keepsWithin_written.field inside plain default
  refine (keepsWithin_written.required inside lineBreaks_sourceNames).bind fun source found => ?_
  refine (tag (lineBreaks_word rfl)).bind fun sourceTag _ => ?_
  refine (tag (lineBreaks_word rfl)).bind fun targetTag _ => ?_
  refine (key (lineBreaks_word rfl)).bind fun sourceKey starts => ?_
  refine (key (lineBreaks_word rfl)).bind fun targetKey leads => ?_
  refine (keepsWithin_properties.field inside (lineBreaks_word rfl) (List.forall_mem_nil _)).bind
    fun properties each => ?_
  simp only [AllWithin, EdgeDefinition.texts, List.forall_mem_cons, List.forall_mem_flatMap]
  exact ⟨found, starts, leads, each⟩

theorem keepsWithin_settings : KeepsWithin kind (fun _ => True) readSettings := by
  intro value within
  have empty : (Value.map []).BreaksWithin kind := .of_map (List.forall_mem_nil _)
  refine (readsWithin_record (lineBreaks_word rfl) (within.orEmpty empty)).bind
    fun entries inside => ?_
  have comma : BreaksWithin kind "," := .of_lineBreaks (lineBreaks_word rfl)
  refine (keepsWithin_whole.optionalField inside (lineBreaks_word rfl)).bind
    fun stringLength _ => ?_
  refine (keepsWithin_written.field inside (lineBreaks_word rfl) comma).bind
    fun arrayDelimiter _ => ?_
  refine (keepsWithin_bool.field inside (lineBreaks_word rfl) trivial).bind fun dynamicTags _ => ?_
  trivial

theorem keepsWithin_section {α : Type} {sort : α → Prop} {read : Value → Reads α}
    (h : KeepsWithin kind sort read) :
    KeepsWithin kind (fun things => ∀ thing ∈ things, BreaksWithin kind thing.1 ∧ sort thing.2)
      (readSection read) :=
  fun _ within => h.dictionary _ (within.orEmpty (.of_map (List.forall_mem_nil _)))

theorem readsWithin_definition {entries : List (Value × Value)}
    (within : (Value.map entries).BreaksWithin kind) :
    ReadsWithin kind (fun definition => AllWithin kind definition.texts)
      (readDefinition entries) := by
  have parts {α : Type} {sort : α → Prop} {read : Value → Reads α}
      (h : KeepsWithin kind sort read) {name : String} (plain : lineBreaks name = []) :=
    (keepsWithin_section h).field within plain (List.forall_mem_nil _)
  refine (keepsWithin_settings.field within (lineBreaks_word rfl) trivial).bind
    fun settings _ => ?_
  refine (parts keepsWithin_tag (lineBreaks_word rfl)).bind fun tags tagged => ?_
  refine (parts keepsWithin_edge (lineBreaks_word rfl)).bind fun edges connected => ?_
  refine (parts keepsWithin_transform (lineBreaks_word rfl)).bind fun transforms transformed => ?_
  simp only [AllWithin, MappingDefinition.texts, List.forall_mem_append, List.forall_mem_flatMap,
    List.forall_mem_cons]
  exact ⟨⟨tagged, connected⟩, transformed⟩

/-- The texts that a fault shows. -/
def DefinitionFault.texts (fault : DefinitionFault) : List String :=
  fault.unquoted ++ fault.context.toList

theorem DefinitionFault.allWithin_field {f : LocatedFault} (h : AllWithin kind f.texts) :
    AllWithin kind (DefinitionFault.field f).texts := by
  obtain ⟨names, fault⟩ := List.forall_mem_append.mp h
  refine List.forall_mem_append.mpr ⟨fault, List.forall_mem_singleton.mpr fun c breaks => ?_⟩
  rw [lineBreaks_joinText (lineBreaks_word rfl)] at breaks
  obtain ⟨name, among, breaks⟩ := List.mem_flatMap.mp breaks
  exact names name among c breaks

/-- What a definition shows has no other line breaks than the texts of the value that it is read
from, and neither has what is shown of a value that is no definition. -/
theorem allWithin_ofValue {value : Value} (within : value.BreaksWithin kind) :
    Settles (fun definition => AllWithin kind definition.texts)
      (fun fault => AllWithin kind fault.texts) (MappingDefinition.ofValue value) := by
  have located {entries : List (Value × Value)} (inside : (Value.map entries).BreaksWithin kind) :
      Settles (fun definition => AllWithin kind definition.texts)
        (fun fault => AllWithin kind fault.texts)
        ((readDefinition entries).mapError DefinitionFault.field) :=
    Settles.mapError (readsWithin_definition inside) fun _ => DefinitionFault.allWithin_field
  unfold MappingDefinition.ofValue
  split
  next => exact located (.of_map (List.forall_mem_nil _))
  next => exact located within
  next => exact List.forall_mem_nil _

end DocGraph
