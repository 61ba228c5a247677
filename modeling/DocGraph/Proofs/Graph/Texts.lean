import DocGraph.Proofs.Graph.Alike
import DocGraph.Proofs.Graph.Breakdown
import DocGraph.Proofs.Mapping.Texts
import DocGraph.Proofs.Path.NormalForm
import DocGraph.Proofs.Time.Texts

/-!
# What failures of a document show

A document fails under the paths of a mapping, and what is shown of this failure are texts of the
mapping. Only one text of the document is ever shown as it is: the one that a transform has failed
on.

## Main definitions

* `Json.HasText`: a text in a document.
* `Failure.Repeats`, `Failure.ShowsWithin`: a failure shows a text of the document, or only texts of
  the mapping besides.

## Main results

* `settles_transform`, `settles_literalOf`: how transforms and values fail.
* `Readout.Fails.showsWithin`, `showsWithin_dataStatements`: how a document fails.
-/

namespace DocGraph

variable {kind : Char → Prop}

/-! ## Texts in documents -/

/-- A text stands in a value, at any depth. Keys do not count. -/
inductive Json.HasText (text : String) : Json → Prop
  | string : HasText text (.string text)
  | item {items : List Json} {item : Json} (among : item ∈ items) (inside : HasText text item) :
      HasText text (.array items)
  | field {fields : List (String × Json)} {field : String × Json} (among : field ∈ fields)
      (inside : HasText text field.2) : HasText text (.object fields)

namespace Json.HasText

variable {text : String} {value part : Json}

theorem of_followSegment {segment : String} (h : followSegment value segment = .ok part)
    (inside : part.HasText text) : value.HasText text := by
  unfold followSegment at h
  split at h
  · split at h
    · split at h
      · cases h
      · split at h
        next found =>
          cases h
          exact .item (List.mem_of_getElem? found) inside
        next => cases h
    · cases h
  · split at h
    · split at h
      next found =>
        cases h
        obtain ⟨before, later, entries, -⟩ := List.lookup_eq_some_iff.mp found
        have among : (segment, part) ∈ before ++ (segment, part) :: later := by simp
        exact .field (entries ▸ among) inside
      next => cases h
    · cases h

theorem of_follow {segments : List String} (h : follow value segments = .ok part)
    (inside : part.HasText text) : value.HasText text := by
  induction segments generalizing value with
  | nil =>
    cases h
    exact inside
  | cons segment rest ih =>
    obtain ⟨next, first, further⟩ := bind_eq_ok_iff.mp h
    exact (ih further).of_followSegment first

theorem of_records (among : part ∈ value.records) (inside : part.HasText text) :
    value.HasText text := by
  cases value with
  | array items => exact .item among inside
  | _ =>
    obtain rfl := List.mem_singleton.mp among
    exact inside

theorem of_recordsAt {source : String} {records : List Json}
    (h : (recordsAt value source).alone = .ok records) (among : part ∈ records)
    (inside : part.HasText text) : value.HasText text := by
  rw [alone_recordsAt, map_eq_ok_iff] at h
  obtain ⟨found, addressed, rfl⟩ := h
  exact (inside.of_records among).of_follow (mapError_eq_ok_iff.mp addressed)

end Json.HasText

/-! ## Paths -/

theorem BreaksWithin.segment {path segment : String} (h : BreaksWithin kind path)
    (among : segment ∈ splitPath path) : BreaksWithin kind segment := by
  obtain ⟨cs, mem, rfl⟩ := List.mem_map.mp among
  refine h.of_chars fun c inside => .inl ?_
  rw [String.toList_ofList] at inside
  exact (mem_of_mem_segmentsFrom mem inside).resolve_left List.not_mem_nil

theorem unquoted_of_followSegment {value : Json} {segment : String} {fault : PathFault}
    (h : followSegment value segment = .error fault) :
    fault.unquoted = [segment] ∨ fault.unquoted = [] := by
  unfold followSegment at h
  grind [PathFault.unquoted]

/-- A path that leads nowhere is reported with one of its segments, or with none. -/
theorem BreaksWithin.of_resolve {document : Json} {path : String} {fault : PathFault}
    (within : BreaksWithin kind path) (h : resolve document path = .error fault) :
    AllWithin kind fault.unquoted := by
  obtain ⟨front, segment, rest, inner, split, -, stops⟩ := follow_eq_error_iff.mp h
  obtain shown | shown := unquoted_of_followSegment stops <;> rw [shown]
  · have among : segment ∈ splitPath path := split ▸ List.mem_append_right _ List.mem_cons_self
    exact List.forall_mem_singleton.mpr (within.segment among)
  · exact List.forall_mem_nil _

/-! ## Transforms -/

/-- A line break of a text that a transform has failed on. -/
def TransformFault.Repeats (fault : TransformFault) (value : Json) (c : Char) : Prop :=
  ∃ text, fault.context = some text ∧ value = .string text ∧ c ∈ text.toList

/-- The texts that a fault shows: those in its wording, and what it is about. -/
def TransformFault.texts (fault : TransformFault) : List String :=
  fault.unquoted ++ fault.context.toList

/-- The line breaks that a fault of a transform shows are of a kind, or of the text that it has
failed on. -/
def TransformFault.ShowsWithin (kind : Char → Prop) (value : Json) (fault : TransformFault) :
    Prop :=
  AllWithin (fun c => kind c ∨ fault.Repeats value c) fault.texts

/-- The input of a transform is a text of the document, or the written form of a single value. -/
def IsInput (value : Json) (text : String) : Prop := value = .string text ∨ lineBreaks text = []

theorem settles_inputText (value : Json) :
    Settles (IsInput value) (TransformFault.ShowsWithin kind value) (inputText value) := by
  have text : Settles (IsInput value) (fun _ => True) (toText value) := by
    unfold toText
    split
    · exact .inl rfl
    · split <;> exact .inr (lineBreaks_word rfl)
    · exact .inr (by simp)
    · exact .inr (by simp)
    · trivial
  exact text.mapError fun _ _ => List.forall_mem_nil _

section

variable {value : Json} {text : String}

/-- A fault that is about its input shows it. -/
theorem IsInput.breaksWithin (input : IsInput value text) {fault : TransformFault}
    (about : fault.context = some text) :
    BreaksWithin (fun c => kind c ∨ fault.Repeats value c) text := by
  intro c breaks
  obtain same | none := input
  · exact .inr ⟨text, about, same, (mem_lineBreaks.mp breaks).1⟩
  · rw [none] at breaks
    cases breaks

theorem IsInput.showsWithin (input : IsInput value text) {fault : TransformFault}
    (about : fault.context = some text)
    (words : AllWithin (fun c => kind c ∨ fault.Repeats value c) fault.unquoted) :
    fault.ShowsWithin kind value := by
  refine List.forall_mem_append.mpr ⟨words, ?_⟩
  rw [about]
  exact List.forall_mem_singleton.mpr (input.breaksWithin about)

theorem settles_canonicalTime (input : IsInput value text) {pattern : String}
    (within : BreaksWithin kind pattern) :
    Settles (fun _ => True) (TransformFault.ShowsWithin kind value)
      (canonicalTime pattern text) := by
  unfold canonicalTime
  split
  next repetition ambiguous =>
    have any {t : String} : BreaksWithin (fun _ => True) t := fun _ _ => trivial
    have named := (settles_readTime any any).of_error ambiguous
    exact List.forall_mem_singleton.mpr (breaksWithin_singleton named)
  next fault failed =>
    have about : (TransformFault.unreadableTime text pattern fault).context = some text := rfl
    have shows := ((settles_readTime (input.breaksWithin about)
      (within.imp fun _ => .inl)).of_ok failed)
    exact input.showsWithin about shows
  next => trivial

theorem settles_wholePrice (input : IsInput value text) :
    Settles (fun _ => True) (TransformFault.ShowsWithin kind value) (wholePrice text) := by
  unfold wholePrice
  dsimp only
  split
  · exact input.showsWithin rfl (List.forall_mem_nil _)
  split
  · exact List.forall_mem_nil _
  split
  · exact input.showsWithin rfl (List.forall_mem_nil _)
  · trivial

theorem settles_truthOfWord (input : IsInput value text) :
    Settles (fun _ => True) (TransformFault.ShowsWithin kind value) (truthOfWord text) := by
  unfold truthOfWord
  dsimp only
  split
  · trivial
  split
  · trivial
  · exact input.showsWithin rfl (List.forall_mem_nil _)

end

/-- A built-in transform shows its pattern for times, and the text that it has failed on. -/
theorem settles_transform {transform : TransformFunction}
    (builtin : transform ∈ builtinTransforms.map Prod.snd) (value : Json) {params : Params}
    (patterns : AllWithin kind (params.lookup "format").toList) :
    Settles (fun _ => True) (TransformFault.ShowsWithin kind value) (transform value params) := by
  simp only [builtinTransforms, List.map_cons, List.map_nil, List.mem_cons, List.not_mem_nil,
    or_false] at builtin
  obtain rfl | rfl | rfl | rfl | rfl := builtin
  · unfold timeTransform
    split
    · exact List.forall_mem_nil _
    next pattern given =>
      have within : BreaksWithin kind pattern :=
        patterns _ (Option.mem_toList.mpr (Option.filter_eq_some_iff.mp given).1)
      refine (settles_inputText value).bind fun text input => ?_
      refine (settles_canonicalTime input within).andThen fun time => ?_
      trivial
  · refine (settles_inputText value).bind fun text input => ?_
    refine (settles_wholePrice input).andThen fun price => ?_
    trivial
  · refine (settles_inputText value).bind fun text input => ?_
    trivial
  · refine (settles_inputText value).bind fun text input => ?_
    trivial
  · refine (settles_inputText value).bind fun text input => ?_
    refine (settles_truthOfWord input).andThen fun truth => ?_
    trivial

/-! ## Values -/

/-- A line break of a text in a document that a transform has failed on. -/
def Failure.Repeats (failure : Failure) (document : Json) (c : Char) : Prop :=
  ∃ fault site text, failure = .transform fault site ∧ fault.context = some text ∧
    document.HasText text ∧ c ∈ text.toList

/-- The line breaks that a failure shows are of a kind, or of a text in the document that a
transform has failed on. -/
def Failure.ShowsWithin (kind : Char → Prop) (document : Json) (failure : Failure) : Prop :=
  AllWithin (fun c => kind c ∨ failure.Repeats document c) failure.verbatim

namespace Failure

theorem allWithin_verbatim {failure : Failure} (words : AllWithin kind failure.unquoted)
    (context : AllWithin kind failure.context.toList)
    (path : AllWithin kind failure.dataPath.toList) : AllWithin kind failure.verbatim := by
  refine List.forall_mem_append.mpr ⟨List.forall_mem_append.mpr ⟨words, context⟩, ?_⟩
  intro text shown
  exact path text (Option.mem_toList.mpr
    (Option.filter_eq_some_iff.mp (Option.mem_toList.mp shown)).1)

theorem ShowsWithin.of_allWithin {document : Json} {failure : Failure}
    (h : AllWithin kind failure.verbatim) : failure.ShowsWithin kind document :=
  h.imp fun _ => .inl

theorem ShowsWithin.of_hasText {document record : Json} {failure : Failure}
    (h : failure.ShowsWithin kind record)
    (inside : ∀ text, record.HasText text → document.HasText text) :
    failure.ShowsWithin kind document := by
  refine h.imp fun c => Or.imp_right ?_
  rintro ⟨fault, site, text, same, about, held, mem⟩
  exact ⟨fault, site, text, same, about, inside text held, mem⟩

end Failure

/-- The texts that a fault of a document shows. -/
def DataFault.texts (fault : DataFault) : List String :=
  fault.unquoted ++ fault.context.toList ++ [fault.path]

theorem DataFault.showsWithin {fault : DataFault} (h : AllWithin kind fault.texts)
    (document : Json) : (Failure.data fault).ShowsWithin kind document := by
  obtain ⟨words, path⟩ := List.forall_mem_append.mp h
  obtain ⟨words, context⟩ := List.forall_mem_append.mp words
  exact .of_allWithin (Failure.allWithin_verbatim words context path)

/-- A fault that is about its path, and has a wording of its own, shows the path. -/
theorem DataFault.showsWithin_of_worded {fault : DataFault} (worded : fault.unquoted = [])
    (about : fault.context = some fault.path) (path : BreaksWithin kind fault.path)
    (document : Json) : (Failure.data fault).ShowsWithin kind document := by
  refine DataFault.showsWithin ?_ document
  simpa [AllWithin, DataFault.texts, worded, about] using path

/-- The failure of a path shows the texts of its fault, or nothing if an index has too many
digits. -/
theorem DataFault.showsWithin_ofPath {toFault : PathFault → DataFault} {fault : PathFault}
    (h : AllWithin kind (toFault fault).texts) (document : Json) :
    (Failure.ofPath (fun fault => .data (toFault fault)) fault).ShowsWithin kind document := by
  obtain reported | ⟨excess, -, breakdown⟩ := ofPath_eq_data_or_breakdown toFault fault
  · rw [reported]
    exact DataFault.showsWithin h document
  · rw [breakdown]
    exact List.forall_mem_nil _

theorem settles_convertTo (type : ValueType) (value : Json) {path : String}
    (within : BreaksWithin kind path) :
    Settles (fun _ => True) (Failure.ShowsWithin kind value) (convertTo type value path) := by
  unfold convertTo
  split
  next => exact DataFault.showsWithin_of_worded rfl rfl within value
  next read _ found =>
    cases read with
    | ok scalar => trivial
    | error failure =>
      obtain ⟨scalar, -, failed⟩ := Option.bind_eq_some_iff.mp found
      obtain ⟨-, n, -, -, rfl⟩ := readAs_eq_error failed
      exact List.forall_mem_nil _
  next => exact DataFault.showsWithin_of_worded rfl rfl within value

theorem TransformFault.ShowsWithin.of_site {fault : TransformFault} {value : Json}
    (h : fault.ShowsWithin kind value) {path : String} (within : BreaksWithin kind path) :
    (Failure.ofTransform (some path) fault).ShowsWithin kind value := by
  obtain ⟨words, context⟩ := List.forall_mem_append.mp h
  have reported : (Failure.transform fault (some path)).ShowsWithin kind value := by
    have shown (c : Char) : kind c ∨ fault.Repeats value c →
        kind c ∨ (Failure.transform fault (some path)).Repeats value c := by
      refine Or.imp_right ?_
      rintro ⟨text, about, rfl, mem⟩
      exact ⟨fault, some path, text, rfl, about, .string, mem⟩
    refine Failure.allWithin_verbatim (AllWithin.imp words shown)
      (List.forall_mem_singleton.mpr ?_) (List.forall_mem_nil _)
    cases given : fault.context.filter (· ≠ "") with
    | none => exact within.imp fun _ => .inl
    | some text =>
      have about := (Option.filter_eq_some_iff.mp given).1
      exact (context text (Option.mem_toList.mpr about)).imp shown
  cases fault with
  | ambiguousPattern repetition =>
    -- The part that is named twice stands alone in the wording, and the fault is about no text.
    refine .of_allWithin (Failure.allWithin_verbatim ?_ (List.forall_mem_nil _)
      (List.forall_mem_nil _))
    intro text shown c breaks
    obtain named | ⟨_, ⟨⟩, -⟩ := words text shown c breaks
    exact named
  | longPrice excess => exact List.forall_mem_nil _
  | _ => exact reported

section

variable {registry : TransformRegistry} (builtin : registry.OnlyBuiltin) {record : Json}
  {property : Property} (within : AllWithin kind property.texts)

include builtin

theorem settles_transformed {transform : PropertyTransform}
    (texts : AllWithin kind transform.texts) (value : Json) {path : String}
    (within : BreaksWithin kind path) :
    Settles (fun _ => True) (Failure.ShowsWithin kind value)
      (transformed registry transform value path) := by
  obtain ⟨described, patterns⟩ := List.forall_mem_cons.mp texts
  have missing : (TransformFault.notFound transform.describe).ShowsWithin kind value :=
    List.forall_mem_singleton.mpr (described.imp fun _ => .inl)
  unfold transformed
  split
  · exact DataFault.showsWithin_of_worded rfl rfl within value
  split
  · exact missing.of_site within
  next name named =>
    have same : transform.describe = name := by simp [PropertyTransform.describe, named]
    have applied : Settles (fun _ => True) (TransformFault.ShowsWithin kind value)
        (registry.apply name value transform.params) := by
      unfold TransformRegistry.apply
      split
      next function found => exact settles_transform (builtin.mem_of_find? found) value patterns
      next => exact same ▸ missing
    split
    · trivial
    next fault failed => exact (applied.of_error failed).of_site within

include within

theorem settles_literalOf (type : ValueType) (value : Json) :
    Settles (fun _ => True) (Failure.ShowsWithin kind value)
      (literalOf registry property type value) := by
  simp only [AllWithin, Property.texts, List.forall_mem_cons, List.forall_mem_flatMap,
    Option.mem_toList] at within
  obtain ⟨-, path, -, transforms⟩ := within
  unfold literalOf
  split
  · trivial
  next transform _ attached =>
    refine (settles_transformed builtin (transforms transform attached) _ path).map fun _ _ => ?_
    trivial
  next =>
    refine (settles_convertTo type _ path).map fun _ _ => ?_
    trivial

/-- A property that cannot be read from a record shows its own texts, and a text of the record that
its transform has failed on. -/
theorem showsWithin_propertyValue {failure : Failure}
    (h : (propertyValue registry record property).alone = .error failure) :
    failure.ShowsWithin kind record := by
  have texts := within
  simp only [AllWithin, Property.texts, List.forall_mem_cons] at texts
  obtain ⟨name, path, type, -⟩ := texts
  obtain ⟨-, rfl⟩ | ⟨type, -, ⟨fault, nowhere, rfl⟩ | ⟨value, found, failed⟩⟩ :=
    alone_propertyValue_eq_error h
  · refine .of_allWithin (Failure.allWithin_verbatim ?_ (List.forall_mem_nil _)
      (List.forall_mem_nil _))
    exact List.forall_mem_singleton.mpr type
  · refine DataFault.showsWithin_ofPath ?_ record
    simp only [AllWithin, DataFault.texts, DataFault.unquoted, DataFault.context, DataFault.path,
      List.forall_mem_append, List.forall_mem_singleton, Option.toList_some]
    exact ⟨⟨path.of_resolve nowhere, name⟩, path⟩
  · have shows := (settles_literalOf builtin within type value).of_error failed
    exact shows.of_hasText fun text inside => inside.of_follow found

end

/-! ## Records -/

theorem showsWithin_recordsAt {document : Json} {path : String} (within : BreaksWithin kind path)
    {failure : Failure} (h : (recordsAt document path).alone = .error failure) :
    failure.ShowsWithin kind document := by
  obtain ⟨fault, nowhere, rfl⟩ := alone_recordsAt_eq_error h
  refine DataFault.showsWithin_ofPath ?_ document
  simp only [AllWithin, DataFault.texts, DataFault.unquoted, DataFault.context, DataFault.path,
    List.forall_mem_append, List.forall_mem_singleton, Option.toList_some]
  exact ⟨⟨within.of_resolve nowhere, within⟩, within⟩

theorem showsWithin_vertexIdAt {record : Json} {path : String} (within : BreaksWithin kind path)
    {failure : Failure} (h : (vertexIdAt record path).alone = .error failure) :
    failure.ShowsWithin kind record := by
  rw [alone_vertexIdAt, bind_eq_error_iff] at h
  obtain missing | ⟨key, -, refused⟩ := h
  · obtain ⟨fault, nowhere, rfl⟩ := mapError_eq_error_iff.mp missing
    refine DataFault.showsWithin_ofPath ?_ record
    simp only [AllWithin, DataFault.texts, DataFault.unquoted, DataFault.context, DataFault.path,
      List.forall_mem_append, List.forall_mem_singleton, Option.toList_none]
    exact ⟨⟨within.of_resolve nowhere, List.forall_mem_nil _⟩, within⟩
  · have shows : Settles (fun _ => True)
        (fun fault => (Failure.data fault).ShowsWithin kind record) (vertexIdOf key path) := by
      unfold vertexIdOf
      split
      · exact DataFault.showsWithin_of_worded rfl rfl within record
      · trivial
      · trivial
      · split
        · trivial
        · exact DataFault.showsWithin_of_worded rfl rfl within record
      · exact DataFault.showsWithin_of_worded rfl rfl within record
    obtain ⟨fault, failed, rfl⟩ := mapError_eq_error_iff.mp refused
    exact shows.of_error failed

section

variable {registry : TransformRegistry} (builtin : registry.OnlyBuiltin) {document : Json}

include builtin

/-- Reading an element fails with its own texts, and with a text of the document that a transform
has failed on. -/
theorem Readout.Fails.showsWithin {readout : Readout} (within : AllWithin kind readout.texts)
    {failure : Failure} (h : readout.Fails registry document failure) :
    failure.ShowsWithin kind document := by
  simp only [AllWithin, Readout.texts, List.forall_mem_cons, List.forall_mem_append,
    List.forall_mem_flatMap] at within
  obtain ⟨-, source, keys, properties⟩ := within
  obtain missing | ⟨records, found, record, among, failed⟩ := h
  · exact showsWithin_recordsAt source missing
  · have inside (text : String) (held : record.HasText text) : document.HasText text :=
      held.of_recordsAt found among
    obtain ⟨key, own, failed⟩ | ⟨property, own, failed⟩ := failed
    · exact (showsWithin_vertexIdAt (keys key own) failed).of_hasText inside
    · exact (showsWithin_propertyValue builtin (properties property own) failed).of_hasText inside

/-- A document fails with texts of the mapping, and with one of its texts if a transform has failed
on it. -/
theorem showsWithin_dataStatements {mapping : GraphMapping}
    (within : ∀ readout ∈ mapping.readouts, AllWithin kind readout.texts) {size : BatchSize}
    {session : Session} {failure : Failure}
    (h : (dataStatements registry mapping document size).outcome session = .error failure) :
    failure.ShowsWithin kind document := by
  obtain ⟨readout, among, failed⟩ := exists_readout_fails h
  exact Readout.Fails.showsWithin builtin (within readout among) failed

end

end DocGraph
