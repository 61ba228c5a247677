import DocGraph.Proofs.Graph.LiteralType
import DocGraph.Proofs.Run.Phases
import DocGraph.Proofs.Schema.Declaration

/-!
# Schema and data agree

A run declares the elements of a mapping and writes their vertices and edges, each on its own way
from the mapping. A batch lists the columns of the declaration of its element, in order, and in
each of its tuples there is one literal for every column. Null stands for null only. Any other
literal has the form of the type of its column, or that of the type of a built-in transform.

## Main definitions

* `RunResult.Declares`: the declaration of the element that a statement is about.
* `Agrees`: a literal that agrees with its property and its column.

## Main results

* `schema_and_data_agree`: the batches of a run agree with its declarations.
-/

namespace DocGraph

open Generation

/-- A run declares the element that a statement is about. -/
def RunResult.Declares (result : RunResult) (statement : DataStatement) (element : Element) :
    Prop :=
  .create element ∈ result.schema ∧ element.kind = statement.kind ∧
    element.name = statement.element

/-- A literal stands for the value of a property in a record, and it has the form that the column
of the property calls for, or the transform of the property if it is built in. -/
def Agrees (registry : TransformRegistry) (record : Json) (property : Property) (column : Column)
    (literal : Literal) : Prop :=
  column.name = property.name ∧ ∃ value, resolve record property.path = .ok value ∧
    (literal.text = "NULL" ↔ value = .null) ∧
    (value ≠ .null → property.transform = none →
      (formOfWritten column.type).Shows literal.text) ∧
    ∀ transform name function target, value ≠ .null → property.transform = some transform →
      transform.registryName? = some name → registry.find? name = some function →
      (function, target) ∈ builtinTargets → target.form.Shows literal.text

theorem agrees_of_hasLiteral {registry : TransformRegistry} {record : Json} {property : Property}
    {column : Column} {literal : Literal} (h : HasLiteral registry record property literal)
    (isFor : column.IsFor property) : Agrees registry record property column literal := by
  obtain ⟨type, value, known, found, given⟩ := h
  obtain ⟨name, declared, requested, written, known', fits, typed⟩ := isFor
  obtain rfl : type = declared := Option.some.inj (known.symm.trans known')
  refine ⟨name, value, found, text_literalOf_eq_null_iff given, ?_, ?_⟩
  · intro present plain
    rw [typed, formOfWritten_text fits, ← form_of_plain given present plain]
    exact shows_form literal
  · intro transform name function target present attached named found builtin
    rw [← form_of_builtin given present attached named found builtin]
    exact shows_form literal

/-- Members related to the members of two lists are related to the pairs of them. -/
theorem forall₂_zip {α β γ : Type} {R : α → β → Prop} {S : α → γ → Prop} {T : α → β → γ → Prop}
    (each : ∀ a b c, R a b → S a c → T a b c) {as : List α} {bs : List β} {cs : List γ}
    (first : List.Forall₂ R as bs) (second : List.Forall₂ S as cs) :
    List.Forall₂ (fun pair c => T pair.1 pair.2 c) (as.zip bs) cs := by
  induction first generalizing cs with
  | nil =>
    cases second
    exact .nil
  | cons head _ ih =>
    cases second with
    | cons head' tail => exact .cons (each _ _ _ head head') (ih tail)

/-- A batch agrees with the declaration of its element. It lists the same columns. Each of its
tuples is read from a record of the element, with one literal for every column, which agrees with
the column and its property. -/
def DataStatement.AgreesWith (registry : TransformRegistry) (mapping : GraphMapping)
    (document : Json) (statement : DataStatement) (element : Element) : Prop :=
  statement.columns = element.columns.map (·.name) ∧
    ∃ readout ∈ mapping.readouts,
      readout.kind = statement.kind ∧ readout.name = statement.element ∧
      readout.properties.length = element.columns.length ∧
      ∃ records, (recordsAt document readout.source).alone = .ok records ∧
        ∀ tuple ∈ statement.tuples, tuple.length = element.columns.length ∧
          ∃ record ∈ records, List.Forall₂
            (fun pair literal => Agrees registry record pair.1 pair.2 literal)
            (readout.properties.zip element.columns) tuple

theorem agreesWith_of_declares {registry : TransformRegistry} {mapping : GraphMapping}
    {document : Json} {readout : Readout} (among : readout ∈ mapping.readouts)
    {statement : DataStatement} (writes : readout.Writes registry document statement)
    (insert : statement.IsInsert) {element : Element} (declares : readout.Declares element) :
    statement.AgreesWith registry mapping document element := by
  obtain ⟨kind, name, dynamic, records, static, columns, found, tuples⟩ := writes
  obtain rfl := static insert
  have arity : readout.properties.length = element.columns.length := declares.columns.length_eq
  refine ⟨?_, readout, among, kind.symm, name.symm, arity, records, found, ?_⟩
  · rw [columns, List.map_nil, List.append_nil, declares.columnNames_eq]
  · intro tuple mem
    obtain ⟨record, recordMem, literals, each, rfl⟩ := tuples tuple mem
    rw [List.map_nil, List.append_nil]
    have agree (property : Property) (column : Column) (literal : Literal)
        (isFor : column.IsFor property) (given : HasLiteral registry record property literal) :
        Agrees registry record property column literal := agrees_of_hasLiteral given isFor
    exact ⟨each.length_eq.symm.trans arity, record, recordMem,
      forall₂_zip agree declares.columns each⟩

/-- Every batch of a run agrees with the one declaration of its element. -/
theorem schema_and_data_agree (pipeline : Pipeline) {mapping : GraphMapping}
    (built : mapping.IsBuilt) {document : Json} {options : RunOptions} {session : Session}
    {result : RunResult}
    (h : (pipeline.run mapping document options).outcome session = .ok result) :
    ∀ statement ∈ result.data, statement.IsInsert →
      ∃ element, result.Declares statement element ∧
        (∀ other, result.Declares statement other → other = element) ∧
        statement.AgreesWith pipeline.registry mapping document element := by
  obtain ⟨size, -, declared, -, written⟩ := run_eq_ok h
  obtain ⟨elements, ofMapping, creates, -⟩ := mem_schemaStatements (mapError_eq_ok_iff.mp declared)
  intro statement mem insert
  obtain nothing | written := written
  · simp [nothing] at mem
  · obtain ⟨readout, among, writes⟩ := exists_readout_writes written mem
    obtain ⟨element, within, declares⟩ := exists_declares ofMapping among
    have kind : element.kind = statement.kind := declares.kind.trans writes.1.symm
    have name : element.name = statement.element := declares.name.trans writes.2.1.symm
    refine ⟨element, ⟨(creates element).mpr within, kind, name⟩, ?_,
      agreesWith_of_declares among writes insert declares⟩
    rintro other ⟨create, kind', name'⟩
    exact eq_of_mem_schemaElements built ofMapping ((creates other).mp create) within
      (kind'.trans kind.symm) (name'.trans name.symm)

/-- The books of the library. -/
def libraryBooks : DataStatement :=
  .insertVertices "Book" ["title", "cents"]
    [⟨⟨"b1"⟩, [.value (.text "Logic"), .value (.integer 1950)]⟩,
      ⟨⟨"b2"⟩, [.value (.text "Proofs"), .null]⟩]

theorem schema_and_data_agree_library :
    ∃ result element,
      (({} : Pipeline).run libraryMapping libraryDocument {}).outcome {} = .ok result ∧
      libraryBooks ∈ result.data ∧ result.Declares libraryBooks element ∧
      (∀ other, result.Declares libraryBooks other → other = element) ∧
      libraryBooks.AgreesWith .builtin libraryMapping libraryDocument element := by
  have books : ((({} : Pipeline).run libraryMapping libraryDocument {}).outcome
      {}).toOption.bind (·.data.head?) = some libraryBooks := by decide +kernel
  cases completed : (({} : Pipeline).run libraryMapping libraryDocument {}).outcome {} with
  | error failure => simp [completed, Except.toOption] at books
  | ok result =>
    have mem : libraryBooks ∈ result.data :=
      List.mem_of_mem_head? (by simpa [completed, Except.toOption] using books)
    obtain ⟨element, agrees⟩ :=
      schema_and_data_agree {} isBuilt_libraryMapping completed libraryBooks mem trivial
    exact ⟨result, element, rfl, mem, agrees⟩

end DocGraph
