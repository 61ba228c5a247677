import DocGraph.Failure
import DocGraph.Yaml.Reader

/-!
# Loading texts

Documents are JSON texts, and mappings are YAML texts. The name of the source of a text
becomes part of its failures. A mapping can be loaded by any reader of YAML texts: its
reports become failures, and what else it raises is let out.

## Main definitions

* `Yaml.Reader`: the readers of YAML texts.
* `LoadFault`: why a text is not loaded by a reader.
* `loadMappingBy`: the mapping of a text by a reader.
* `loadJson`, `loadYaml`, `loadMapping`: the values of texts, and the mapping that one makes.
-/

namespace DocGraph

def loadJson (text : String) (source : Option String) : Except Failure Json :=
  (Json.read text.toList).mapError fun fault => .json fault (fault.place text.toList) source

def definitionOf (value : Yaml.Value) : Except Failure MappingDefinition :=
  (MappingDefinition.ofValue value).mapError .definition

/-- The mapping of the definition that a value is. -/
def mappingOf (value : Yaml.Value) : Except Failure GraphMapping := do
  (buildMapping (← definitionOf value)).mapError .mapping

/-! ## Any reader -/

/-- A reader of YAML texts, with its reports and the other things that it raises. -/
abbrev Yaml.Reader (ρ ε : Type) := String → Except (Yaml.Raised ρ ε) Yaml.Value

/-- Why a text is not loaded by a reader. -/
inductive LoadFault (ρ ε : Type) where
  /-- The reader has reported on the text. -/
  | malformed (found : ρ) (source : Option String)
  /-- The text has a value, which makes no mapping. -/
  | invalid (failure : Failure)
  /-- The reader has raised something that is no report. -/
  | escaped (exception : ε)

/-- A report is noted together with the source; all else is let out as it is. -/
def LoadFault.ofRaised {ρ ε : Type} (source : Option String) : Yaml.Raised ρ ε → LoadFault ρ ε
  | .report found => .malformed found source
  | .other exception => .escaped exception

section

variable {ρ ε : Type} (reader : Yaml.Reader ρ ε) (text : String) (source : Option String)

def loadYamlBy : Except (LoadFault ρ ε) Yaml.Value :=
  (reader text).mapError (.ofRaised source)

def loadMappingBy : Except (LoadFault ρ ε) GraphMapping := do
  (mappingOf (← loadYamlBy reader text source)).mapError .invalid

end

/-! ## The reader of values -/

def readYaml : Yaml.Reader Yaml.Fault Yaml.ScalarFault :=
  fun text => (Yaml.read text).mapError Yaml.Fault.raised

def Failure.ofLoad : LoadFault Yaml.Fault Yaml.ScalarFault → Failure
  | .malformed fault source => .yaml fault source
  | .invalid failure => failure
  | .escaped cause => .breakdown (.scalar cause)

def loadYaml (text : String) (source : Option String) : Except Failure Yaml.Value :=
  (loadYamlBy readYaml text source).mapError .ofLoad

def loadMapping (text : String) (source : Option String) : Except Failure GraphMapping :=
  (loadMappingBy readYaml text source).mapError .ofLoad

theorem loadMapping_eq_bind (text : String) (source : Option String) :
    loadMapping text source = loadYaml text source >>= mappingOf := by
  unfold loadMapping loadYaml loadMappingBy
  cases loadYamlBy readYaml text source with
  | error fault => rfl
  | ok value =>
    change ((mappingOf value).mapError LoadFault.invalid).mapError Failure.ofLoad = mappingOf value
    cases mappingOf value <;> rfl

end DocGraph
