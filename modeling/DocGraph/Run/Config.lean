import DocGraph.Graph.Generate

/-!
# Configuration

Defaults of runs are read from named settings of the environment. White space around a
setting does not count, and a setting that cannot be read is passed over.

## Main definitions

* `cleanSetting`, `upperSetting`, `boolSetting`, `integerSetting`, `listSetting`: the kinds of
  settings.
* `Config`, `Config.ofEnvironment`: the configuration, and how it is read.
* `Config.resolveBatchSize`: the size of batches of a run.
-/

namespace DocGraph

def cleanSetting (raw : Option String) : Option String := raw.map strip

/-- A name in upper case; an empty setting is none. -/
def upperSetting (raw : Option String) : Option String :=
  ((cleanSetting raw).filter (· ≠ "")).map upper

def boolSetting (default : Bool) (raw : Option String) : Bool :=
  match (cleanSetting raw).map lower with
  | none => default
  | some word =>
    if ["true", "1", "yes", "on"].contains word then true
    else if ["false", "0", "no", "off", ""].contains word then false
    else default

def integerSetting (default : Int) (raw : Option String) : Int :=
  ((cleanSetting raw).bind (readInteger? 10)).getD default

/-- The items of a list, without white space around them and without empty ones. A list
without items counts as missing. -/
def listSetting (default : List String) (separator : String) (raw : Option String) : List String :=
  match (cleanSetting raw).filter (· ≠ "") with
  | none => default
  | some list =>
    let items := ((splitText separator list).map strip).filter (· ≠ "")
    if items.isEmpty then default else items

/-- The defaults of runs. -/
structure Config where
  /-- How many rows share a statement; whether it can is checked when it is used. -/
  batchSize : Int := 500
  includeIndexes : Bool := false
  logLevel : Option String := none
  corsOrigins : List String := ["http://localhost:3000"]
  deriving DecidableEq, Repr

namespace Config

def ofEnvironment (environment : String → Option String) : Config where
  batchSize := integerSetting 500 (environment "NEBULA_MAPPER_BATCH_SIZE")
  includeIndexes := boolSetting false (environment "NEBULA_MAPPER_INCLUDE_INDEXES")
  logLevel := upperSetting (environment "NEBULA_MAPPER_LOG_LEVEL")
  corsOrigins := listSetting ["http://localhost:3000"] "," (environment "CORS_ORIGINS")

/-- The size of the batches of a run: the one that is asked for, or else the default. -/
def resolveBatchSize (config : Config) (asked : Option Json) : Except Failure BatchSize :=
  match asked with
  | none | some .null => BatchSize.ofInt config.batchSize
  | some size => BatchSize.ofJson size

/-- The level of log records: the configured one, or else another. -/
def resolveLogLevel (config : Config) (fallback : String) : String :=
  config.logLevel.getD fallback

end Config

end DocGraph
