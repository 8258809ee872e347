import Polystore.Decoding.Record
import Polystore.Metadata.Freshness
import Polystore.Settings.EnvFile

/-!
Settings of a service. Each comes from the arguments it is made with, or else from the environment,
or else from a file of variables, or else it has its standard value. Names ignore case, and what no
setting asks for is passed over.
-/

namespace Polystore

structure Settings where
  federation : Option Bool
  standardFreshness : Freshness
  cacheEnabled : Bool
  logLevel : String
  logJson : Bool
  deriving DecidableEq

namespace Settings

open Decoding Fields

def names : List String :=
  ["trino_enabled", "default_freshness", "cache_enabled", "log_level", "log_json"]

def fields : Fields Settings :=
  let key (name : String) : Key := ⟨name, name⟩
  pure Settings.mk <*> optional (key "trino_enabled") (nullable truth) none
    <*> optional (key "default_freshness") (memberOf Freshness) .hours
    <*> optional (key "cache_enabled") truth true
    <*> optional (key "log_level") text "INFO"
    <*> optional (key "log_json") truth false

/-- The name of the variable of a setting. -/
def variableName (name : String) : String := "fedql_" ++ name

/-- The name of a variable in small letters. -/
def lowered (name : String) : String := String.ofList (name.toList.map Char.toLower)

/-- Where settings come from. -/
structure Sources where
  arguments : Row
  environment : Entries String String
  file : Option String

namespace Sources

/-- The arguments by their names in small letters; the first of a name counts. -/
def fromArguments (s : Sources) : Row := s.arguments.map fun (name, v) => (lowered name, v)

/-- The variables of the environment in small letters. -/
def fromEnvironment (s : Sources) : Entries String String :=
  .ofList (s.environment.map fun (name, value) => (lowered name, value))

/-- The variables of the file in small letters. -/
def fromFile (s : Sources) : Entries String (Option String) :=
  match s.file with
  | none => []
  | some text =>
    .ofList ((EnvFile.read s.environment text).map fun (name, value) => (lowered name, value))

/-- What the sources say of a setting. -/
def value? (s : Sources) (name : String) : Option Value :=
  match s.fromArguments.lookup name with
  | some v => some v
  | none =>
    match s.fromEnvironment.lookup (variableName name) with
    | some text => some (.text text)
    | none => ((s.fromFile.lookup (variableName name)).join).map .text

end Sources

/-- Reads the settings. -/
def read (s : Sources) : Decoded Settings :=
  fields.read (names.filterMap fun name => (s.value? name).map (name, ·))

/-- The settings kept from an earlier reading, or else those read now. -/
def remembered (kept : Option Settings) (s : Sources) : Decoded Settings :=
  match kept with
  | some settings => .ok settings
  | none => read s

def toValue (s : Settings) : Value := .object [
  ("trino_enabled", match s.federation with
    | some b => .bool b
    | none => .null),
  ("default_freshness", .text s.standardFreshness.name), ("cache_enabled", .bool s.cacheEnabled),
  ("log_level", .text s.logLevel), ("log_json", .bool s.logJson)]

end Settings

end Polystore
