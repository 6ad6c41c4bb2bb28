import PivotTable.Config
import PivotTable.Yaml.Reader

/-!
# Configuration files

A configuration file holds YAML if its name ends in `.yaml` or `.yml`, and JSON otherwise. Of the faults of a
file only those of JSON are told apart.
-/
namespace PivotTable

inductive ConfigError
  | json (cause : DecodeError)
  | yaml
  | unreadableFile
deriving DecidableEq

namespace Config

def readJson (text : String) : Except ConfigError Config :=
  (decodeText decode text).mapError .json

def readYaml (text : String) : Except ConfigError Config :=
  match Yaml.read? text with
  | some node => (decode node.bounded).mapError fun _ => .yaml
  | none => .error .yaml

/-- What follows the last point of a file name, if anything stands before that point. -/
def fileExtension (name : String) : Option String :=
  let reversed := name.toList.reverse
  let ending := reversed.takeWhile (· ≠ '.')
  if ending.length + 1 < reversed.length then some (String.ofList ending.reverse) else none

/-- The configuration in a file of this name; without content the file could not be read. -/
def ofFile (name : String) (content : Option String) : Except ConfigError Config :=
  match content with
  | none => .error .unreadableFile
  | some text =>
    match fileExtension name with
    | some "yaml" | some "yml" => readYaml text
    | _ => readJson text

end Config

end PivotTable
