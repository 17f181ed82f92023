import Phrasebook.Config.Json
import Phrasebook.Config.Toml
import Phrasebook.Config.Yaml
import Phrasebook.Failure
import Phrasebook.Files

/-!
## The formats of configuration files

The extension of a file tells which notation its configuration is written in; the case of ASCII
letters does not matter.

* `Config.Format.ofPath` tells the format of a file, and `Config.Format.parse` reads a text in a
  format.
-/

namespace Phrasebook.Config

/-- A notation for configurations. -/
inductive Format where
  | toml
  | yaml
  | json
  deriving DecidableEq, Repr

namespace Format

/-- The name of a format. -/
def name : Format → String
  | .toml => "TOML"
  | .yaml => "YAML"
  | .json => "JSON"

/-- The extensions of files with their formats, in lower case. -/
def extensions : List (String × Format) :=
  [("toml", .toml), ("yaml", .yaml), ("yml", .yaml), ("json", .json)]

/-- The format of a file with some extension. -/
def ofExtension? (extension : List Char) : Option Format :=
  Entries.find? (String.ofList (extension.map Char.toLower)) extensions

/-- The format of the file under a path. -/
def ofPath (path : String) : Except Failure Format :=
  match (Path.extension? path).bind ofExtension? with
  | some format => .ok format
  | none => .error (.config ("Unsupported configuration format: " ++ path) none)

/-- The configuration that a text in some format describes. -/
def parse? : Format → String → Option Config
  | .toml => Toml.parse?
  | .yaml => Yaml.parse?
  | .json => Json.parse?

/-- The configuration that a text in some format describes, or the failure to read it.  The words of
the cause stand in for those of the reader of the format, which say what is wrong and where; these
are not modelled. -/
def parse (format : Format) (text : String) : Except Failure Config :=
  match format.parse? text with
  | some c => .ok c
  | none =>
    .error (.config ("Invalid " ++ format.name ++ " configuration")
      (some (.condition ("the text is not a configuration in " ++ format.name))))

end Format

end Phrasebook.Config
