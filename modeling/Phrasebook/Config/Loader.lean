import Phrasebook.Config.Format
import Phrasebook.Config.Validation

/-!
## Loading configurations

A configuration is loaded from a file: the name of the file tells its format, and what it says has
to be valid.  Of several faults the first in this order is reported: the name, the file, the text,
the values.
-/

namespace Phrasebook.Config

/-- The text of a configuration file. -/
def readFile (files : Files) (path : String) : Except Failure String :=
  (files.readText path).mapError fun fault =>
    .config ("Cannot read configuration file " ++ path) (some (.condition fault.reason))

/-- The valid configuration in the file under a path. -/
def load (files : Files) (path : String) : Except Failure Config := do
  let format ← Format.ofPath path
  let text ← readFile files path
  let config ← format.parse text
  config.validate
  return config

end Phrasebook.Config
