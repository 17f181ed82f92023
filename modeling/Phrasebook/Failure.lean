import Phrasebook.Request

/-!
## Failures

Why the program as a whole could not do what it was asked to.  A failure belongs to one of six
kinds; its message names the kind, and it may have a cause with a message of its own.
-/

namespace Phrasebook

/-- What a failure was caused by. -/
inductive Cause where
  /-- A condition outside the program, in words. -/
  | condition (text : String)
  /-- A catalog that could not be loaded. -/
  | load (e : LoadError)
  deriving DecidableEq, Repr

/-- The cause in words, followed by what it was caused by itself. -/
def Cause.chain : Cause → List String
  | .condition text => [text]
  | .load e => e.message :: e.causes

/-- A failure of the program. -/
inductive Failure where
  /-- A configuration that cannot be read. -/
  | config (text : String) (cause : Option Cause)
  /-- A condition of the file system. -/
  | io (text : String)
  /-- A document that cannot be read. -/
  | serialization (text : String)
  /-- A catalog that cannot be loaded or a locale that cannot be made active. -/
  | localization (text : String) (locale : Option String) (cause : Option Cause)
  /-- A value that is not allowed. -/
  | validation (text : String) (field : Option String)
  /-- Anything else. -/
  | generic (text : String) (cause : Option Cause)
  deriving DecidableEq, Repr

namespace Failure

/-- The failure in words. -/
def message : Failure → String
  | .config text _ => "Configuration error: " ++ text
  | .io text => "I/O error: " ++ text
  | .serialization text => "Serialization error: " ++ text
  | .localization text _ _ => "Localization error: " ++ text
  | .validation text _ => "Validation error: " ++ text
  | .generic text _ => text

/-- The field whose value is not allowed, as names with dots between them. -/
def field? : Failure → Option String
  | .validation _ field => field
  | _ => none

/-- The locale that the failure is about. -/
def locale? : Failure → Option String
  | .localization _ locale _ => locale
  | _ => none

/-- The cause of the failure. -/
def cause? : Failure → Option Cause
  | .config _ cause | .localization _ _ cause | .generic _ cause => cause
  | .io text | .serialization text => some (.condition text)
  | .validation _ _ => none

/-- The causes in words, the nearest first. -/
def causes (f : Failure) : List String :=
  match f.cause? with
  | some cause => cause.chain
  | none => []

/-- The failure that an error in loading a catalog amounts to. -/
def ofLoadError (e : LoadError) : Failure :=
  .localization e.message e.locale? (some (.load e))

end Failure

end Phrasebook
