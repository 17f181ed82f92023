import Phrasebook.CommandLine.Invocation
import Phrasebook.Config.Loader
import Phrasebook.Text.Quoted

/-!
## The application

An invocation is carried out in two steps.  First a session is prepared: the configuration gives a
builder, the catalog files of the command line are added in order, the translator is installed, and
the locale of the command line is made active.  Then the command is executed in the session.

* `App.prepare` prepares a session.
* `App.execute` gives the output of a command.
-/

namespace Phrasebook

/-- Why a session cannot be prepared. -/
inductive AppError where
  /-- A catalog cannot be loaded, or a locale cannot be made active. -/
  | load (e : LoadError)
  /-- A catalog file of the command line cannot be read. -/
  | catalogFile (path : String) (fault : ReadFault)
  deriving DecidableEq, Repr

namespace AppError

/-- The error in words. -/
def message : AppError → String
  | .load e => "Localization error: " ++ e.message
  | .catalogFile path fault => "Cannot read catalog " ++ path ++ ": " ++ fault.reason

/-- What the error was caused by, in words, the nearest cause first. -/
def causes : AppError → List String
  | .load e => e.message :: e.causes
  | .catalogFile _ fault => [fault.reason]

end AppError

namespace App

/-- The part of the program that the application speaks for. -/
def target : String :=
  "polyglot_cli::app"

/-- The catalog in a file. -/
def readCatalog (files : Files) (file : CommandLine.CatalogFile) : Except AppError MessageTree :=
  match files.readText file.path with
  | .error fault => .error (.catalogFile file.path fault)
  | .ok text => (MessageTree.parse text).mapError fun fault => .load (.invalidCatalog fault)

/-- What reading a catalog file reports. -/
def readEvent (file : CommandLine.CatalogFile) : Event :=
  .outside .debug target ("Reading catalog for " ++ file.locale ++ " from " ++ file.path)

/-- Adds the catalogs of files to a builder, up to the first that cannot be read. -/
def addCatalogs (files : Files) :
    List CommandLine.CatalogFile → Builder → Except AppError Unit × Builder
  | [], b => (.ok (), b)
  | file :: rest, b =>
    let b := { b with events := b.events ++ [readEvent file] }
    match readCatalog files file with
    | .error e => (.error e, b)
    | .ok tree => addCatalogs files rest (b.catalog file.locale tree)

/-- A builder with the fallback of the options, if they have one. -/
def setFallback (options : Options) (b : Builder) : Builder :=
  { b with fallback := options.fallback.getD b.fallback }

/-- Makes the locale of the options active, if they have one. -/
def chooseLocale {σ : Type} (fetcher : Fetcher σ) (options : Options) (s : Session σ) :
    Except LoadError Unit × Session σ :=
  match options.locale with
  | none => (.ok (), s)
  | some locale => s.setLocale fetcher .async locale

/-- What a prepared session reports. -/
def readyEvent (t : Translator) : Event :=
  .outside .info target ("Translator ready: locale " ++ t.locale ++ ", fallback " ++ t.fallback ++
    ", loaded " ++ Text.quoteList t.store.locales)

/-- Prepares a session.  The session that is given with an error is the one in which the error
occurred, and the events in it are those up to the error. -/
def prepare {σ : Type} (files : Files) (fetcher : Fetcher σ) (source : σ) (options : Options)
    (config : Config) : Except AppError Unit × Session σ :=
  match addCatalogs files options.catalogs config.builder with
  | (.error e, b) => (.error e, { b.build source with events := b.events })
  | (.ok (), b) =>
    match (setFallback options b).install fetcher .async source with
    | (.error e, s) => (.error (.load e), s)
    | (.ok (), s) =>
      match chooseLocale fetcher options s with
      | (.error e, s) => (.error (.load e), s)
      | (.ok (), s) => (.ok (), { s with events := s.events ++ [readyEvent s.translator] })

/-- Executes a command and gives its output. -/
def execute {σ : Type} (command : Command) (s : Session σ) : String × Session σ :=
  match command with
  | .translate key args => s.translate key (Args.ofTexts args)
  | .choice key count args => s.translateCountable key count (Args.ofTexts args)
  | .rules text => (Choice.explain text, s)

end App

end Phrasebook
