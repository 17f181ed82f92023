import Phrasebook.CommandLine.Usage

/-!
## Help

What the program says about its own command line.

* `Topic.text` is the text that is shown to those who ask for help.
* `UsageFault.message` says in words why a command line is not followed.
-/

namespace Phrasebook

namespace Topic

/-- What a topic is about, in one line. -/
def about : Topic → String
  | .program => "Translate catalog keys and preview choice rules"
  | .translate => "Translate a key, substituting `\x7bname\x7d` placeholders"
  | .choice => "Translate a key and pick the phrase variant for a count"
  | .rules => "Show how a choice string is parsed into rules"
  | .help => "Print this message or the help of the given subcommand(s)"

/-- The form of a command line. -/
def usage : Topic → String
  | .program => "polyglot [OPTIONS] <COMMAND>"
  | .translate => "polyglot translate [OPTIONS] <KEY>"
  | .choice => "polyglot choice [OPTIONS] <KEY> <COUNT>"
  | .rules => "polyglot rules <TEXT>"
  | .help => "polyglot help [COMMAND]..."

/-- The sections of the help on a topic, with the lines that they have. -/
def sections : Topic → List (String × List (String × String))
  | .program =>
    [("Commands",
        [("translate", about .translate), ("choice", about .choice), ("rules", about .rules),
          ("help", about .help)]),
      ("Options",
        [("-c, --config <FILE>", "Configuration file (TOML, YAML or JSON)"),
          ("    --catalog <LOCALE=FILE>", "Preload a JSON catalog for a locale"),
          ("-l, --locale <LOCALE>", "Switch to this locale before translating"),
          ("    --fallback <FALLBACK>", "Override the fallback locale"),
          ("    --log-level <FILTER>", "Log filter directive, overriding the configuration"),
          ("-h, --help", "Print help"),
          ("-V, --version", "Print version")])]
  | .translate =>
    [("Arguments", [("<KEY>", "Path key (`user.name`) or phrase key (`\"Save changes\"`)")]),
      ("Options",
        [("-a, --arg <NAME=VALUE>",
            "Placeholder value as NAME=VALUE; repeatable, applied in order"),
          ("-h, --help", "Print help")])]
  | .choice =>
    [("Arguments",
        [("<KEY>", "Path key or phrase key"), ("<COUNT>", "Count selecting the variant")]),
      ("Options",
        [("-a, --arg <NAME=VALUE>",
            "Placeholder value as NAME=VALUE; repeatable, applied in order"),
          ("-h, --help", "Print help")])]
  | .rules =>
    [("Arguments",
        [("<TEXT>", "Raw choice string such as `\x7b0\x7d none|\x7b1\x7d one|[2,*] many`")]),
      ("Options", [("-h, --help", "Print help")])]
  | .help => [("Arguments", [("[COMMAND]...", "Print help for the subcommand(s)")])]

/-- A line of a section; what is explained takes up `width` characters. -/
def sectionLine (width : Nat) (entry : String × String) : String :=
  let space := String.ofList (List.replicate (width - entry.1.length) ' ')
  "  " ++ entry.1 ++ space ++ "  " ++ entry.2 ++ "\n"

/-- A section with its title. -/
def sectionText (s : String × List (String × String)) : String :=
  let width := s.2.foldl (fun width entry => max width entry.1.length) 0
  "\n" ++ s.1 ++ ":\n" ++ String.join (s.2.map (sectionLine width))

/-- The help on a topic. -/
def text (topic : Topic) : String :=
  topic.about ++ "\n\nUsage: " ++ topic.usage ++ "\n" ++
    String.join (topic.sections.map sectionText)

end Topic

namespace UsageFault

/-- The fault in words. -/
def message : UsageFault → String
  | .badValue reason => "invalid value: " ++ reason
  | .missingValue => "a value is required but none was supplied"
  | .unwantedValue => "unexpected value for an option that takes none"
  | .unknownArgument => "unexpected argument found"
  | .repeatedOption => "an argument cannot be used multiple times"
  | .missingArgument => "required arguments were not provided"
  | .missingCommand => "a subcommand is required but one was not provided"
  | .unknownCommand => "unrecognized subcommand"
  | .nothing => Topic.text .program
  | .help topic => Topic.text topic
  | .version => "polyglot 0.1.0\n"

end UsageFault

end Phrasebook
