import Phrasebook.Main
import Phrasebook.Proofs.Text.Split
import Phrasebook.Proofs.Choice.Marker
import Phrasebook.Proofs.Choice.Rule
import Phrasebook.Proofs.Substitution
import Phrasebook.Proofs.Choice.Template
import Phrasebook.Proofs.Choice.Substitution
import Phrasebook.Proofs.Choice.Rendering
import Phrasebook.Proofs.Substitution.Simultaneous
import Phrasebook.Proofs.Substitution.Order
import Phrasebook.Proofs.Key
import Phrasebook.Proofs.Key.Kind
import Phrasebook.Proofs.CommandLine.Pair
import Phrasebook.Proofs.Request
import Phrasebook.Proofs.Translator.Failure
import Phrasebook.Proofs.Translator.ActiveLocale
import Phrasebook.Proofs.Translator.Preference
import Phrasebook.Proofs.Translator.OnDemand
import Phrasebook.Proofs.Translator.Lookup
import Phrasebook.Proofs.Translator.Fetching
import Phrasebook.Proofs.Translator.Interchange
import Phrasebook.Proofs.App
import Phrasebook.Proofs.Json.Token
import Phrasebook.Proofs.Json.Parser
import Phrasebook.Proofs.Message.Document
import Phrasebook.Proofs.Message.Catalog
import Phrasebook.Proofs.Message.Equality
import Phrasebook.Proofs.Message.Insertion
import Phrasebook.Proofs.Fetch
import Phrasebook.Proofs.Translator.Addressed
import Phrasebook.Proofs.Config
import Phrasebook.Proofs.Choice.Numbering
import Phrasebook.Proofs.Choice.Saturation
import Phrasebook.Proofs.Choice.Segments
import Phrasebook.Proofs.Choice.Append
import Phrasebook.Proofs.Translator.Switching
import Phrasebook.Proofs.Translator.LoadOrder
import Phrasebook.Proofs.Args
import Phrasebook.Proofs.Store
import Phrasebook.Proofs.Text.Quoted
import Phrasebook.Proofs.Choice.Display
import Phrasebook.Proofs.Config.Json
import Phrasebook.Choice.Span
import Phrasebook.Proofs.Translator.Diagnostics
import Phrasebook.Proofs.Choice.Span
