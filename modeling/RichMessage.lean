import RichMessage.Main
import RichMessage.Session.Operation
import RichMessage.Proofs.Text.Bullet
import RichMessage.Proofs.Document.RoundTrip
import RichMessage.Proofs.Document.Stability
import RichMessage.Proofs.Panel.Identifiers
import RichMessage.Proofs.Session.Identifiers
import RichMessage.Proofs.History.Client
import RichMessage.Proofs.History.Timeline
import RichMessage.Proofs.Panel.InPlace
import RichMessage.Proofs.Session.InPlace
import RichMessage.Proofs.Session.Histories
import RichMessage.Proofs.Session.RawMode
import RichMessage.Proofs.Session.Atomicity
import RichMessage.Proofs.Document.Leaves
import RichMessage.Proofs.Document.Parts
import RichMessage.Proofs.Document.Grouping
import RichMessage.Proofs.Path.Steps
import RichMessage.Proofs.Path.Lens
import RichMessage.Proofs.Path.Frame
import RichMessage.Proofs.Panel.ByPosition
import RichMessage.Proofs.Panel.Validation
import RichMessage.Proofs.Path.Resolution
import RichMessage.Proofs.Json.Quoted
import RichMessage.Proofs.Json.Numeral
import RichMessage.Proofs.Json.Scanning
import RichMessage.Proofs.Json.Reading
import RichMessage.Proofs.Json.Order
import RichMessage.Proofs.Json.Nesting
import RichMessage.Proofs.Path.Nesting
import RichMessage.Proofs.Files.Places
import RichMessage.Proofs.Files.Writing
import RichMessage.Proofs.Files.Folders
import RichMessage.Proofs.Json.Plain
import RichMessage.Proofs.Document.WellFormed
import RichMessage.Proofs.Document.SavedText
import RichMessage.Proofs.Document.Survival
import RichMessage.Proofs.Command.InPlace
import RichMessage.Proofs.Rearrange
import RichMessage.Proofs.Path.Arrays
import RichMessage.Proofs.Json.Arrangement
import RichMessage.Proofs.Json.Records
import RichMessage.Proofs.Panel.Records
import RichMessage.Proofs.Command.Running
import RichMessage.Proofs.Command.Pipelines
import RichMessage.Proofs.Document.Walk
import RichMessage.Proofs.Panel.Frame
import RichMessage.Proofs.Panel.Undoing
import RichMessage.Proofs.Command.Targets
import RichMessage.Proofs.Path.Spelling
import RichMessage.Proofs.Ident.Clock
import RichMessage.Proofs.Json.Unambiguous
