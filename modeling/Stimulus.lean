import Stimulus.CommandLine
import Stimulus.Http.Message
import Stimulus.Log.Filter
import Stimulus.Main
import Stimulus.Proofs.Exchange.Execution
import Stimulus.Proofs.Keyed
import Stimulus.Proofs.Table.Chain
import Stimulus.Proofs.Run.Play
import Stimulus.Proofs.Run.Traffic
import Stimulus.Proofs.Url.Path
import Stimulus.Proofs.Url.Operation
import Stimulus.Proofs.Url.Wire
import Stimulus.Proofs.Url.Resource
import Stimulus.Proofs.Run.Complete
import Stimulus.Proofs.Preview
import Stimulus.Proofs.Json.Ordered
import Stimulus.Proofs.Run.Payload
import Stimulus.Proofs.Exchange.Clients
import Stimulus.Proofs.Exchange.Course
import Stimulus.Proofs.Exchange.Observer
import Stimulus.Proofs.Json.Compact
import Stimulus.Proofs.Run.Transcript
import Stimulus.Proofs.Command
import Stimulus.Proofs.Table.Loop
import Stimulus.Proofs.Table.Problems
import Stimulus.Proofs.Url.Pieces
import Stimulus.Proofs.Yaml.Place
import Stimulus.Proofs.Table.Entries
import Stimulus.Proofs.Url.Domain
import Stimulus.Proofs.Url.Form
import Stimulus.Proofs.Url.Reread
import Stimulus.Proofs.Url.Root
import Stimulus.Proofs.Yaml.Record
import Stimulus.Proofs.Table.Record
import Stimulus.Proofs.Yaml.Value
import Stimulus.Proofs.Table.Grammar
import Stimulus.Proofs.Table.Order
import Stimulus.Proofs.Json.Grammar
import Stimulus.Proofs.Json.Completeness
import Stimulus.Proofs.Json.Soundness
import Stimulus.Proofs.Exchange.Resolve
import Stimulus.Proofs.Exchange.Records
import Stimulus.Proofs.Exchange.Listing
import Stimulus.Proofs.Toml.Names
import Stimulus.Proofs.Files.Path
import Stimulus.Proofs.Settings
import Stimulus.Proofs.Json.Pretty
import Stimulus.Proofs.Table.Names
import Stimulus.Proofs.Preview.Payload
import Stimulus.Proofs.Palette.Sequences
import Stimulus.Proofs.Palette.Report
import Stimulus.Proofs.Palette.Clear
import Stimulus.Proofs.Palette.Replies
import Stimulus.Proofs.Palette.Sessions
import Stimulus.Proofs.Palette.Commands
import Stimulus.Proofs.Exchange.Alike
