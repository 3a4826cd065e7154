import CiMessage.Config
import CiMessage.Config.Json
import CiMessage.Config.Override
import CiMessage.Config.Source
import CiMessage.Contribution
import CiMessage.Contribution.Json
import CiMessage.Decimal.Binary64
import CiMessage.Decimal.Shortest
import CiMessage.Decision
import CiMessage.Decision.Json
import CiMessage.Disk.Basic
import CiMessage.Disk.Fault
import CiMessage.Disk.Operations
import CiMessage.Environment
import CiMessage.Environment.Raw
import CiMessage.Event
import CiMessage.FileError
import CiMessage.IoError
import CiMessage.Json.Error
import CiMessage.Json.Number
import CiMessage.Json.Reader
import CiMessage.Json.Reader.Containers
import CiMessage.Json.Reader.Numerals
import CiMessage.Json.Reader.Scalars
import CiMessage.Json.Reader.Skip
import CiMessage.Json.Reader.Strings
import CiMessage.Json.Reader.Values
import CiMessage.Json.Reader.Variant
import CiMessage.Json.Value
import CiMessage.Log
import CiMessage.Log.Directive
import CiMessage.Log.Filter
import CiMessage.Log.Line
import CiMessage.Log.Threshold
import CiMessage.Path
import CiMessage.Pattern.Basic
import CiMessage.Pattern.CharSet
import CiMessage.Pattern.Flags
import CiMessage.Pattern.Reader
import CiMessage.Pattern.Reader.Escapes
import CiMessage.Pattern.Reader.Groups
import CiMessage.Pattern.Reader.Sets
import CiMessage.Pattern.Search
import CiMessage.Redirect
import CiMessage.RedirectError
import CiMessage.ReservedNames
import CiMessage.Sha256
import CiMessage.SortedMap
import CiMessage.Store
import CiMessage.Store.Disk
import CiMessage.Store.Memory
import CiMessage.Text.Alphanumeric
import CiMessage.Text.Blank
import CiMessage.Text.GraphemeExtend
import CiMessage.Text.Hexadecimal
import CiMessage.Text.Ignorable
import CiMessage.Text.Quoted
import CiMessage.Text.Read
import CiMessage.Text.Unprintable
import CiMessage.Text.Utf8
import CiMessage.Workspace
import CiMessage.Workspace.Json
import CiMessage.Proofs.Contribution
import CiMessage.Proofs.Conservation
import CiMessage.Proofs.Decisions
import CiMessage.Proofs.Dispatch
import CiMessage.Proofs.MemoryStore
import CiMessage.Proofs.Delivery
import CiMessage.Proofs.LivePass
import CiMessage.Proofs.PointerStability
import CiMessage.Proofs.Utf8
import CiMessage.Proofs.DiskFiles
import CiMessage.Proofs.DiskPointer
import CiMessage.Proofs.Discretion
import CiMessage.Proofs.Reporting
import CiMessage.Proofs.DeliveryEvents
import CiMessage.Proofs.EventLog
import CiMessage.Proofs.Verification
import CiMessage.Proofs.Reservation
import CiMessage.Proofs.Independence
import CiMessage.Proofs.WriteHistory
import CiMessage.Proofs.Components
import CiMessage.Proofs.Containment
import CiMessage.Proofs.Repetition
import CiMessage.Proofs.AcceptedConfig
import CiMessage.Proofs.Decoding
import CiMessage.Proofs.Undecodable
import CiMessage.Proofs.Overrides
import CiMessage.Proofs.Precedence
import CiMessage.Proofs.Spelling
import CiMessage.Proofs.Spelling.Strings
import CiMessage.Proofs.Spelling.Numerals
import CiMessage.Proofs.Spelling.Skipping
import CiMessage.Proofs.Spelling.Scalars
import CiMessage.Proofs.Spelling.Containers
import CiMessage.Proofs.Spelling.Compact
import CiMessage.Proofs.Spelling.Variants
import CiMessage.Proofs.ConfigTexts
import CiMessage.Proofs.DecisionTexts
import CiMessage.Proofs.HandleTexts
import CiMessage.Proofs.Obstacles
import CiMessage.Proofs.MergedOverrides
import CiMessage.Proofs.Trimming
import CiMessage.Proofs.BooleanWords
import CiMessage.Proofs.SubdirTexts
import CiMessage.Proofs.Capture
import CiMessage.Proofs.ReservedTexts
