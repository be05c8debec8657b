import VoucherDesk.Arguments.Basic
import VoucherDesk.Arguments.Help
import VoucherDesk.Arguments.Reader
import VoucherDesk.Calendar.IsoText
import VoucherDesk.Calendar.Moment
import VoucherDesk.Calendar.Timestamp
import VoucherDesk.Changes
import VoucherDesk.Client.Address
import VoucherDesk.Client.Basic
import VoucherDesk.Client.Calls
import VoucherDesk.Client.HostName
import VoucherDesk.Client.Message
import VoucherDesk.Client.Query
import VoucherDesk.Console.Desk
import VoucherDesk.Console.Order
import VoucherDesk.Dialogue.Rehearsal
import VoucherDesk.Dialogue.Run
import VoucherDesk.Dialogue.Turn
import VoucherDesk.Double.Basic
import VoucherDesk.Double.Decimal
import VoucherDesk.Envelope
import VoucherDesk.Export
import VoucherDesk.Failure
import VoucherDesk.Fault
import VoucherDesk.FileTree
import VoucherDesk.Filter.FilterSettings
import VoucherDesk.Filter.WordList
import VoucherDesk.Form.Basic
import VoucherDesk.Form.Calls
import VoucherDesk.Json.Encoding
import VoucherDesk.Json.Reader
import VoucherDesk.Json.Writer
import VoucherDesk.Label
import VoucherDesk.Log
import VoucherDesk.Main
import VoucherDesk.Notice
import VoucherDesk.Options.Batch
import VoucherDesk.Options.Panel
import VoucherDesk.Options.Submission
import VoucherDesk.Pattern.Error
import VoucherDesk.Pattern.Escape
import VoucherDesk.Pattern.Reader
import VoucherDesk.Pattern.Search
import VoucherDesk.Pattern.Syntax
import VoucherDesk.Pattern.Token
import VoucherDesk.Reading.Lenient
import VoucherDesk.Settings.Assignments
import VoucherDesk.Settings.Basic
import VoucherDesk.Text.Alphanumeric
import VoucherDesk.Text.Blank
import VoucherDesk.Text.CharacterName
import VoucherDesk.Text.CharacterName.Letters
import VoucherDesk.Text.CharacterName.Pictographs
import VoucherDesk.Text.CharacterName.Symbols
import VoucherDesk.Text.CodeSet
import VoucherDesk.Text.Digit
import VoucherDesk.Text.Identifier
import VoucherDesk.Text.Lowercase
import VoucherDesk.Text.Numeral
import VoucherDesk.Text.Printable
import VoucherDesk.Text.Quoted
import VoucherDesk.Value.Basic
import VoucherDesk.Value.Display
import VoucherDesk.Value.Equality
import VoucherDesk.Voucher.Basic
import VoucherDesk.Voucher.Draft
import VoucherDesk.Voucher.FormField
import VoucherDesk.Voucher.Reading
import VoucherDesk.Voucher.When
import VoucherDesk.Proofs.Dialogue.Exchange
import VoucherDesk.Proofs.Dialogue.Order
import VoucherDesk.Proofs.Dialogue.Guard
import VoucherDesk.Proofs.Dialogue.Record
import VoucherDesk.Proofs.Form.Turns
import VoucherDesk.Proofs.Voucher.Draft
import VoucherDesk.Proofs.Voucher.Window
import VoucherDesk.Proofs.Voucher.Revision
import VoucherDesk.Proofs.Voucher.Sendable
import VoucherDesk.Proofs.Voucher.Entries
import VoucherDesk.Proofs.Form.Bodies
import VoucherDesk.Proofs.Form.Extremes
import VoucherDesk.Proofs.Form.Exclusion
import VoucherDesk.Proofs.Json.Encoding
import VoucherDesk.Proofs.Options.Batch
import VoucherDesk.Proofs.Options.Submission
import VoucherDesk.Proofs.Dialogue.Deeds
import VoucherDesk.Proofs.Options.Settlement
import VoucherDesk.Proofs.Options.Panel
import VoucherDesk.Proofs.Options.Snapshots
import VoucherDesk.Proofs.Options.Overtaken
import VoucherDesk.Proofs.Options.Listeners
import VoucherDesk.Proofs.Dialogue.Course
import VoucherDesk.Proofs.Dialogue.Told
import VoucherDesk.Proofs.Form.Hooks
import VoucherDesk.Proofs.Form.Loads
import VoucherDesk.Proofs.Form.Loading
import VoucherDesk.Proofs.Form.Editing
import VoucherDesk.Proofs.Arguments.Reader
import VoucherDesk.Proofs.Filter.Settings
import VoucherDesk.Proofs.Filter.WordList
import VoucherDesk.Proofs.Filter.Refusals
import VoucherDesk.Proofs.Filter.Convergence
import VoucherDesk.Proofs.Filter.Request
import VoucherDesk.Proofs.Options.Server
import VoucherDesk.Proofs.Dialogue.Served
import VoucherDesk.Proofs.Console.Order
import VoucherDesk.Proofs.Reading.Lenient
import VoucherDesk.Proofs.Double.Rounding
import VoucherDesk.Proofs.Calendar.Timestamp
import VoucherDesk.Proofs.Client.Calls
import VoucherDesk.Proofs.Client.Granted
import VoucherDesk.Proofs.Console.FilterOrder
import VoucherDesk.Proofs.Failure
import VoucherDesk.Proofs.Files
import VoucherDesk.Proofs.Text.Blank
import VoucherDesk.Proofs.Changes
import VoucherDesk.Proofs.Value.Fields
import VoucherDesk.Proofs.Value.Moves
import VoucherDesk.Proofs.Console.Edition
import VoucherDesk.Proofs.Console.Codes
import VoucherDesk.Proofs.Dialogue.Route
import VoucherDesk.Proofs.Form.Refused
import VoucherDesk.Proofs.Form.Alone
import VoucherDesk.Proofs.Form.Offers
import VoucherDesk.Proofs.Dialogue.Twins
import VoucherDesk.Proofs.Form.Meanwhile
import VoucherDesk.Proofs.Filter.Joined
import VoucherDesk.Proofs.Filter.Readers
import VoucherDesk.Proofs.Options.Sent
import VoucherDesk.Proofs.Form.Fetched
import VoucherDesk.Proofs.Double.Value
import VoucherDesk.Proofs.Voucher.Numeral
import VoucherDesk.Proofs.Voucher.Wire
import VoucherDesk.Proofs.Voucher.Rules
import VoucherDesk.Proofs.Patch
import VoucherDesk.Proofs.Double.Order
import VoucherDesk.Proofs.Calendar.Floor
import VoucherDesk.Proofs.Options.Missing
import VoucherDesk.Proofs.Label
import VoucherDesk.Proofs.Label.Order
import VoucherDesk.Proofs.Text.Pieces
import VoucherDesk.Proofs.Paths
import VoucherDesk.Proofs.Export
