import MailSync.Wbxml.Decode
import MailSync.CodePage
import MailSync.Calendar.Rfc3339
import MailSync.Folder
import MailSync.Window
import MailSync.Message
import MailSync.ItemStatus
import MailSync.Account
import MailSync.Hierarchy.Document
import MailSync.Relocation.Document
import MailSync.DevicePolicy.Document
import MailSync.Submission.Document
import MailSync.Collection.Document
import MailSync.Mailbox.Call
import MailSync.Mailbox.Memory
import MailSync.Submission.Mail
import MailSync.SyncKey
import MailSync.Mailbox.Tables
import MailSync.Locks
import MailSync.Collection.Stats
import MailSync.Program
import MailSync.World
import MailSync.Exchange
import MailSync.Mailbox.Marks
import MailSync.DevicePolicy.Handshake
import MailSync.Hierarchy.Replay
import MailSync.Hierarchy.Round
import MailSync.Hierarchy.Pass
import MailSync.Collection.Apply
import MailSync.Collection.Download
import MailSync.Collection.Orders
import MailSync.Collection.Sync
import MailSync.Collection.Windows
import MailSync.Relocation.Move
import MailSync.ServerCheck
import MailSync.Submission.Send
import MailSync.Client
import MailSync.Retry
import MailSync.Json.Value
import MailSync.Json.Writer
import MailSync.Text.Hex
import MailSync.Json.Number
import MailSync.Json.Quoted
import MailSync.Json.Reader
import MailSync.Json.Form
import MailSync.Mailbox.Form
import MailSync.Settings.Basic
import MailSync.Settings.FileTree
import MailSync.Text.Base64
import MailSync.Url.Percent
import MailSync.Url.Ipv4
import MailSync.Url.Ipv6
import MailSync.Url.Punycode
import MailSync.Url.Domain
import MailSync.Url.Basic
import MailSync.Http.Request
import MailSync.Scripted
import MailSync.Http.Message
import MailSync.CommandLine.Arguments
import MailSync.CommandLine.Run
import MailSync.Main
import MailSync.Proofs.Mailbox.Calls
import MailSync.Proofs.Overwrite
import MailSync.Proofs.Collection.Writing
import MailSync.Proofs.Hierarchy.Replay
import MailSync.Proofs.Hierarchy.Writing
import MailSync.Proofs.Ensures
import MailSync.Proofs.Exchange
import MailSync.Proofs.Mailbox.Marks
import MailSync.Proofs.DevicePolicy.Handshake
import MailSync.Proofs.Hierarchy.Pass
import MailSync.Proofs.Collection.Pass
import MailSync.Proofs.Atomicity
import MailSync.Proofs.Collection.Landing
import MailSync.Proofs.Collection.Standing
import MailSync.Proofs.Collection.Meaning
import MailSync.Proofs.Wbxml.RoundTrip
import MailSync.Proofs.Hierarchy.Meaning
import MailSync.Proofs.Collection.Telling
import MailSync.Proofs.Cancellation
import MailSync.Proofs.Composition
import MailSync.Proofs.RemoteWipe
import MailSync.Proofs.Bounds
import MailSync.Proofs.Mailbox.Sound
import MailSync.Proofs.Soundness
import MailSync.Proofs.Calendar.Rfc3339
import MailSync.Proofs.Mailbox.Mirror
import MailSync.Proofs.Mailbox.Agreement
import MailSync.Proofs.Locks
import MailSync.Proofs.SingleFlight
import MailSync.Proofs.Mailbox.Beside
import MailSync.Proofs.Confinement
import MailSync.Proofs.Collection.Delivery
import MailSync.Proofs.Text.Trimming
import MailSync.Proofs.Address
import MailSync.Proofs.Wbxml.Faithful
import MailSync.Proofs.Wbxml.Parts
import MailSync.Proofs.Collection.MessageData
import MailSync.Proofs.Collection.Document
import MailSync.Proofs.Wbxml.Canonical
import MailSync.Proofs.Relocation.Outcome
import MailSync.Proofs.Relocation.Keeping
import MailSync.Proofs.Collection.Fetching
import MailSync.Proofs.Collection.Answering
import MailSync.Proofs.Collection.Bodies
import MailSync.Proofs.Hierarchy.Deciding
import MailSync.Proofs.Wbxml.Truncation
import MailSync.Proofs.Mailbox.ReadBack
import MailSync.Proofs.Collection.Deleting
import MailSync.Proofs.Wbxml.Plain
import MailSync.Proofs.Hierarchy.Document
import MailSync.Proofs.Collection.Flagging
import MailSync.Proofs.Collection.Leftovers
import MailSync.Proofs.Sending
import MailSync.Proofs.Collection.Asking
import MailSync.Proofs.Collection.Requests
import MailSync.Proofs.Collection.Malformed
import MailSync.Proofs.Replies
import MailSync.Proofs.Rounds
import MailSync.Proofs.DevicePolicy.Course
import MailSync.Proofs.Attempts
import MailSync.Proofs.Submission.Once
import MailSync.Proofs.Retrying
import MailSync.Proofs.Hierarchy.Refreshing
import MailSync.Proofs.Collection.Choosing
import MailSync.Proofs.Echoing
import MailSync.Proofs.Collection.Windows
