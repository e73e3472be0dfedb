import KeyWatch.About
import KeyWatch.Backup.Pool
import KeyWatch.Backup.Queue
import KeyWatch.Client.Call
import KeyWatch.Client.Command
import KeyWatch.Client.Connect
import KeyWatch.Client.Console
import KeyWatch.Client.Listener
import KeyWatch.Client.Pipes
import KeyWatch.Command.Fault
import KeyWatch.Command.Line
import KeyWatch.CommandLine.Client
import KeyWatch.CommandLine.Server
import KeyWatch.CommandLine.Usage
import KeyWatch.Error
import KeyWatch.Exchange
import KeyWatch.Files.Basic
import KeyWatch.Files.Path
import KeyWatch.Job.Command
import KeyWatch.Job.Directory
import KeyWatch.Job.Script
import KeyWatch.Main
import KeyWatch.Network.Basic
import KeyWatch.Network.Peer
import KeyWatch.Network.Pipes
import KeyWatch.Network.Terminal
import KeyWatch.Ordered
import KeyWatch.Session.Basic
import KeyWatch.Session.Fault
import KeyWatch.Session.Host
import KeyWatch.Session.Routes
import KeyWatch.Session.Serve
import KeyWatch.Settings
import KeyWatch.Store.Basic
import KeyWatch.Store.Service
import KeyWatch.Stream.Fault
import KeyWatch.Stream.Sink
import KeyWatch.Table.Basic
import KeyWatch.Table.Bucket
import KeyWatch.Table.Locks
import KeyWatch.Table.Snapshot
import KeyWatch.Table.Watcher
import KeyWatch.Text.Blank
import KeyWatch.Text.Lines
import KeyWatch.Text.Numeral
import KeyWatch.Text.Quoted
import KeyWatch.Text.Unprintable
import KeyWatch.Text.Utf8
import KeyWatch.Warning
import KeyWatch.Wire.Fault
import KeyWatch.Wire.Message
import KeyWatch.Wire.Opcode
import KeyWatch.Wire.Reading
import KeyWatch.Proofs.ByteOrder
import KeyWatch.Proofs.Places
import KeyWatch.Proofs.Ordered
import KeyWatch.Proofs.Locks
import KeyWatch.Proofs.Contention
import KeyWatch.Proofs.Table
import KeyWatch.Proofs.Refusal
import KeyWatch.Proofs.Store
import KeyWatch.Proofs.Sink
import KeyWatch.Proofs.Contents
import KeyWatch.Proofs.Reference
import KeyWatch.Proofs.Action
import KeyWatch.Proofs.Watching
import KeyWatch.Proofs.Clientele
import KeyWatch.Proofs.Field
import KeyWatch.Proofs.Messages
import KeyWatch.Proofs.Delivery
import KeyWatch.Proofs.Feed
import KeyWatch.Proofs.Entries
import KeyWatch.Proofs.Telling
import KeyWatch.Proofs.Conversation
import KeyWatch.Proofs.RunSession
import KeyWatch.Proofs.SessionStages
import KeyWatch.Proofs.Asking
import KeyWatch.Proofs.Script
import KeyWatch.Proofs.Listing
import KeyWatch.Proofs.Archive
import KeyWatch.Proofs.Quota
import KeyWatch.Proofs.Failure
import KeyWatch.Proofs.Admission
import KeyWatch.Proofs.ServerHost
import KeyWatch.Proofs.Grammar
import KeyWatch.Proofs.Decoding
import KeyWatch.Proofs.Restoring
import KeyWatch.Proofs.Registrar
import KeyWatch.Proofs.Assignment
import KeyWatch.Proofs.History
import KeyWatch.Proofs.Locality
import KeyWatch.Proofs.Interleaving
import KeyWatch.Proofs.SessionClose
import KeyWatch.Proofs.ServiceUsers
import KeyWatch.Proofs.FileNames
import KeyWatch.Proofs.Agreement
import KeyWatch.Proofs.Pipes
import KeyWatch.Proofs.Remains
import KeyWatch.Proofs.ClientInput
import KeyWatch.Proofs.Holding
import KeyWatch.Proofs.Totals
