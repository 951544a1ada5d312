import Multiplexer.Chain.Call
import Multiplexer.Chain.Resolver
import Multiplexer.Chain.Run
import Multiplexer.Connect.Error
import Multiplexer.Connector.Basic
import Multiplexer.Connector.Task
import Multiplexer.Digest.Sha256
import Multiplexer.Disk.Basic
import Multiplexer.Disk.Locate
import Multiplexer.Forward.Forwarder
import Multiplexer.Forward.Rule
import Multiplexer.Hop.Handshake
import Multiplexer.Hop.KeyFile
import Multiplexer.Hop.Login
import Multiplexer.Hop.Shell
import Multiplexer.Json.Decode
import Multiplexer.Json.Reader
import Multiplexer.Json.Value
import Multiplexer.Json.Writer
import Multiplexer.Layout.Basic
import Multiplexer.Layout.Edit
import Multiplexer.Layout.Notice
import Multiplexer.Layout.Pane
import Multiplexer.Lifecycle.Channel
import Multiplexer.Lifecycle.Latch
import Multiplexer.Number.Binary64
import Multiplexer.Number.Decimal
import Multiplexer.Prompt.Broker
import Multiplexer.Prompt.Question
import Multiplexer.Proofs.Chain.Passage
import Multiplexer.Proofs.Chain.Route
import Multiplexer.Proofs.Connector.Accounts
import Multiplexer.Proofs.Connector.Asks
import Multiplexer.Proofs.Connector.Bare
import Multiplexer.Proofs.Connector.Drops
import Multiplexer.Proofs.Connector.Due
import Multiplexer.Proofs.Connector.Effects
import Multiplexer.Proofs.Connector.Errand
import Multiplexer.Proofs.Connector.Exchange
import Multiplexer.Proofs.Connector.Finality
import Multiplexer.Proofs.Connector.Kept
import Multiplexer.Proofs.Connector.Move
import Multiplexer.Proofs.Connector.Overtaken
import Multiplexer.Proofs.Connector.Prompt
import Multiplexer.Proofs.Connector.Recovery
import Multiplexer.Proofs.Connector.Request
import Multiplexer.Proofs.Connector.Roster
import Multiplexer.Proofs.Connector.Routing
import Multiplexer.Proofs.Connector.Slot
import Multiplexer.Proofs.Connector.Stages
import Multiplexer.Proofs.Connector.Turn
import Multiplexer.Proofs.Connector.Watch
import Multiplexer.Proofs.Connector.Wiring
import Multiplexer.Proofs.Disk.Entries
import Multiplexer.Proofs.Forward.Accounts
import Multiplexer.Proofs.Hop.Dialogue
import Multiplexer.Proofs.Hop.KeyPrompt
import Multiplexer.Proofs.Hop.ShellTask
import Multiplexer.Proofs.Json.RoundTrip
import Multiplexer.Proofs.Layout.Activation
import Multiplexer.Proofs.Layout.Arranging
import Multiplexer.Proofs.Layout.Broadcast
import Multiplexer.Proofs.Layout.Census
import Multiplexer.Proofs.Layout.Edit
import Multiplexer.Proofs.Layout.Focus
import Multiplexer.Proofs.Layout.Graft
import Multiplexer.Proofs.Layout.Leftover
import Multiplexer.Proofs.Layout.Links
import Multiplexer.Proofs.Layout.Merging
import Multiplexer.Proofs.Layout.Modes
import Multiplexer.Proofs.Layout.Navigation
import Multiplexer.Proofs.Layout.Notices
import Multiplexer.Proofs.Layout.Operations
import Multiplexer.Proofs.Layout.Plan
import Multiplexer.Proofs.Layout.Primary
import Multiplexer.Proofs.Layout.Proportions
import Multiplexer.Proofs.Layout.Pruning
import Multiplexer.Proofs.Layout.Refusal
import Multiplexer.Proofs.Layout.Retraction
import Multiplexer.Proofs.Layout.Reversal
import Multiplexer.Proofs.Layout.Scene
import Multiplexer.Proofs.Layout.Sites
import Multiplexer.Proofs.Layout.Steps
import Multiplexer.Proofs.Layout.Surgery
import Multiplexer.Proofs.Layout.WellFormed
import Multiplexer.Proofs.Lifecycle.SharedChannel
import Multiplexer.Proofs.Prompt.Broker
import Multiplexer.Proofs.Prompt.Desk
import Multiplexer.Proofs.Prompt.Verdict
import Multiplexer.Proofs.Prompt.Waiting
import Multiplexer.Proofs.Reopen.Calls
import Multiplexer.Proofs.Reopen.Course
import Multiplexer.Proofs.Reopen.Entries
import Multiplexer.Proofs.Reopen.Exclusion
import Multiplexer.Proofs.Reopen.Idle
import Multiplexer.Proofs.Reopen.Loops
import Multiplexer.Proofs.Reopen.Notification
import Multiplexer.Proofs.Reopen.Rounds
import Multiplexer.Proofs.Session.History
import Multiplexer.Proofs.Session.SharedRegistry
import Multiplexer.Proofs.Settings.Clamping
import Multiplexer.Proofs.Settings.Loading
import Multiplexer.Proofs.Time.Instant
import Multiplexer.Proofs.Trust.Answers
import Multiplexer.Proofs.Trust.Codec
import Multiplexer.Proofs.Trust.FirstUse
import Multiplexer.Proofs.Trust.Saving
import Multiplexer.Proofs.Trust.Verification
import Multiplexer.Proofs.Trust.Writers
import Multiplexer.Proofs.Workspace.Attempts
import Multiplexer.Proofs.Workspace.Balance
import Multiplexer.Proofs.Workspace.Dividers
import Multiplexer.Proofs.Workspace.Edits
import Multiplexer.Proofs.Workspace.Reserved
import Multiplexer.Proofs.Workspace.Rollback
import Multiplexer.Proofs.Workspace.Sessions
import Multiplexer.Proofs.Workspace.Undo
import Multiplexer.Rehearsal.Cast
import Multiplexer.Rehearsal.ChainTrial
import Multiplexer.Rehearsal.Harbour
import Multiplexer.Rehearsal.HopTrial
import Multiplexer.Rehearsal.Labels
import Multiplexer.Rehearsal.ReopenTrial
import Multiplexer.Rehearsal.Report
import Multiplexer.Rehearsal.Script
import Multiplexer.Rehearsal.Server
import Multiplexer.Rehearsal.Stage
import Multiplexer.Rehearsal.TrustTrial
import Multiplexer.Rehearsal.World
import Multiplexer.Reopen.Reopener
import Multiplexer.Session.Credentials
import Multiplexer.Session.History
import Multiplexer.Session.Id
import Multiplexer.Session.Registry
import Multiplexer.Session.Target
import Multiplexer.Session.TargetJson
import Multiplexer.Settings.Basic
import Multiplexer.Settings.Json
import Multiplexer.Settings.Store
import Multiplexer.Text.Base64
import Multiplexer.Text.Blank
import Multiplexer.Text.Quoted
import Multiplexer.Text.Shapeless
import Multiplexer.Time.Instant
import Multiplexer.Trust.File
import Multiplexer.Trust.Fingerprint
import Multiplexer.Trust.Record
import Multiplexer.Trust.Store
import Multiplexer.Trust.Verify
import Multiplexer.Workspace.Basic
import Multiplexer.Proofs.Json.Encoding
import Multiplexer.Proofs.Settings.Codec
import Multiplexer.Proofs.Settings.Saving
