import TunnelControl.Cli.Json
import TunnelControl.Client.Script
import TunnelControl.Control.Lookout
import TunnelControl.Main
import TunnelControl.Message.Named
import TunnelControl.Service.Peer
import TunnelControl.Service.Script
import TunnelControl.Session.Reader
import TunnelControl.Settings.Json
import TunnelControl.Text.Fingerprint
import TunnelControl.Update.Rehearsal
import TunnelControl.Update.Script
import TunnelControl.Proofs.Message.Stream
import TunnelControl.Proofs.Message.Limit
import TunnelControl.Proofs.Service.Membership
import TunnelControl.Proofs.Session.Events
import TunnelControl.Proofs.Session.Standing
import TunnelControl.Proofs.Session.Isolation
import TunnelControl.Proofs.Session.Deadline
import TunnelControl.Proofs.Service.Quit
import TunnelControl.Proofs.Service.QuitOnce
import TunnelControl.Proofs.Service.Privilege
import TunnelControl.Proofs.Service.Progress
import TunnelControl.Proofs.Client.Turns
import TunnelControl.Proofs.Client.Dialogue
import TunnelControl.Proofs.Client.Stages
import TunnelControl.Proofs.Client.Refusal
import TunnelControl.Proofs.Client.Completion
import TunnelControl.Proofs.Client.InStep
import TunnelControl.Proofs.Client.Audience
import TunnelControl.Proofs.Client.Undisturbed
import TunnelControl.Proofs.Connection.Joining
import TunnelControl.Proofs.Time.Jitter
import TunnelControl.Proofs.Tunnel.History
import TunnelControl.Proofs.Tunnel.Usable
import TunnelControl.Proofs.Tunnel.Abandonment
import TunnelControl.Proofs.Update.Trace
import TunnelControl.Proofs.Update.Cancellation
import TunnelControl.Proofs.Wire.Values
import TunnelControl.Proofs.Service.Served
import TunnelControl.Proofs.Service.Answerable
import TunnelControl.Proofs.Service.Operations
import TunnelControl.Proofs.Site.Errand
import TunnelControl.Proofs.Site.Delivery
import TunnelControl.Proofs.Site.Minutes
import TunnelControl.Proofs.Site.Direct
import TunnelControl.Proofs.Toml.Numbers
import TunnelControl.Proofs.Toml.Texts
import TunnelControl.Proofs.Toml.Entries
import TunnelControl.Proofs.Toml.Documents
import TunnelControl.Proofs.Settings.Saving
import TunnelControl.Proofs.Settings.Variables
import TunnelControl.Proofs.Settings.Layers
import TunnelControl.Proofs.Settings.Levels
import TunnelControl.Proofs.Connection.Elevation
import TunnelControl.Proofs.Connection.Sockets
import TunnelControl.Proofs.Control.Quota
import TunnelControl.Proofs.Control.Watch
import TunnelControl.Proofs.Control.Order
import TunnelControl.Proofs.Control.Lookout
import TunnelControl.Proofs.Control.Printout
import TunnelControl.Proofs.Control.Following
import TunnelControl.Proofs.Cli.StandIns
import TunnelControl.Proofs.Control.Meeting
import TunnelControl.Proofs.Update.Precedence
import TunnelControl.Proofs.Update.VersionText
import TunnelControl.Proofs.Update.Newer
