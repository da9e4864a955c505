import NfcStack.Hex
import NfcStack.Failure
import NfcStack.Bytes
import NfcStack.LengthPrefixed
import NfcStack.Transaction
import NfcStack.Status
import NfcStack.Technology
import NfcStack.Mask
import NfcStack.Aid
import NfcStack.Nfcee
import NfcStack.Config
import NfcStack.Ndef
import NfcStack.Activation.Code
import NfcStack.Activation.Basic
import NfcStack.Activation.Signature
import NfcStack.Tag.Slot
import NfcStack.Tag.Timeouts
import NfcStack.CardEmulation.Apdu
import NfcStack.OffHost
import NfcStack.Rendezvous
import NfcStack.Rendezvous.Run
import NfcStack.Config.Document
import NfcStack.Controller.Request
import NfcStack.Controller.Event
import NfcStack.Controller.Basic
import NfcStack.Tag.Session
import NfcStack.Tag.Endpoint.Basic
import NfcStack.CardEmulation.Router
import NfcStack.Host.Basic
import NfcStack.System.Basic
import NfcStack.System.Delivery
import NfcStack.System.Operation
import NfcStack.Host.Radio
import NfcStack.CardEmulation.Routing
import NfcStack.Host.Lifecycle
import NfcStack.Host.Discovery
import NfcStack.Tag.Selection
import NfcStack.Tag.Exchange
import NfcStack.Tag.Presence
import NfcStack.Tag.Message
import NfcStack.Tag.Endpoint.Selection
import NfcStack.Tag.Endpoint.Message
import NfcStack.Tag.Endpoint.Watch
import NfcStack.Host.Capability
import NfcStack.Call.Answer
import NfcStack.Call.Host
import NfcStack.Call.Session
import NfcStack.Call.Endpoint
import NfcStack.Call.Basic
import NfcStack.Call.Run
import NfcStack.Bench.Sample
import NfcStack.Bench.Script
import NfcStack.Bench.Action
import NfcStack.Bench.Run
import NfcStack.Proofs.Reaction
import NfcStack.Proofs.Delivery
import NfcStack.Proofs.Hearing
import NfcStack.Proofs.Evolution
import NfcStack.Proofs.Conduct
import NfcStack.Proofs.Calls
import NfcStack.Proofs.Company
import NfcStack.Proofs.Exchange
import NfcStack.Proofs.CommitGuard
import NfcStack.Proofs.HexText
import NfcStack.Proofs.Numerals
import NfcStack.Proofs.LengthHeaders
import NfcStack.Proofs.LengthGrammar
import NfcStack.Proofs.TransactionFormat
import NfcStack.Proofs.LateNotices
import NfcStack.Proofs.TagMemory
import NfcStack.Proofs.RestartMemory
import NfcStack.Proofs.Cooperation
import NfcStack.Proofs.Restart
import NfcStack.Proofs.RestartActive
import NfcStack.Proofs.RendezvousWindow
import NfcStack.Proofs.EndpointKeeping
import NfcStack.Proofs.SlotGrowth
import NfcStack.Proofs.Selections
import NfcStack.Proofs.WaysDown
import NfcStack.Proofs.Tidings
import NfcStack.Proofs.CardBringUp
import NfcStack.Proofs.CardCommands
import NfcStack.Proofs.OffHostReports
import NfcStack.Proofs.TagDiscoveries
import NfcStack.Proofs.Completion
import NfcStack.Proofs.ReaderMode
import NfcStack.Proofs.TagHold
import NfcStack.Proofs.LateActivations
import NfcStack.Proofs.SwallowedActivations
import NfcStack.Proofs.FailedReconnect
import NfcStack.Proofs.RecordedConnection
import NfcStack.Proofs.DepartedTags
import NfcStack.Proofs.RadioOrders
import NfcStack.Proofs.DiscoveryRecord
import NfcStack.Proofs.SecureRouting
import NfcStack.Proofs.TechMasks
import NfcStack.Proofs.TechRoutes
import NfcStack.Proofs.AbsentTag
import NfcStack.Proofs.Procedures
import NfcStack.Proofs.OwnRequests
import NfcStack.Proofs.FrameRepeats
import NfcStack.Proofs.AbortedWaits
import NfcStack.Proofs.Teardown
import NfcStack.Proofs.Arrivals
import NfcStack.Proofs.FrameAnswers
import NfcStack.Proofs.FullReconnect
import NfcStack.Proofs.MessageSearch
import NfcStack.Proofs.ScreenState
import NfcStack.Proofs.ScreenMemory
import NfcStack.Proofs.Bursts
import NfcStack.Proofs.SessionLives
import NfcStack.Proofs.Formatting
import NfcStack.Proofs.SlotDetails
import NfcStack.Proofs.LoneTagDetails
import NfcStack.Proofs.RouteOrders
import NfcStack.Proofs.MessageReads
import NfcStack.Proofs.MessageStorage
import NfcStack.Proofs.MessageWrites
import NfcStack.Proofs.OwnMessages
import NfcStack.Proofs.WaitBounds
import NfcStack.Proofs.SlotCapacity
import NfcStack.Proofs.PresenceLoops
import NfcStack.Proofs.TimeoutHistory
