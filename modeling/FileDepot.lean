import FileDepot.BackgroundTask
import FileDepot.Desk
import FileDepot.Exchange
import FileDepot.Files.SavedFile
import FileDepot.Main
import FileDepot.Schedule
import FileDepot.Proofs.Store.WordArithmetic
import FileDepot.Proofs.Server.StrandedLocks
import FileDepot.Proofs.Server.WaitEndings
import FileDepot.Proofs.Store.HeldLocks
import FileDepot.Proofs.Store.FirstCome
import FileDepot.Proofs.Server.Replies
import FileDepot.Proofs.Clients.Calls
import FileDepot.Proofs.Wire.RequestFrames
import FileDepot.Proofs.Wire.Deliveries
import FileDepot.Proofs.Clients.Requests
import FileDepot.Proofs.Clients.Hall
import FileDepot.Proofs.Clients.InStep
import FileDepot.Proofs.Clients.Orderly
import FileDepot.Proofs.Clients.LockStep
import FileDepot.Proofs.Wire.Envelopes
import FileDepot.Proofs.Wire.HealthySinks
import FileDepot.Proofs.Wire.Progress
import FileDepot.Proofs.Wire.RequestGrammar
import FileDepot.Proofs.Wire.ResponseGrammar
import FileDepot.Proofs.Clients.Receiving
import FileDepot.Proofs.Server.Deliverables
import FileDepot.Proofs.Clients.ReplyEnds
import FileDepot.Proofs.Server.FrameByFrame
import FileDepot.Proofs.Server.HiddenReplies
import FileDepot.Proofs.Store.History
import FileDepot.Proofs.Server.Punctuality
import FileDepot.Proofs.Server.OneAtATime
import FileDepot.Proofs.Server.SessionGate
import FileDepot.Proofs.Store.Statistics
import FileDepot.Proofs.Wire.DrainedOutboxes
import FileDepot.Proofs.Server.GracefulStops
import FileDepot.Proofs.Store.WriteOutcomes
import FileDepot.Proofs.Store.CreateOutcomes
import FileDepot.Proofs.Hub.Handovers
import FileDepot.Proofs.Server.Trespasses
import FileDepot.Proofs.Threads.SharedQueues
import FileDepot.Proofs.Threads.TaskThreads
import FileDepot.Proofs.Store.BulkReads
import FileDepot.Proofs.Server.IndependentRequests
import FileDepot.Proofs.Store.Departures
import FileDepot.Proofs.Files.SavedFiles
