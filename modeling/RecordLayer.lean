import RecordLayer.Main
import RecordLayer.Pair
import RecordLayer.Proofs.Framing
import RecordLayer.Proofs.Gathering
import RecordLayer.Proofs.Reading
import RecordLayer.Proofs.Queue
import RecordLayer.Proofs.Writing
import RecordLayer.Proofs.Conservation
import RecordLayer.Proofs.Courses
import RecordLayer.Proofs.Directions
import RecordLayer.Proofs.Installing
import RecordLayer.Proofs.Expansion
import RecordLayer.Proofs.KeyTree
import RecordLayer.Proofs.Sessions
import RecordLayer.Proofs.Turns
import RecordLayer.Proofs.Latch
import RecordLayer.Proofs.Leading
import RecordLayer.Proofs.Places
import RecordLayer.Proofs.Progress
import RecordLayer.Proofs.Messages
import RecordLayer.Proofs.ClientAcceptance
import RecordLayer.Proofs.Locality
import RecordLayer.Proofs.Flights
import RecordLayer.Proofs.Schedules
import RecordLayer.Proofs.Answering
import RecordLayer.Proofs.Conversations
import RecordLayer.Proofs.ServerAcceptance
import RecordLayer.Proofs.HonestSides
import RecordLayer.Proofs.ClientRuns
import RecordLayer.Proofs.ServerRuns
import RecordLayer.Proofs.Restraint
import RecordLayer.Proofs.Handshaking
import RecordLayer.Proofs.Drafts
import RecordLayer.Proofs.RoundTrips
import RecordLayer.Proofs.Pacing
import RecordLayer.Proofs.Absorbing
import RecordLayer.Proofs.PacedRuns
import RecordLayer.Proofs.KeyLogs
import RecordLayer.Proofs.Foresight
import RecordLayer.Proofs.Derivations
import RecordLayer.Proofs.KeyLogText
import RecordLayer.Proofs.SharedLog
import RecordLayer.Proofs.FirstFailure
import RecordLayer.Proofs.Actions
import RecordLayer.Proofs.Respecting
import RecordLayer.Proofs.SentRecords
import RecordLayer.Proofs.Invariants
import RecordLayer.Proofs.ReportedSecrets
import RecordLayer.Proofs.LoggedSecrets
import RecordLayer.Proofs.WholeWrites
import RecordLayer.Proofs.KeyHistories
import RecordLayer.Proofs.HalfDerived
import RecordLayer.Proofs.CheckedEpochs
import RecordLayer.Proofs.Segments
import RecordLayer.Proofs.Overruns
import RecordLayer.Proofs.ExtensionBlocks
import RecordLayer.Proofs.Layouts
import RecordLayer.Proofs.Oversized
import RecordLayer.Proofs.DeclaredLists
import RecordLayer.Proofs.RetypedRecords
