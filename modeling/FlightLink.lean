import FlightLink.Bench.Run
import FlightLink.Main
import FlightLink.Stream
import FlightLink.Session
import FlightLink.Proofs.Surroundings
import FlightLink.Proofs.Line
import FlightLink.Proofs.WireFormat
import FlightLink.Proofs.LinkCalls
import FlightLink.Proofs.VersionChange
import FlightLink.Proofs.StaleFrames
import FlightLink.Proofs.LinkAttendance
import FlightLink.Proofs.ConversationPrograms
import FlightLink.Proofs.LinkExclusivity
import FlightLink.Proofs.FrameAccounting
import FlightLink.Proofs.LateAnswers
import FlightLink.Proofs.TransactionRecovery
import FlightLink.Proofs.FrameCorruption
import FlightLink.Proofs.FrameResynchronisation
import FlightLink.Proofs.FrameRoundTrip
import FlightLink.Proofs.ChannelSafety
import FlightLink.Proofs.StartupTermination
import FlightLink.Proofs.OwnershipInvariant
import FlightLink.Proofs.PollerPace
import FlightLink.Proofs.ChannelPlacement
import FlightLink.Proofs.BufferFilling
import FlightLink.Proofs.StreamResumption
import FlightLink.Proofs.LoopRounds
import FlightLink.Proofs.ActivityCounters
import FlightLink.Proofs.PollDeliveries
import FlightLink.Proofs.ActivityMemory
import FlightLink.Proofs.CounterTotals
import FlightLink.Proofs.SubscriberFailure
import FlightLink.Proofs.PollerAccounting
import FlightLink.Proofs.ChecksumRemainder
import FlightLink.Proofs.CommandFit
import FlightLink.Proofs.MessageDecoding
import FlightLink.Proofs.StopAbandonment
import FlightLink.Proofs.ChannelPayloads
import FlightLink.Proofs.SettingsAdmission
