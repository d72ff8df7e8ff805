import SokFvm.Library.Run
import SokFvm.Library.Odometer
import SokFvm.Library.Cadence
import SokFvm.Library.TimedSlot
import SokFvm.Library.BigEndian
import SokFvm.Library.CaptureSearch
import SokFvm.Library.Json
import SokFvm.Library.Verdict
import SokFvm.Library.Pointwise
import SokFvm.Common.Csm
import SokFvm.Common.KeyCache
import SokFvm.Common.Cpp
import SokFvm.Common.SokUtilities
import SokFvm.Fvm.ConfiguredIds
import SokFvm.Fvm.StateManager
import SokFvm.Fvm.SessionPair
import SokFvm.Fvm.Participant
import SokFvm.Fvm.ParticipantRun
import SokFvm.Fvm.AuthenticRequest
import SokFvm.Fvm.AuthenticTag
import SokFvm.Fvm.Server
import SokFvm.Fvm.Distribution
import SokFvm.Fvm.Lifecycle
import SokFvm.Fvm.Lineage
import SokFvm.Fvm.SingleAdoption
import SokFvm.Fvm.ParticipantThreads
import SokFvm.Fvm.ServerClock
import SokFvm.Fvm.LockStep
import SokFvm.Fvm.HonestBroadcast
import SokFvm.Fvm.ChallengeRun
import SokFvm.Fvm.ChallengeBinding
import SokFvm.Fvm.ChallengeService
import SokFvm.Fvm.ChallengeLink
import SokFvm.Fvm.ResponseService
import SokFvm.Fvm.ResponseBinding
import SokFvm.Fvm.ServerTimeLaw
import SokFvm.Fvm.BroadcastRetry
import SokFvm.Fvm.JitterVerdict
import SokFvm.Fvm.ConfigParser
import SokFvm.Fvm.TransmitCounter
import SokFvm.Fvm.CounterWidth
import SokFvm.Fvm.ChallengeRouting
import SokFvm.Fvm.InitRetry
import SokFvm.Fvm.SignalManagerSci
import SokFvm.Fvm.HonestExchange
import SokFvm.Fvm.JitterWrap
import SokFvm.Fvm.RejectedReception
import SokFvm.Fvm.ChallengeBooking
import SokFvm.Fvm.ChallengeTrigger
import SokFvm.Fvm.AraAdapter
import SokFvm.Fvm.ConfigDocument
import SokFvm.Fvm.ParseRetry
import SokFvm.Fvm.ConfigLossless
import SokFvm.Fvm.WireFormat
import SokFvm.Fvm.SignalSubscriptions
import SokFvm.Fvm.SignalObjects
import SokFvm.Fvm.CounterValue
import SokFvm.Fvm.ReceptionThreads
import SokFvm.Fvm.ClientIsolation
import SokFvm.Fvm.Fleet
import SokFvm.Fvm.FleetMessages
import SokFvm.Fvm.ServerThreads
import SokFvm.Fvm.FvLink
import SokFvm.Fvm.Recovery
import SokFvm.Fvm.Convergence
import SokFvm.Fvm.Drift
