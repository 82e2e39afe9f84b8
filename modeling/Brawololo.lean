import Brawololo.ByteReader
import Brawololo.GameTypes
import Brawololo.NetworkEvents
import Brawololo.NetworkProtocol
import Brawololo.SnapshotCodec
import Brawololo.NetworkEventCodec
import Brawololo.TransportPacketCodec
import Brawololo.EntityIdentity
import Brawololo.CombatTruth
import Brawololo.CombatBooks
import Brawololo.ClientTables
import Brawololo.PlayerMotion
import Brawololo.Reconciliation
import Brawololo.DeltaBaselines
import Brawololo.Replication
import Brawololo.ServerRuntime
import Brawololo.ServerNetworkHost
import Brawololo.ClientProtocolPump
import Brawololo.SnapshotSequencing
import Brawololo.AreaOfInterest
import Brawololo.IdReuse
import Brawololo.LagHistory
import Brawololo.LocalIdentity
import Brawololo.HostTurns
import Brawololo.HostSimulation
import Brawololo.InputAccounting
import Brawololo.InterestAccounting
import Brawololo.InterestReuse
import Brawololo.AckProgress
import Brawololo.AckWrap
import Brawololo.PollLoops
import Brawololo.RtcSignaling
import Brawololo.RtcChannels
import Brawololo.KcpRtcTransport
import Brawololo.KcpRtcPumpedTransport
import Brawololo.RtcPumps
import Brawololo.RtcHandshake
import Brawololo.RtcDelivery
import Brawololo.RtcCompletion
import Brawololo.RtcSessions
import Brawololo.TrappingArithmetic
import Brawololo.TrappingSimulation
import Brawololo.RowRules
import Brawololo.MovementBounds
import Brawololo.OverflowFreedom
import Brawololo.DiagonalSpeed
import Brawololo.WeaponStages
import Brawololo.ProjectileSpeed
import Brawololo.LoginAnswers
import Brawololo.DefeatedPlayers
import Brawololo.ProjectileLifecycle
import Brawololo.WarmupLedger
import Brawololo.WarmupBooks
import Brawololo.Interleavings
import Brawololo.ArrivalOrder
import Brawololo.InputFlooding
import Brawololo.ReliableEvents
import Brawololo.EventSurfacing
import Brawololo.TransportBooks
import Brawololo.SignalingGuards
import Brawololo.ClosedTransports
import Brawololo.RankedLists
import Brawololo.RankedPlans
import Brawololo.DeltaPlans
import Brawololo.RefusedSnapshots
import Brawololo.SnapshotOverwrite
import Brawololo.ResendLedger
import Brawololo.BoundedBackoff
import Brawololo.ReplayedWarmups
import Brawololo.FixedLayouts
import Brawololo.ChunkGrid
import Brawololo.ClockError
import Brawololo.LagCompensation
import Brawololo.PresentationFrames
import Brawololo.InterpolatedMotion
import Brawololo.RenderBrackets
import Brawololo.ClientViewFrames
import Brawololo.JoinTimes
import Brawololo.FramePumps
import Brawololo.LoopbackHub
import Brawololo.DelayLines
import Brawololo.LoopbackConditions
import Brawololo.RemoteClientSession
import Brawololo.LoginOrder
import Brawololo.Damping
import Brawololo.RestingPlayers
import Brawololo.SnapshotSizes
import Brawololo.CalmTicks
import Brawololo.StandingCrowd
import Brawololo.CrowdRounds
import Brawololo.ClientApplication
import Brawololo.HostTransports
import Brawololo.HubTransports
import Brawololo.NetworkedGames
import Brawololo.GameDelivery
import Brawololo.GameInputs
import Brawololo.SettledRounds
import Brawololo.MirroredRounds
import Brawololo.SnapshotKinds
import Brawololo.Oracles
import Brawololo.HostOracles
import Brawololo.ServerApplications
import Brawololo.GamePrediction
import Brawololo.HeldIdentities
