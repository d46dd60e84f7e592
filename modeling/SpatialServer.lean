import SpatialServer.Containers
import SpatialServer.Runs
import SpatialServer.Entities
import SpatialServer.Grid
import SpatialServer.Wire
import SpatialServer.Store
import SpatialServer.Game
import SpatialServer.GameRuns
import SpatialServer.Publishing
import SpatialServer.Coherence
import SpatialServer.CoherentRuns
import SpatialServer.Visibility
import SpatialServer.SpaceIsolation
import SpatialServer.Sessions
import SpatialServer.Relay
import SpatialServer.ReconnectWindow
import SpatialServer.StreamHandover
import SpatialServer.Statements
import SpatialServer.Interference
import SpatialServer.Nodes
import SpatialServer.Allocation
import SpatialServer.Tables
import SpatialServer.RoomService
import SpatialServer.Assigning
import SpatialServer.ZoneOwnership
import SpatialServer.ZoneClaims
import SpatialServer.ZoneLookups
import SpatialServer.Sweeping
import SpatialServer.SweepRecovery
import SpatialServer.Transfers
import SpatialServer.TransferReplay
import SpatialServer.ZoneLifecycle
import SpatialServer.Boundary
import SpatialServer.Changes
import SpatialServer.ReachableStores
import SpatialServer.ZoneIndexes
import SpatialServer.Control
import SpatialServer.ZoneTransfer
import SpatialServer.Recovery
import SpatialServer.LocalGhosts
import SpatialServer.RemoteGhosts
import SpatialServer.CrossZone
import SpatialServer.Episodes
import SpatialServer.EventDelivery
import SpatialServer.DeliveryProgress
import SpatialServer.EventGrammar
import SpatialServer.FreshRecords
import SpatialServer.Announcements
import SpatialServer.Staleness
import SpatialServer.PacketCodec
import SpatialServer.GridRuns
import SpatialServer.RateLimit
import SpatialServer.BucketRegulation
import SpatialServer.RelayLimits
import SpatialServer.SendQueue
import SpatialServer.Connections
import SpatialServer.Capacity
import SpatialServer.RelaySession
import SpatialServer.Registry
import SpatialServer.OrphanTargets
import SpatialServer.Heartbeats
import SpatialServer.ActiveRoutes
import SpatialServer.RouterCache
import SpatialServer.Fanout
import SpatialServer.OwnershipWatch
import SpatialServer.SessionTokens
import SpatialServer.GhostConversion
import SpatialServer.MovementFanout
import SpatialServer.RoundedMoves
import SpatialServer.TickLoop
import SpatialServer.ConnectOrder
import SpatialServer.Ingress
import SpatialServer.Backlog
import SpatialServer.Egress
import SpatialServer.SnapshotHistory
import SpatialServer.Reordering
import SpatialServer.GridPictures
import SpatialServer.TickPictures
import SpatialServer.PictureOrder
import SpatialServer.TickOrder
import SpatialServer.GridReplay
import SpatialServer.EventWire
import SpatialServer.Removal
import SpatialServer.Readding
import SpatialServer.GhostUpdates
import SpatialServer.EntityQueries
import SpatialServer.MoveOrder
import SpatialServer.StoreAgreement
import SpatialServer.Noninterference
import SpatialServer.Confinement
import SpatialServer.Approach
import SpatialServer.Patrol
import SpatialServer.Wandering
import SpatialServer.Motion
import SpatialServer.Provenance
import SpatialServer.Whereabouts
import SpatialServer.Decimals
import SpatialServer.ZoneNames
import SpatialServer.RuntimeLifecycle
import SpatialServer.Candidates
import SpatialServer.RoutedAddresses
import SpatialServer.KeyRefresh
import SpatialServer.TokenEncoding
import SpatialServer.Deferred
import SpatialServer.ScenarioRunner
import SpatialServer.ScenarioReports
import SpatialServer.FloatPositions
