import DroneEngage.Isolation
import DroneEngage.Uncaught
import DroneEngage.FrameKinds
import DroneEngage.RelayGate
import DroneEngage.Broadcasts
import DroneEngage.RelayAgreement
import DroneEngage.Cleanup
import DroneEngage.UdpReplies
import DroneEngage.UdpBlocks
import DroneEngage.LiveChildren
import DroneEngage.UdpReaper
import DroneEngage.UdpLifetimes
import DroneEngage.UdpNotices
import DroneEngage.DbConnections
import DroneEngage.DbHandshake
import DroneEngage.DbRequests
import DroneEngage.StorageReports
import DroneEngage.StorageCommands
import DroneEngage.AuthFrames
import DroneEngage.IndividualMessages
import DroneEngage.UdpPorts
import DroneEngage.StorageReplies
import DroneEngage.PeerFrames
import DroneEngage.QueryLogin
import DroneEngage.AuthOrder
import DroneEngage.RelayReach
import DroneEngage.S2sLines
import DroneEngage.UdpTunnels
import DroneEngage.Receipts
import DroneEngage.UnitDelivery
import DroneEngage.Confinement
import DroneEngage.UdpAdmin
import DroneEngage.NewsPush
import DroneEngage.AccountDetails
