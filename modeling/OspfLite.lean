import OspfLite.LinkState.Checksum
import OspfLite.Interface.Roles
import OspfLite.Interface.Agreement
import OspfLite.Neighbor.Joins
import OspfLite.Router.Receive
import OspfLite.Router.MapLaws
import OspfLite.Router.Freshness
import OspfLite.Router.Adjacency
import OspfLite.Router.FloodingReach
import OspfLite.Router.Retransmission
import OspfLite.Router.StaleElection
import OspfLite.Exchange.Completion
import OspfLite.Router.Backing
import OspfLite.Router.SummaryPops
import OspfLite.Router.Reorigination
import OspfLite.Router.ExchangeLists
import OspfLite.Router.FloodingInVain
import OspfLite.Router.Outsiders
import OspfLite.Router.OwnLinks
import OspfLite.Router.Superseding
import OspfLite.Router.Listing
import OspfLite.Router.Synchronised
import OspfLite.Router.Addresses
import OspfLite.Router.Recency
import OspfLite.Router.Answering
import OspfLite.Router.Rejecting
import OspfLite.Router.Repeating
import OspfLite.Exchange.Renegotiating
import OspfLite.Router.PacketChecksum
import OspfLite.LinkState.Fletcher
import OspfLite.Router.RequestReply
import OspfLite.Router.RetransSender
import OspfLite.Router.Resending
import OspfLite.Router.Codecs
import OspfLite.Interface.SecondElection
import OspfLite.Interface.MissingDr
import OspfLite.Router.Acknowledging
import OspfLite.Router.MaxAge
import OspfLite.Router.KeyFrames
import OspfLite.Router.Duplicates
import OspfLite.Router.ExchangeEnd
import OspfLite.Router.AttachedRouters
import OspfLite.LinkState.Ageing
import OspfLite.Router.AgeingLsas
import OspfLite.Router.PacketWalks
import OspfLite.Router.BufferBounds
import OspfLite.Lib.Network
import OspfLite.Router.HelloSender
import OspfLite.Router.Bystanders
import OspfLite.Router.Hearing
import OspfLite.Segment.Basic
import OspfLite.Segment.TwoWay
import OspfLite.Segment.Handshake
import OspfLite.Segment.Election
import OspfLite.Segment.Agreement
import OspfLite.Router.Settled
import OspfLite.Segment.Adjacencies
import OspfLite.Router.Transfer
import OspfLite.Router.Delivery
import OspfLite.Router.Spreading
import OspfLite.Lib.Publications
import OspfLite.Router.Issuing
import OspfLite.Segment.Closed
import OspfLite.Segment.Lsas
import OspfLite.Router.Growing
import OspfLite.Segment.InStep
