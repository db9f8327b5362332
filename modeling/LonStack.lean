import LonStack.QueueLaws
import LonStack.TidTable
import LonStack.Lib.Prog
import LonStack.Tsa.Layer
import LonStack.Tsa.Pool
import LonStack.Tsa.Guard
import LonStack.Tsa.RecordStep
import LonStack.Tsa.Unique
import LonStack.Tsa.Delivery
import LonStack.Tsa.Challenged
import LonStack.PduLaws
import LonStack.QueueContract
import LonStack.Tsa.Agreement
import LonStack.Tsa.Completion
import LonStack.Tsa.Response
import LonStack.Tsa.Retransmit
import LonStack.LonUdp.Mapping
import LonStack.NetworkRoundTrip
import LonStack.Tsa.RecordFit
import LonStack.Tsa.EntryFit
import LonStack.Lib.Image
import LonStack.Lib.Stuffing
import LonStack.LonUsb.Frame
import LonStack.LonUsb.Link
import LonStack.LonUsb.Uplink
import LonStack.LonUsb.UplinkLaws
import LonStack.LonUsb.Reception
import LonStack.LonUsb.CodePacket
import LonStack.LonUsb.Downlink
import LonStack.LonUsb.Delivery
import LonStack.LonUsb.RoundTrip
import LonStack.LonUsb.Misread
import LonStack.LonUsb.Stale
import LonStack.LonUsb.Untimed
import LonStack.LonUsb.Chunking
import LonStack.LonUsb.Requests
import LonStack.LonUsb.System
import LonStack.LonUsb.DownlinkLaws
import LonStack.LonUsb.Entering
import LonStack.LonUsb.Parser
import LonStack.LonUsb.Intact
import LonStack.LonUsb.Duplicate
import LonStack.LonUsb.InBuffer
import LonStack.LonUsb.Ready
import LonStack.LonUsb.Numbering
import LonStack.LonUsb.Acknowledged
import LonStack.App.Memory
import LonStack.App.Node
import LonStack.NetMgmt.Respond
import LonStack.NetMgmt.Update
import LonStack.Lib.Region
import LonStack.App.Tables
import LonStack.NetMgmt.Change
import LonStack.NetMgmt.ChangeLaws
import LonStack.NetMgmt.EntryLaws
import LonStack.NetMgmt.Truthful
import LonStack.NetMgmt.Query
import LonStack.NetMgmt.ReadBack
import LonStack.NetMgmt.ReadBackLaws
import LonStack.NetMgmt.Consistent
import LonStack.NetMgmt.Memory
import LonStack.NetMgmt.Windows
import LonStack.NetMgmt.Guarded
import LonStack.App.Interchange
import LonStack.AddressFilter
import LonStack.Iup.Md5
import LonStack.Iup.Update
import LonStack.Iup.Record
import LonStack.Iup.Session
import LonStack.Iup.Transfer
import LonStack.Iup.Effect
import LonStack.Iup.Resume
import LonStack.Iup.Activate
import LonStack.Persist.Storage
import LonStack.Persist.Separate
import LonStack.Persist.Confined
import LonStack.Persist.Commit
import LonStack.Lib.Loop
import LonStack.RingBuffer
import LonStack.TidEviction
import LonStack.Tsa.Replying
import LonStack.Tsa.Cipher
import LonStack.Tsa.MemberList
import LonStack.Tsa.ShortRem
import LonStack.ShortNpdu
import LonStack.App.Send
import LonStack.Lib.Accumulate
import LonStack.Lib.Mirror
import LonStack.LonUdp.InStep
import LonStack.LonUdp.Following
import LonStack.TimerLaws
import LonStack.ElapsedTime
import LonStack.LonUdp.Multicast
import LonStack.LonUdp.Subnets
import LonStack.LonUsb.LocalCommand
import LonStack.LonUsb.Timeouts
import LonStack.LinkReceive
import LonStack.LonUdp.Translate
import LonStack.LonUdp.Malformed
import LonStack.LonUdp.Message
import LonStack.LonUdp.RoundTrip
import LonStack.App.Datapoint
import LonStack.Lib.Fifo
import LonStack.App.Receive
import LonStack.App.Variables
import LonStack.App.Outputs
import LonStack.App.Cleared
import LonStack.Iup.InBounds
import LonStack.App.Unbound
import LonStack.App.PollAnswer
import LonStack.Persist.Corrupted
import LonStack.App.AddNv
import LonStack.Lib.Codec
import LonStack.App.SelfId
import LonStack.NetMgmt.SelfIdRead
import LonStack.App.ByteOrder
import LonStack.Persist.LinuxHal
import LonStack.Persist.LinuxStore
import LonStack.Persist.Erase
import LonStack.Persist.EraseReady
import LonStack.Isi.Persistence
import LonStack.LonUdp.OwnAddress
import LonStack.Proxy.Ltep
import LonStack.Proxy.Message
import LonStack.Proxy.Prepare
import LonStack.Proxy.Relay
import LonStack.Proxy.Attempts
import LonStack.Proxy.Deferred
import LonStack.Lib.Cut
import LonStack.Persist.PowerCut
import LonStack.Persist.ReadBack
import LonStack.Persist.Restart
import LonStack.Persist.PowerLost
import LonStack.Persist.PowerSafe
import LonStack.Proxy.Chain
import LonStack.Tsa.InTime
import LonStack.Tsa.Retries
import LonStack.Tsa.Exchange
import LonStack.Tsa.Lifetime
import LonStack.Tsa.EndToEnd
import LonStack.Tsa.Inner
import LonStack.Tsa.Entry
import LonStack.Lib.Joint
import LonStack.Tsa.Queued
import LonStack.Tsa.Provenance
import LonStack.Tsa.Answers
