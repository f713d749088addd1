import RecordFarm.ByteStream.Pieces
import RecordFarm.CommandLine.Directory
import RecordFarm.Copying
import RecordFarm.Crew.Handle
import RecordFarm.Element.Push
import RecordFarm.Main
import RecordFarm.Network.Waiting
import RecordFarm.Service.Combine
import RecordFarm.Source.Inbox
import RecordFarm.Source.Pull
import RecordFarm.Proofs.Fanout.BarrierSafety
import RecordFarm.Proofs.Fanout.Conservation
import RecordFarm.Proofs.Fanout.Requests
import RecordFarm.Proofs.Fanout.Rundown
import RecordFarm.Proofs.Fanout.Progress
import RecordFarm.Proofs.Farm.ExactlyOnce
import RecordFarm.Proofs.Wire.RoundTrip
import RecordFarm.Proofs.Wire.Framing
import RecordFarm.Proofs.Fanin.Producing
import RecordFarm.Proofs.Fanin.Collecting
import RecordFarm.Proofs.Fanin.Accounts
import RecordFarm.Proofs.Fanin.Completeness
import RecordFarm.Proofs.Fanout.Shares
import RecordFarm.Proofs.Fanout.Asking
import RecordFarm.Proofs.Fanout.Handover
import RecordFarm.Proofs.Fanout.Dispensing
import RecordFarm.Proofs.Fanout.PullProtocol
import RecordFarm.Proofs.Service.Membership
import RecordFarm.Proofs.Service.Talk
import RecordFarm.Proofs.Fanin.Membership
import RecordFarm.Proofs.Fanout.Membership
import RecordFarm.Proofs.File.Copying
import RecordFarm.Proofs.File.Parsing
import RecordFarm.Proofs.File.Pieces
import RecordFarm.Proofs.File.Blocks
import RecordFarm.Proofs.Element.Chronicle
import RecordFarm.Proofs.Element.Course
import RecordFarm.Proofs.Pipeline.Routes
import RecordFarm.Proofs.Network.Reconnects
import RecordFarm.Proofs.Pipeline.Routing
import RecordFarm.Proofs.Fanout.Diary
import RecordFarm.Proofs.Fanout.Shutdown
import RecordFarm.Proofs.Push.Delivery
import RecordFarm.Proofs.Fanout.HeldExit
import RecordFarm.Proofs.Fanout.RunningDown
import RecordFarm.Proofs.Fanout.Backlog
import RecordFarm.Proofs.File.Accounting
import RecordFarm.Proofs.Processor.Batching
import RecordFarm.Proofs.Wire.Shapes
import RecordFarm.Proofs.Wire.InPlace
import RecordFarm.Proofs.Farm.Joining
import RecordFarm.Proofs.Fanin.Traffic
import RecordFarm.Proofs.Network.Registry
