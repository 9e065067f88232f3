import ElasticFrame.Lib.Machine
import ElasticFrame.Lib.Fairness
import ElasticFrame.Lib.LittleEndian
import ElasticFrame.Lib.Block
import ElasticFrame.Lib.Buffer
import ElasticFrame.Lib.Unwrap
import ElasticFrame.Lib.TreeMap
import ElasticFrame.Lib.Lists
import ElasticFrame.Lib.Expiry
import ElasticFrame.Lib.FirstOccurrence
import ElasticFrame.Lib.Groups
import ElasticFrame.Lib.MovingAverage
import ElasticFrame.Lib.FloatOps
import ElasticFrame.Lib.Binary32
import ElasticFrame.Lib.Ranges
import ElasticFrame.Lib.Slots
import ElasticFrame.Lib.RecursiveMutex
import ElasticFrame.Wire
import ElasticFrame.Receiver.State
import ElasticFrame.Receiver.Handlers
import ElasticFrame.Receiver.Delivery
import ElasticFrame.Receiver.Fragment
import ElasticFrame.Receiver.Step
import ElasticFrame.Receiver.Bundle
import ElasticFrame.Receiver.Pass
import ElasticFrame.Receiver.Representation
import ElasticFrame.Receiver.Selection
import ElasticFrame.Receiver.History
import ElasticFrame.Receiver.Unwrapping
import ElasticFrame.Receiver.Accounts
import ElasticFrame.Receiver.AtMostOnce
import ElasticFrame.Receiver.Newness
import ElasticFrame.Receiver.HandOff
import ElasticFrame.Receiver.MemorySafety
import ElasticFrame.Receiver.Layout
import ElasticFrame.Receiver.Completeness
import ElasticFrame.Receiver.Contents
import ElasticFrame.Receiver.Rejection
import ElasticFrame.Receiver.Isolation
import ElasticFrame.Receiver.Reentrant
import ElasticFrame.Receiver.Nested
import ElasticFrame.Receiver.Threaded
import ElasticFrame.Receiver.Stopping
import ElasticFrame.CApi.Embedded
import ElasticFrame.CApi.Sections
import ElasticFrame.CApi.Handles
import ElasticFrame.Sender.State
import ElasticFrame.Sender.Send
import ElasticFrame.Sender.Store
import ElasticFrame.Sender.Packets
import ElasticFrame.Sender.Trace
import ElasticFrame.Sender.Retained
import ElasticFrame.Sender.Eviction
import ElasticFrame.Sender.Queue
import ElasticFrame.Sender.Retransmit
import ElasticFrame.Sender.Superframe
import ElasticFrame.Sender.Frames
import ElasticFrame.Sender.Buffers
import ElasticFrame.Sender.Law
import ElasticFrame.Sender.Log
import ElasticFrame.Sender.Newest
import ElasticFrame.Sender.Bundles
import ElasticFrame.Sender.SizeLimit
import ElasticFrame.Sender.Origin
import ElasticFrame.CApi.SendCallback
import ElasticFrame.Repair.Message
import ElasticFrame.Repair.Answer
import ElasticFrame.Repair.Refusal
import ElasticFrame.Repair.Timing
import ElasticFrame.Repair.Jitter
import ElasticFrame.Repair.Deadlines
import ElasticFrame.Repair.Wiring
import ElasticFrame.CApi.Legacy
import ElasticFrame.Transfer.Collection
import ElasticFrame.Transfer.Reception
import ElasticFrame.Transfer.Emission
import ElasticFrame.Transfer.RoundTrip
import ElasticFrame.Transfer.Network
import ElasticFrame.Transfer.Session
import ElasticFrame.Transfer.Exchange
import ElasticFrame.CApi.EndToEnd
import ElasticFrame.Transfer.Recovery
import ElasticFrame.Transfer.Repaired
import ElasticFrame.Transfer.Feedback
import ElasticFrame.Bandwidth.Manager
import ElasticFrame.Bandwidth.Streams
import ElasticFrame.Bandwidth.Paused
import ElasticFrame.Bandwidth.Multipliers
import ElasticFrame.Bandwidth.Callbacks
import ElasticFrame.Bandwidth.Rtt
import ElasticFrame.Bandwidth.Probe
import ElasticFrame.Bandwidth.Accuracy
import ElasticFrame.Bandwidth.Settling
import ElasticFrame.Bandwidth.Managed
import ElasticFrame.Bandwidth.Divisors
