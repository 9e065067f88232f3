import ElasticFrame.Bandwidth.Paused
import ElasticFrame.Transfer.Network

/-!
A bandwidth manager in front of a network. To the receiver it is a sender that
is called for what gets through: the data of a paused stream is not sent, and
nothing else is. Superframes are numbered as they get through, so a pause leaves
no gap, and what is delivered was sent on a stream that was not paused then.
-/

namespace ElasticFrame

open Lib

def BandwidthEvent.packet? {F : Type*} : BandwidthEvent F → Option Packet
  | .packet p => some p
  | .mBandwidthCallback _ _ | .mDropCallback _ _ => none

namespace BandwidthManager

variable {F : Type*}

/-! ### What leaves the sender alone -/

/-- The sender stays as it is, and no packet is put out. -/
structure Controls (s : BandwidthManager F)
    (r : BandwidthManager F × List (BandwidthEvent F)) : Prop where
  mSender : r.1.mSender = s.mSender
  quiet : r.2.filterMap BandwidthEvent.packet? = []

theorem Controls.append {s : BandwidthManager F}
    {r r' : BandwidthManager F × List (BandwidthEvent F)} (h : s.Controls r)
    (h' : r.1.Controls r') : s.Controls (r'.1, r.2 ++ r'.2) := by
  refine ⟨h'.mSender.trans h.mSender, ?_⟩
  rw [List.filterMap_append, h.quiet, h'.quiet]
  rfl

/-- A change of the manager beforehand that leaves the sender alone. -/
theorem Controls.congr {s t : BandwidthManager F}
    {r : BandwidthManager F × List (BandwidthEvent F)} (h : t.Controls r)
    (hsender : t.mSender = s.mSender) : s.Controls r := ⟨h.mSender.trans hsender, h.quiet⟩

variable [Field F] [LinearOrder F]

variable [FloatOps F]

end BandwidthManager

/-! ### The network -/

/-- A manager, a receiver, and all packets that have been put on the network. -/
structure ManagedNetwork (F : Type*) (B : BufferSize) where
  manager : BandwidthManager F
  receiver : Receiver B
  packets : List Packet := []

/-- A call of the manager, the delivery of a packet that has been sent before, or
a pass of the receiver. -/
inductive ManagedEvent (F : Type*)
  | manager (c : BandwidthCall F)
  | packet (env : Surroundings) (k : ℕ) (aSourceId : UInt8)
  | pass (clk : PassClock)

namespace ManagedNetwork

variable {F : Type*} {B : BufferSize}

def plain (m : ManagedNetwork F B) : Network B where
  sender := m.manager.mSender
  receiver := m.receiver
  packets := m.packets

variable [Field F]

def new (B : BufferSize) (senderCfg : SenderConfig) : ManagedNetwork F B where
  manager := BandwidthManager.new senderCfg
  receiver := Receiver.fresh B

variable [LinearOrder F] [FloatOps F]

def machine (B : BufferSize) (senderCfg : SenderConfig) (cfg : BandwidthManagerConfig F)
    (rcfg : ReceiverConfig) :
    Machine (ManagedNetwork F B) (ManagedEvent F) (BandwidthEvent F ⊕ Receiver.Output B) where
  step m
    | .manager c =>
        let called := (BandwidthManager.machine senderCfg cfg).step m.manager c
        ({ m with
            manager := called.1
            packets := m.packets ++ called.2.filterMap BandwidthEvent.packet? },
          called.2.map .inl)
    | .packet env k aSourceId =>
        match m.packets[k]? with
        | none => (m, [])
        | some p => ({ m with receiver := (m.receiver.dispatch rcfg env p.data aSourceId).1 }, [])
    | .pass clk =>
        let passed := m.receiver.processTimeouts rcfg clk
        ({ m with receiver := passed.1 }, passed.2.map .inr)

end ManagedNetwork

end ElasticFrame
