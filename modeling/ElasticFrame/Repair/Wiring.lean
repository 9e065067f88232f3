import ElasticFrame.Lib.RecursiveMutex
import ElasticFrame.Receiver.Reentrant
import ElasticFrame.Sender.Trace

/-!
A sender and a threaded receiver wired to each other: the send callback calls
`receive`, and the NACK callback calls `receiveNack` and `processRetransmits`.
`Sender::mMutex` is held while the send callback runs, and
`Receiver::mNetMutex` while the NACK callback runs, so the application thread
in `send` locks the one and then the other, and the worker thread in a pass
with a NACK to send locks them the other way round.

A step of a thread ends where the thread comes to a mutex. What it does
between two locks nobody else can see.
-/

namespace ElasticFrame

open Lib

/-- The checks `receive` makes before a handler locks `mNetMutex`. A Type0
packet is not locked for. -/
def Receiver.locks (aData : List UInt8) : Bool :=
  match getFrameType (byteAt aData 0) with
  | none | some .type0 => false
  | some .type1 => FrameType1.sizeof ≤ aData.length
  | some .type2 => FrameType2.sizeof ≤ aData.length
  | some .type3 => FrameType3.sizeof ≤ aData.length
  | some .type4 => FrameType4.sizeof ≤ aData.length

/-- The checks `receiveNack` makes before it locks `mMutex`. -/
def Sender.locks (aData : List UInt8) : Bool :=
  FrameType0Nack.sizeof ≤ aData.length ∧
    getFrameType (FrameType0Nack.read aData).mFrameType = some .type0 ∧
      (FrameType0Nack.read aData).mSubtype = type0SubtypeNack ∧
        aData.length =
          FrameType0Nack.sizeof + (FrameType0Nack.read aData).mNackCount.toNat * NackEntry.sizeof

namespace Wired

inductive Thread
  | application
  | worker
  deriving DecidableEq

inductive Lock
  | mMutex
  | mNetMutex
  deriving DecidableEq

/-- Where the application thread is in a call of `send`. -/
inductive Application
  | idle
  /-- At the lock of `mMutex`. -/
  | lockSend (clk : SendClock) (aData : List UInt8) (args : SendArgs)
  /-- Holding `mMutex`, with these packets to call the callback for. -/
  | sending (packets : List Packet)
  /-- In the callback, at the lock of `mNetMutex`. -/
  | lockReceive (p : Packet) (packets : List Packet)
  /-- In the callback, before `mNetMutex` is released. -/
  | receiving (packets : List Packet)

/-- Where the worker thread is in a call of the NACK callback. -/
inductive Repair
  /-- At the lock of `mMutex` in `receiveNack`. -/
  | lockNack (lNackData : List UInt8)
  /-- Before `receiveNack` releases `mMutex`. -/
  | requested
  /-- At the lock of `mMutex` in `processRetransmits`. -/
  | lockRetransmits
  /-- Holding `mMutex`, with these fragments to call the send callback for. -/
  | resending (packets : List Packet)
  /-- In the send callback, at the lock of `mNetMutex`. -/
  | lockReceive (p : Packet) (packets : List Packet)
  /-- In the send callback, before `mNetMutex` is released. -/
  | receiving (packets : List Packet)

/-- Where the worker thread is in `workerLoop`. -/
inductive Worker (B : BufferSize)
  | idle
  /-- At the lock of `mNetMutex`. -/
  | lockPass (clk : PassClock)
  /-- In `processNacks`, with these entries of the map to look at. -/
  | scanning (clk : PassClock) (entries : List (ℤ × B.Index))
  /-- In the NACK callback for the bucket of an entry. -/
  | nacking (clk : PassClock) (lOrder : ℤ) (i : B.Index) (call : Repair)

end Wired

/-- A sender and a receiver, their mutexes, and where the two threads are. -/
structure Wired (B : BufferSize) where
  sender : Sender
  receiver : Receiver B := {}
  mMutex : Option Wired.Thread := none
  mNetMutex : RecursiveMutex Wired.Thread := .free
  application : Wired.Application := .idle
  worker : Wired.Worker B := .idle

namespace Wired

variable {B : BufferSize}

def new (B : BufferSize) (scfg : SenderConfig) : Wired B := { sender := Sender.new scfg }

/-- `receive`, inside `mNetMutex`. The source id is the default. -/
def received (s : Wired B) (rcfg : ReceiverConfig) (env : Surroundings) (p : Packet) : Wired B :=
  { s with receiver := (s.receiver.dispatch rcfg env p.data 0).1 }

def applicationStep (scfg : SenderConfig) (rcfg : ReceiverConfig) (env : Surroundings)
    (s : Wired B) : Wired B :=
  match s.application with
  | .idle => s
  | .lockSend clk aData args =>
      if s.mMutex = none then
        let sent := s.sender.send scfg clk aData args
        { s with
          sender := sent.1.1
          mMutex := some .application
          application := .sending sent.1.2 }
      else s
  | .sending [] => { s with mMutex := none, application := .idle }
  | .sending (p :: packets) =>
      if Receiver.locks p.data then { s with application := .lockReceive p packets }
      else { s.received rcfg env p with application := .sending packets }
  | .lockReceive p packets =>
      match s.mNetMutex.lock .application with
      | none => s
      | some m =>
          { s.received rcfg env p with mNetMutex := m, application := .receiving packets }
  | .receiving packets =>
      { s with mNetMutex := s.mNetMutex.unlock, application := .sending packets }

def repairStep (rcfg : ReceiverConfig) (env : Surroundings) (s : Wired B) (clk : PassClock)
    (lOrder : ℤ) (i : B.Index) : Repair → Wired B
  | .lockNack lNackData =>
      if s.mMutex = none then
        { s with
          sender := (s.sender.receiveNack lNackData).1
          mMutex := some .worker
          worker := .nacking clk lOrder i .requested }
      else s
  | .requested => { s with mMutex := none, worker := .nacking clk lOrder i .lockRetransmits }
  | .lockRetransmits =>
      if s.mMutex = none then
        let sent := s.sender.processRetransmits (2 ^ 64 - 1)
        { s with
          sender := sent.1
          mMutex := some .worker
          worker := .nacking clk lOrder i (.resending sent.2) }
      else s
  | .resending [] =>
      let r := s.receiver.noteNack clk i
      { s with mMutex := none, receiver := r, worker := .scanning clk (r.laterEntries lOrder) }
  | .resending (p :: packets) =>
      if Receiver.locks p.data then
        { s with worker := .nacking clk lOrder i (.lockReceive p packets) }
      else { s.received rcfg env p with worker := .nacking clk lOrder i (.resending packets) }
  | .lockReceive p packets =>
      match s.mNetMutex.lock .worker with
      | none => s
      | some m =>
          { s.received rcfg env p with
            mNetMutex := m, worker := .nacking clk lOrder i (.receiving packets) }
  | .receiving packets =>
      { s with
        mNetMutex := s.mNetMutex.unlock, worker := .nacking clk lOrder i (.resending packets) }

/-- The next step of the worker thread. After the last NACK the pass hands
the frames that are due to the delivery thread. -/
def workerStep (rcfg : ReceiverConfig) (env : Surroundings) (s : Wired B) :
    Wired B × List (Delivery B) :=
  match s.worker with
  | .idle => (s, [])
  | .lockPass clk =>
      match s.mNetMutex.lock .worker with
      | none => (s, [])
      | some m =>
          ({ s with mNetMutex := m, worker := .scanning clk (s.receiver.firstEntries rcfg) }, [])
  | .scanning clk entries =>
      match s.receiver.nextNack rcfg clk entries with
      | some (lOrder, i) =>
          let lNackData := (s.receiver.mpBuckets i).buildNack
          ({ s with
            worker := .nacking clk lOrder i
              (if Sender.locks lNackData then .lockNack lNackData else .lockRetransmits) }, [])
      | none =>
          let delivered := s.receiver.deliverFrames (s.receiver.selected rcfg clk.timeouts)
          ({ s with
            receiver := delivered.1, mNetMutex := s.mNetMutex.unlock, worker := .idle },
            delivered.2)
  | .nacking clk lOrder i call => (s.repairStep rcfg env clk lOrder i call, [])

/-- The application calls `send` or goes on with it, or the worker begins a
pass or goes on with it. -/
inductive Turn
  | send (clk : SendClock) (aData : List UInt8) (args : SendArgs)
  | application (env : Surroundings)
  | pass (clk : PassClock)
  | worker (env : Surroundings)

/-- `send` is called. The first checks are made before the lock. -/
def beginSend (s : Wired B) (clk : SendClock) (aData : List UInt8) (args : SendArgs) : Wired B :=
  match s.application with
  | .idle =>
      if aData = [] ∨ aData.length > maxSuperframeSize then s
      else { s with application := .lockSend clk aData args }
  | _ => s

def beginPass (s : Wired B) (clk : PassClock) : Wired B :=
  match s.worker with
  | .idle => { s with worker := .lockPass clk }
  | _ => s

/-- The two threads as a machine: a run is an interleaving of their steps. -/
def machine (B : BufferSize) (scfg : SenderConfig) (rcfg : ReceiverConfig) :
    Machine (Wired B) Turn (Delivery B) where
  step s
    | .send clk aData args => (s.beginSend clk aData args, [])
    | .application env => (s.applicationStep scfg rcfg env, [])
    | .pass clk => (s.beginPass clk, [])
    | .worker env => s.workerStep rcfg env

/-! ### Waiting -/

def Application.wants : Application → Option Lock
  | lockSend .. => some .mMutex
  | lockReceive .. => some .mNetMutex
  | idle | sending _ | receiving _ => none

def Repair.wants : Repair → Option Lock
  | lockNack _ | lockRetransmits => some .mMutex
  | lockReceive .. => some .mNetMutex
  | requested | resending _ | receiving _ => none

def Worker.wants : Worker B → Option Lock
  | lockPass _ => some .mNetMutex
  | nacking _ _ _ call => call.wants
  | idle | scanning .. => none

def holder (s : Wired B) : Lock → Option Thread
  | .mMutex => s.mMutex
  | .mNetMutex => s.mNetMutex.holder

/-- Each thread waits for a mutex that the other one holds. -/
def Deadlocked (s : Wired B) : Prop :=
  (∃ l, s.application.wants = some l ∧ s.holder l = some .worker) ∧
    ∃ l, s.worker.wants = some l ∧ s.holder l = some .application

/-- The application is in a `send` that has packets to hand to the callback. -/
def Application.HandsOver : Application → Prop
  | idle | lockSend .. => False
  | sending packets | receiving packets => packets ≠ []
  | lockReceive .. => True

instance : (a : Application) → Decidable a.HandsOver
  | .idle | .lockSend .. => isFalse id
  | .sending packets | .receiving packets => inferInstanceAs (Decidable (packets ≠ []))
  | .lockReceive .. => isTrue trivial

/-- The worker is in a pass that has a NACK to send. -/
def Worker.CallsSender (rcfg : ReceiverConfig) (r : Receiver B) : Worker B → Prop
  | idle | lockPass _ => False
  | scanning clk entries => r.nextNack rcfg clk entries ≠ none
  | nacking .. => True

instance (rcfg : ReceiverConfig) (r : Receiver B) :
    (w : Worker B) → Decidable (w.CallsSender rcfg r)
  | .idle | .lockPass _ => isFalse id
  | .scanning .. => inferInstanceAs (Decidable (_ ≠ none))
  | .nacking .. => isTrue trivial

/-- A `send` with packets to hand over takes its first mutex outside the
passes that have a NACK to send. -/
def Application.KeepsApart (scfg : SenderConfig) (rcfg : ReceiverConfig) (s : Wired B) :
    Application → Prop
  | lockSend _ aData _ =>
      s.mMutex = none → Sender.Sendable scfg aData → ¬ s.worker.CallsSender rcfg s.receiver
  | _ => True

instance (scfg : SenderConfig) (rcfg : ReceiverConfig) (s : Wired B) :
    (a : Application) → Decidable (a.KeepsApart scfg rcfg s)
  | .lockSend .. => inferInstanceAs (Decidable (_ → _))
  | .idle | .sending _ | .lockReceive .. | .receiving _ => isTrue trivial

/-- A pass with a NACK to send takes its first mutex outside the sends that
have packets to hand over. -/
def Worker.KeepsApart (rcfg : ReceiverConfig) (s : Wired B) : Worker B → Prop
  | lockPass clk =>
      s.mNetMutex.lock .worker ≠ none → s.application.HandsOver →
        s.receiver.nextNack rcfg clk (s.receiver.firstEntries rcfg) = none
  | _ => True

instance (rcfg : ReceiverConfig) (s : Wired B) : (w : Worker B) → Decidable (w.KeepsApart rcfg s)
  | .lockPass _ => inferInstanceAs (Decidable (_ → _))
  | .idle | .scanning .. | .nacking .. => isTrue trivial

/-- A `send` with packets to hand over and a pass with a NACK to send do not
overlap. -/
def KeepsApart (scfg : SenderConfig) (rcfg : ReceiverConfig) (s : Wired B) : Turn → Prop
  | .application _ => s.application.KeepsApart scfg rcfg s
  | .worker _ => s.worker.KeepsApart rcfg s
  | .send .. | .pass _ => True

instance (scfg : SenderConfig) (rcfg : ReceiverConfig) (s : Wired B) :
    (turn : Turn) → Decidable (s.KeepsApart scfg rcfg turn)
  | .application _ => inferInstanceAs (Decidable (s.application.KeepsApart scfg rcfg s))
  | .worker _ => inferInstanceAs (Decidable (s.worker.KeepsApart rcfg s))
  | .send .. | .pass _ => isTrue trivial

/-! ### Without overlap -/

def Application.HoldsSender : Application → Prop
  | idle | lockSend .. => False
  | sending _ | lockReceive .. | receiving _ => True

def Application.netDepth : Application → ℕ
  | idle | lockSend .. | sending _ | lockReceive .. => 0
  | receiving _ => 1

def Repair.HoldsSender : Repair → Prop
  | lockNack _ | lockRetransmits => False
  | requested | resending _ | lockReceive .. | receiving _ => True

def Repair.netDepth : Repair → ℕ
  | lockNack _ | requested | lockRetransmits | resending _ | lockReceive .. => 1
  | receiving _ => 2

def Worker.HoldsSender : Worker B → Prop
  | idle | lockPass _ | scanning .. => False
  | nacking _ _ _ call => call.HoldsSender

def Worker.netDepth : Worker B → ℕ
  | idle | lockPass _ => 0
  | scanning .. => 1
  | nacking _ _ _ call => call.netDepth

/-- The mutexes are held by the threads that are between locking and
unlocking them, and the two threads are not both in what takes both. -/
structure Orderly (rcfg : ReceiverConfig) (s : Wired B) : Prop where
  application : s.mMutex = some .application ↔ s.application.HoldsSender
  worker : s.mMutex = some .worker ↔ s.worker.HoldsSender
  applicationDepth : s.mNetMutex.depth .application = s.application.netDepth
  workerDepth : s.mNetMutex.depth .worker = s.worker.netDepth
  apart : s.application.HandsOver → ¬ s.worker.CallsSender rcfg s.receiver

theorem orderly_new (rcfg : ReceiverConfig) (scfg : SenderConfig) :
    (new B scfg).Orderly rcfg where
  application := iff_of_false (by simp [new]) id
  worker := iff_of_false (by simp [new]) id
  applicationDepth := rfl
  workerDepth := rfl
  apart h := absurd h id

theorem dispatch_of_not_locks (cfg : ReceiverConfig) (r : Receiver B) (env : Surroundings)
    {aData : List UInt8} (src : UInt8) (h : ¬ Receiver.locks aData) :
    (r.dispatch cfg env aData src).1 = r := by
  rw [Receiver.dispatch]
  rw [Receiver.locks] at h
  split_ifs
  · rfl
  cases htype : getFrameType (byteAt aData 0) with
  | none => rfl
  | some t =>
      rw [htype] at h
      cases t with
      | type0 => rfl
      | type1 =>
          rw [decide_eq_true_eq, not_le] at h
          simp only [Receiver.handleType1, if_pos h]
      | type2 =>
          rw [decide_eq_true_eq, not_le] at h
          simp only [Receiver.handleType2, if_pos h]
      | type3 =>
          rw [decide_eq_true_eq, not_le] at h
          simp only [Receiver.handleType3, if_pos h]
      | type4 =>
          rw [decide_eq_true_eq, not_le] at h
          simp only [Receiver.handleType4, if_pos h]

section Step

variable {scfg : SenderConfig} {rcfg : ReceiverConfig} {s : Wired B}

theorem Orderly.not_deadlocked (h : s.Orderly rcfg) : ¬ s.Deadlocked := by
  rintro ⟨⟨l, hl, hworker⟩, l', hl', happlication⟩
  have hnet : l' = .mNetMutex → 0 < s.application.netDepth := by
    rintro rfl
    rw [← h.applicationDepth]
    exact RecursiveMutex.holder_eq_some_iff.mp happlication
  cases hphase : s.application with
  | idle => simp [hphase, Application.wants] at hl
  | sending packets => simp [hphase, Application.wants] at hl
  | receiving packets => simp [hphase, Application.wants] at hl
  | lockSend clk aData args =>
      rw [hphase] at hl hnet
      obtain rfl := Option.some.inj hl
      cases l' with
      | mMutex => exact absurd (hworker.symm.trans happlication) (by simp)
      | mNetMutex => exact absurd (hnet rfl) (lt_irrefl 0)
  | lockReceive p packets =>
      rw [hphase] at hl hnet
      obtain rfl := Option.some.inj hl
      cases l' with
      | mNetMutex => exact absurd (hnet rfl) (lt_irrefl 0)
      | mMutex =>
          refine h.apart (by rw [hphase]; trivial) ?_
          cases hpass : s.worker with
          | idle => simp [hpass, Worker.wants] at hl'
          | lockPass clk => simp [hpass, Worker.wants] at hl'
          | scanning clk entries => simp [hpass, Worker.wants] at hl'
          | nacking clk lOrder i call => trivial

/-- The worker sends no NACK while the application holds `mNetMutex`. -/
theorem not_callsSender {w : Worker B} (h : w.netDepth = 0) (r : Receiver B) :
    ¬ w.CallsSender rcfg r := by
  cases w with
  | idle => exact id
  | lockPass clk => exact id
  | scanning clk entries => cases h
  | nacking clk lOrder i call => cases call <;> cases h

theorem Orderly.beginSend (h : s.Orderly rcfg) (clk : SendClock) (aData : List UInt8)
    (args : SendArgs) : Orderly rcfg (s.beginSend clk aData args) := by
  unfold Wired.beginSend
  cases hphase : s.application with
  | idle =>
      dsimp only
      split_ifs
      · exact h
      · have hmutex := h.application
        have hdepth := h.applicationDepth
        rw [hphase] at hmutex hdepth
        exact ⟨hmutex, h.worker, hdepth, h.workerDepth, fun habs => absurd habs id⟩
  | lockSend clk aData args => exact h
  | sending packets => exact h
  | lockReceive p packets => exact h
  | receiving packets => exact h

theorem Orderly.beginPass (h : s.Orderly rcfg) (clk : PassClock) :
    Orderly rcfg (s.beginPass clk) := by
  unfold Wired.beginPass
  cases hphase : s.worker with
  | idle =>
      have hmutex := h.worker
      have hdepth := h.workerDepth
      rw [hphase] at hmutex hdepth
      exact ⟨h.application, hmutex, h.applicationDepth, hdepth, fun _ => id⟩
  | lockPass clk => exact h
  | scanning clk entries => exact h
  | nacking clk lOrder i call => exact h

theorem Orderly.applicationStep (h : s.Orderly rcfg) (env : Surroundings)
    (hapart : s.KeepsApart scfg rcfg (.application env)) :
    Orderly rcfg (s.applicationStep scfg rcfg env) := by
  have hmutex := h.application
  have hdepth := h.applicationDepth
  unfold Wired.applicationStep
  cases hphase : s.application with
  | idle => exact h
  | lockSend clk aData args =>
      rw [hphase] at hmutex hdepth
      dsimp only
      split_ifs with hfree
      · have hworker := h.worker
        rw [hfree] at hworker
        refine ⟨iff_of_true rfl trivial, ?_, hdepth, h.workerDepth, fun hover => ?_⟩
        · exact iff_of_false (by simp) fun hholds => by simpa using hworker.mpr hholds
        · rw [KeepsApart, hphase] at hapart
          refine hapart hfree ?_
          rcases Sender.send_cases scfg clk s.sender aData args with ⟨hsendable, -⟩ |
            ⟨-, res, -, hsend⟩
          · exact hsendable
          · rw [hsend] at hover
            exact absurd rfl hover
      · exact h
  | sending packets =>
      rw [hphase] at hmutex hdepth
      have hheld : s.mMutex = some .application := hmutex.mpr trivial
      have hworker : ¬ s.worker.HoldsSender := fun hholds => by
        simpa [hheld] using h.worker.mpr hholds
      cases packets with
      | nil =>
          exact ⟨iff_of_false (by simp) id, iff_of_false (by simp) hworker, hdepth, h.workerDepth,
            fun habs => absurd habs id⟩
      | cons p packets =>
          have hnot : ¬ s.worker.CallsSender rcfg s.receiver :=
            h.apart (by rw [hphase]; exact List.cons_ne_nil _ _)
          dsimp only
          split_ifs with hlocks
          · exact ⟨iff_of_true hheld trivial, h.worker, hdepth, h.workerDepth, fun _ => hnot⟩
          · have hreceiver := dispatch_of_not_locks rcfg s.receiver env 0 hlocks
            exact ⟨iff_of_true hheld trivial, h.worker, hdepth, h.workerDepth,
              fun _ => by rwa [received, hreceiver]⟩
  | lockReceive p packets =>
      rw [hphase] at hmutex hdepth
      have hheld : s.mMutex = some .application := hmutex.mpr trivial
      dsimp only
      cases hlock : s.mNetMutex.lock .application with
      | none => exact h
      | some m =>
          obtain ⟨hworker', hworker⟩ := RecursiveMutex.depth_lock_of_ne hlock
            (show Thread.worker ≠ .application by decide)
          have hzero : s.worker.netDepth = 0 := h.workerDepth ▸ hworker
          refine ⟨iff_of_true hheld trivial, h.worker, ?_, hworker'.trans hzero.symm,
            fun _ => not_callsSender hzero _⟩
          exact (RecursiveMutex.depth_lock hlock).trans (by rw [hdepth]; rfl)
  | receiving packets =>
      rw [hphase] at hmutex hdepth
      have hheld : s.mMutex = some .application := hmutex.mpr trivial
      have hpos : 0 < s.mNetMutex.depth .application := by rw [hdepth]; exact Nat.one_pos
      obtain ⟨hworker', hworker⟩ := RecursiveMutex.depth_unlock_of_ne hpos
        (show Thread.worker ≠ .application by decide)
      have hzero : s.worker.netDepth = 0 := h.workerDepth ▸ hworker
      refine ⟨iff_of_true hheld trivial, h.worker, ?_, hworker'.trans hzero.symm,
        fun _ => not_callsSender hzero _⟩
      exact RecursiveMutex.depth_unlock_of_eq hdepth

/-- In the NACK callback nothing is handed over by the application. -/
theorem Orderly.repairStep (h : s.Orderly rcfg) (env : Surroundings) {clk : PassClock} {lOrder : ℤ}
    {i : B.Index} {call : Repair} (hphase : s.worker = .nacking clk lOrder i call) :
    Orderly rcfg (s.repairStep rcfg env clk lOrder i call) := by
  have hmutex := h.worker
  have hdepth := h.workerDepth
  have hnot : ¬ s.application.HandsOver := fun hover =>
    h.apart hover (by rw [hphase]; trivial)
  have happlication : s.worker.HoldsSender → ¬ s.application.HoldsSender := fun hholds hboth => by
    simpa [h.application.mpr hboth] using h.worker.mpr hholds
  rw [hphase] at hmutex hdepth happlication
  cases call with
  | lockNack lNackData =>
      unfold Wired.repairStep
      dsimp only
      split_ifs with hfree
      · have hidle := h.application
        rw [hfree] at hidle
        exact ⟨iff_of_false (by simp) fun hholds => by simpa using hidle.mpr hholds,
          iff_of_true rfl trivial, h.applicationDepth, hdepth, fun hover => absurd hover hnot⟩
      · exact h
  | requested =>
      unfold Wired.repairStep
      dsimp only
      exact ⟨iff_of_false (by simp) (happlication trivial), iff_of_false (by simp) id,
        h.applicationDepth, hdepth, fun hover => absurd hover hnot⟩
  | lockRetransmits =>
      unfold Wired.repairStep
      dsimp only
      split_ifs with hfree
      · have hidle := h.application
        rw [hfree] at hidle
        exact ⟨iff_of_false (by simp) fun hholds => by simpa using hidle.mpr hholds,
          iff_of_true rfl trivial, h.applicationDepth, hdepth, fun hover => absurd hover hnot⟩
      · exact h
  | resending packets =>
      cases packets with
      | nil =>
          unfold Wired.repairStep
          dsimp only
          exact ⟨iff_of_false (by simp) (happlication trivial), iff_of_false (by simp) id,
            h.applicationDepth, hdepth, fun hover => absurd hover hnot⟩
      | cons p packets =>
          unfold Wired.repairStep
          dsimp only
          split_ifs
          · exact ⟨h.application, hmutex, h.applicationDepth, hdepth,
              fun hover => absurd hover hnot⟩
          · exact ⟨h.application, hmutex, h.applicationDepth, hdepth,
              fun hover => absurd hover hnot⟩
  | lockReceive p packets =>
      unfold Wired.repairStep
      dsimp only
      cases hlock : s.mNetMutex.lock .worker with
      | none => exact h
      | some m =>
          refine ⟨h.application, hmutex, ?_, ?_, fun hover => absurd hover hnot⟩
          · exact (RecursiveMutex.depth_lock_other hlock (by decide)).trans h.applicationDepth
          · exact (RecursiveMutex.depth_lock hlock).trans (by rw [hdepth]; rfl)
  | receiving packets =>
      have hpos : 0 < s.mNetMutex.depth .worker := by rw [hdepth]; exact Nat.two_pos
      have hother : s.mNetMutex.unlock.depth .application = s.mNetMutex.depth .application :=
        RecursiveMutex.depth_unlock_other hpos (by decide)
      exact ⟨h.application, hmutex, hother.trans h.applicationDepth,
        RecursiveMutex.depth_unlock_of_eq hdepth, fun hover => absurd hover hnot⟩

theorem Orderly.workerStep (h : s.Orderly rcfg) (env : Surroundings)
    (hapart : s.KeepsApart scfg rcfg (.worker env)) : Orderly rcfg (s.workerStep rcfg env).1 := by
  have hmutex := h.worker
  have hdepth := h.workerDepth
  unfold Wired.workerStep
  cases hphase : s.worker with
  | idle => exact h
  | lockPass clk =>
      rw [hphase] at hmutex hdepth
      dsimp only
      cases hlock : s.mNetMutex.lock .worker with
      | none => exact h
      | some m =>
          rw [KeepsApart, hphase] at hapart
          refine ⟨h.application, hmutex, ?_, ?_, fun hover hcalls => hcalls (hapart ?_ hover)⟩
          · exact (RecursiveMutex.depth_lock_other hlock (by decide)).trans h.applicationDepth
          · exact (RecursiveMutex.depth_lock hlock).trans (by rw [hdepth]; rfl)
          · rw [hlock]
            exact Option.some_ne_none m
  | scanning clk entries =>
      rw [hphase] at hmutex hdepth
      dsimp only
      cases hnext : s.receiver.nextNack rcfg clk entries with
      | some e =>
          have hnot : ¬ s.application.HandsOver := fun hover =>
            h.apart hover (by rw [hphase, Worker.CallsSender, hnext]; exact Option.some_ne_none e)
          refine ⟨h.application, hmutex.trans ?_, h.applicationDepth, hdepth.trans ?_,
            fun hover => absurd hover hnot⟩
          · dsimp only
            split_ifs <;> rfl
          · dsimp only
            split_ifs <;> rfl
      | none =>
          have hpos : 0 < s.mNetMutex.depth .worker := by rw [hdepth]; exact Nat.one_pos
          have hother : s.mNetMutex.unlock.depth .application = s.mNetMutex.depth .application :=
            RecursiveMutex.depth_unlock_other hpos (by decide)
          exact ⟨h.application, hmutex, hother.trans h.applicationDepth,
            RecursiveMutex.depth_unlock_of_eq hdepth, fun _ => id⟩
  | nacking clk lOrder i call => exact h.repairStep env hphase

/-- Where they overlap they can come to wait for each other: with a packet
still to hand over and a NACK still to send, one step of each is enough. -/
theorem deadlocked_of_overlap {p : Packet} {packets : List Packet} {clk : PassClock}
    {entries : List (ℤ × B.Index)} (happlication : s.application = .sending (p :: packets))
    (hlocks : Receiver.locks p.data = true) (hmutex : s.mMutex = some .application)
    (hworker : s.worker = .scanning clk entries)
    (hnext : s.receiver.nextNack rcfg clk entries ≠ none)
    (hnet : s.mNetMutex.holder = some .worker) (env : Surroundings) :
    Deadlocked ((machine B scfg rcfg).run s [.worker env, .application env]).1 := by
  obtain ⟨e, he⟩ := Option.ne_none_iff_exists'.mp hnext
  simp only [Machine.run, machine, workerStep, hworker, he, applicationStep, happlication, hlocks,
    if_true]
  refine ⟨⟨.mNetMutex, rfl, hnet⟩, .mMutex, ?_, hmutex⟩
  simp only [Worker.wants]
  split_ifs <;> rfl

end Step

/-- A step keeps order, if it does not let a `send` and a pass with a NACK to
send overlap. -/
theorem Orderly.step {scfg : SenderConfig} {rcfg : ReceiverConfig} {s : Wired B} {turn : Turn}
    (h : s.Orderly rcfg) (hapart : s.KeepsApart scfg rcfg turn) :
    Orderly rcfg ((machine B scfg rcfg).step s turn).1 := by
  cases turn with
  | send clk aData args => exact h.beginSend clk aData args
  | application env => exact h.applicationStep env hapart
  | pass clk => exact h.beginPass clk
  | worker env => exact h.workerStep env hapart

/-- In every run in which a `send` and a pass with a NACK to send do not
overlap, no state on the way and no state at the end is one in which each
thread waits for a mutex that the other one holds. -/
theorem not_deadlocked_of_run (scfg : SenderConfig) (rcfg : ReceiverConfig) (turns : List Turn)
    (h : (machine B scfg rcfg).Along (KeepsApart scfg rcfg) (new B scfg) turns) :
    (machine B scfg rcfg).Along (fun s _ => ¬ s.Deadlocked) (new B scfg) turns ∧
      ¬ ((machine B scfg rcfg).run (new B scfg) turns).1.Deadlocked := by
  constructor
  · exact (machine B scfg rcfg).along_of_invariant (fun _ _ hs hapart => hs.step hapart)
      (fun _ _ hs _ => hs.not_deadlocked) (orderly_new rcfg scfg) h
  · have hend : Orderly rcfg ((machine B scfg rcfg).run (new B scfg) turns).1 :=
      (machine B scfg rcfg).run_invariant (fun _ _ hs hapart => hs.step hapart)
        (orderly_new rcfg scfg) h
    exact hend.not_deadlocked

/-- The wiring of the documentation, with one second of retention. -/
def senderCfg : SenderConfig := SenderConfig.new 256 .single 1000 10000

def receiverCfg : ReceiverConfig where
  mTimeoutMs := 200
  mHolTimeoutMs := 50
  mMaxNackRetries := 3
  mNackIntervalMs := 20

def arrival : Surroundings := { nowUs := fun _ => 1000, memalign := fun _ => true }

def twoPackets : Turn := .send (Sample.clockAt 0) (List.replicate 300 7) Sample.sendArgs

def passAt (lNow : ℤ) : Turn :=
  .pass { timeouts := lNow, nacks := lNow, nackDelay := fun _ => lNow }

/-- A pass 29 milliseconds after the arrival of the first packet. -/
def latePass : Turn := passAt 30000

/-- A receiver with one bucket, which loses what comes while it is in use. -/
def oneBucket : BufferSize := ⟨0, 0, by norm_num, by norm_num⟩

/-- A superframe of one packet is still in the bucket when the first packet of the
next one comes, and has been delivered when the second one does. So a NACK is
sent when that `send` is over. -/
def inTurn : List Turn :=
  .send (Sample.clockAt 0) [7] Sample.sendArgs :: List.replicate 5 (.application arrival) ++
    twoPackets :: List.replicate 4 (.application arrival) ++
    passAt 2000 :: List.replicate 2 (.worker arrival) ++
    List.replicate 4 (.application arrival) ++
    latePass :: List.replicate 10 (.worker arrival)

theorem not_deadlocked_inTurn :
    let run := (machine oneBucket senderCfg receiverCfg).run (new oneBucket senderCfg) inTurn
    run.1.receiver.mStatistics.mNacksSent = 1 ∧
      (machine oneBucket senderCfg receiverCfg).Along (fun s _ => ¬ s.Deadlocked)
        (new oneBucket senderCfg) inTurn ∧
      ¬ run.1.Deadlocked :=
  ⟨by decide +kernel, not_deadlocked_of_run senderCfg receiverCfg inTurn (by decide +kernel)⟩

/-- The pass comes between the two packets, when the first NACK is due. -/
def crossed : List Turn :=
  twoPackets :: List.replicate 4 (.application arrival) ++
    latePass :: List.replicate 2 (.worker arrival) ++ [.application arrival]

/-- The application holds `mMutex` and waits for `mNetMutex`, the worker holds
`mNetMutex` and waits for `mMutex`. -/
theorem deadlocked_crossed :
    Deadlocked ((machine .default senderCfg receiverCfg).run (new .default senderCfg) crossed).1 :=
  ⟨⟨.mNetMutex, by decide +kernel, by decide +kernel⟩,
    .mMutex, by decide +kernel, by decide +kernel⟩

end Wired

end ElasticFrame
