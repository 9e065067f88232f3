import ElasticFrame.Receiver.Delivery

/-!
The receiver in run-to-completion mode when its callbacks call back.

`receive` and `poll` end with a pass on the thread of the caller, and the
mutex they lock is recursive. A callback that the pass runs may therefore call
`receive` or `poll` on the same receiver, and so may the callbacks of the pass
inside. The machine below stops at every callback: the passes that wait for
one are on a stack, with what they have left to do, and an event is a call
made at the innermost level, or the return of the innermost callback.

Two things can go wrong for good. The loop of `processNacks` stands on an
entry of the map while its callback runs, and the entry may be erased before
the callback returns; and `deliverFrame` may come to a bucket whose frame has
been moved into a callback. What the code does then is undefined, and the
machine stops.
-/

namespace ElasticFrame

open Lib

namespace Receiver

variable {B : BufferSize}

/-- `lTriggerTimeUs`. -/
def nackTriggerUs (cfg : ReceiverConfig) (clk : PassClock) (r : Receiver B) (i : B.Index) : ℤ :=
  let b := r.mpBuckets i
  let lDelayUs := r.calculateNackDelayUs cfg b (clk.nackDelay b.mDeliveryOrder)
  if b.mLastNackUs = 0 then b.mFirstArrivalUs + lDelayUs else b.mLastNackUs + lDelayUs

/-- `processNacks` sends a NACK for the bucket. -/
def nackDue (cfg : ReceiverConfig) (clk : PassClock) (r : Receiver B) (i : B.Index) : Bool :=
  let b := r.mpBuckets i
  !b.complete && decide (b.mNackCount < cfg.mMaxNackRetries) &&
    decide (r.nackTriggerUs cfg clk i ≤ clk.nacks) && decide (b.buildNack ≠ [])

/-- The entries of the map that `processNacks` begins with. -/
def firstEntries (cfg : ReceiverConfig) (r : Receiver B) : List (ℤ × B.Index) :=
  if cfg.mMaxNackRetries = 0 then [] else r.mBucketMap.toList

/-- The entries behind `lOrder`, where the iterator goes from there. -/
def laterEntries (r : Receiver B) (lOrder : ℤ) : List (ℤ × B.Index) :=
  r.mBucketMap.toList.filter fun e => lOrder < e.1

/-- The entry for which the loop of `processNacks` sends its next NACK. -/
def nextNack (cfg : ReceiverConfig) (clk : PassClock) (r : Receiver B)
    (entries : List (ℤ × B.Index)) : Option (ℤ × B.Index) :=
  entries.find? fun e => r.nackDue cfg clk e.2

/-- What `processNacks` does after the callback has returned. -/
def noteNack (clk : PassClock) (r : Receiver B) (i : B.Index) : Receiver B :=
  { r with mStatistics := { r.mStatistics with mNacksSent := r.mStatistics.mNacksSent + 1 } }
    |>.setBucket i { r.mpBuckets i with
      mLastNackUs := clk.nacks, mNackCount := (r.mpBuckets i).mNackCount + 1 }

/-- What `deliverFrame` does until it calls: the frame is moved into the
argument. -/
def handOver (r : Receiver B) (i : B.Index) : Receiver B :=
  let b := r.mpBuckets i
  let stats :=
    if b.complete then
      { r.mStatistics with mCompleteFrames := r.mStatistics.mCompleteFrames + 1 }
    else { r.mStatistics with mBrokenFrames := r.mStatistics.mBrokenFrames + 1 }
  { r with mStatistics := stats } |>.setBucket i { b with mpFrame := none }

/-- What `deliverFrame` does after the callback has returned. -/
def finishDelivery (r : Receiver B) (i : B.Index) : Receiver B :=
  let b := r.mpBuckets i
  { r with mBucketMap := r.mBucketMap.erase b.mDeliveryOrder }
    |>.setBucket i { b with mActive := false, mpFrame := none }

/-- The buckets that `processTimeouts` selects, in delivery order. -/
def selected (cfg : ReceiverConfig) (lNow : ℤ) (r : Receiver B) : List B.Index :=
  ((r.mBucketMap.toList.map Prod.snd).filter fun i =>
    (r.mpBuckets i).due cfg lNow).insertionSort fun i j =>
      (r.mpBuckets i).mDeliveryOrder ≤ (r.mpBuckets j).mDeliveryOrder

/-! ### The same steps without the callbacks -/

theorem processNack_eq (cfg : ReceiverConfig) (clk : PassClock) (r : Receiver B) (i : B.Index) :
    r.processNack cfg clk i =
      if r.nackDue cfg clk i then (r.noteNack clk i, [(r.mpBuckets i).buildNack]) else (r, []) := by
  have hnack : r.processNack cfg clk i =
      if (r.mpBuckets i).complete then (r, [])
      else if (r.mpBuckets i).mNackCount ≥ cfg.mMaxNackRetries then (r, [])
      else if clk.nacks < r.nackTriggerUs cfg clk i then (r, [])
      else if (r.mpBuckets i).buildNack = [] then (r, [])
      else (r.noteNack clk i, [(r.mpBuckets i).buildNack]) := rfl
  rw [hnack, nackDue]
  by_cases hcomplete : (r.mpBuckets i).complete = true
  · simp [hcomplete]
  by_cases hretries : (r.mpBuckets i).mNackCount ≥ cfg.mMaxNackRetries
  · simp [hcomplete, hretries, UInt8.not_lt.mpr hretries]
  by_cases htime : clk.nacks < r.nackTriggerUs cfg clk i
  · simp [hcomplete, hretries, htime]
  by_cases hempty : (r.mpBuckets i).buildNack = []
  · simp [hcomplete, hretries, htime, hempty]
  · simp [hcomplete, UInt8.not_le.mp hretries, htime, not_lt.mp htime, hempty]

theorem deliverFrame_eq (r : Receiver B) {i : B.Index} {f : SuperFrame}
    (h : (r.mpBuckets i).mpFrame = some f) :
    r.deliverFrame i = ((r.handOver i).finishDelivery i,
      [{ bucket := i, frame := (r.mpBuckets i).deliveredFrame f }]) := by
  have hdeliver : ∀ (b : Bucket) (stats : ReceiverStatistics),
      (({ r with mStatistics := stats }.setBucket i { b with mpFrame := none }).finishDelivery i) =
        { r with mStatistics := stats, mBucketMap := r.mBucketMap.erase b.mDeliveryOrder }.setBucket i
          { b with mActive := false, mpFrame := none } := by
    intro b stats
    simp only [finishDelivery, setBucket, Function.update_self, Function.update_idem]
  rw [handOver, hdeliver, deliverFrame, h]
  by_cases hcomplete : (r.mpBuckets i).complete = true
  · simp [Bucket.deliveredFrame, hcomplete]
  · simp [Bucket.deliveredFrame, hcomplete]

end Receiver

/-! ### Running callbacks -/

/-- A callback that is running, and where the pass that called it goes on. -/
inductive Running (B : BufferSize)
  /-- `mNackCallback`, for the bucket of the map entry `lOrder`. The entry may
  have been erased since. -/
  | nack (clk : PassClock) (lOrder : ℤ) (i : B.Index) (erased : Bool)
  /-- `mCallback` with the frame of bucket `i`. -/
  | receive (i : B.Index) (rest : List B.Index)

/-- An iterator is invalid from the moment its entry is erased. -/
def Running.sync {B : BufferSize} (m : Std.ExtTreeMap ℤ B.Index compare) :
    Running B → Running B
  | .nack clk lOrder i erased => .nack clk lOrder i (erased || m[lOrder]?.isNone)
  | .receive i rest => .receive i rest

def Running.isNackFor {B : BufferSize} (i : B.Index) : Running B → Bool
  | .nack _ _ j _ => j = i
  | .receive _ _ => false

def Running.isReceive {B : BufferSize} : Running B → Bool
  | .nack .. => false
  | .receive .. => true

/-- Undefined behaviour. -/
inductive Fault
  /-- `processNacks` goes on from an entry that has been erased. -/
  | erasedEntry
  /-- `deliverFrame` is run on a bucket whose frame has been moved out. -/
  | movedFrame
  deriving DecidableEq

/-- A receiver whose callbacks may be running, the innermost first. The
openings of every bucket are counted. -/
structure Reentrant (B : BufferSize) where
  receiver : Receiver B := {}
  running : List (Running B) := []
  fault : Option Fault := none
  openings : B.Index → ℕ := fun _ => 0

namespace Reentrant

variable {B : BufferSize}

/-- A callback is called, for the `opening`-th opening of a bucket. -/
inductive Output (B : BufferSize)
  | nack (i : B.Index) (opening : ℕ) (data : List UInt8)
  | deliver (i : B.Index) (opening : ℕ) (frame : SuperFrame)

/-- A call made by the innermost callback, or from outside if none is running,
or the return of the innermost callback. -/
inductive Event
  | receive (env : Surroundings) (clk : PassClock) (aData : List UInt8) (aSourceId : UInt8)
  | poll (clk : PassClock)
  | ret

/-- The loop of `processTimeouts` over the selected buckets, up to the next
callback. -/
def deliverNext (s : Reentrant B) : List B.Index → Reentrant B × List (Output B)
  | [] => (s, [])
  | i :: rest =>
      match (s.receiver.mpBuckets i).mpFrame with
      | none => ({ s with fault := some .movedFrame }, [])
      | some f =>
          ({ s with
            receiver := s.receiver.handOver i
            running := .receive i rest :: s.running },
            [.deliver i (s.openings i) ((s.receiver.mpBuckets i).deliveredFrame f)])

/-- The loop of `processNacks` over the entries it has left, up to the next
callback; after the last entry the pass goes on to deliver. -/
def scanNacks (cfg : ReceiverConfig) (clk : PassClock) (s : Reentrant B)
    (entries : List (ℤ × B.Index)) : Reentrant B × List (Output B) :=
  match s.receiver.nextNack cfg clk entries with
  | some (lOrder, i) =>
      ({ s with running := .nack clk lOrder i false :: s.running },
        [.nack i (s.openings i) (s.receiver.mpBuckets i).buildNack])
  | none => s.deliverNext (s.receiver.selected cfg clk.timeouts)

/-- The state after `receive` has handled the packet. -/
def dispatched (cfg : ReceiverConfig) (s : Reentrant B) (env : Surroundings)
    (aData : List UInt8) (aSourceId : UInt8) : Reentrant B :=
  let r := (s.receiver.dispatch cfg env aData aSourceId).1
  { s with
    receiver := r
    running := s.running.map (Running.sync r.mBucketMap)
    openings := fun i =>
      if (s.receiver.mpBuckets i).mActive = false ∧ (r.mpBuckets i).mActive = true then
        s.openings i + 1
      else s.openings i }

/-- The state after the innermost callback, a NACK's, has returned. -/
def noted (s : Reentrant B) (clk : PassClock) (i : B.Index) (outer : List (Running B)) :
    Reentrant B :=
  { s with receiver := s.receiver.noteNack clk i, running := outer }

/-- The state after the innermost callback, a delivery's, has returned. -/
def finished (s : Reentrant B) (i : B.Index) (outer : List (Running B)) : Reentrant B :=
  let r := s.receiver.finishDelivery i
  { s with receiver := r, running := outer.map (Running.sync r.mBucketMap) }

/-- `receive` handles the packet and makes a pass. It does neither when there
is no frame type that it knows. -/
def Passes (aData : List UInt8) : Prop := aData ≠ [] ∧ getFrameType (byteAt aData 0) ≠ none

instance (aData : List UInt8) : Decidable (Passes aData) := inferInstanceAs (Decidable (_ ∧ _))

def returned (cfg : ReceiverConfig) (s : Reentrant B) : Reentrant B × List (Output B) :=
  match s.running with
  | [] => (s, [])
  | .nack clk lOrder i erased :: outer =>
      if erased then ({ s with fault := some .erasedEntry }, [])
      else
        (s.noted clk i outer).scanNacks cfg clk
          ((s.noted clk i outer).receiver.laterEntries lOrder)
  | .receive i rest :: outer => (s.finished i outer).deliverNext rest

/-- The receiver as a machine over the calls and returns of its callbacks. -/
def machine (B : BufferSize) (cfg : ReceiverConfig) : Machine (Reentrant B) Event (Output B) where
  step s e :=
    if s.fault ≠ none then (s, [])
    else
      match e with
      | .receive env clk aData aSourceId =>
          if Passes aData then
            let s := s.dispatched cfg env aData aSourceId
            s.scanNacks cfg clk (s.receiver.firstEntries cfg)
          else (s, [])
      | .poll clk => s.scanNacks cfg clk (s.receiver.firstEntries cfg)
      | .ret => s.returned cfg

end Reentrant

end ElasticFrame
