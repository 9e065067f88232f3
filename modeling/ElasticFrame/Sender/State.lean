import ElasticFrame.Wire
import ElasticFrame.Lib.Buffer

/-!
The state of `efp::Sender`: the superframe number, the two packet buffers,
and the store of fragments that have been sent and may be asked for again.

The store is four containers that the source keeps in step by hand: the map
of the retained fragments, the order they were retained in, the queue of
requests for them and the set of requests that are queued. A key of the map
is used again when the superframe number wraps, so requests and order
records carry the generation of the fragment they mean; a record whose
generation is not the map's is stale.

Generations, counters and sizes are naturals: nothing that runs counts up to
`2^64`. `int64_t` times are integers.
-/

namespace ElasticFrame

open Lib

/-- How many Type1 fragments a packet is laid out for. -/
inductive SubFragmentMode
  | single
  | half
  | quarter
  | eighth
  deriving DecidableEq, Repr

/-- `(uint8_t)(mSubFragmentMode)`. -/
def SubFragmentMode.bundleSize : SubFragmentMode → ℕ
  | single => 1
  | half => 2
  | quarter => 4
  | eighth => 8

/-- The constructor arguments a sender keeps, with the MTU it works with. -/
structure SenderConfig where
  mMtu : ℕ
  mtu_ge : 256 ≤ mMtu
  mtu_lt : mMtu < 65536
  mSubFragmentMode : SubFragmentMode
  mRetentionMs : UInt32
  mRetentionMaxBytes : ℕ

/-- The constructor: an MTU below 256 is raised to it. -/
def SenderConfig.new (aMtu : UInt16) (aSubFragmentMode : SubFragmentMode) (aRetentionMs : UInt32)
    (aRetentionMaxBytes : ℕ) : SenderConfig where
  mMtu := if aMtu.toNat < 256 then 256 else aMtu.toNat
  mtu_ge := by split_ifs <;> omega
  mtu_lt := by
    have hlt := aMtu.toNat_lt
    split_ifs <;> omega
  mSubFragmentMode := aSubFragmentMode
  mRetentionMs := aRetentionMs
  mRetentionMaxBytes := aRetentionMaxBytes

/-- A fragment that has been sent. -/
structure RetainedFragment where
  mTimestampUs : ℤ
  mSuperFrameNo : UInt16
  mFragmentNo : UInt16
  mStreamId : UInt8
  mRetryCount : UInt8
  mGeneration : ℕ
  mData : List UInt8

structure RetentionOrderEntry where
  mKey : UInt32
  mGeneration : ℕ
  deriving DecidableEq

structure RetransmitRequest where
  mKey : UInt32
  mGeneration : ℕ
  deriving DecidableEq

def makeRetentionKey (aSuperFrameNo aFragmentNo : UInt16) : UInt32 :=
  (aSuperFrameNo.toUInt32 <<< 16) ||| aFragmentNo.toUInt32

/-- The containers of the retained fragments and of the requests for them. -/
structure Retention where
  mRetentionBuffer : Std.ExtTreeMap UInt32 RetainedFragment compare := ∅
  mRetentionOrder : List RetentionOrderEntry := []
  mRetentionBufferBytes : ℕ := 0
  mRetransmitQueue : List RetransmitRequest := []
  mQueuedRetransmits : Finset ℕ := ∅
  mRetentionGeneration : ℕ := 0

structure SenderStatistics where
  mFragmentsSent : ℕ := 0
  mBundlesSent : ℕ := 0
  mNacksReceived : ℕ := 0
  mRetransmittedFragments : ℕ := 0

structure Sender where
  mSuperFrameNo : UInt16 := 0
  mSendBuffer : List UInt8
  mBundleBuffer : List UInt8
  retention : Retention := {}
  mStatistics : SenderStatistics := {}

/-- The state the constructor leaves behind. -/
def Sender.new (cfg : SenderConfig) : Sender where
  mSendBuffer := List.replicate cfg.mMtu 0
  mBundleBuffer := if cfg.mSubFragmentMode = .single then [] else List.replicate cfg.mMtu 0

/-- One call of the send callback. -/
structure Packet where
  data : List UInt8
  streamId : UInt8
  deriving DecidableEq

/-! ### The retained fragments -/

namespace Retention

/-- The fragment a key and a generation stand for, unless it has been evicted
or replaced. -/
def live (s : Retention) (mKey : UInt32) (mGeneration : ℕ) : Option RetainedFragment :=
  match s.mRetentionBuffer[mKey]? with
  | none => none
  | some f => if f.mGeneration = mGeneration then some f else none

/-- The loop of `evictOldRetention` over the order records, oldest first: it
ends at the first fragment that is neither expired nor in the way of the
bytes that are required. -/
def evictLoop (cfg : SenderConfig) (lCutoffUs : ℤ) (aRequiredBytes : ℕ) :
    List RetentionOrderEntry → Retention → Retention
  | [], s => { s with mRetentionOrder := [] }
  | lOldest :: rest, s =>
      match s.live lOldest.mKey lOldest.mGeneration with
      | none => evictLoop cfg lCutoffUs aRequiredBytes rest s
      | some f =>
          if ¬ f.mTimestampUs < lCutoffUs ∧
              ¬ (aRequiredBytes > cfg.mRetentionMaxBytes ∨
                s.mRetentionBufferBytes > cfg.mRetentionMaxBytes - aRequiredBytes) then
            { s with mRetentionOrder := lOldest :: rest }
          else
            evictLoop cfg lCutoffUs aRequiredBytes rest
              { s with
                mRetentionBuffer := s.mRetentionBuffer.erase lOldest.mKey
                mRetentionBufferBytes := sizeSub s.mRetentionBufferBytes f.mData.length
                mQueuedRetransmits := s.mQueuedRetransmits.erase lOldest.mGeneration }

def evictOldRetention (cfg : SenderConfig) (s : Retention) (lNow : ℤ) (aRequiredBytes : ℕ) :
    Retention :=
  evictLoop cfg (lNow - (cfg.mRetentionMs.toNat : ℤ) * 1000) aRequiredBytes s.mRetentionOrder s

/-- `retainFragment`. The clock is read for the eviction and again for the
time stamp. -/
def retainFragment (cfg : SenderConfig) (s : Retention) (lNow mTimestampUs : ℤ)
    (aSuperFrameNo aFragmentNo : UInt16) (aStreamId : UInt8) (apData : List UInt8) : Retention :=
  if cfg.mRetentionMs = 0 ∨ apData.length > cfg.mRetentionMaxBytes then s
  else
    let lKey := makeRetentionKey aSuperFrameNo aFragmentNo
    let lExistingSize := (s.mRetentionBuffer[lKey]?.map fun f => f.mData.length).getD 0
    let s := s.evictOldRetention cfg lNow
      (if apData.length > lExistingSize then apData.length - lExistingSize else 0)
    -- a fragment that is replaced gives its bytes back first
    let s :=
      match s.mRetentionBuffer[lKey]? with
      | none => s
      | some lExisting =>
          { s with
            mRetentionBufferBytes := sizeSub s.mRetentionBufferBytes lExisting.mData.length
            mQueuedRetransmits := s.mQueuedRetransmits.erase lExisting.mGeneration }
    let lGeneration := s.mRetentionGeneration + 1
    { s with
      mRetentionGeneration := lGeneration
      mRetentionBufferBytes := s.mRetentionBufferBytes + apData.length
      mRetentionBuffer := s.mRetentionBuffer.insert lKey
        { mTimestampUs
          mSuperFrameNo := aSuperFrameNo
          mFragmentNo := aFragmentNo
          mStreamId := aStreamId
          mRetryCount := 0
          mGeneration := lGeneration
          mData := apData }
      mRetentionOrder := s.mRetentionOrder ++ [{ mKey := lKey, mGeneration := lGeneration }] }

/-- The request at the front of the queue is taken out, which leaves `rest`. -/
def pop (s : Retention) (lRequest : RetransmitRequest) (rest : List RetransmitRequest) : Retention :=
  { s with
    mRetransmitQueue := rest
    mQueuedRetransmits := s.mQueuedRetransmits.erase lRequest.mGeneration }

/-- The fragment a request means is sent again, which counts a retry. -/
def retry (s : Retention) (lRequest : RetransmitRequest) (f : RetainedFragment) : Retention :=
  { s with
    mRetentionBuffer := s.mRetentionBuffer.insert lRequest.mKey
      { f with mRetryCount := f.mRetryCount + 1 } }

/-- `receiveNack` on the fragments `lJ, lJ + 1, ..` of an entry, `count` of
them: each is queued if it is retained for that stream and not queued. -/
def requestRange (lEntry : NackEntry) : (count lJ : ℕ) → Retention → Retention
  | 0, _, s => s
  | count + 1, lJ, s =>
      let lKey := makeRetentionKey lEntry.mSuperFrameNo (lEntry.mFragmentNo + UInt16.ofNat lJ)
      requestRange lEntry count (lJ + 1)
        (match s.mRetentionBuffer[lKey]? with
        | none => s
        | some f =>
            if f.mStreamId = lEntry.mStreamId ∧ f.mGeneration ∉ s.mQueuedRetransmits then
              { s with
                mQueuedRetransmits := insert f.mGeneration s.mQueuedRetransmits
                mRetransmitQueue :=
                  s.mRetransmitQueue ++ [{ mKey := lKey, mGeneration := f.mGeneration }] }
            else s)

/-- The loop of `receiveNack` over the entries. It ends at an entry whose
range leaves the 16 bits of a fragment number. -/
def requestEntries : List NackEntry → Retention → Retention × Result
  | [], s => (s, .ok)
  | lEntry :: rest, s =>
      if lEntry.mFragmentNo.toNat + lEntry.mFragmentCount.toNat > 65535 then
        (s, .bufferOutOfBounds)
      else requestEntries rest (requestRange lEntry (lEntry.mFragmentCount.toNat + 1) 0 s)

end Retention

namespace Sender

def receiveNack (s : Sender) (aData : List UInt8) : Sender × Result :=
  if aData.length < FrameType0Nack.sizeof then (s, .frameSizeMismatch)
  else
    let lpHeader := FrameType0Nack.read aData
    if getFrameType lpHeader.mFrameType ≠ some .type0 then (s, .invalidParameter)
    else if lpHeader.mSubtype ≠ type0SubtypeNack then (s, .invalidParameter)
    else if aData.length ≠ FrameType0Nack.sizeof + lpHeader.mNackCount.toNat * NackEntry.sizeof then
      (s, .frameSizeMismatch)
    else
      let lpEntries := (List.range lpHeader.mNackCount.toNat).map fun lI =>
        NackEntry.read (aData.drop (FrameType0Nack.sizeof + lI * NackEntry.sizeof))
      let requested := s.retention.requestEntries lpEntries
      ({ s with
        retention := requested.1
        mStatistics :=
          if requested.2 = .ok then
            { s.mStatistics with mNacksReceived := s.mStatistics.mNacksReceived + 1 }
          else s.mStatistics }, requested.2)

def countRetransmit (s : Sender) : Sender :=
  { s with
    mStatistics :=
      { s.mStatistics with
        mRetransmittedFragments := s.mStatistics.mRetransmittedFragments + 1 } }

/-- The loop of `processRetransmits` over the queue. -/
def retransmitLoop (aMaxCount : ℕ) : List RetransmitRequest → ℕ → Sender → Sender × List Packet
  | [], _, s => (s, [])
  | lRequest :: rest, lCount, s =>
      if lCount < aMaxCount then
        let popped := s.retention.pop lRequest rest
        match popped.live lRequest.mKey lRequest.mGeneration with
        | none => retransmitLoop aMaxCount rest lCount { s with retention := popped }
        | some f =>
            let next := retransmitLoop aMaxCount rest (lCount + 1)
              { s with retention := popped.retry lRequest f }.countRetransmit
            (next.1, { data := f.mData, streamId := f.mStreamId } :: next.2)
      else (s, [])

/-- `processRetransmits`; the number it returns is that of the packets. -/
def processRetransmits (s : Sender) (aMaxCount : ℕ) : Sender × List Packet :=
  retransmitLoop aMaxCount s.retention.mRetransmitQueue 0 s

def getRetransmitFragment (s : Sender) : Sender × Option Packet :=
  match s.retention.mRetransmitQueue with
  | [] => (s, none)
  | lRequest :: rest =>
      let popped := s.retention.pop lRequest rest
      match popped.live lRequest.mKey lRequest.mGeneration with
      | none => ({ s with retention := popped }, none)
      | some f =>
          ({ s with retention := popped.retry lRequest f }.countRetransmit,
            some { data := f.mData, streamId := f.mStreamId })

end Sender

end ElasticFrame
