import ElasticFrame.Sender.State
import ElasticFrame.Lib.Machine

/-!
How a superframe is cut into packets. Small data goes out in one Type2. More
of it is cut into Type1 fragments of one size, with what is left in a Type2
and, where that would not fit, in a Type3 before it. In the bundled modes
the Type1 fragments travel several to a Type4 packet, and a fragment that
has been asked for again may take the place of one of them.
-/

namespace ElasticFrame

open Lib

/-- The arguments of `send` besides the data. -/
structure SendArgs where
  aPayloadType : UInt8
  aPts : UInt64
  aDts : UInt64
  aPayloadCode : UInt32
  aStreamId : UInt8
  aFlags : UInt8

/-- The clock readings of one `send`: one for the eviction it starts with,
and two for each fragment that is retained, by fragment number. -/
structure SendClock where
  evict : ℤ
  retainEvict : ℕ → ℤ
  stamp : ℕ → ℤ

/-- What `send` computes from the two time stamps: their difference, if
there is one that fits. -/
def dtsPtsDiff (aPts aDts : UInt64) : UInt32 :=
  if aDts ≠ 0xFFFFFFFFFFFFFFFF ∧ aPts ≠ 0xFFFFFFFFFFFFFFFF ∧ aPts ≥ aDts then
    if aPts - aDts ≤ 0xFFFFFFFE then (aPts - aDts).toUInt32 else 0xFFFFFFFF
  else 0xFFFFFFFF

/-- What the fragments of one superframe have in common. -/
structure Outgoing where
  aPayloadType : UInt8
  aPts : UInt64
  aDtsPtsDiff : UInt32
  aPayloadCode : UInt32
  aStreamId : UInt8
  aFlags : UInt8
  aType1PayloadSize : ℕ
  aSuperFrameNo : UInt16
  aOfFragmentNo : UInt16

namespace Outgoing

def type1 (o : Outgoing) (lFragNo : UInt16) : FrameType1 where
  mFrameType := makeFrameTypeByte .type1 o.aFlags
  mStreamId := o.aStreamId
  mSuperFrameNo := o.aSuperFrameNo
  mFragmentNo := lFragNo
  mOfFragmentNo := o.aOfFragmentNo

def type3 (o : Outgoing) : FrameType3 where
  mFrameType := makeFrameTypeByte .type3 o.aFlags
  mStreamId := o.aStreamId
  mSuperFrameNo := o.aSuperFrameNo
  mType1PacketSize := UInt16.ofNat o.aType1PayloadSize
  mOfFragmentNo := o.aOfFragmentNo

def type2 (o : Outgoing) (aType2DataSize : ℕ) : FrameType2 where
  mFrameType := makeFrameTypeByte .type2 o.aFlags
  mStreamId := o.aStreamId
  mPayloadType := o.aPayloadType
  mSizeOfData := UInt16.ofNat aType2DataSize
  mSuperFrameNo := o.aSuperFrameNo
  mOfFragmentNo := o.aOfFragmentNo
  mType1PacketSize := UInt16.ofNat o.aType1PayloadSize
  mPts := o.aPts
  mDtsPtsDiff := o.aDtsPtsDiff
  mPayloadCode := o.aPayloadCode

def type4 (o : Outgoing) (count : ℕ) : FrameType4 where
  mFrameType := makeFrameTypeByte .type4 o.aFlags
  mFrameCount := UInt8.ofNat count

/-- The size of a Type1 fragment with its header. -/
def lType1FrameSize (o : Outgoing) : ℕ := FrameType1.sizeof + o.aType1PayloadSize

end Outgoing

/-- The bytes `[off, off + len)` of the data. -/
def chunk (apData : List UInt8) (off len : ℕ) : List UInt8 := (apData.drop off).take len

/-! ### The cut -/

/-- How many fragments of which sizes there are. -/
structure Packetization where
  lTotalFragments : ℕ
  lNumType1Fragments : ℕ
  lNeedsType3 : Bool
  lType3DataSize : ℕ
  lType2DataSize : ℕ

/-- The arithmetic of `sendFragmented`. -/
def packetize (mMtu aType1PayloadSize aSize : ℕ) : Packetization :=
  let lType2MaxPayload := mMtu - FrameType2.sizeof
  let lRemainingAfterType1s := aSize % aType1PayloadSize
  let lNumType1Fragments := aSize / aType1PayloadSize
  if lRemainingAfterType1s = 0 then
    if aType1PayloadSize ≤ lType2MaxPayload then
      { lTotalFragments := lNumType1Fragments
        lNumType1Fragments := lNumType1Fragments - 1
        lNeedsType3 := false
        lType3DataSize := 0
        lType2DataSize := aType1PayloadSize }
    else
      { lTotalFragments := lNumType1Fragments + 1
        lNumType1Fragments := lNumType1Fragments - 1
        lNeedsType3 := true
        lType3DataSize := aType1PayloadSize - lType2MaxPayload
        lType2DataSize := lType2MaxPayload }
  else if lRemainingAfterType1s ≤ lType2MaxPayload then
    { lTotalFragments := lNumType1Fragments + 1
      lNumType1Fragments := lNumType1Fragments
      lNeedsType3 := false
      lType3DataSize := 0
      lType2DataSize := lRemainingAfterType1s }
  else
    -- the remainder is below the Type1 size, so the combined space holds it
    let lType3DataSize :=
      if lRemainingAfterType1s ≤ aType1PayloadSize + lType2MaxPayload then
        min (lRemainingAfterType1s - lType2MaxPayload) aType1PayloadSize
      else aType1PayloadSize
    { lTotalFragments := lNumType1Fragments + 2
      lNumType1Fragments := lNumType1Fragments
      lNeedsType3 := true
      lType3DataSize := lType3DataSize
      lType2DataSize :=
        if lRemainingAfterType1s ≤ aType1PayloadSize + lType2MaxPayload then
          lRemainingAfterType1s - lType3DataSize
        else lRemainingAfterType1s - aType1PayloadSize + lType2MaxPayload }

namespace Sender

/-! ### Packets of one fragment -/

/-- One fragment is put together in `mSendBuffer`, retained and sent. -/
def sendFragment (cfg : SenderConfig) (clk : SendClock) (s : Sender)
    (aSuperFrameNo aFragmentNo : UInt16) (aStreamId : UInt8) (lHeader payload : List UInt8)
    (lTotalSize : ℕ) : Sender × List Packet :=
  let mSendBuffer :=
    Buffer.overwrite (Buffer.overwrite s.mSendBuffer 0 lHeader) lHeader.length payload
  let data := mSendBuffer.take lTotalSize
  ({ s with
    mSendBuffer
    retention := s.retention.retainFragment cfg (clk.retainEvict aFragmentNo.toNat)
      (clk.stamp aFragmentNo.toNat) aSuperFrameNo aFragmentNo aStreamId data
    mStatistics := { s.mStatistics with mFragmentsSent := s.mStatistics.mFragmentsSent + 1 } },
    [{ data, streamId := aStreamId }])

def numbered (s : Sender) : Sender := { s with mSuperFrameNo := s.mSuperFrameNo + 1 }

def sendType2Only (cfg : SenderConfig) (clk : SendClock) (s : Sender) (apData : List UInt8)
    (args : SendArgs) : Sender × List Packet :=
  let lHeader : FrameType2 :=
    { mFrameType := makeFrameTypeByte .type2 args.aFlags
      mStreamId := args.aStreamId
      mPayloadType := args.aPayloadType
      mSizeOfData := UInt16.ofNat apData.length
      mSuperFrameNo := s.mSuperFrameNo
      mOfFragmentNo := 0
      mType1PacketSize := 0
      mPts := args.aPts
      mDtsPtsDiff := dtsPtsDiff args.aPts args.aDts
      mPayloadCode := args.aPayloadCode }
  sendFragment cfg clk s.numbered lHeader.mSuperFrameNo 0
    args.aStreamId lHeader.bytes apData (FrameType2.sizeof + apData.length)

/-- The Type3 and the Type2 a superframe ends with, which are sent on their
own in every mode. -/
def sendTail (cfg : SenderConfig) (clk : SendClock) (o : Outgoing) (apData : List UInt8)
    (p : Packetization) (lDataOffset : ℕ) (s : Sender) : Sender × List Packet :=
  let sent3 :=
    if p.lNeedsType3 then
      sendFragment cfg clk s o.aSuperFrameNo (o.aOfFragmentNo - 1) o.aStreamId o.type3.bytes
        (chunk apData lDataOffset p.lType3DataSize) (FrameType3.sizeof + p.lType3DataSize)
    else (s, [])
  let lDataOffset := if p.lNeedsType3 then lDataOffset + p.lType3DataSize else lDataOffset
  let sent2 :=
    sendFragment cfg clk sent3.1 o.aSuperFrameNo o.aOfFragmentNo o.aStreamId
      (o.type2 p.lType2DataSize).bytes (chunk apData lDataOffset p.lType2DataSize)
      (FrameType2.sizeof + p.lType2DataSize)
  (sent2.1, sent3.2 ++ sent2.2)

/-- The loop of `sendFragmentedSingle` over the Type1 fragments. -/
def type1Loop (cfg : SenderConfig) (clk : SendClock) (o : Outgoing) (apData : List UInt8) :
    (count lFragNo lDataOffset : ℕ) → Sender → Sender × List Packet
  | 0, _, _, s => (s, [])
  | count + 1, lFragNo, lDataOffset, s =>
      let sent :=
        sendFragment cfg clk s o.aSuperFrameNo (UInt16.ofNat lFragNo) o.aStreamId
          (o.type1 (UInt16.ofNat lFragNo)).bytes (chunk apData lDataOffset o.aType1PayloadSize)
          cfg.mMtu
      let rest :=
        type1Loop cfg clk o apData count (lFragNo + 1) (lDataOffset + o.aType1PayloadSize) sent.1
      (rest.1, sent.2 ++ rest.2)

def sendFragmentedSingle (cfg : SenderConfig) (clk : SendClock) (o : Outgoing)
    (apData : List UInt8) (p : Packetization) (s : Sender) : Sender × List Packet :=
  let sent1 := type1Loop cfg clk o apData p.lNumType1Fragments 0 0 s
  let tail :=
    sendTail cfg clk o apData p (p.lNumType1Fragments * o.aType1PayloadSize) sent1.1
  (tail.1, sent1.2 ++ tail.2)

/-! ### Bundles -/

/-- One fragment is put into `mBundleBuffer` at `lBundleOffset` and retained. -/
def bundleFragment (cfg : SenderConfig) (clk : SendClock) (o : Outgoing) (apData : List UInt8)
    (lFragNo lDataOffset lBundleOffset : ℕ) (s : Sender) : Sender :=
  let lHeader := (o.type1 (UInt16.ofNat lFragNo)).bytes
  let mBundleBuffer :=
    Buffer.overwrite (Buffer.overwrite s.mBundleBuffer lBundleOffset lHeader)
      (lBundleOffset + lHeader.length) (chunk apData lDataOffset o.aType1PayloadSize)
  let lpFragment := (mBundleBuffer.drop lBundleOffset).take o.lType1FrameSize
  { s with
    mBundleBuffer
    retention := s.retention.retainFragment cfg
      (clk.retainEvict (UInt16.ofNat lFragNo).toNat) (clk.stamp (UInt16.ofNat lFragNo).toNat)
      o.aSuperFrameNo (UInt16.ofNat lFragNo) o.aStreamId lpFragment
    mStatistics := { s.mStatistics with mFragmentsSent := s.mStatistics.mFragmentsSent + 1 } }

/-- The fragments `lFragNo, lFragNo + 1, ..`, `count` of them, go into the
bundle one behind the other. -/
def bundleFragments (cfg : SenderConfig) (clk : SendClock) (o : Outgoing) (apData : List UInt8) :
    (count lFragNo lDataOffset lBundleOffset : ℕ) → Sender → Sender
  | 0, _, _, _, s => s
  | count + 1, lFragNo, lDataOffset, lBundleOffset, s =>
      bundleFragments cfg clk o apData count (lFragNo + 1) (lDataOffset + o.aType1PayloadSize)
        (lBundleOffset + o.lType1FrameSize)
        (bundleFragment cfg clk o apData lFragNo lDataOffset lBundleOffset s)

/-- How many fragments the bundle that starts at `lFragIdx` has room for. -/
def bundleRoom (cfg : SenderConfig) (aNumType1Fragments lFragIdx : ℕ) : ℕ :=
  min cfg.mSubFragmentMode.bundleSize (aNumType1Fragments - lFragIdx)

/-- A retransmit is looked for when the bundle has room for more than one
fragment. -/
def takeRetransmit (s : Sender) (room : ℕ) : Sender × Option Packet :=
  if s.retention.mRetransmitQueue ≠ [] ∧ room > 1 then s.getRetransmitFragment else (s, none)

/-- What an iteration of the bundle loop leaves: the state, the packets it
sent, and how many of the superframe's fragments were in the bundle. -/
structure Bundled where
  sender : Sender
  packets : List Packet
  lFragsInBundle : ℕ

/-- A retransmit, if there is one, and the next `lFragsInBundle` fragments are
put together in `mBundleBuffer` and sent as one packet. -/
def sendBundle (cfg : SenderConfig) (clk : SendClock) (o : Outgoing) (apData : List UInt8)
    (lRetransmit : Option Packet) (lFragsInBundle lFragIdx lDataOffset : ℕ) (s : Sender) :
    Sender × Packet :=
  let lBundleHeader := (o.type4 (lFragsInBundle + if lRetransmit.isSome then 1 else 0)).bytes
  let lRetransmitData := (lRetransmit.map Packet.data).getD []
  let lBundleOffset := lBundleHeader.length + lRetransmitData.length
  let s :=
    bundleFragments cfg clk o apData lFragsInBundle lFragIdx lDataOffset lBundleOffset
      { s with
        mBundleBuffer :=
          Buffer.overwrite (Buffer.overwrite s.mBundleBuffer 0 lBundleHeader)
            lBundleHeader.length lRetransmitData }
  ({ s with
    mStatistics := { s.mStatistics with mBundlesSent := s.mStatistics.mBundlesSent + 1 } },
    { data := s.mBundleBuffer.take (lBundleOffset + lFragsInBundle * o.lType1FrameSize)
      streamId := o.aStreamId })

/-- One iteration of the bundle loop. A retransmit of the size of the Type1
fragments goes into the bundle, any other is sent on its own. -/
def bundleIteration (cfg : SenderConfig) (clk : SendClock) (o : Outgoing) (apData : List UInt8)
    (aNumType1Fragments lFragIdx lDataOffset : ℕ) (s : Sender) : Bundled :=
  let room := bundleRoom cfg aNumType1Fragments lFragIdx
  let taken := s.takeRetransmit room
  let bundled := taken.2.filter fun lRetransmit => lRetransmit.data.length = o.lType1FrameSize
  let alone := taken.2.filter fun lRetransmit => lRetransmit.data.length ≠ o.lType1FrameSize
  let lFragsInBundle := if bundled.isSome then room - 1 else room
  let sent :=
    sendBundle cfg clk o apData bundled lFragsInBundle lFragIdx lDataOffset taken.1
  { sender := sent.1
    packets := alone.toList ++ [sent.2]
    lFragsInBundle }

theorem SubFragmentMode.bundleSize_pos (m : SubFragmentMode) : 0 < m.bundleSize := by
  cases m <;> decide

theorem bundleIteration_pos (cfg : SenderConfig) (clk : SendClock) (o : Outgoing)
    (apData : List UInt8) {aNumType1Fragments lFragIdx : ℕ} (lDataOffset : ℕ) (s : Sender)
    (h : lFragIdx < aNumType1Fragments) :
    0 < (bundleIteration cfg clk o apData aNumType1Fragments lFragIdx lDataOffset
      s).lFragsInBundle := by
  have hmode := SubFragmentMode.bundleSize_pos cfg.mSubFragmentMode
  have hroom : 0 < bundleRoom cfg aNumType1Fragments lFragIdx := by
    rw [bundleRoom]
    omega
  by_cases hone : bundleRoom cfg aNumType1Fragments lFragIdx > 1
  · simp only [bundleIteration]
    split_ifs <;> omega
  · simp only [bundleIteration, takeRetransmit, hone, and_false, if_false, Option.filter_none,
      Option.isSome_none, Bool.false_eq_true]
    exact hroom

/-- The loop of `sendFragmentedBundled`. -/
def bundleLoop (cfg : SenderConfig) (clk : SendClock) (o : Outgoing) (apData : List UInt8)
    (aNumType1Fragments lFragIdx lDataOffset : ℕ) (s : Sender) : Sender × List Packet :=
  if _h : lFragIdx < aNumType1Fragments then
    let sent := bundleIteration cfg clk o apData aNumType1Fragments lFragIdx lDataOffset s
    let rest :=
      bundleLoop cfg clk o apData aNumType1Fragments (lFragIdx + sent.lFragsInBundle)
        (lDataOffset + sent.lFragsInBundle * o.aType1PayloadSize) sent.sender
    (rest.1, sent.packets ++ rest.2)
  else (s, [])
termination_by aNumType1Fragments - lFragIdx
decreasing_by
  have hpos := bundleIteration_pos cfg clk o apData lDataOffset s _h
  omega

def sendFragmentedBundled (cfg : SenderConfig) (clk : SendClock) (o : Outgoing)
    (apData : List UInt8) (p : Packetization) (s : Sender) : Sender × List Packet :=
  let sent := bundleLoop cfg clk o apData p.lNumType1Fragments 0 0 s
  let tail := sendTail cfg clk o apData p (p.lNumType1Fragments * o.aType1PayloadSize) sent.1
  (tail.1, sent.2 ++ tail.2)

/-! ### The interface -/

/-- The fragments of a superframe that is cut as `p` says. -/
def outgoing (s : Sender) (args : SendArgs) (aType1PayloadSize : ℕ) (p : Packetization) :
    Outgoing where
  aPayloadType := args.aPayloadType
  aPts := args.aPts
  aDtsPtsDiff := dtsPtsDiff args.aPts args.aDts
  aPayloadCode := args.aPayloadCode
  aStreamId := args.aStreamId
  aFlags := args.aFlags
  aType1PayloadSize := aType1PayloadSize
  aSuperFrameNo := s.mSuperFrameNo
  aOfFragmentNo := UInt16.ofNat (p.lTotalFragments - 1)

def sendFragmented (cfg : SenderConfig) (clk : SendClock) (s : Sender) (apData : List UInt8)
    (args : SendArgs) (aType1PayloadSize : ℕ) : (Sender × List Packet) × Result :=
  let p := packetize cfg.mMtu aType1PayloadSize apData.length
  if p.lTotalFragments = 0 ∨ p.lTotalFragments > maxFragmentsPerSuperframe then
    ((s, []), .tooLargeFrame)
  else
    let o := s.outgoing args aType1PayloadSize p
    if cfg.mSubFragmentMode = .single then
      (sendFragmentedSingle cfg clk o apData p s.numbered, .ok)
    else (sendFragmentedBundled cfg clk o apData p s.numbered, .ok)

/-- The size of a Type1 fragment with its header. -/
def type1FrameSize (cfg : SenderConfig) : ℕ :=
  if cfg.mSubFragmentMode = .single then cfg.mMtu
  else (cfg.mMtu - FrameType4.sizeof) / cfg.mSubFragmentMode.bundleSize

def type1PayloadSize (cfg : SenderConfig) : ℕ := type1FrameSize cfg - FrameType1.sizeof

/-- Every `send` starts with an eviction. -/
def evicted (cfg : SenderConfig) (clk : SendClock) (s : Sender) : Sender :=
  if cfg.mRetentionMs > 0 then
    { s with retention := s.retention.evictOldRetention cfg clk.evict 0 }
  else s

def send (cfg : SenderConfig) (clk : SendClock) (s : Sender) (aData : List UInt8)
    (args : SendArgs) : (Sender × List Packet) × Result :=
  if aData = [] then ((s, []), .invalidParameter)
  else if aData.length > maxSuperframeSize then ((s, []), .tooLargeFrame)
  else if type1FrameSize cfg ≤ FrameType1.sizeof then ((s.evicted cfg clk, []), .invalidParameter)
  else if aData.length ≤ cfg.mMtu - FrameType2.sizeof then
    (sendType2Only cfg clk (s.evicted cfg clk) aData args, .ok)
  else sendFragmented cfg clk (s.evicted cfg clk) aData args (type1PayloadSize cfg)

end Sender

inductive SenderCall
  | send (clk : SendClock) (aData : List UInt8) (args : SendArgs)
  | receiveNack (aData : List UInt8)
  | processRetransmits (aMaxCount : ℕ)

def Sender.machine (cfg : SenderConfig) : Machine Sender SenderCall Packet where
  step s
    | .send clk aData args => (s.send cfg clk aData args).1
    | .receiveNack aData => ((s.receiveNack aData).1, [])
    | .processRetransmits aMaxCount => s.processRetransmits aMaxCount

end ElasticFrame
