import ElasticFrame.Receiver.Delivery

/-!
The receive callback of the C interface. A complete frame with the
`INLINE_PAYLOAD` flag starts with a chain of sections, each a type byte, a
16-bit size and that many bytes; the wrapper hands every section to the
embedded callback and what is left to the main one.

The wrapper skips a section that overruns the frame but goes on behind it,
and takes the end of the last one for the start of the payload, wherever it
lies. `efp_extract_embedded_data`, which reads a single section, refuses one
that overruns the frame.
-/

namespace ElasticFrame

open Lib

/-- `efp::Flags::INLINE_PAYLOAD`. -/
def flagInlinePayload : UInt8 := 0x10

/-- `mpData[i]`. A byte that no copy has reached is whatever the heap held
there. -/
def SuperFrame.byte (f : SuperFrame) (heap : ℕ → UInt8) (i : ℕ) : UInt8 :=
  (f.mpData.bind fun b => b.cell i).getD (heap i)

namespace CApi

/-- Which callbacks an `efp_receiver_s` has. -/
structure EfpReceiver where
  mCallback : Bool
  mEmbeddedCallback : Bool

/-- One call of a callback. A pointer into the frame is its offset from
`mpData`. -/
inductive CallbackCall
  | embedded (data size : ℕ) (type : UInt8) (pts : UInt64)
  | receive (data size : ℕ) (payloadType : UInt8) (broken : Bool) (pts dts : UInt64)
      (payloadCode : UInt32) (streamId sourceId flags : UInt8)

/-- The 16-bit size of the section at `lOffset`. -/
def lEmbSize (data : ℕ → UInt8) (lOffset : ℕ) : UInt16 :=
  (data (lOffset + 1)).toUInt16 ||| ((data (lOffset + 2)).toUInt16 <<< 8)

def sectionEnd (data : ℕ → UInt8) (lOffset : ℕ) : ℕ := lOffset + 3 + (lEmbSize data lOffset).toNat

/-- The loop over the sections: the calls of the embedded callback, and
`lPayloadOffset`. -/
def embeddedLoop (data : ℕ → UInt8) (mSize : ℕ) (mPts : UInt64) (lOffset : ℕ) :
    List CallbackCall × ℕ :=
  if lOffset + 3 ≤ mSize then
    let lType := data lOffset
    if lType = 0 then ([], 0)
    else
      let call :=
        if sectionEnd data lOffset ≤ mSize then
          [.embedded (lOffset + 3) (lEmbSize data lOffset).toNat (lType &&& 0x7F) mPts]
        else []
      if lType &&& 0x80 ≠ 0 then (call, sectionEnd data lOffset)
      else
        let rest := embeddedLoop data mSize mPts (sectionEnd data lOffset)
        (call ++ rest.1, rest.2)
  else ([], 0)
termination_by mSize - lOffset
decreasing_by
  unfold sectionEnd
  omega

/-- `ReceiveCallbackWrapper::operator()`: the calls it makes, in order. -/
def receiveCallbackWrapper (mpReceiver : Option EfpReceiver) (heap : ℕ → UInt8)
    (apFrame : Option SuperFrame) : List CallbackCall :=
  match mpReceiver, apFrame with
  | some lpReceiver, some f =>
      if lpReceiver.mCallback = false then []
      else
        let parsed :=
          if lpReceiver.mEmbeddedCallback = true ∧ f.mFlags &&& flagInlinePayload ≠ 0 ∧
              f.mBroken = false then
            embeddedLoop (f.byte heap) f.mSize f.mPts 0
          else ([], 0)
        parsed.1 ++
          [.receive parsed.2 (sizeSub f.mSize parsed.2) f.mPayloadType f.mBroken f.mPts f.mDts
            f.mPayloadCode f.mStreamId f.mSourceId f.mFlags]
  | _, _ => []

/-- What `efp_extract_embedded_data` stores through its output pointers. -/
structure Extracted where
  embeddedOut : List UInt8 := []
  embeddedSizeOut : Option ℕ := none
  typeOut : Option UInt8 := none
  payloadOffsetOut : Option ℕ := none

/-- `efp_extract_embedded_data`, with no output pointer null. -/
def efpExtractEmbeddedData (apFrameData : Option (List UInt8)) : Result × Extracted :=
  match apFrameData with
  | none => (.invalidParameter, {})
  | some data =>
      if data.length < 3 then (.invalidParameter, {})
      else
        let lType := byteAt data 0
        if lType = 0 then
          (.ok, { embeddedSizeOut := some 0, payloadOffsetOut := some 0 })
        else if sectionEnd (byteAt data) 0 > data.length then (.bufferOutOfBounds, {})
        else
          (.ok,
            { embeddedOut := (data.drop 3).take (lEmbSize (byteAt data) 0).toNat
              embeddedSizeOut := some (lEmbSize (byteAt data) 0).toNat
              typeOut := some (lType &&& 0x7F)
              payloadOffsetOut := some (sectionEnd (byteAt data) 0) })

/-! ### The chain of sections -/

/-- A section starts at `o`: there is room for its header, and its type is
not the illegal one. -/
def IsSection (data : ℕ → UInt8) (mSize o : ℕ) : Prop := o + 3 ≤ mSize ∧ data o ≠ 0

def IsLast (data : ℕ → UInt8) (o : ℕ) : Prop := data o &&& 0x80 ≠ 0

/-- Behind the section at `o` the chain goes on at `o'`. -/
def Follows (data : ℕ → UInt8) (mSize o o' : ℕ) : Prop :=
  IsSection data mSize o ∧ ¬ IsLast data o ∧ o' = sectionEnd data o

/-- The chain that starts at `o` ends in a last section that overruns the
frame. -/
def Overruns (data : ℕ → UInt8) (mSize o : ℕ) : Prop :=
  ∃ o', Relation.ReflTransGen (Follows data mSize) o o' ∧ IsSection data mSize o' ∧
    IsLast data o' ∧ mSize < sectionEnd data o'

variable {data : ℕ → UInt8} {mSize o : ℕ}

theorem overruns_of_not_section (h : ¬ IsSection data mSize o) : ¬ Overruns data mSize o := by
  rintro ⟨o', hchain, hsection, -⟩
  rcases hchain.cases_head with rfl | ⟨o₁, hfollows, -⟩
  · exact h hsection
  · exact h hfollows.1

theorem overruns_of_last (h : IsSection data mSize o) (hlast : IsLast data o) :
    Overruns data mSize o ↔ mSize < sectionEnd data o := by
  constructor
  · rintro ⟨o', hchain, -, -, hend⟩
    rcases hchain.cases_head with rfl | ⟨o₁, hfollows, -⟩
    · exact hend
    · exact absurd hlast hfollows.2.1
  · exact fun hend => ⟨o, .refl, h, hlast, hend⟩

theorem overruns_of_follows (h : IsSection data mSize o) (hlast : ¬ IsLast data o) :
    Overruns data mSize o ↔ Overruns data mSize (sectionEnd data o) := by
  constructor
  · rintro ⟨o', hchain, hsection, hlast', hend⟩
    rcases hchain.cases_head with rfl | ⟨o₁, hfollows, hrest⟩
    · exact absurd hlast' hlast
    · exact ⟨o', hfollows.2.2 ▸ hrest, hsection, hlast', hend⟩
  · rintro ⟨o', hchain, hsection, hlast', hend⟩
    exact ⟨o', hchain.head ⟨h, hlast, rfl⟩, hsection, hlast', hend⟩

/-- The loop starts the payload inside the frame just when no last section
overruns it. -/
theorem embeddedLoop_payload (data : ℕ → UInt8) (mSize : ℕ) (mPts : UInt64) (o : ℕ) :
    (embeddedLoop data mSize mPts o).2 ≤ mSize ↔ ¬ Overruns data mSize o := by
  induction o using embeddedLoop.induct data mSize mPts with
  | case1 o hroom lType htype =>
      have hnone : ¬ IsSection data mSize o := fun h => h.2 htype
      rw [embeddedLoop, if_pos hroom, if_pos htype]
      exact iff_of_true (Nat.zero_le _) (overruns_of_not_section hnone)
  | case2 o hroom lType htype hlast =>
      rw [embeddedLoop, if_pos hroom, if_neg htype, if_pos hlast,
        overruns_of_last ⟨hroom, htype⟩ hlast, not_lt]
  | case3 o hroom lType htype hlast ih =>
      rw [embeddedLoop, if_pos hroom, if_neg htype, if_neg hlast,
        overruns_of_follows ⟨hroom, htype⟩ hlast]
      exact ih
  | case4 o hroom =>
      rw [embeddedLoop, if_neg hroom]
      exact iff_of_true (Nat.zero_le _) (overruns_of_not_section fun h => hroom h.1)

/-- The region a call passes lies inside the frame, and its size has not
wrapped around. -/
def CallbackCall.InFrame (mSize : ℕ) : CallbackCall → Prop
  | .embedded data size .. => data + size ≤ mSize
  | .receive data size .. => data ≤ mSize ∧ size = mSize - data

/-- Every call of the embedded callback passes a region inside the frame. -/
theorem embeddedLoop_inFrame (data : ℕ → UInt8) (mSize : ℕ) (mPts : UInt64) (o : ℕ) :
    ∀ c ∈ (embeddedLoop data mSize mPts o).1, c.InFrame mSize := by
  have hcall : ∀ o, ∀ c ∈ (if sectionEnd data o ≤ mSize then
      [CallbackCall.embedded (o + 3) (lEmbSize data o).toNat (data o &&& 0x7F) mPts] else []),
      c.InFrame mSize := by
    intro o c hc
    split_ifs at hc with hend
    · rw [List.mem_singleton.mp hc]
      exact hend
    · cases hc
  induction o using embeddedLoop.induct data mSize mPts with
  | case1 o hroom lType htype =>
      rw [embeddedLoop, if_pos hroom, if_pos htype]
      simp
  | case2 o hroom lType htype hlast =>
      rw [embeddedLoop, if_pos hroom, if_neg htype, if_pos hlast]
      exact hcall o
  | case3 o hroom lType htype hlast ih =>
      rw [embeddedLoop, if_pos hroom, if_neg htype, if_neg hlast]
      intro c hc
      rcases List.mem_append.mp hc with hc | hc
      · exact hcall o c hc
      · exact ih c hc
  | case4 o hroom =>
      rw [embeddedLoop, if_neg hroom]
      simp

/-- The wrapper looks for sections in the frame. -/
def Parses (mpReceiver : Option EfpReceiver) (f : SuperFrame) : Prop :=
  (∃ lpReceiver, mpReceiver = some lpReceiver ∧ lpReceiver.mCallback = true ∧
      lpReceiver.mEmbeddedCallback = true) ∧
    f.mFlags &&& flagInlinePayload ≠ 0 ∧ f.mBroken = false

/-- Every call of the wrapper stays inside the frame just when the wrapper
does not come to a last section that overruns it. -/
theorem receiveCallbackWrapper_inFrame_iff (mpReceiver : Option EfpReceiver)
    (heap : ℕ → UInt8) (f : SuperFrame) :
    (∀ c ∈ receiveCallbackWrapper mpReceiver heap (some f), c.InFrame f.mSize) ↔
      ¬ (Parses mpReceiver f ∧ Overruns (f.byte heap) f.mSize 0) := by
  cases mpReceiver with
  | none =>
      refine iff_of_true (by simp [receiveCallbackWrapper]) ?_
      rintro ⟨⟨⟨_, h, -⟩, -⟩, -⟩
      cases h
  | some lpReceiver =>
      obtain ⟨mCallback, mEmbeddedCallback⟩ := lpReceiver
      cases mCallback with
      | false =>
          refine iff_of_true (by simp [receiveCallbackWrapper]) ?_
          rintro ⟨⟨⟨_, ⟨⟩, h, -⟩, -⟩, -⟩
          cases h
      | true =>
          have hmain : ∀ calls p, (∀ c ∈ calls, CallbackCall.InFrame f.mSize c) →
              ((∀ c ∈ calls ++ [CallbackCall.receive p (sizeSub f.mSize p) f.mPayloadType
                  f.mBroken f.mPts f.mDts f.mPayloadCode f.mStreamId f.mSourceId f.mFlags],
                c.InFrame f.mSize) ↔ p ≤ f.mSize) := by
            intro calls p hcalls
            simp only [List.mem_append, List.mem_singleton]
            constructor
            · exact fun h => (h _ (.inr rfl)).1
            · rintro hp c (hc | rfl)
              · exact hcalls c hc
              · exact ⟨hp, sizeSub_of_le hp⟩
          simp only [receiveCallbackWrapper, Bool.true_eq_false, if_false]
          by_cases hparse : mEmbeddedCallback = true ∧ f.mFlags &&& flagInlinePayload ≠ 0 ∧
              f.mBroken = false
          · have hparses : Parses (some ⟨true, mEmbeddedCallback⟩) f :=
              ⟨⟨_, rfl, rfl, hparse.1⟩, hparse.2⟩
            rw [if_pos hparse, hmain _ _ (embeddedLoop_inFrame _ _ _ _), embeddedLoop_payload]
            simp only [hparses, true_and]
          · rw [if_neg hparse, hmain [] 0 (by simp)]
            refine iff_of_true (Nat.zero_le _) ?_
            rintro ⟨⟨⟨_, ⟨⟩, -, hembedded⟩, hflag⟩, -⟩
            exact hparse ⟨hembedded, hflag⟩

/-- The reader of a single section makes the check the wrapper misses: what
it accepts lies inside the frame. -/
theorem efpExtractEmbeddedData_inFrame {data : List UInt8} {out : Extracted}
    (h : efpExtractEmbeddedData (some data) = (.ok, out)) :
    ∃ n p, out.embeddedSizeOut = some n ∧ out.payloadOffsetOut = some p ∧ n ≤ p ∧
      p ≤ data.length ∧ out.embeddedOut.length = n := by
  simp only [efpExtractEmbeddedData] at h
  split_ifs at h with hshort htype hend
  · cases h
  · cases h
    exact ⟨0, 0, rfl, rfl, le_refl _, Nat.zero_le _, rfl⟩
  · cases h
  · cases h
    have hsize : sectionEnd (byteAt data) 0 = 3 + (lEmbSize (byteAt data) 0).toNat := by
      rw [sectionEnd, Nat.zero_add]
    refine ⟨_, _, rfl, rfl, by omega, by omega, ?_⟩
    rw [List.length_take, List.length_drop]
    omega

/-- A Type2 with the `INLINE_PAYLOAD` flag whose payload is the header of a
last section of 65535 bytes. -/
def overrunPacket : List UInt8 :=
  let lHeader : FrameType2 :=
    { mFrameType := makeFrameTypeByte .type2 flagInlinePayload
      mStreamId := 0
      mPayloadType := 0
      mSizeOfData := 3
      mSuperFrameNo := 0
      mOfFragmentNo := 0
      mType1PacketSize := 3
      mPts := 0
      mDtsPtsDiff := 0
      mPayloadCode := 0 }
  lHeader.bytes ++ [0x81, 0xFF, 0xFF]

def overrunDeliveries : List (Delivery .default) :=
  Receiver.deliveries ((Receiver.system .default {}).run (Receiver.fresh .default)
    [.receive Sample.env Sample.clk overrunPacket 0, .worker Sample.clk]).2

/-- The frame of that packet is delivered, and the main callback is then
handed a region behind it. -/
theorem receiveCallbackWrapper_outside :
    ∃ d ∈ overrunDeliveries, ¬ ∀ heap, ∀ c ∈ receiveCallbackWrapper (some ⟨true, true⟩) heap
      (some d.frame), c.InFrame d.frame.mSize := by
  have hfacts : overrunDeliveries.map (fun d => (d.frame.mSize, d.frame.mFlags, d.frame.mBroken,
      (List.range 3).map (d.frame.byte fun _ => 0))) =
        [(3, 0x10, false, [0x81, 0xFF, 0xFF])] := by decide +kernel
  obtain ⟨d, hmem, hd⟩ := List.mem_map.mp (hfacts ▸ List.mem_singleton_self _)
  simp only [Prod.mk.injEq, List.range_succ, List.range_zero, List.nil_append, List.cons_append,
    List.map_cons, List.map_nil, List.cons.injEq] at hd
  obtain ⟨hsize, hflags, hbroken, htype, hlow, hhigh, -⟩ := hd
  refine ⟨d, hmem, fun hall => ?_⟩
  have hend : sectionEnd (d.frame.byte fun _ => 0) 0 = 65538 := by
    rw [sectionEnd, lEmbSize, hlow, hhigh]
    decide
  have hloop : (embeddedLoop (d.frame.byte fun _ => 0) d.frame.mSize d.frame.mPts 0).2 = 65538 := by
    rw [embeddedLoop, if_pos (by rw [hsize]), if_neg (by rw [htype]; decide),
      if_pos (by rw [htype]; decide), hend]
  have hmain := hall (fun _ => 0) (.receive 65538 (sizeSub d.frame.mSize 65538)
    d.frame.mPayloadType d.frame.mBroken d.frame.mPts d.frame.mDts d.frame.mPayloadCode
    d.frame.mStreamId d.frame.mSourceId d.frame.mFlags) (by
      simp only [receiveCallbackWrapper, Bool.true_eq_false, if_false]
      rw [if_pos ⟨trivial, by rw [hflags]; decide, hbroken⟩, hloop]
      simp)
  have habs : 65538 ≤ d.frame.mSize := hmain.1
  omega

end CApi

end ElasticFrame
