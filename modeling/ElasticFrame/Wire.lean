import Mathlib
import ElasticFrame.Lib.LittleEndian

/-!
The packet formats of `efp_internal.h` and the result codes of `efp.h`.

The source reads and writes packets by copying packed structures, so the
fields lie back to back in host byte order, which the tested targets make
little-endian. `bytes` is the copy of a header into a packet and `read` the
cast of a packet to a header pointer; a `read` past the end yields zeros
where the source would be undefined, and every handler checks the length
before it reads.
-/

namespace ElasticFrame

open Lib

/-- Outcome codes of `send`, `receive` and the packet handlers. -/
inductive Result
  | memoryAllocationError
  | bufferOutOfBounds
  | bufferOutOfResources
  | frameSizeMismatch
  | tooLargeFrame
  | tooLargeEmbeddedData
  | invalidParameter
  | receiverNotRunning
  | internalError
  | notImplemented
  | ok
  | duplicateFragment
  | fragmentTooOld
  | frameTimeout
  deriving DecidableEq, Repr

/-- The value of the code: errors are negative, informational codes
positive. -/
def Result.code : Result → ℤ
  | memoryAllocationError => -10
  | bufferOutOfBounds => -9
  | bufferOutOfResources => -8
  | frameSizeMismatch => -7
  | tooLargeFrame => -6
  | tooLargeEmbeddedData => -5
  | invalidParameter => -4
  | receiverNotRunning => -3
  | internalError => -2
  | notImplemented => -1
  | ok => 0
  | duplicateFragment => 1
  | fragmentTooOld => 2
  | frameTimeout => 3

/-- A superframe has at most 100 MiB in at most 8192 fragments. -/
def maxSuperframeSize : ℕ := 100 * 1024 * 1024

def maxFragmentsPerSuperframe : ℕ := 8192

/-- Frame type identifiers, the four low bits of the first byte. -/
inductive FrameType
  | type0 | type1 | type2 | type3 | type4
  deriving DecidableEq, Repr

def FrameType.toByte : FrameType → UInt8
  | type0 => 0
  | type1 => 1
  | type2 => 2
  | type3 => 3
  | type4 => 4

/-- `getFrameType`: the four low bits; `none` for the values no enumerator
names. -/
def getFrameType (aFirstByte : UInt8) : Option FrameType :=
  match (aFirstByte &&& 0x0F).toNat with
  | 0 => some .type0
  | 1 => some .type1
  | 2 => some .type2
  | 3 => some .type3
  | 4 => some .type4
  | _ => none

/-- `getFlags`: the four high bits. -/
def getFlags (aFirstByte : UInt8) : UInt8 := aFirstByte &&& 0xF0

def makeFrameTypeByte (aType : FrameType) (aFlags : UInt8) : UInt8 :=
  aType.toByte ||| (aFlags &&& 0xF0)

theorem makeFrameTypeByte_and (t : FrameType) (f m : UInt8) :
    makeFrameTypeByte t f &&& m = (t.toByte &&& m) ||| (f &&& (0xF0 &&& m)) := by
  apply UInt8.toBitVec_inj.mp
  simp only [makeFrameTypeByte, UInt8.toBitVec_and, UInt8.toBitVec_or,
    BitVec.and_or_distrib_right, BitVec.and_assoc]

@[simp] theorem getFrameType_makeFrameTypeByte (t : FrameType) (f : UInt8) :
    getFrameType (makeFrameTypeByte t f) = some t := by
  have hmask : (0xF0 : UInt8) &&& 0x0F = 0 := rfl
  rw [getFrameType, makeFrameTypeByte_and, hmask, UInt8.and_zero, UInt8.or_zero]
  cases t <;> rfl

@[simp] theorem getFlags_makeFrameTypeByte (t : FrameType) (f : UInt8) :
    getFlags (makeFrameTypeByte t f) = f &&& 0xF0 := by
  have hmask : (0xF0 : UInt8) &&& 0xF0 = 0xF0 := rfl
  have htype : t.toByte &&& 0xF0 = 0 := by cases t <;> rfl
  rw [getFlags, makeFrameTypeByte_and, hmask, htype, UInt8.zero_or]

/-! ### Unsigned fields -/

/-- The bytes `[off, off + w)` of a packet as a number. -/
def fieldAt (data : List UInt8) (off w : ℕ) : ℕ :=
  LittleEndian.decode ((data.drop off).take w)

def byteAt (data : List UInt8) (off : ℕ) : UInt8 := data.getD off 0

def u16At (data : List UInt8) (off : ℕ) : UInt16 := UInt16.ofNat (fieldAt data off 2)
def u32At (data : List UInt8) (off : ℕ) : UInt32 := UInt32.ofNat (fieldAt data off 4)
def u64At (data : List UInt8) (off : ℕ) : UInt64 := UInt64.ofNat (fieldAt data off 8)

def u16Bytes (x : UInt16) : List UInt8 := LittleEndian.encode 2 x.toNat
def u32Bytes (x : UInt32) : List UInt8 := LittleEndian.encode 4 x.toNat
def u64Bytes (x : UInt64) : List UInt8 := LittleEndian.encode 8 x.toNat

@[simp] theorem length_u16Bytes (x : UInt16) : (u16Bytes x).length = 2 := by simp [u16Bytes]
@[simp] theorem length_u32Bytes (x : UInt32) : (u32Bytes x).length = 4 := by simp [u32Bytes]
@[simp] theorem length_u64Bytes (x : UInt64) : (u64Bytes x).length = 8 := by simp [u64Bytes]

theorem fieldAt_append (pre field post : List UInt8) :
    fieldAt (pre ++ (field ++ post)) pre.length field.length = LittleEndian.decode field := by
  simp [fieldAt]

theorem byteAt_append (pre post : List UInt8) (b : UInt8) :
    byteAt (pre ++ b :: post) pre.length = b := by
  simp [byteAt, List.getD_eq_getElem?_getD]

theorem u16At_append (pre post : List UInt8) (off : ℕ) (x : UInt16) (h : pre.length = off) :
    u16At (pre ++ (u16Bytes x ++ post)) off = x := by
  have hfield := fieldAt_append pre (u16Bytes x) post
  rw [length_u16Bytes, h] at hfield
  rw [u16At, hfield, u16Bytes, LittleEndian.decode_encode_of_lt x.toNat_lt, UInt16.ofNat_toNat]

theorem u32At_append (pre post : List UInt8) (off : ℕ) (x : UInt32) (h : pre.length = off) :
    u32At (pre ++ (u32Bytes x ++ post)) off = x := by
  have hfield := fieldAt_append pre (u32Bytes x) post
  rw [length_u32Bytes, h] at hfield
  rw [u32At, hfield, u32Bytes, LittleEndian.decode_encode_of_lt x.toNat_lt, UInt32.ofNat_toNat]

theorem u64At_append (pre post : List UInt8) (off : ℕ) (x : UInt64) (h : pre.length = off) :
    u64At (pre ++ (u64Bytes x ++ post)) off = x := by
  have hfield := fieldAt_append pre (u64Bytes x) post
  rw [length_u64Bytes, h] at hfield
  rw [u64At, hfield, u64Bytes, LittleEndian.decode_encode_of_lt x.toNat_lt, UInt64.ofNat_toNat]

/-- Subtraction of two `size_t`. -/
def sizeSub (a b : ℕ) : ℕ := if b ≤ a then a - b else a + 2 ^ 64 - b

theorem sizeSub_of_le {a b : ℕ} (h : b ≤ a) : sizeSub a b = a - b := if_pos h

def FitsInt64 (x : ℤ) : Prop := -2 ^ 63 ≤ x ∧ x < 2 ^ 63

instance (x : ℤ) : Decidable (FitsInt64 x) := inferInstanceAs (Decidable (_ ∧ _))

/-! ### Headers -/

/-- Type1: fragment frame, 8 bytes of header. -/
structure FrameType1 where
  mFrameType : UInt8
  mStreamId : UInt8
  mSuperFrameNo : UInt16
  mFragmentNo : UInt16
  mOfFragmentNo : UInt16
  deriving DecidableEq, Repr

def FrameType1.sizeof : ℕ := 8

def FrameType1.bytes (h : FrameType1) : List UInt8 :=
  h.mFrameType :: h.mStreamId ::
    (u16Bytes h.mSuperFrameNo ++ (u16Bytes h.mFragmentNo ++ u16Bytes h.mOfFragmentNo))

def FrameType1.read (data : List UInt8) : FrameType1 where
  mFrameType := byteAt data 0
  mStreamId := byteAt data 1
  mSuperFrameNo := u16At data 2
  mFragmentNo := u16At data 4
  mOfFragmentNo := u16At data 6

/-- Type2: final or single fragment with the metadata, 27 bytes of header. -/
structure FrameType2 where
  mFrameType : UInt8
  mStreamId : UInt8
  mPayloadType : UInt8
  mSizeOfData : UInt16
  mSuperFrameNo : UInt16
  mOfFragmentNo : UInt16
  mType1PacketSize : UInt16
  mPts : UInt64
  mDtsPtsDiff : UInt32
  mPayloadCode : UInt32
  deriving DecidableEq, Repr

def FrameType2.sizeof : ℕ := 27

def FrameType2.bytes (h : FrameType2) : List UInt8 :=
  h.mFrameType :: h.mStreamId :: h.mPayloadType ::
    (u16Bytes h.mSizeOfData ++ (u16Bytes h.mSuperFrameNo ++ (u16Bytes h.mOfFragmentNo ++
      (u16Bytes h.mType1PacketSize ++ (u64Bytes h.mPts ++ (u32Bytes h.mDtsPtsDiff ++
        u32Bytes h.mPayloadCode))))))

def FrameType2.read (data : List UInt8) : FrameType2 where
  mFrameType := byteAt data 0
  mStreamId := byteAt data 1
  mPayloadType := byteAt data 2
  mSizeOfData := u16At data 3
  mSuperFrameNo := u16At data 5
  mOfFragmentNo := u16At data 7
  mType1PacketSize := u16At data 9
  mPts := u64At data 11
  mDtsPtsDiff := u32At data 19
  mPayloadCode := u32At data 23

/-- Type3: penultimate overflow frame, 8 bytes of header. -/
structure FrameType3 where
  mFrameType : UInt8
  mStreamId : UInt8
  mSuperFrameNo : UInt16
  mType1PacketSize : UInt16
  mOfFragmentNo : UInt16
  deriving DecidableEq, Repr

def FrameType3.sizeof : ℕ := 8

def FrameType3.bytes (h : FrameType3) : List UInt8 :=
  h.mFrameType :: h.mStreamId ::
    (u16Bytes h.mSuperFrameNo ++ (u16Bytes h.mType1PacketSize ++ u16Bytes h.mOfFragmentNo))

def FrameType3.read (data : List UInt8) : FrameType3 where
  mFrameType := byteAt data 0
  mStreamId := byteAt data 1
  mSuperFrameNo := u16At data 2
  mType1PacketSize := u16At data 4
  mOfFragmentNo := u16At data 6

/-- Type4: bundle of equal-sized Type1 frames, 2 bytes of header. -/
structure FrameType4 where
  mFrameType : UInt8
  mFrameCount : UInt8
  deriving DecidableEq, Repr

def FrameType4.sizeof : ℕ := 2

def FrameType4.bytes (h : FrameType4) : List UInt8 := [h.mFrameType, h.mFrameCount]

def FrameType4.read (data : List UInt8) : FrameType4 where
  mFrameType := byteAt data 0
  mFrameCount := byteAt data 1

/-- One request of a NACK: a fragment and how many more follow it. -/
structure NackEntry where
  mStreamId : UInt8
  mSuperFrameNo : UInt16
  mFragmentNo : UInt16
  mFragmentCount : UInt8
  deriving DecidableEq, Repr

def NackEntry.sizeof : ℕ := 6

def NackEntry.bytes (e : NackEntry) : List UInt8 :=
  e.mStreamId :: (u16Bytes e.mSuperFrameNo ++ (u16Bytes e.mFragmentNo ++ [e.mFragmentCount]))

def NackEntry.read (data : List UInt8) : NackEntry where
  mStreamId := byteAt data 0
  mSuperFrameNo := u16At data 1
  mFragmentNo := u16At data 3
  mFragmentCount := byteAt data 5

/-- Type0 NACK: header of the retransmit requests that follow it. -/
structure FrameType0Nack where
  mFrameType : UInt8
  mSubtype : UInt8
  mNackCount : UInt8
  deriving DecidableEq, Repr

def FrameType0Nack.sizeof : ℕ := 3

/-- `Type0Subtype::NACK`. -/
def type0SubtypeNack : UInt8 := 1

def FrameType0Nack.bytes (h : FrameType0Nack) : List UInt8 :=
  [h.mFrameType, h.mSubtype, h.mNackCount]

def FrameType0Nack.read (data : List UInt8) : FrameType0Nack where
  mFrameType := byteAt data 0
  mSubtype := byteAt data 1
  mNackCount := byteAt data 2

/-- Type0 RTT response: the echo of a probe. -/
structure FrameType0RttResponse where
  mFrameType : UInt8
  mSubtype : UInt8
  mSequenceNo : UInt16
  mTimestampUs : UInt64
  mReceiverTimeUs : UInt64
  deriving DecidableEq, Repr

def FrameType0RttResponse.sizeof : ℕ := 20

/-- `Type0Subtype::RTT_RESPONSE`. -/
def type0SubtypeRttResponse : UInt8 := 3

def FrameType0RttResponse.read (data : List UInt8) : FrameType0RttResponse where
  mFrameType := byteAt data 0
  mSubtype := byteAt data 1
  mSequenceNo := u16At data 2
  mTimestampUs := u64At data 4
  mReceiverTimeUs := u64At data 12

@[simp] theorem FrameType1.length_bytes (h : FrameType1) : h.bytes.length = 8 := by
  simp [FrameType1.bytes]

@[simp] theorem FrameType2.length_bytes (h : FrameType2) : h.bytes.length = 27 := by
  simp [FrameType2.bytes]

@[simp] theorem FrameType3.length_bytes (h : FrameType3) : h.bytes.length = 8 := by
  simp [FrameType3.bytes]

@[simp] theorem FrameType4.length_bytes (h : FrameType4) : h.bytes.length = 2 := rfl

/-- A header that has been copied to the front of a packet is read back
unchanged, whatever the payload. -/
theorem FrameType1.read_bytes_append (h : FrameType1) (payload : List UInt8) :
    FrameType1.read (h.bytes ++ payload) = h := by
  obtain ⟨t, s, n, k, o⟩ := h
  have hn := u16At_append [t, s]
    (u16Bytes k ++ (u16Bytes o ++ payload)) 2 n rfl
  have hk := u16At_append (t :: s :: u16Bytes n)
    (u16Bytes o ++ payload) 4 k (by simp)
  have ho := u16At_append (t :: s :: (u16Bytes n ++ u16Bytes k))
    payload 6 o (by simp)
  simp only [List.cons_append, List.nil_append, List.append_assoc] at hn hk ho
  simp [FrameType1.read, FrameType1.bytes, byteAt, hn, hk, ho]

theorem FrameType3.read_bytes_append (h : FrameType3) (payload : List UInt8) :
    FrameType3.read (h.bytes ++ payload) = h := by
  obtain ⟨t, s, n, k, o⟩ := h
  have hn := u16At_append [t, s]
    (u16Bytes k ++ (u16Bytes o ++ payload)) 2 n rfl
  have hk := u16At_append (t :: s :: u16Bytes n)
    (u16Bytes o ++ payload) 4 k (by simp)
  have ho := u16At_append (t :: s :: (u16Bytes n ++ u16Bytes k))
    payload 6 o (by simp)
  simp only [List.cons_append, List.nil_append, List.append_assoc] at hn hk ho
  simp [FrameType3.read, FrameType3.bytes, byteAt, hn, hk, ho]

theorem FrameType2.read_bytes_append (h : FrameType2) (payload : List UInt8) :
    FrameType2.read (h.bytes ++ payload) = h := by
  obtain ⟨t, s, p, z, n, o, k, pts, d, c⟩ := h
  have hz := u16At_append [t, s, p]
    (u16Bytes n ++ (u16Bytes o ++ (u16Bytes k ++ (u64Bytes pts ++ (u32Bytes d ++
      (u32Bytes c ++ payload)))))) 3 z rfl
  have hn := u16At_append (t :: s :: p :: u16Bytes z)
    (u16Bytes o ++ (u16Bytes k ++ (u64Bytes pts ++ (u32Bytes d ++ (u32Bytes c ++ payload)))))
    5 n (by simp)
  have ho := u16At_append (t :: s :: p :: (u16Bytes z ++ u16Bytes n))
    (u16Bytes k ++ (u64Bytes pts ++ (u32Bytes d ++ (u32Bytes c ++ payload)))) 7 o (by simp)
  have hk := u16At_append (t :: s :: p :: (u16Bytes z ++ (u16Bytes n ++ u16Bytes o)))
    (u64Bytes pts ++ (u32Bytes d ++ (u32Bytes c ++ payload))) 9 k (by simp)
  have hpts := u64At_append
    (t :: s :: p :: (u16Bytes z ++ (u16Bytes n ++ (u16Bytes o ++ u16Bytes k))))
    (u32Bytes d ++ (u32Bytes c ++ payload)) 11 pts (by simp)
  have hd := u32At_append
    (t :: s :: p :: (u16Bytes z ++ (u16Bytes n ++ (u16Bytes o ++ (u16Bytes k ++ u64Bytes pts)))))
    (u32Bytes c ++ payload) 19 d (by simp)
  have hc := u32At_append
    (t :: s :: p :: (u16Bytes z ++ (u16Bytes n ++ (u16Bytes o ++ (u16Bytes k ++
      (u64Bytes pts ++ u32Bytes d)))))) payload 23 c (by simp)
  simp only [List.cons_append, List.nil_append, List.append_assoc] at hz hn ho hk hpts hd hc
  simp [FrameType2.read, FrameType2.bytes, byteAt, hz, hn, ho, hk, hpts, hd, hc]

end ElasticFrame
