import ElasticFrame.CApi.Embedded
import ElasticFrame.Lib.Buffer

/-!
Sections that are put in front of a payload. `efp_add_embedded_data` writes a
header with the low 16 bits of the size and copies all of the data, so what it
writes is read back when the size has no more bits than these. A chain of
sections, which is built from its last section to its first, comes out of the
receive callback section by section.
-/

namespace ElasticFrame

open Lib Buffer

namespace CApi

def efpEmbeddedLast : UInt8 := 0x80

/-- `efp_embedded_calc_size`, in the arithmetic of `size_t`. -/
def efpEmbeddedCalcSize (aEmbeddedSize aPayloadSize : ℕ) : ℕ :=
  (3 + aEmbeddedSize + aPayloadSize) % 2 ^ 64

/-- `memcpy(apDst + off, apSrc, size)`, for a source that is not null and a
size that is not zero. -/
def copied (apSrc : Option (List UInt8)) (size : ℕ) (dst : List UInt8) (off : ℕ) : List UInt8 :=
  match apSrc with
  | some src => if size > 0 then overwrite dst off (src.take size) else dst
  | none => dst

/-- `efp_add_embedded_data`: the value returned, and what the destination holds
then. A copy past its end makes the destination longer. -/
def efpAddEmbeddedData (apDst apEmbeddedData apPayloadData : Option (List UInt8))
    (aEmbeddedSize aPayloadSize : ℕ) (aType aIsLast : UInt8) : ℕ × List UInt8 :=
  let lTotalSize := efpEmbeddedCalcSize aEmbeddedSize aPayloadSize
  match apDst with
  | none => (lTotalSize, [])
  | some dst =>
      let lTypeByte := if aIsLast ≠ 0 then aType ||| efpEmbeddedLast else aType
      let dst :=
        overwrite dst 0
          [lTypeByte, UInt8.ofNat (aEmbeddedSize &&& 0xFF),
            UInt8.ofNat (aEmbeddedSize >>> 8 &&& 0xFF)]
      let dst := copied apEmbeddedData aEmbeddedSize dst 3
      let dst := copied apPayloadData aPayloadSize dst (3 + aEmbeddedSize)
      (0, dst)

/-! ### What is written -/

/-- The bytes at the start of what a pointer points to; none need be there if
it is null. -/
def PointsTo (p : Option (List UInt8)) (bytes : List UInt8) : Prop := bytes <+: p.getD []

def typeByte (aType : UInt8) (isLast : Bool) : UInt8 :=
  if isLast then aType ||| efpEmbeddedLast else aType

def sectionBytes (aType : UInt8) (isLast : Bool) (data : List UInt8) : List UInt8 :=
  [typeByte aType isLast, UInt8.ofNat (data.length &&& 0xFF),
    UInt8.ofNat (data.length >>> 8 &&& 0xFF)] ++ data

theorem length_sectionBytes (aType : UInt8) (isLast : Bool) (data : List UInt8) :
    (sectionBytes aType isLast data).length = 3 + data.length := by
  rw [sectionBytes, List.length_append]
  rfl

theorem copied_eq {p : Option (List UInt8)} {bytes : List UInt8} (h : PointsTo p bytes)
    (dst : List UInt8) (off : ℕ) : copied p bytes.length dst off = overwrite dst off bytes := by
  have hnone : overwrite dst off [] = dst := by
    rw [overwrite, List.append_nil, List.length_nil, Nat.add_zero, List.take_append_drop]
  cases p with
  | none =>
      rw [List.prefix_nil.mp h, hnone]
      rfl
  | some src =>
      have htake : src.take bytes.length = bytes := (List.prefix_iff_eq_take.mp h).symm
      rw [copied]
      split_ifs with hsize
      · rw [htake]
      · rw [List.length_eq_zero_iff.mp (by omega : bytes.length = 0), hnone]

variable {apEmbeddedData apPayloadData : Option (List UInt8)} {embedded payload : List UInt8}

/-- The section and the payload are at the start of the destination, whatever
its size was. -/
theorem prefix_efpAddEmbeddedData (hembedded : PointsTo apEmbeddedData embedded)
    (hpayload : PointsTo apPayloadData payload) (dst : List UInt8) (aType aIsLast : UInt8) :
    sectionBytes aType (aIsLast ≠ 0) embedded ++ payload <+:
      (efpAddEmbeddedData (some dst) apEmbeddedData apPayloadData embedded.length payload.length
        aType aIsLast).2 := by
  have hlength := length_sectionBytes aType (aIsLast ≠ 0) embedded
  simp only [efpAddEmbeddedData, copied_eq hembedded, copied_eq hpayload, ← hlength]
  refine prefix_overwrite ?_ payload
  rw [sectionBytes]
  refine prefix_overwrite ?_ embedded
  simp only [typeByte, decide_eq_true_eq]
  exact prefix_overwrite_zero dst _

theorem efpAddEmbeddedData_eq (hembedded : PointsTo apEmbeddedData embedded)
    (hpayload : PointsTo apPayloadData payload) {dst : List UInt8}
    (hdst : dst.length = 3 + embedded.length + payload.length) (aType aIsLast : UInt8) :
    (efpAddEmbeddedData (some dst) apEmbeddedData apPayloadData embedded.length payload.length
      aType aIsLast).2 = sectionBytes aType (aIsLast ≠ 0) embedded ++ payload := by
  refine ((prefix_efpAddEmbeddedData hembedded hpayload dst aType aIsLast).eq_of_length ?_).symm
  simp only [efpAddEmbeddedData, copied_eq hembedded, copied_eq hpayload]
  have hheader : ∀ x y z, (overwrite dst 0 [x, y, z]).length = dst.length := by
    intro x y z
    refine length_overwrite ?_
    rw [List.length_cons, List.length_cons, List.length_singleton]
    omega
  have hsection : ∀ x y z,
      (overwrite (overwrite dst 0 [x, y, z]) 3 embedded).length = dst.length := by
    intro x y z
    rw [length_overwrite (by rw [hheader]; omega), hheader]
  rw [length_overwrite (by rw [hsection]; omega), hsection, hdst, List.length_append,
    length_sectionBytes]

/-! ### What is read back -/

theorem typeByte_and (aType : UInt8) (htype : aType ≤ 127) (isLast : Bool) :
    typeByte aType isLast &&& 0x7F = aType := by
  revert aType isLast
  decide +kernel

theorem typeByte_last (aType : UInt8) (htype : aType ≤ 127) (isLast : Bool) :
    typeByte aType isLast &&& 0x80 ≠ 0 ↔ isLast = true := by
  revert aType isLast
  decide +kernel

theorem typeByte_ne_zero {aType : UInt8} (htype : aType ≠ 0) (isLast : Bool) :
    typeByte aType isLast ≠ 0 := by
  revert aType isLast
  decide +kernel

theorem toNat_lEmbSize {data : ℕ → UInt8} {o n : ℕ}
    (hlow : data (o + 1) = UInt8.ofNat (n &&& 0xFF))
    (hhigh : data (o + 2) = UInt8.ofNat (n >>> 8 &&& 0xFF)) :
    (lEmbSize data o).toNat = n % 2 ^ 16 := by
  have hmask : ∀ m, m &&& 0xFF = m % 2 ^ 8 := fun m => Nat.and_two_pow_sub_one_eq_mod m 8
  have hsplit : n % 2 ^ 16 = (n >>> 8 % 2 ^ 8) <<< 8 + n % 2 ^ 8 := by
    rw [Nat.shiftRight_eq_div_pow, Nat.shiftLeft_eq]
    omega
  have hfits : (n >>> 8 % 256) <<< 8 < 65536 := by
    rw [Nat.shiftLeft_eq]
    omega
  rw [hsplit, Nat.shiftLeft_add_eq_or_of_lt (Nat.mod_lt _ (by norm_num)), Nat.lor_comm, lEmbSize,
    hlow, hhigh, hmask, hmask]
  simp [Nat.mod_eq_of_lt hfits]

theorem header_of_holds {data : ℕ → UInt8} {o : ℕ} {aType : UInt8} {isLast : Bool}
    {bytes : List UInt8} (h : Holds data o (sectionBytes aType isLast bytes)) :
    data o = typeByte aType isLast ∧ (lEmbSize data o).toNat = bytes.length % 2 ^ 16 ∧
      Holds data (o + 3) bytes := by
  rw [sectionBytes, List.cons_append, List.cons_append, List.cons_append, holds_cons, holds_cons,
    holds_cons] at h
  exact ⟨h.1, toNat_lEmbSize h.2.1 h.2.2.1, h.2.2.2⟩

theorem efpExtractEmbeddedData_section {aType : UInt8} (htype : aType ≠ 0 ∧ aType ≤ 127)
    (isLast : Bool) (embedded payload : List UInt8) :
    efpExtractEmbeddedData (some (sectionBytes aType isLast embedded ++ payload)) =
      (.ok,
        { embeddedOut := (embedded ++ payload).take (embedded.length % 2 ^ 16)
          embeddedSizeOut := some (embedded.length % 2 ^ 16)
          typeOut := some aType
          payloadOffsetOut := some (3 + embedded.length % 2 ^ 16) }) := by
  have hdrop : (sectionBytes aType isLast embedded ++ payload).drop 3 = embedded ++ payload := rfl
  have hlength : (sectionBytes aType isLast embedded ++ payload).length =
      3 + embedded.length + payload.length := by
    rw [List.length_append, length_sectionBytes]
  have hholds := holds_getD (sectionBytes aType isLast embedded ++ payload) 0
  obtain ⟨hfirst, hsize, -⟩ := header_of_holds (holds_append.mp hholds).1
  -- `byteAt` is the reading of the list cell by cell
  change byteAt _ 0 = _ at hfirst
  change (lEmbSize (byteAt _) 0).toNat = _ at hsize
  have hend : sectionEnd (byteAt (sectionBytes aType isLast embedded ++ payload)) 0 =
      3 + embedded.length % 2 ^ 16 := by
    rw [sectionEnd, hsize, Nat.zero_add]
  have hmod : embedded.length % 2 ^ 16 ≤ embedded.length := Nat.mod_le _ _
  rw [efpExtractEmbeddedData]
  simp only [hlength, hend, hsize, hdrop, hfirst, typeByte_and aType htype.2]
  rw [if_neg (by omega), if_neg (typeByte_ne_zero htype.1 isLast), if_neg (by omega)]

/-- If the section is added with success, the reader gets it back from the
bytes that the calculated size counts. -/
def GetsBack (dst apEmbeddedData apPayloadData : Option (List UInt8))
    (embedded payload : List UInt8) (aType aIsLast : UInt8) : Prop :=
  let added :=
    efpAddEmbeddedData dst apEmbeddedData apPayloadData embedded.length payload.length aType aIsLast
  added.1 = 0 →
    efpExtractEmbeddedData
        (some (added.2.take (efpEmbeddedCalcSize embedded.length payload.length))) =
      (.ok,
        { embeddedOut := embedded
          embeddedSizeOut := some embedded.length
          typeOut := some aType
          payloadOffsetOut := some (3 + embedded.length) })

theorem type_ne_zero {aType : UInt8} (h : 1 ≤ aType) : aType ≠ 0 := by
  rintro rfl
  exact absurd h (by decide)

section

variable {apEmbeddedData apPayloadData : Option (List UInt8)} {embedded payload : List UInt8}
  {aType : UInt8}

theorem getsBack_iff_of_fits (hembedded : PointsTo apEmbeddedData embedded)
    (hpayload : PointsTo apPayloadData payload)
    (hfits : 3 + embedded.length + payload.length < 2 ^ 64) (htype : 1 ≤ aType ∧ aType ≤ 127)
    (aIsLast : UInt8) (dst : List UInt8) :
    GetsBack (some dst) apEmbeddedData apPayloadData embedded payload aType aIsLast ↔
      embedded.length < 2 ^ 16 := by
  have hlength : (sectionBytes aType (aIsLast ≠ 0) embedded ++ payload).length =
      3 + embedded.length + payload.length := by
    rw [List.length_append, length_sectionBytes]
  have hwritten := prefix_efpAddEmbeddedData hembedded hpayload dst aType aIsLast
  have hcalc : efpEmbeddedCalcSize embedded.length payload.length =
      3 + embedded.length + payload.length := Nat.mod_eq_of_lt hfits
  rw [GetsBack, hcalc, take_of_prefix hwritten hlength,
    efpExtractEmbeddedData_section ⟨type_ne_zero htype.1, htype.2⟩]
  constructor
  · intro h
    -- the size alone tells: the reader reports it modulo `2 ^ 16`
    have hback := congrArg (fun r => r.2.embeddedSizeOut) (h rfl)
    have hmod : embedded.length % 2 ^ 16 = embedded.length := Option.some.inj hback
    omega
  · intro hsmall _
    rw [Nat.mod_eq_of_lt hsmall, List.take_left]

/-- A section that is added is read back just when its size is that of a 16-bit
number, and the size of it all that of a `size_t`. -/
theorem getsBack_iff (hembedded : PointsTo apEmbeddedData embedded)
    (hpayload : PointsTo apPayloadData payload)
    (hsizes : embedded.length + payload.length < 2 ^ 64) (htype : 1 ≤ aType ∧ aType ≤ 127)
    (aIsLast : UInt8) (dst : List UInt8) :
    GetsBack (some dst) apEmbeddedData apPayloadData embedded payload aType aIsLast ↔
      embedded.length < 2 ^ 16 ∧ 3 + embedded.length + payload.length < 2 ^ 64 := by
  by_cases hfits : 3 + embedded.length + payload.length < 2 ^ 64
  · rw [getsBack_iff_of_fits hembedded hpayload hfits htype]
    exact ⟨fun h => ⟨h, hfits⟩, And.left⟩
  · -- the calculated size has wrapped around to less than a header
    have hcalc : efpEmbeddedCalcSize embedded.length payload.length < 3 := by
      rw [efpEmbeddedCalcSize]
      omega
    have hrefused : ∀ data : List UInt8, data.length < 3 →
        (efpExtractEmbeddedData (some data)).1 = .invalidParameter := by
      intro data hshort
      rw [efpExtractEmbeddedData, if_pos hshort]
    refine iff_of_false (fun h => ?_) fun h => hfits h.2
    have hres := congrArg Prod.fst (h rfl)
    rw [hrefused _ ((List.length_take_le _ _).trans_lt hcalc)] at hres
    cases hres

end

/-- A section of three bytes, the last, in front of two. -/
theorem getsBack_three :
    GetsBack (some (List.replicate 8 0)) (some [1, 2, 3]) (some [4, 5]) [1, 2, 3] [4, 5] 9 1 :=
  (getsBack_iff (List.prefix_refl _) (List.prefix_refl _) (by norm_num) ⟨by decide, by decide⟩ 1
    _).mpr ⟨by norm_num, by norm_num⟩

/-- 65536 bytes are added with success and read back as none. -/
theorem not_getsBack_tooLong :
    ¬ GetsBack (some (List.replicate 65539 0)) (some (List.replicate 65536 1)) none
      (List.replicate 65536 1) [] 1 1 := by
  have hlength : (List.replicate 65536 (1 : UInt8)).length = 65536 := List.length_replicate
  generalize List.replicate 65536 (1 : UInt8) = embedded at hlength
  have hembedded : PointsTo (some embedded) embedded := List.prefix_refl _
  have hpayload : PointsTo none [] := List.prefix_refl _
  rw [getsBack_iff_of_fits hembedded hpayload (by rw [hlength, List.length_nil]; norm_num)
    ⟨by decide, by decide⟩, hlength]
  norm_num

/-! ### Chains -/

/-- A section of a chain. -/
structure EmbeddedSection where
  type : UInt8
  data : List UInt8
  type_ge : 1 ≤ type
  type_le : type ≤ 127
  length_le : data.length ≤ 65535

/-- The sections in front of the payload, with the flag in the last of them. -/
def chain : List EmbeddedSection → List UInt8 → List UInt8
  | [], payload => payload
  | s :: sections, payload =>
      sectionBytes s.type sections.isEmpty s.data ++ chain sections payload

/-- The sections are put in front of the payload from the last to the first,
each in a destination of the size that is needed. -/
inductive Builds (payload : List UInt8) : List EmbeddedSection → List UInt8 → Prop
  | last {s : EmbeddedSection} {dst : List UInt8}
      {apEmbeddedData apPayloadData : Option (List UInt8)} {aIsLast : UInt8}
      (hembedded : PointsTo apEmbeddedData s.data) (hpayload : PointsTo apPayloadData payload)
      (hdst : dst.length = 3 + s.data.length + payload.length) (hlast : aIsLast ≠ 0) :
      Builds payload [s]
        (efpAddEmbeddedData (some dst) apEmbeddedData apPayloadData s.data.length payload.length
          s.type aIsLast).2
  | cons {s s' : EmbeddedSection} {sections : List EmbeddedSection} {buffer dst : List UInt8}
      {apEmbeddedData apPayloadData : Option (List UInt8)}
      (hrest : Builds payload (s' :: sections) buffer)
      (hembedded : PointsTo apEmbeddedData s.data) (hpayload : PointsTo apPayloadData buffer)
      (hdst : dst.length = 3 + s.data.length + buffer.length) :
      Builds payload (s :: s' :: sections)
        (efpAddEmbeddedData (some dst) apEmbeddedData apPayloadData s.data.length buffer.length
          s.type 0).2

theorem Builds.eq_chain {payload buffer : List UInt8} {sections : List EmbeddedSection}
    (h : Builds payload sections buffer) : buffer = chain sections payload := by
  induction h with
  | last hembedded hpayload hdst hlast =>
      rw [efpAddEmbeddedData_eq hembedded hpayload hdst, decide_eq_true hlast]
      rfl
  | cons hrest hembedded hpayload hdst ih =>
      rw [efpAddEmbeddedData_eq hembedded hpayload hdst, ih]
      rfl

/-- What a callback is handed: the bytes, not where they are. -/
inductive Handed
  | embedded (data : List UInt8) (type : UInt8) (pts : UInt64)
  | receive (data : List UInt8) (payloadType : UInt8) (broken : Bool) (pts dts : UInt64)
      (payloadCode : UInt32) (streamId sourceId flags : UInt8)

def CallbackCall.handed (mpData : ℕ → UInt8) : CallbackCall → Handed
  | .embedded data size type pts => .embedded (region mpData data size) type pts
  | .receive data size payloadType broken pts dts payloadCode streamId sourceId flags =>
      .receive (region mpData data size) payloadType broken pts dts payloadCode streamId sourceId
        flags

theorem sectionEnd_eq {data : ℕ → UInt8} {o : ℕ} {s : EmbeddedSection} {isLast : Bool}
    (h : Holds data o (sectionBytes s.type isLast s.data)) :
    sectionEnd data o = o + (sectionBytes s.type isLast s.data).length := by
  have hle := s.length_le
  rw [sectionEnd, (header_of_holds h).2.1, length_sectionBytes]
  omega

/-- The loop from the start of a chain to its end: every section is handed
over, and what is behind the last is the payload. -/
theorem embeddedLoop_chain {data : ℕ → UInt8} {mSize : ℕ} (mPts : UInt64)
    {sections : List EmbeddedSection} (hsections : sections ≠ []) {payload : List UInt8} {o : ℕ}
    (h : Holds data o (chain sections payload))
    (hsize : mSize = o + (chain sections payload).length) :
    (embeddedLoop data mSize mPts o).1.map (CallbackCall.handed data) =
        sections.map (fun s => .embedded s.data s.type mPts) ∧
      Holds data (embeddedLoop data mSize mPts o).2 payload ∧
      mSize = (embeddedLoop data mSize mPts o).2 + payload.length := by
  induction sections generalizing o with
  | nil => exact absurd rfl hsections
  | cons s sections ih =>
      have hle := s.length_le
      rw [chain, holds_append] at h
      rw [chain, List.length_append] at hsize
      obtain ⟨hsection, hrest⟩ := h
      obtain ⟨htype, hlength, hdata⟩ := header_of_holds hsection
      have hend := sectionEnd_eq hsection
      have hbytes := length_sectionBytes s.type sections.isEmpty s.data
      have hne : data o ≠ 0 := by
        rw [htype]
        exact typeByte_ne_zero (type_ne_zero s.type_ge) _
      have hcall : CallbackCall.handed data
          (.embedded (o + 3) (lEmbSize data o).toNat (data o &&& 0x7F) mPts) =
            .embedded s.data s.type mPts := by
        rw [hlength, Nat.mod_eq_of_lt (by omega), htype, typeByte_and s.type s.type_le]
        exact congrArg (fun bytes => Handed.embedded bytes s.type mPts) hdata
      have hroom : sectionEnd data o ≤ mSize := by
        rw [hend]
        omega
      rw [embeddedLoop, if_pos (by omega), if_neg hne, if_pos hroom]
      -- behind the last section the loop ends; behind any other the chain goes on
      by_cases hlast : sections = []
      · rw [hlast, List.isEmpty_nil] at hsection htype hend hrest hsize hbytes
        have hflag : data o &&& 0x80 ≠ 0 := by
          rw [htype]
          exact (typeByte_last s.type s.type_le true).mpr rfl
        rw [if_pos hflag, hlast, hend, List.map_singleton, List.map_singleton, hcall]
        exact ⟨rfl, hrest, by rw [hsize, add_assoc]; rfl⟩
      · have hempty : sections.isEmpty = false := by
          rw [← Bool.not_eq_true, List.isEmpty_iff]
          exact hlast
        have hflag : ¬ data o &&& 0x80 ≠ 0 := by
          rw [htype, typeByte_last s.type s.type_le, hempty]
          exact Bool.false_ne_true
        rw [← add_assoc, ← hend] at hsize
        rw [← hend] at hrest
        obtain ⟨hcalls, hpayload, hfrom⟩ := ih hlast hrest hsize
        rw [if_neg hflag]
        refine ⟨?_, hpayload, hfrom⟩
        rw [List.map_append, List.map_singleton, hcall, hcalls]
        rfl

theorem holds_byte {f : SuperFrame} {buffer : List UInt8} (h : f.data = buffer.map some)
    (heap : ℕ → UInt8) : f.mSize = buffer.length ∧ Holds (f.byte heap) 0 buffer := by
  have hsize : f.mSize = buffer.length := by
    have hlength := congrArg List.length h
    rwa [SuperFrame.data, List.length_map, List.length_range, List.length_map] at hlength
  refine ⟨hsize, List.ext_getElem (length_region _ _ _) fun i _ hi => ?_⟩
  have hcell : f.mpData.bind (fun b => b.cell i) = some buffer[i] := by
    have hget := congrArg (fun cells => cells[i]?) h
    simpa [SuperFrame.data, hsize, hi] using hget
  simp [region, SuperFrame.byte, hcell]

/-- A chain that is delivered comes out section by section, and the payload
after them. -/
theorem receiveCallbackWrapper_chain {payload buffer : List UInt8}
    {sections : List EmbeddedSection} (hbuilt : Builds payload sections buffer) {f : SuperFrame}
    (hdata : f.data = buffer.map some) (hbroken : f.mBroken = false)
    (hinline : f.mFlags &&& flagInlinePayload ≠ 0) (heap : ℕ → UInt8) :
    (receiveCallbackWrapper (some ⟨true, true⟩) heap (some f)).map
        (CallbackCall.handed (f.byte heap)) =
      sections.map (fun s => .embedded s.data s.type f.mPts) ++
        [.receive payload f.mPayloadType false f.mPts f.mDts f.mPayloadCode f.mStreamId
          f.mSourceId f.mFlags] := by
  obtain ⟨hsize, hholds⟩ := holds_byte hdata heap
  have hsections : sections ≠ [] := by
    cases hbuilt <;> exact List.cons_ne_nil _ _
  rw [hbuilt.eq_chain] at hholds hsize
  obtain ⟨hcalls, hpayload, hrest⟩ := embeddedLoop_chain f.mPts hsections hholds
    (hsize.trans (Nat.zero_add _).symm)
  simp only [receiveCallbackWrapper, Bool.true_eq_false, if_false]
  rw [if_pos ⟨trivial, hinline, hbroken⟩, List.map_append, hcalls, List.map_singleton,
    sizeSub_of_le (by omega), hbroken]
  have hmain : region (f.byte heap) (embeddedLoop (f.byte heap) f.mSize f.mPts 0).2
      (f.mSize - (embeddedLoop (f.byte heap) f.mSize f.mPts 0).2) = payload := by
    rw [show f.mSize - (embeddedLoop (f.byte heap) f.mSize f.mPts 0).2 = payload.length by omega]
    exact hpayload
  rw [CallbackCall.handed, hmain]

/-- A frame with two sections, the second of them empty, in front of a payload
that looks like a section. -/
def twoSections : SuperFrame where
  mpData := some ((Block.alloc 13).memcpy 0 [5, 3, 0, 0x81, 0, 0, 0x87, 0, 0, 0x85, 1, 0, 9] 0 13)
  mSize := 13
  mFlags := 0x10
  mPts := 3000
  mBroken := false

theorem receiveCallbackWrapper_chain_two :
    (receiveCallbackWrapper (some ⟨true, true⟩) (fun _ => 0) (some twoSections)).map
        (CallbackCall.handed (twoSections.byte fun _ => 0)) =
      [.embedded [0x81, 0, 0] 5 3000, .embedded [] 7 3000,
        .receive [0x85, 1, 0, 9] 0 false 3000 0xFFFFFFFFFFFFFFFF 0xFFFFFFFF 0 0 0x10] := by
  have hlast : Builds [0x85, 1, 0, 9] [⟨7, [], by decide, by decide, by decide⟩]
      (efpAddEmbeddedData (some (List.replicate 7 0)) none (some [0x85, 1, 0, 9]) 0 4 7 1).2 :=
    .last List.nil_prefix (List.prefix_refl _) rfl (by decide)
  have hbuilt : Builds [0x85, 1, 0, 9]
      [⟨5, [0x81, 0, 0], by decide, by decide, by decide⟩, ⟨7, [], by decide, by decide, by decide⟩]
      (efpAddEmbeddedData (some (List.replicate 13 0)) (some [0x81, 0, 0])
        (some (efpAddEmbeddedData (some (List.replicate 7 0)) none (some [0x85, 1, 0, 9])
          0 4 7 1).2) 3 7 5 0).2 :=
    .cons hlast (List.prefix_refl _) (List.prefix_refl _) (by decide)
  exact receiveCallbackWrapper_chain hbuilt (by decide) rfl (by decide) _

end CApi

end ElasticFrame
