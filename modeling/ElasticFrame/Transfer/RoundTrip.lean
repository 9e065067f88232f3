import ElasticFrame.Transfer.Reception
import ElasticFrame.Transfer.Emission

/-!
From `send` to the frame callback. Whatever the order in which the packets of
a `send` arrive, and however often each of them does, the receiver delivers
one frame, and it is the one that was sent.
-/

namespace ElasticFrame

open Lib

/-- What a receiver is to deliver for a `send`. -/
structure SuperFrame.Restores (f : SuperFrame) (aData : List UInt8) (args : SendArgs) : Prop where
  mBroken : f.mBroken = false
  mSize : f.mSize = aData.length
  data : f.data = aData.map some
  mPayloadType : f.mPayloadType = args.aPayloadType
  mPayloadCode : f.mPayloadCode = args.aPayloadCode
  mPts : f.mPts = args.aPts
  mDts : f.mDts = sentDts args.aPts args.aDts
  mStreamId : f.mStreamId = args.aStreamId
  mFlags : f.mFlags = args.aFlags &&& 0xF0

theorem SuperFrame.Carries.restores {f : SuperFrame} {cfg : SenderConfig} {aData : List UInt8}
    {h : Sender.Sendable cfg aData} {hle : Sender.estimate cfg aData.length ≤ maxSuperframeSize}
    {s : Sender} {args : SendArgs} {aSourceId : UInt8}
    (hf : f.Carries (Sender.superframeOf h hle s args) aSourceId) : f.Restores aData args := by
  have hdata : (Sender.superframeOf h hle s args).data = aData := by
    rw [Superframe.data, Sender.fragments_superframeOf, Sender.payload_planned h s args]
  have hread : FrameType2.read (Sender.superframeOf h hle s args).type2 =
      (s.planned cfg aData args).type2 (Sender.plan cfg aData.length).2.lType2DataSize :=
    Outgoing.read_packet2
  obtain ⟨hbroken, hsize, hcells, htype, hcode, hpts, hdts, hstream, hflags, -, -⟩ := hf
  rw [hdata] at hsize hcells
  rw [hread] at htype hcode hpts hdts
  exact ⟨hbroken, hsize, hcells, htype, hcode, hpts, hdts.trans (dts_of_dtsPtsDiff rfl), hstream,
    hflags⟩

/-- The call hands one of the packets over, with memory to be had, or is a
pass. -/
inductive HandsOver (packets : List Packet) (aSourceId : UInt8) : Call → Prop
  | packet {env : Surroundings} {p : Packet} (memalign : ∀ k, env.memalign k = true)
      (mem : p ∈ packets) : HandsOver packets aSourceId (.packet env p.data aSourceId)
  | pass (clk : PassClock) : HandsOver packets aSourceId (.pass clk)

theorem HandsOver.feeds {S : Superframe} {packets : List Packet} (hS : S.Emitted packets)
    {aSourceId : UInt8} {c : Call} (h : HandsOver packets aSourceId c) :
    Receiver.Feeds S aSourceId c := by
  cases h with
  | packet halloc hmem => exact .packet halloc (hS.carried _ hmem)
  | pass clk => exact .pass clk

/-- The packets of a `send`, in any order and any number of times, with passes
in between and one at the end, make the receiver deliver what was sent, once. -/
theorem delivers_what_was_sent (cfg : SenderConfig) (s : Sender) (clk : SendClock)
    (aData : List UInt8) (args : SendArgs) (B : BufferSize) (rcfg : ReceiverConfig)
    (past cs : List Call) (aSourceId : UInt8) (last : PassClock)
    (hqueue : s.retention.mRetransmitQueue = []) (hsend : (s.send cfg clk aData args).2 = .ok)
    (hle : (Sender.plan cfg aData.length).1 * (Sender.plan cfg aData.length).2.lTotalFragments ≤
      maxSuperframeSize)
    (hinactive : (((Receiver.machine B rcfg).run (Receiver.fresh B) past).1.bucketOf
      s.mSuperFrameNo).mActive = false)
    (horder : ((Receiver.machine B rcfg).run (Receiver.fresh B) past).1.unwrapped
        s.mSuperFrameNo ≠
      (((Receiver.machine B rcfg).run (Receiver.fresh B) past).1.bucketOf
        s.mSuperFrameNo).mDeliveryOrder)
    (hcalls : ∀ c ∈ cs, HandsOver (s.send cfg clk aData args).1.2 aSourceId c)
    (hall : ∀ p ∈ (s.send cfg clk aData args).1.2, ∃ env, .packet env p.data aSourceId ∈ cs)
    (hunexpired : (Receiver.machine B rcfg).Along
      (Receiver.Unexpired rcfg s.mSuperFrameNo)
      ((Receiver.machine B rcfg).run (Receiver.fresh B) past).1 (cs ++ [.pass last])) :
    ∃ frame,
      Receiver.framesOf s.mSuperFrameNo
        ((Receiver.machine B rcfg).run
          ((Receiver.machine B rcfg).run (Receiver.fresh B) past).1
          (cs ++ [.pass last])).2 = [frame] ∧
      frame.Restores aData args ∧ frame.mSourceId = aSourceId := by
  set r := ((Receiver.machine B rcfg).run (Receiver.fresh B) past).1
  have hrep : r.Represented := Receiver.represented_run Receiver.represented_fresh rcfg past
  rcases Sender.send_cases cfg clk s aData args with ⟨h, hok⟩ | ⟨-, res, hres, hrefused⟩
  · rw [hok] at hcalls hall
    have hevicted := (@Sender.mRetransmitQueue_evicted cfg clk s).trans hqueue
    have hemitted := Sender.emitted_sendPlanned h hle clk (s.evicted cfg clk) args hevicted
    have hnumber := @Sender.mSuperFrameNo_evicted cfg clk s
    rw [← hnumber] at hinactive horder hunexpired ⊢
    have hcovered : ∀ f ∈ (Sender.superframeOf h hle (s.evicted cfg clk) args).fragments,
        f ∈ [] ++ Receiver.handedOver cs := by
      intro f hf
      obtain ⟨p, hp, hin⟩ := hemitted.covers f hf
      obtain ⟨env, hcall⟩ := hall p hp
      exact List.mem_flatMap.mpr ⟨_, hcall, hin⟩
    obtain ⟨frame, hframe, hcarries⟩ := Receiver.Underway.run hrep
      (.awaits ⟨hinactive, horder⟩) (fun c hc => (hcalls c hc).feeds hemitted) hunexpired hcovered
    exact ⟨frame, hframe, hcarries.restores, hcarries.mSourceId⟩
  · rw [hrefused] at hsend
    exact absurd hsend hres

namespace Sample

/-- The packets of a `send`, the last one first, and a pass after each. -/
def backwards : List Call :=
  ((Sender.new eighthCfg).send eighthCfg (clockAt 0) payload sendArgs).1.2.reverse.flatMap fun p =>
    [.packet env p.data 0, .pass clk]

end Sample

/-- Two bundles and a Type2, the last packet first. -/
theorem delivers_what_was_sent_backwards :
    ∃ frame,
      Receiver.framesOf 0 ((Receiver.machine .default {}).run (Receiver.fresh .default)
        (Sample.backwards ++ [.pass Sample.clk])).2 = [frame] ∧
      frame.Restores Sample.payload Sample.sendArgs ∧ frame.mSourceId = 0 := by
  refine delivers_what_was_sent Sample.eighthCfg (Sender.new Sample.eighthCfg) (Sample.clockAt 0)
    Sample.payload Sample.sendArgs .default {} [] Sample.backwards 0 Sample.clk rfl
    (by decide +kernel) (by decide +kernel) rfl (by decide +kernel) ?_ ?_ (by decide +kernel)
  · intro c hc
    obtain ⟨p, hp, hc⟩ := List.mem_flatMap.mp hc
    rcases List.mem_pair.mp hc with rfl | rfl
    · exact .packet (fun _ => rfl) (List.mem_reverse.mp hp)
    · exact .pass Sample.clk
  · intro p hp
    exact ⟨Sample.env, List.mem_flatMap.mpr ⟨p, List.mem_reverse.mpr hp, List.mem_cons_self⟩⟩

end ElasticFrame
