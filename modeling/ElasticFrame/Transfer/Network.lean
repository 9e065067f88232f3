import ElasticFrame.Transfer.RoundTrip
import ElasticFrame.Sender.Origin

/-!
A sender and a receiver with a network in between. The network may lose a
packet, deliver it late, out of order or any number of times, and with any
source id; what it does not do is make up packets. The NACKs that go back may
be anything at all, since `receiveNack` has to cope with any bytes.

Whatever the network does, a frame that is delivered as complete is one that
was sent.
-/

namespace ElasticFrame

open Lib

/-! ### What a receiver accepts -/

namespace Receiver

variable {B : BufferSize}

/-- A frame that travels inside a bundle or on its own, and the fragment that
its handler takes it for. -/
def ReadFrom (aData : List UInt8) (f : Fragment) : Prop :=
  f.packet ∈ frames aData ∧ Fragment.ofPacket f.packet = some f

theorem mem_memberActs (cfg : ReceiverConfig) (env : Surroundings) (src : UInt8)
    {apData : List UInt8} (hbundle : IsBundle apData)
    (hsize : 0 < (apData.length - FrameType4.sizeof) /
      (FrameType4.read apData).mFrameCount.toNat)
    (count lI : ℕ) (hcount : lI + count = (FrameType4.read apData).mFrameCount.toNat)
    (r : Receiver B) {a : Act}
    (ha : a ∈ memberActs cfg env src apData
      ((apData.length - FrameType4.sizeof) / (FrameType4.read apData).mFrameCount.toNat) count lI
      (FrameType4.sizeof + lI * ((apData.length - FrameType4.sizeof) /
        (FrameType4.read apData).mFrameCount.toNat)) r) :
    ∃ now memalign f, a = .handle now memalign src f ∧ ReadFrom apData f := by
  induction count generalizing lI r with
  | zero => exact absurd ha List.not_mem_nil
  | succ count ih =>
      rw [memberActs] at ha
      split_ifs at ha with htype
      · exact absurd ha List.not_mem_nil
      rcases List.mem_cons.mp ha with rfl | hrest
      · refine ⟨_, _, _, rfl, ?_, ?_⟩
        · rw [frames, if_pos hbundle]
          exact List.mem_map.mpr ⟨lI, List.mem_range.mpr (by omega), rfl⟩
        · rw [Fragment.packet, Fragment.ofPacket, byteAt_take_drop hsize, Nat.add_zero,
            not_not.mp htype]
      · split_ifs at hrest
        · exact absurd hrest List.not_mem_nil
        · rw [Nat.add_assoc, ← Nat.succ_mul] at hrest
          exact ih (lI + 1) (by omega) _ hrest

/-- A packet comes down to the counting of a bundle and the handling of
fragments that are read from it. -/
theorem mem_packetActs (cfg : ReceiverConfig) (r : Receiver B) (env : Surroundings)
    {aData : List UInt8} {src : UInt8} {a : Act} (ha : a ∈ r.packetActs cfg env aData src) :
    a = .bundle ∨ ∃ now memalign f, a = .handle now memalign src f ∧ ReadFrom aData f := by
  have halone : ∀ f, Fragment.ofPacket aData = some f → f.packet = aData → ReadFrom aData f := by
    rintro f hpacket rfl
    refine ⟨?_, hpacket⟩
    rw [frames_of_not (Sender.not_isBundle_of_ofPacket hpacket)]
    exact List.mem_singleton_self _
  rw [packetActs] at ha
  split_ifs at ha with hempty
  · exact absurd ha List.not_mem_nil
  cases htype : getFrameType (byteAt aData 0) with
  | none =>
      rw [htype] at ha
      exact absurd ha List.not_mem_nil
  | some t =>
      rw [htype] at ha
      cases t with
      | type0 => exact absurd ha List.not_mem_nil
      | type1 | type2 | type3 =>
          exact .inr ⟨_, _, _, List.mem_singleton.mp ha,
            halone _ (by rw [Fragment.ofPacket, htype]) rfl⟩
      | type4 =>
          simp only at ha
          split_ifs at ha with hshort hshape
          · exact absurd ha List.not_mem_nil
          · exact .inl (List.mem_singleton.mp ha)
          · rcases List.mem_cons.mp ha with heq | hmember
            · exact .inl heq
            · have h8 : FrameType1.sizeof = 8 := rfl
              have hsize := not_lt.mp (not_or.mp hshape).2
              exact .inr (mem_memberActs cfg env src htype (by omega) _ 0 (Nat.zero_add _) _
                (by rwa [Nat.zero_mul, Nat.add_zero]))

end Receiver

namespace Traced

variable {B : BufferSize}

/-- What holds of every fragment that is handled holds of those that a bucket is
made of. -/
theorem accepted_step {P : Fragment → Prop} (cfg : ReceiverConfig) {t : Traced B}
    (ht : ∀ i, ∀ f ∈ t.accepted i, P f) {a : Act}
    (ha : ∀ now memalign src f, a = .handle now memalign src f → P f) :
    ∀ i, ∀ f ∈ ((machine B cfg).step t a).1.accepted i, P f := by
  cases a with
  | bundle => exact ht
  | pass clk => exact ht
  | handle now memalign src f =>
      intro i g hg
      simp only [machine, handle] at hg
      split_ifs at hg with hok hact
      · by_cases hi : i = B.index f.superFrameNo
        · subst hi
          rw [Function.update_self] at hg
          rcases List.mem_append.mp hg with hg | hg
          · exact ht _ g hg
          · exact List.mem_singleton.mp hg ▸ ha now memalign src f rfl
        · rw [Function.update_of_ne hi] at hg
          exact ht i g hg
      · by_cases hi : i = B.index f.superFrameNo
        · subst hi
          rw [Function.update_self] at hg
          exact List.mem_singleton.mp hg ▸ ha now memalign src f rfl
        · rw [Function.update_of_ne hi] at hg
          exact ht i g hg
      · exact ht i g hg

theorem forall_accepted {P : Fragment → Prop} (cfg : ReceiverConfig) {as : List Act}
    (hP : ∀ now memalign src f, .handle now memalign src f ∈ as → P f) :
    (∀ i, ∀ f ∈ ((machine B cfg).run (fresh B) as).1.accepted i, P f) ∧
      ∀ o ∈ ((machine B cfg).run (fresh B) as).2, ∀ f ∈ o.2, P f := by
  have halong : (machine B cfg).Along
      (fun _ a => ∀ now memalign src f, a = .handle now memalign src f → P f) (fresh B) as := by
    apply Machine.along_of_forall
    rintro _ a ha now memalign src f rfl
    exact hP now memalign src f ha
  have hfresh : ∀ i, ∀ f ∈ (fresh B).accepted i, P f := fun i f hf => absurd hf List.not_mem_nil
  refine ⟨(machine B cfg).run_invariant (I := fun t => ∀ i, ∀ f ∈ t.accepted i, P f)
      (fun t a ht ha => accepted_step cfg ht ha) hfresh halong,
    (machine B cfg).run_output (I := fun t => ∀ i, ∀ f ∈ t.accepted i, P f)
      (fun t a ht ha => accepted_step cfg ht ha) (fun t a ht _ o ho => ?_) hfresh halong⟩
  cases a with
  | bundle => exact absurd ho List.not_mem_nil
  | handle now memalign src f => exact absurd ho List.not_mem_nil
  | pass clk =>
      obtain ⟨d, -, rfl⟩ := List.mem_map.mp ho
      exact ht d.bucket

end Traced

namespace Bucket

theorem Built.superFrameNo {h : List Fragment} {b : Bucket} (hb : b.Built h) :
    ∀ f ∈ h, f.superFrameNo = b.mSavedFrameNo := by
  induction hb with
  | opened admissible check alloc => exact fun f hf => List.mem_singleton.mp hf ▸ rfl
  | @filled h b src f built admissible check fits ih =>
      intro g hg
      rw [(b.fill_fields f).2.1]
      rcases List.mem_append.mp hg with hg | hg
      · exact ih g hg
      · exact List.mem_singleton.mp hg ▸ fits.superFrameNo

end Bucket

theorem Traced.Delivered.ne_nil {B : BufferSize} {o : Delivery B × List Fragment}
    (h : Traced.Delivered o) : o.2 ≠ [] := by
  obtain ⟨b, hb, -, -⟩ := h
  exact hb.ne_nil

theorem Traced.Delivered.superFrameNo {B : BufferSize} {o : Delivery B × List Fragment}
    (h : Traced.Delivered o) : ∀ f ∈ o.2, f.superFrameNo = o.1.frame.mSuperFrameNo := by
  obtain ⟨b, hb, -, hframe⟩ := h
  rw [hframe]
  exact hb.superFrameNo

/-- A delivered frame whose fragments are all of one superframe has the number,
the stream and the flags of it, and carries it if it is complete. -/
theorem Traced.Delivered.of_superframe {B : BufferSize} {o : Delivery B × List Fragment}
    (h : Traced.Delivered o) {S : Superframe} (hS : ∀ f ∈ o.2, f ∈ S.fragments) :
    o.1.frame.mSuperFrameNo = S.mSuperFrameNo ∧ o.1.frame.mStreamId = S.mStreamId ∧
      o.1.frame.mFlags = S.mFlags ∧
      (o.1.frame.mBroken = false → o.1.frame.Carries S o.1.frame.mSourceId) := by
  obtain ⟨b, hb, hwf, hframe⟩ := h
  have hbelongs := hb.belongs hS
  rw [hframe]
  refine ⟨hbelongs.mSavedFrameNo, hbelongs.mStreamId, hbelongs.mFlags, fun hbroken => ?_⟩
  have hcomplete : b.complete = true := by
    simpa [Bucket.delivered, Bucket.deliveredFrame] using hbroken
  exact hb.carries hS ((hb.complete_iff hS hwf).mp hcomplete) hcomplete

/-! ### The network -/

/-- Both ends, and all packets that have been put on the network. -/
structure Network (B : BufferSize) where
  sender : Sender
  receiver : Receiver B
  packets : List Packet := []

/-- A call of the sender, the delivery of a packet that has been sent before, or
a pass of the receiver. -/
inductive NetworkEvent
  | sender (e : SenderCall)
  | packet (env : Surroundings) (k : ℕ) (aSourceId : UInt8)
  | pass (clk : PassClock)

def senderCalls (es : List NetworkEvent) : List SenderCall :=
  es.filterMap fun
    | .sender e => some e
    | .packet _ _ _ | .pass _ => none

namespace Network

variable {B : BufferSize} {scfg : SenderConfig} {rcfg : ReceiverConfig}

def new (B : BufferSize) (scfg : SenderConfig) : Network B where
  sender := Sender.new scfg
  receiver := Receiver.fresh B

def machine (B : BufferSize) (scfg : SenderConfig) (rcfg : ReceiverConfig) :
    Machine (Network B) NetworkEvent (Receiver.Output B) where
  step n
    | .sender e =>
        let sent := (Sender.machine scfg).step n.sender e
        ({ n with sender := sent.1, packets := n.packets ++ sent.2 }, [])
    | .packet env k aSourceId =>
        match n.packets[k]? with
        | none => (n, [])
        | some p => ({ n with receiver := (n.receiver.dispatch rcfg env p.data aSourceId).1 }, [])
    | .pass clk =>
        let passed := n.receiver.processTimeouts rcfg clk
        ({ n with receiver := passed.1 }, passed.2)

/-- The call of the receiver that an event comes down to. -/
def calls (n : Network B) : NetworkEvent → List Call
  | .sender _ => []
  | .packet env k aSourceId => (n.packets[k]?.map fun p => .packet env p.data aSourceId).toList
  | .pass clk => [.pass clk]

def receiverCalls (scfg : SenderConfig) (rcfg : ReceiverConfig) (n : Network B)
    (es : List NetworkEvent) : List Call :=
  (machine B scfg rcfg).flatten calls n es

theorem run_sender (n : Network B) (es : List NetworkEvent) :
    ((machine B scfg rcfg).run n es).1.sender =
        ((Sender.machine scfg).run n.sender (senderCalls es)).1 ∧
      ((machine B scfg rcfg).run n es).1.packets =
        n.packets ++ ((Sender.machine scfg).run n.sender (senderCalls es)).2 := by
  induction es generalizing n with
  | nil => exact ⟨rfl, (List.append_nil _).symm⟩
  | cons e es ih =>
      obtain ⟨hsender, hpackets⟩ := ih ((machine B scfg rcfg).step n e).1
      rw [Machine.run_cons, hsender, hpackets]
      cases e with
      | sender e =>
          refine ⟨rfl, ?_⟩
          exact List.append_assoc _ _ _
      | packet env k aSourceId =>
          simp only [machine]
          cases n.packets[k]? <;> exact ⟨rfl, rfl⟩
      | pass clk => exact ⟨rfl, rfl⟩

theorem run_receiver (n : Network B) (es : List NetworkEvent) :
    ((machine B scfg rcfg).run n es).1.receiver =
        ((Receiver.machine B rcfg).run n.receiver (n.receiverCalls scfg rcfg es)).1 ∧
      ((machine B scfg rcfg).run n es).2 =
        ((Receiver.machine B rcfg).run n.receiver (n.receiverCalls scfg rcfg es)).2 := by
  induction es generalizing n with
  | nil => exact ⟨rfl, rfl⟩
  | cons e es ih =>
      obtain ⟨hreceiver, hout⟩ := ih ((machine B scfg rcfg).step n e).1
      rw [Machine.run_cons, receiverCalls, Machine.flatten, Machine.run_append, hreceiver, hout]
      cases e with
      | sender e => exact ⟨rfl, rfl⟩
      | packet env k aSourceId =>
          simp only [machine, calls, receiverCalls]
          cases n.packets[k]? <;> exact ⟨rfl, rfl⟩
      | pass clk =>
          refine ⟨rfl, ?_⟩
          exact congrArg (· ++ _) (List.append_nil _).symm

theorem mem_receiverCalls (n : Network B) (es : List NetworkEvent) {env : Surroundings}
    {aData : List UInt8} {aSourceId : UInt8}
    (h : .packet env aData aSourceId ∈ n.receiverCalls scfg rcfg es) :
    ∃ p ∈ ((machine B scfg rcfg).run n es).1.packets, p.data = aData := by
  induction es generalizing n with
  | nil => exact absurd h List.not_mem_nil
  | cons e es ih =>
      rw [receiverCalls, Machine.flatten, List.mem_append] at h
      rcases h with h | h
      · cases e with
        | sender e => exact absurd h List.not_mem_nil
        | packet env k aSourceId =>
            obtain ⟨p, hp, heq⟩ := Option.map_eq_some_iff.mp (Option.mem_toList.mp h)
            cases heq
            refine ⟨p, ?_, rfl⟩
            rw [(run_sender n _).2]
            exact List.mem_append_left _ (List.mem_of_getElem? hp)
        | pass clk => cases List.mem_singleton.mp h
      · exact ih _ h

/-! ### What arrives was sent -/

/-- Every fragment that the receiver handles is one of a superframe that was
sent. -/
theorem cutFrom_acts {es : List NetworkEvent} {now : ℤ} {memalign : Bool} {src : UInt8}
    {f : Fragment}
    (hact : .handle now memalign src f ∈
      (Receiver.machine B rcfg).flatten (Receiver.acts rcfg) (Receiver.fresh B)
        ((new B scfg).receiverCalls scfg rcfg es)) :
    ∃ k, Sender.CutFrom scfg 0 ((Sender.new scfg).successes scfg (senderCalls es)) k f := by
  have hread : ∀ a ∈ (Receiver.machine B rcfg).flatten (Receiver.acts rcfg) (Receiver.fresh B)
      ((new B scfg).receiverCalls scfg rcfg es), ∀ now memalign src f,
        a = .handle now memalign src f →
          ∃ env aData aSourceId,
            .packet env aData aSourceId ∈ (new B scfg).receiverCalls scfg rcfg es ∧
              Receiver.ReadFrom aData f := by
    apply Machine.forall_flatten
    rintro r c hc _ ha now memalign src f rfl
    cases c with
    | packet env aData aSourceId =>
        rcases Receiver.mem_packetActs rcfg r env ha with heq | ⟨_, _, _, heq, hread⟩
        · cases heq
        · cases heq
          exact ⟨env, aData, _, hc, hread⟩
    | pass clk => cases List.mem_singleton.mp ha
  obtain ⟨env, aData, aSourceId, hcall, hframe, hpacket⟩ := hread _ hact now memalign src f rfl
  obtain ⟨p, hp, rfl⟩ := mem_receiverCalls _ es hcall
  rw [(run_sender _ es).2] at hp
  obtain ⟨k, g, hg, heq⟩ := Sender.frames_cutFrom scfg (senderCalls es) p hp f.packet hframe
  have hsame := hg.ofPacket
  rw [heq, hpacket] at hsame
  exact ⟨k, Option.some.inj hsame ▸ hg⟩

/-- What is delivered is made of fragments of one superframe that was sent, if
no number has been used twice. -/
theorem cutFrom_of_delivered {es : List NetworkEvent}
    (hcount : ((Sender.new scfg).successes scfg (senderCalls es)).length ≤ 65536)
    {d : Delivery B}
    (hd : d ∈ Receiver.deliveries ((machine B scfg rcfg).run (new B scfg) es).2) :
    ∃ h k, Traced.Delivered (d, h) ∧ h ≠ [] ∧
      ∀ f ∈ h, Sender.CutFrom scfg 0 ((Sender.new scfg).successes scfg (senderCalls es)) k f := by
  rw [(run_receiver _ es).2, Receiver.run_acts] at hd
  have hfresh : (new B scfg).receiver = (Traced.fresh B).receiver := rfl
  rw [hfresh, ← (Traced.run_receiver rcfg (Traced.fresh B) _).2] at hd
  obtain ⟨o, ho, rfl⟩ := List.mem_map.mp hd
  have hdelivered := Traced.delivered_run Traced.faithful_fresh rcfg _ o ho
  have haccepted := (Traced.forall_accepted rcfg
    (P := fun f => ∃ k, Sender.CutFrom scfg 0
      ((Sender.new scfg).successes scfg (senderCalls es)) k f)
    (fun now memalign src f hact => cutFrom_acts hact)).2 o ho
  -- the fragments have one number, so they are of one superframe
  obtain ⟨f, hf⟩ := List.exists_mem_of_ne_nil _ hdelivered.ne_nil
  obtain ⟨k, hk⟩ := haccepted f hf
  refine ⟨o.2, k, hdelivered, hdelivered.ne_nil, fun g hg => ?_⟩
  obtain ⟨k', hk'⟩ := haccepted g hg
  have hsame := (hdelivered.superFrameNo g hg).trans (hdelivered.superFrameNo f hf).symm
  obtain rfl := hk'.unique hcount hk hsame
  exact hk'

theorem was_sent_of_delivered {es : List NetworkEvent}
    (hcount : ((Sender.new scfg).successes scfg (senderCalls es)).length ≤ 65536)
    (hle : ∀ e ∈ senderCalls es, Sender.WithinEstimate scfg e) {d : Delivery B}
    (hd : d ∈ Receiver.deliveries ((machine B scfg rcfg).run (new B scfg) es).2) :
    ∃ k clk aData args,
      ((Sender.new scfg).successes scfg (senderCalls es))[k]? = some (.send clk aData args) ∧
        d.frame.mSuperFrameNo = UInt16.ofNat k ∧ d.frame.mStreamId = args.aStreamId ∧
        d.frame.mFlags = args.aFlags &&& 0xF0 ∧
        (d.frame.mBroken = false → d.frame.Restores aData args) := by
  obtain ⟨fs, k, hdelivered, hne, hcut⟩ := cutFrom_of_delivered hcount hd
  obtain ⟨f, hf⟩ := List.exists_mem_of_ne_nil _ hne
  obtain ⟨clk, aData, args, hget, h, -⟩ := hcut f hf
  have hwithin : Sender.estimate scfg aData.length ≤ maxSuperframeSize :=
    hle _ (Sender.mem_of_mem_successes (List.mem_of_getElem? hget)) h
  have hS : ∀ g ∈ fs, g ∈ (Sender.superframeOf h hwithin
      (Sender.ofNumber scfg (0 + UInt16.ofNat k)) args).fragments := by
    intro g hg
    obtain ⟨clk', aData', args', hget', -, hg⟩ := hcut g hg
    rw [hget, Option.some.injEq] at hget'
    cases hget'
    rwa [Sender.fragments_superframeOf]
  obtain ⟨hno, hstream, hflags, hcarries⟩ := hdelivered.of_superframe hS
  refine ⟨k, clk, aData, args, hget, ?_, hstream, hflags,
    fun hbroken => (hcarries hbroken).restores⟩
  exact hno.trans (UInt16.zero_add _)

/-- Whatever the network does with the packets of a sender that has not used a
number twice, every frame that is delivered has the number, the stream and the
flags of a superframe that was sent, and if it is not broken its data and the
rest of its metadata as well. -/
theorem delivered_was_sent (B : BufferSize) (scfg : SenderConfig) (rcfg : ReceiverConfig)
    (es : List NetworkEvent)
    (hcount : ((Sender.new scfg).successes scfg (senderCalls es)).length ≤ 65536)
    (hle : ∀ e ∈ senderCalls es, Sender.WithinEstimate scfg e) :
    ∀ d ∈ Receiver.deliveries ((machine B scfg rcfg).run (new B scfg) es).2,
      ∃ k clk aData args,
        ((Sender.new scfg).successes scfg (senderCalls es))[k]? = some (.send clk aData args) ∧
          d.frame.mSuperFrameNo = UInt16.ofNat k ∧ d.frame.mStreamId = args.aStreamId ∧
          d.frame.mFlags = args.aFlags &&& 0xF0 ∧
          (d.frame.mBroken = false → d.frame.Restores aData args) :=
  fun _ hd => was_sent_of_delivered hcount hle hd

/-- Two superframes, whose packets arrive backwards, one of them twice, with the
second superframe in between. -/
def crossedRun : List NetworkEvent :=
  [.sender (.send (Sample.clockAt 0) Sample.payload Sample.sendArgs), .packet Sample.env 2 0,
    .packet Sample.env 1 0, .sender (Sample.sendAt 0 10), .packet Sample.env 3 0,
    .packet Sample.env 1 0, .packet Sample.env 0 0, .pass Sample.clk]

theorem delivered_was_sent_crossedRun :
    let delivered := Receiver.deliveries ((machine .default Sample.eighthCfg {}).run
      (new .default Sample.eighthCfg) crossedRun).2
    delivered.length = 2 ∧ ∀ d ∈ delivered, ∃ k clk aData args,
      ((Sender.new Sample.eighthCfg).successes Sample.eighthCfg (senderCalls crossedRun))[k]? =
          some (.send clk aData args) ∧
        d.frame.mSuperFrameNo = UInt16.ofNat k ∧ d.frame.mStreamId = args.aStreamId ∧
        d.frame.mFlags = args.aFlags &&& 0xF0 ∧
        (d.frame.mBroken = false → d.frame.Restores aData args) := by
  refine ⟨by decide +kernel,
    delivered_was_sent .default Sample.eighthCfg {} crossedRun (by decide +kernel) ?_⟩
  intro e he
  simp only [senderCalls, crossedRun, List.filterMap_cons, List.filterMap_nil, List.mem_cons,
    List.not_mem_nil, or_false] at he
  rcases he with rfl | rfl
  · exact fun _ => by decide +kernel
  · exact fun _ => by decide +kernel

end Network

end ElasticFrame
