import ElasticFrame.CApi.Legacy
import ElasticFrame.CApi.Sections
import ElasticFrame.Transfer.Exchange

/-!
The C interface from end to end. What is put together with
`efp_add_embedded_data` and handed to `efp_sender_send` comes out of the
callbacks of a receiver at the other end of a network that reorders and repeats
packets: for each send its sections and its payload, once and undamaged.
-/

namespace ElasticFrame

open Lib Buffer

namespace CApi

/-- What is sent in one call: a payload, and the sections in front of it, which
the flag tells of. -/
structure Item where
  clk : SendClock
  sections : List EmbeddedSection
  payload : List UInt8
  buffer : List UInt8
  args : SendArgs
  built : (sections = [] ∧ buffer = payload ∧ args.aFlags &&& flagInlinePayload = 0) ∨
    (Builds payload sections buffer ∧ args.aFlags &&& flagInlinePayload ≠ 0)

namespace Item

def call {κ : Type*} (item : Item) : SenderCall κ := .send item.clk item.buffer item.args

def send (item : Item) : ElasticFrame.SenderCall := .send item.clk item.buffer item.args

/-- What the callbacks are to be handed, in order. -/
def handed (item : Item) (aSourceId : UInt8) : List Handed :=
  item.sections.map (fun s => .embedded s.data s.type item.args.aPts) ++
    [.receive item.payload item.args.aPayloadType false item.args.aPts
      (sentDts item.args.aPts item.args.aDts) item.args.aPayloadCode item.args.aStreamId aSourceId
      (item.args.aFlags &&& 0xF0)]

end Item

/-- A receiver that puts out, for each frame, what its callbacks are handed. The
bytes of a frame that nothing has been written to are those of `heap`. -/
def ReceiverObject.machine (heap : Delivery .default → ℕ → UInt8) :
    Machine ReceiverObject Event (List Handed) where
  step apReceiver e :=
    let handled := apReceiver.event e
    (handled.1, handled.2.map fun d =>
      (receiveCallbackWrapper (some apReceiver.callbacks) (heap d) (some d.frame)).map
        (CallbackCall.handed (d.frame.byte (heap d))))

/-! ### The two ends -/

theorem run_items {κ : Type*} {h : EfpSender κ} {mpCallback : κ}
    (hcallback : h.mCallback = some mpCallback) (items : List Item) :
    ((machine κ).run h (items.map Item.call)).2.flatten =
      ((Sender.machine (senderConfig h.mMtu)).run h.mpSender (items.map Item.send)).2.map
        fun p => (mpCallback, p) := by
  induction items generalizing h with
  | nil => rfl
  | cons item items ih =>
      have hwrapper : h.wrapper = fun p => some (mpCallback, p) := by
        funext p
        rw [EfpSender.wrapper, hcallback]
        rfl
      have hpackets : ((machine κ).step h item.call).2.flatten =
          ((Sender.machine (senderConfig h.mMtu)).step h.mpSender item.send).2.map
            fun p => (mpCallback, p) := by
        simp only [machine, Item.call, EfpSender.send, hwrapper]
        rw [show (fun p : Packet => some (mpCallback, p)) = some ∘ fun p => (mpCallback, p) from rfl,
          List.filterMap_eq_map]
        split_ifs with hnil
        · exact hnil.symm
        · exact List.flatten_singleton
      rw [List.map_cons, List.map_cons, Machine.run_cons, Machine.run_cons, List.flatten_append,
        List.map_append, hpackets]
      exact congrArg (_ ++ ·) (ih (h := ((machine κ).step h item.call).1) hcallback)

/-- A receiver hands to its callbacks the frames that its `Receiver` delivers. -/
theorem run_receiverObject (heap : Delivery .default → ℕ → UInt8) (apReceiver : ReceiverObject)
    (es : List Event) :
    ((ReceiverObject.machine heap).run apReceiver es).2 =
      (Receiver.deliveries ((Receiver.machine .default apReceiver.cfg).run apReceiver.mpReceiver
          (es.flatMap (Event.calls apReceiver.cfg))).2).map fun d =>
        (receiveCallbackWrapper (some apReceiver.callbacks) (heap d) (some d.frame)).map
          (CallbackCall.handed (d.frame.byte (heap d))) := by
  rw [← Receiver.system_run]
  induction es generalizing apReceiver with
  | nil => rfl
  | cons e es ih =>
      rw [Machine.run_cons, Machine.run_cons, Receiver.deliveries_append, List.map_append, ih]
      rfl

theorem Builds.ne_nil {payload buffer : List UInt8} {sections : List EmbeddedSection}
    (h : Builds payload sections buffer) : sections ≠ [] := by
  cases h with
  | last => exact List.cons_ne_nil _ _
  | cons => exact List.cons_ne_nil _ _

theorem handed_of_restores {item : Item} {f : SuperFrame} {aSourceId : UInt8}
    (h : f.Restores item.buffer item.args) (hsource : f.mSourceId = aSourceId)
    (heap : ℕ → UInt8) :
    (receiveCallbackWrapper (some ⟨true, true⟩) heap (some f)).map
        (CallbackCall.handed (f.byte heap)) = item.handed aSourceId := by
  obtain ⟨hsize, hholds⟩ := holds_byte h.data heap
  have hflag : f.mFlags &&& flagInlinePayload = item.args.aFlags &&& flagInlinePayload := by
    rw [h.mFlags, UInt8.and_assoc]
    rfl
  -- the loop finds the sections, and behind them the payload
  have hparsed : ∃ parsed : List CallbackCall × ℕ,
      (if (⟨true, true⟩ : EfpReceiver).mEmbeddedCallback = true ∧
          f.mFlags &&& flagInlinePayload ≠ 0 ∧ f.mBroken = false then
        embeddedLoop (f.byte heap) f.mSize f.mPts 0 else ([], 0)) = parsed ∧
      parsed.1.map (CallbackCall.handed (f.byte heap)) =
        item.sections.map (fun s => .embedded s.data s.type item.args.aPts) ∧
      Holds (f.byte heap) parsed.2 item.payload ∧ f.mSize = parsed.2 + item.payload.length := by
    refine ⟨_, rfl, ?_⟩
    rw [hflag]
    rcases item.built with ⟨hnone, hbuffer, hplain⟩ | ⟨hbuilt, hinline⟩
    · rw [if_neg fun hboth => hboth.2.1 hplain, hnone, ← hbuffer]
      exact ⟨rfl, hholds, hsize.trans (Nat.zero_add _).symm⟩
    · rw [if_pos ⟨rfl, hinline, h.mBroken⟩, ← h.mPts]
      rw [hbuilt.eq_chain] at hholds hsize
      exact embeddedLoop_chain f.mPts hbuilt.ne_nil hholds (hsize.trans (Nat.zero_add _).symm)
  obtain ⟨parsed, heq, hcalls, hpayload, hrest⟩ := hparsed
  have hmain : region (f.byte heap) parsed.2 (sizeSub f.mSize parsed.2) = item.payload := by
    rw [sizeSub_of_le (by omega), show f.mSize - parsed.2 = item.payload.length by omega]
    exact hpayload
  simp only [receiveCallbackWrapper, Bool.true_eq_false, if_false] at heq ⊢
  rw [heq, List.map_append, hcalls, List.map_singleton, CallbackCall.handed, hmain, h.mBroken,
    h.mPayloadType, h.mPts, h.mDts, h.mPayloadCode, h.mStreamId, h.mFlags, hsource]
  rfl

/-! ### The session -/

theorem successes_items {cfg : SenderConfig} {items : List Item}
    (hsend : ∀ item ∈ items, Sender.Sendable cfg item.buffer) (s : Sender) :
    s.successes cfg (items.map Item.send) = items.map Item.send := by
  induction items generalizing s with
  | nil => rfl
  | cons item items ih =>
      have hok : s.Succeeds cfg item.send :=
        (Sender.send_ok_iff cfg item.clk s item.buffer item.args).mpr
          (hsend item List.mem_cons_self)
      rw [List.map_cons, Sender.successes, Machine.flatten, if_pos hok, List.singleton_append]
      exact congrArg (item.send :: ·) (ih (fun i hi => hsend i (List.mem_cons_of_mem _ hi)) _)

theorem handsOver_calls {packets : List Packet} {aSourceId : UInt8} {cfg : ReceiverConfig}
    {es : List Event}
    (hwire : ∀ env clk data src, .receive env clk data src ∈ es →
      src = aSourceId ∧ (∀ i, env.memalign i = true) ∧ ∃ p ∈ packets, p.data = data) :
    ∀ c ∈ es.flatMap (Event.calls cfg), HandsOver packets aSourceId c := by
  intro c hc
  obtain ⟨e, he, hc⟩ := List.mem_flatMap.mp hc
  cases c with
  | pass clk => exact .pass clk
  | packet env data src =>
      cases e with
      | receive env' clk data' src' =>
          obtain ⟨hsource, halloc, p, hp, hdata⟩ := hwire env' clk data' src' he
          rw [Event.calls] at hc
          rcases List.mem_cons.mp hc with heq | hc
          · cases heq
            rw [hsource, ← hdata]
            exact .packet halloc hp
          · split_ifs at hc <;> simp at hc
      | poll clk =>
          rw [Event.calls] at hc
          split_ifs at hc <;> simp at hc
      | worker clk =>
          rw [Event.calls] at hc
          split_ifs at hc <;> simp at hc

/-- Frames that the callbacks are handed as the items they come from, whatever is
in memory that has not been written, come out as these. -/
theorem handed_perm {ds : List (Delivery .default)} {frames : List SuperFrame} {items : List Item}
    {aSourceId : UInt8} (hperm : (ds.map Delivery.frame).Perm frames)
    (hhanded : List.Forall₂ (fun frame item => ∀ heap,
      (receiveCallbackWrapper (some ⟨true, true⟩) heap (some frame)).map
        (CallbackCall.handed (frame.byte heap)) = Item.handed item aSourceId) frames items)
    (heap : Delivery .default → ℕ → UInt8) :
    (ds.map fun d => (receiveCallbackWrapper (some ⟨true, true⟩) (heap d) (some d.frame)).map
        (CallbackCall.handed (d.frame.byte (heap d)))).Perm
      (items.map fun item => item.handed aSourceId) := by
  set out : (ℕ → UInt8) → SuperFrame → List Handed := fun heap frame =>
    (receiveCallbackWrapper (some ⟨true, true⟩) heap (some frame)).map
      (CallbackCall.handed (frame.byte heap))
  have hsame : ∀ frame ∈ frames, ∀ heap heap', out heap frame = out heap' frame := by
    clear hperm
    induction hhanded with
    | nil => exact fun _ hf => absurd hf List.not_mem_nil
    | cons h _ ih =>
        intro frame hf heap heap'
        rcases List.mem_cons.mp hf with rfl | hf
        · exact (h heap).trans (h heap').symm
        · exact ih frame hf heap heap'
  have hout : (ds.map fun d => out (heap d) d.frame) =
      (ds.map Delivery.frame).map (out fun _ => 0) := by
    rw [List.map_map]
    apply List.map_congr_left
    intro d hd
    exact hsame d.frame (hperm.subset (List.mem_map_of_mem hd)) _ _
  have hitems : frames.map (out fun _ => 0) = items.map fun item => item.handed aSourceId := by
    rw [← List.forall₂_eq_eq_eq, List.forall₂_map_left_iff, List.forall₂_map_right_iff]
    exact hhanded.imp fun _ _ h => h _
  change (ds.map fun d => out (heap d) d.frame).Perm _
  rw [hout, ← hitems]
  exact hperm.map _

/-- Up to 8192 items are sent through a handle, and every packet that the
callback is called with is handed to a receiver at least once, in any order and
any number of times, with polls or passes in between at which nothing has
expired. When a last poll or pass has been made, the callbacks of the receiver
have been handed, for each item, its sections and then its payload with the
metadata, and nothing else. -/
theorem session_handed {κ : Type*} (aMtu : UInt16) (mpCallback : κ) (items : List Item)
    (aTimeoutMs aHolTimeoutMs aMode : UInt32) (heap : Delivery .default → ℕ → UInt8)
    {lpReceiver : ReceiverObject}
    (hcreate : efpReceiverCreate aTimeoutMs aHolTimeoutMs aMode true = some lpReceiver)
    (es : List Event) (final : Event) {last : PassClock} (aSourceId : UInt8)
    (hsend : ∀ item ∈ items, Sender.Sendable (senderConfig aMtu) item.buffer ∧
      Sender.estimate (senderConfig aMtu) item.buffer.length ≤ maxSuperframeSize)
    (hcount : items.length ≤ 8192) :
    let cfg := receiverConfig aTimeoutMs aHolTimeoutMs aMode
    let wire := ((machine κ).run ((EfpSender.create aMtu).setCallback (some mpCallback))
      (items.map Item.call)).2.flatten
    (∀ env clk data src, .receive env clk data src ∈ es →
      src = aSourceId ∧ (∀ i, env.memalign i = true) ∧ ∃ p ∈ wire, p.2.data = data) →
    (∀ p ∈ wire, ∃ env clk, .receive env clk p.2.data aSourceId ∈ es) →
    final.calls cfg = [.pass last] →
    (∀ k < items.length, (Receiver.machine .default cfg).Along
      (Receiver.Unexpired cfg (UInt16.ofNat k)) (Receiver.fresh .default)
        (es.flatMap (Event.calls cfg) ++ [.pass last])) →
    ((ReceiverObject.machine heap).run
        ((lpReceiver.setCallback true).setEmbeddedCallback true) (es ++ [final])).2.Perm
      (items.map fun item => item.handed aSourceId) := by
  intro cfg wire hwire hall hlast hunexpired
  have hreceiver : lpReceiver = ⟨Receiver.fresh .default, cfg, ⟨false, false⟩⟩ := by
    rw [efpReceiverCreate] at hcreate
    split_ifs at hcreate
    exact (Option.some.inj hcreate).symm
  set packets := ((Sender.machine (senderConfig aMtu)).run (Sender.new (senderConfig aMtu))
    (items.map Item.send)).2 with hpackets
  have hwired : wire = packets.map fun p => (mpCallback, p) :=
    run_items (h := (EfpSender.create aMtu).setCallback (some mpCallback)) rfl items
  have hwithin : ∀ e ∈ items.map Item.send, Sender.WithinEstimate (senderConfig aMtu) e := by
    intro e he
    obtain ⟨item, hitem, rfl⟩ := List.mem_map.mp he
    exact fun _ => (hsend item hitem).2
  have hships : Sender.Ships (senderConfig aMtu) 0
      ((Sender.new (senderConfig aMtu)).successes (senderConfig aMtu) (items.map Item.send))
      packets := Sender.ships_single rfl hwithin
  rw [successes_items (fun item hitem => (hsend item hitem).1)] at hships
  have hcs : ∀ c ∈ es.flatMap (Event.calls cfg), HandsOver packets aSourceId c := by
    apply handsOver_calls
    intro env clk data src he
    obtain ⟨hsource, halloc, q, hq, hdata⟩ := hwire env clk data src he
    rw [hwired] at hq
    obtain ⟨p, hp, rfl⟩ := List.mem_map.mp hq
    exact ⟨hsource, halloc, p, hp, hdata⟩
  have hcovered : ∀ p ∈ packets, ∃ env, .packet env p.data aSourceId ∈
      es.flatMap (Event.calls cfg) := by
    intro p hp
    obtain ⟨env, clk, he⟩ := hall (mpCallback, p) (hwired ▸ List.mem_map_of_mem hp)
    exact ⟨env, List.mem_flatMap.mpr ⟨_, he, List.mem_cons_self⟩⟩
  have hsends : ∀ e ∈ items.map Item.send, ∃ clk aData args, e = .send clk aData args ∧
      Sender.Sendable (senderConfig aMtu) aData ∧
        Sender.estimate (senderConfig aMtu) aData.length ≤ maxSuperframeSize := by
    intro e he
    obtain ⟨item, hitem, rfl⟩ := List.mem_map.mp he
    exact ⟨_, _, _, rfl, hsend item hitem⟩
  have hlength : (items.map Item.send).length = items.length := List.length_map _
  rw [← hlength] at hcount hunexpired
  have hspan : (items.map Item.send).length ≤ min (BufferSize.default.mask + 1) (2 ^ 15) :=
    hcount.trans (by decide)
  obtain ⟨frames, hperm, hrestores⟩ :=
    Network.delivered_of_covered hships hspan hsends hcs (Network.covered_of_ships hships hcovered)
      hunexpired
  -- every frame that was sent comes out as its item
  have hhanded : List.Forall₂ (fun frame item => ∀ heap,
      (receiveCallbackWrapper (some ⟨true, true⟩) heap (some frame)).map
        (CallbackCall.handed (frame.byte heap)) = Item.handed item aSourceId) frames items := by
    rw [List.forall₂_map_right_iff] at hrestores
    refine hrestores.imp ?_
    rintro frame item ⟨clk, aData, args, heq, hframe, hsource⟩ heap
    cases heq
    exact handed_of_restores hframe hsource heap
  rw [run_receiverObject, List.flatMap_append, List.flatMap_singleton, hreceiver]
  change (List.map _ (Receiver.deliveries ((Receiver.machine .default cfg).run
    (Receiver.fresh .default) (es.flatMap (Event.calls cfg) ++ final.calls cfg)).2)).Perm _
  rw [hlast]
  exact handed_perm hperm hhanded heap

namespace Sample

def longPayload : List UInt8 := List.replicate 300 7

/-- A section of three bytes in front of a payload that takes two packets. -/
def sectionItem : Item where
  clk := ElasticFrame.Sample.clockAt 0
  sections := [⟨5, [1, 2, 3], by decide, by decide, by decide⟩]
  payload := longPayload
  buffer := (efpAddEmbeddedData (some (List.replicate 306 0)) (some [1, 2, 3]) (some longPayload)
    3 longPayload.length 5 1).2
  args := { ElasticFrame.Sample.sendArgs with aFlags := flagInlinePayload }
  built := by
    refine .inr ⟨.last (List.prefix_refl _) (List.prefix_refl _) ?_ (by decide), by decide⟩
    have hlong : longPayload.length = 300 := List.length_replicate
    rw [hlong, List.length_replicate]
    rfl

def plainItem : Item where
  clk := ElasticFrame.Sample.clockAt 0
  sections := []
  payload := [9]
  buffer := [9]
  args := ElasticFrame.Sample.sendArgs
  built := .inl ⟨rfl, rfl, rfl⟩

def wire : List (Unit × Packet) :=
  ((machine Unit).run ((EfpSender.create 256).setCallback (some ()))
    ([sectionItem, plainItem].map Item.call)).2.flatten

def arrivals : List Event :=
  (wire.reverse ++ wire.reverse).map fun p =>
    .receive ElasticFrame.Sample.env ElasticFrame.Sample.clk p.2.data 0

end Sample

theorem session_handed_arrivals :
    ((ReceiverObject.machine fun _ _ => 0).run
        ⟨Receiver.fresh .default, receiverConfig 100 0 efpModeRunToCompletion, ⟨true, true⟩⟩
        (Sample.arrivals ++ [.poll ElasticFrame.Sample.clk])).2.Perm
      [[.embedded [1, 2, 3] 5 0,
          .receive Sample.longPayload 0 false 0 0 0 1 0 flagInlinePayload],
        [.receive [9] 0 false 0 0 0 1 0 0]] := by
  have hmem : ∀ q, q ∈ Sample.wire.reverse ++ Sample.wire.reverse ↔ q ∈ Sample.wire := by
    simp
  refine session_handed 256 () [Sample.sectionItem, Sample.plainItem] 100 0
    efpModeRunToCompletion (fun _ _ => 0) rfl Sample.arrivals (.poll ElasticFrame.Sample.clk) 0
    (by decide +kernel) (by decide) ?_ ?_ rfl (by decide +kernel)
  · intro env clk data src he
    obtain ⟨q, hq, heq⟩ := List.mem_map.mp he
    cases heq
    exact ⟨rfl, fun _ => rfl, q, (hmem q).mp hq, rfl⟩
  · intro q hq
    exact ⟨_, _, List.mem_map_of_mem ((hmem q).mpr hq)⟩

end CApi

end ElasticFrame
