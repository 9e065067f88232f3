import ElasticFrame.Transfer.Session
import ElasticFrame.Lib.Groups

/-!
A whole session over the network. A sender that does not bundle, or is not
asked for anything again, puts out packets of one superframe each, so a receiver
that gets every packet at least once, in whatever order, delivers every
superframe exactly once. A packet that is lost and sent again has been got.
-/

namespace ElasticFrame

open Lib

/-! ### A sender that nothing is asked of -/

def StoreCall.Asks : StoreCall → Prop
  | .request _ _ => True
  | .evict _ | .retain .. | .take => False

namespace Retention

variable {cfg : SenderConfig}

theorem mRetransmitQueue_after {calls : List StoreCall} (hcalls : ∀ call ∈ calls, ¬ call.Asks)
    {s : Retention} (hqueue : s.mRetransmitQueue = []) :
    (s.after cfg calls).mRetransmitQueue = [] := by
  induction calls generalizing s with
  | nil => exact hqueue
  | cons call calls ih =>
      rw [after_cons]
      apply ih fun call hcall => hcalls call (List.mem_cons_of_mem _ hcall)
      have hasks := hcalls call List.mem_cons_self
      cases call with
      | evict lNow => exact (mRetransmitQueue_evictLoop ..).trans hqueue
      | retain => exact (mRetransmitQueue_retainFragment ..).trans hqueue
      | request => exact absurd trivial hasks
      | take =>
          have htake : s.take = (s, none) := by rw [take, hqueue]
          simp only [machine, htake, hqueue]

end Retention

namespace Sender

variable {cfg : SenderConfig}

theorem not_asks_type1Calls (clk : SendClock) (o : Outgoing) (apData : List UInt8)
    (count lFragNo : ℕ) : ∀ call ∈ type1Calls clk o apData count lFragNo, ¬ call.Asks := by
  intro call hcall
  obtain ⟨k, -, rfl⟩ := List.mem_map.mp hcall
  exact id

theorem not_asks_takeCalls (s : Sender) (room : ℕ) :
    ∀ call ∈ s.takeCalls room, ¬ call.Asks := by
  intro call hcall
  rw [takeCalls] at hcall
  split_ifs at hcall
  · rw [List.mem_singleton.mp hcall]
    exact id
  · exact absurd hcall List.not_mem_nil

theorem not_asks_bundleCalls (clk : SendClock) (o : Outgoing) (apData : List UInt8)
    (n lFragIdx : ℕ) (s : Sender) :
    ∀ call ∈ bundleCalls cfg clk o apData n lFragIdx s, ¬ call.Asks := by
  induction lFragIdx, s using bundleCalls.induct cfg clk o apData n with
  | case1 lFragIdx s h sent ih =>
      intro call hcall
      rw [bundleCalls, dif_pos h] at hcall
      rcases List.mem_append.mp hcall with hcall | hcall
      · exact not_asks_takeCalls s _ call hcall
      · rcases List.mem_append.mp hcall with hcall | hcall
        · exact not_asks_type1Calls _ _ _ _ _ call hcall
        · exact ih call hcall
  | case2 lFragIdx s h =>
      intro call hcall
      rw [bundleCalls, dif_neg h] at hcall
      exact absurd hcall List.not_mem_nil

theorem not_asks_tailCalls (clk : SendClock) (o : Outgoing) (apData : List UInt8)
    (p : Packetization) : ∀ call ∈ tailCalls clk o apData p, ¬ call.Asks := by
  intro call hcall
  rw [tailCalls] at hcall
  rcases List.mem_append.mp hcall with hcall | hcall
  · split_ifs at hcall
    · rw [List.mem_singleton.mp hcall]
      exact id
    · exact absurd hcall List.not_mem_nil
  · rw [List.mem_singleton.mp hcall]
    exact id

theorem not_asks_sendCalls (clk : SendClock) (s : Sender) (aData : List UInt8) (args : SendArgs) :
    ∀ call ∈ s.sendCalls cfg clk aData args, ¬ call.Asks := by
  intro call hcall
  rw [sendCalls] at hcall
  by_cases hrefused : aData = [] ∨ aData.length > maxSuperframeSize
  · rw [if_pos hrefused] at hcall
    exact absurd hcall List.not_mem_nil
  rw [if_neg hrefused] at hcall
  rcases List.mem_append.mp hcall with hcall | hcall
  · split_ifs at hcall
    · rw [List.mem_singleton.mp hcall]
      exact id
    · exact absurd hcall List.not_mem_nil
  · split_ifs at hcall
    · rw [superframeCalls] at hcall
      rcases List.mem_append.mp hcall with hcall | hcall
      · split_ifs at hcall
        · exact not_asks_type1Calls _ _ _ _ _ call hcall
        · exact not_asks_bundleCalls _ _ _ _ _ _ call hcall
      · exact not_asks_tailCalls _ _ _ _ call hcall
    · exact absurd hcall List.not_mem_nil

def AsksNothing : SenderCall → Prop
  | .send _ _ _ | .processRetransmits _ => True
  | .receiveNack _ => False

theorem processRetransmits_of_queue {s : Sender} (hqueue : s.retention.mRetransmitQueue = [])
    (aMaxCount : ℕ) : s.processRetransmits aMaxCount = (s, []) := by
  rw [processRetransmits, hqueue]
  rfl

theorem mRetransmitQueue_step {s : Sender} (hqueue : s.retention.mRetransmitQueue = [])
    {e : SenderCall} (he : AsksNothing e) :
    ((Sender.machine cfg).step s e).1.retention.mRetransmitQueue = [] := by
  cases e with
  | send clk aData args =>
      rw [step_retention]
      exact Retention.mRetransmitQueue_after (not_asks_sendCalls clk s aData args) hqueue
  | receiveNack aData => exact absurd he id
  | processRetransmits aMaxCount =>
      simp only [Sender.machine, processRetransmits_of_queue hqueue, hqueue]

/-! ### What it sends -/

theorem superframeOf_congr {aData : List UInt8} (h : Sendable cfg aData)
    (hle : estimate cfg aData.length ≤ maxSuperframeSize) {s s' : Sender}
    (hno : s.mSuperFrameNo = s'.mSuperFrameNo) (args : SendArgs) :
    superframeOf h hle s args = superframeOf h hle s' args := by
  simp only [superframeOf, planned_congr hno, hno]

/-- The `k`th of the superframes, which are numbered from `n` on. -/
inductive Sent (cfg : SenderConfig) (n : UInt16) (sends : List SenderCall) (k : ℕ) :
    Superframe → Prop
  | intro {clk : SendClock} {aData : List UInt8} {args : SendArgs}
      (get : sends[k]? = some (.send clk aData args)) (h : Sendable cfg aData)
      (hle : estimate cfg aData.length ≤ maxSuperframeSize) :
      Sent cfg n sends k (superframeOf h hle (ofNumber cfg (n + UInt16.ofNat k)) args)

theorem Sent.append {n : UInt16} {sends later : List SenderCall} {k : ℕ} {S : Superframe}
    (h : Sent cfg (n + UInt16.ofNat sends.length) later k S) :
    Sent cfg n (sends ++ later) (sends.length + k) S := by
  cases h with
  | @intro clk aData args get h hle =>
      have hget : (sends ++ later)[sends.length + k]? = some (.send clk aData args) := by
        rw [List.getElem?_append_right (Nat.le_add_right _ _), Nat.add_sub_cancel_left, get]
      have hsent := Sent.intro (n := n) hget h hle
      rwa [UInt16.ofNat_add, ← UInt16.add_assoc] at hsent

theorem Sent.unique {n : UInt16} {sends : List SenderCall} {k : ℕ} {S S' : Superframe}
    (h : Sent cfg n sends k S) (h' : Sent cfg n sends k S') : S = S' := by
  cases h with
  | intro get =>
      cases h' with
      | intro get' =>
          rw [get, Option.some.injEq] at get'
          cases get'
          rfl

theorem Sent.mSuperFrameNo {n : UInt16} {sends : List SenderCall} {k : ℕ} {S : Superframe}
    (h : Sent cfg n sends k S) : S.mSuperFrameNo = n + UInt16.ofNat k := by
  cases h
  rfl

theorem sendable_of_mem_successes {s : Sender} {es : List SenderCall} {e : SenderCall}
    (h : e ∈ s.successes cfg es) : ∃ clk aData args, e = .send clk aData args ∧
      Sendable cfg aData := by
  refine (Sender.machine cfg).forall_flatten (P := fun e => ∃ clk aData args,
    e = .send clk aData args ∧ Sendable cfg aData) (fun s e' he' e he => ?_) s e h
  by_cases hok : s.Succeeds cfg e'
  · rw [if_pos hok] at he
    obtain rfl := List.mem_singleton.mp he
    cases e with
    | send clk aData args =>
        exact ⟨clk, aData, args, rfl, (send_ok_iff cfg clk s aData args).mp hok⟩
    | receiveNack aData => exact absurd hok id
    | processRetransmits aMaxCount => exact absurd hok id
  · rw [if_neg hok] at he
    exact absurd he List.not_mem_nil

theorem Sent.lt {n : UInt16} {sends : List SenderCall} {k : ℕ} {S : Superframe}
    (h : Sent cfg n sends k S) : k < sends.length := by
  cases h with
  | intro get => exact (List.getElem?_eq_some_iff.mp get).1

/-- Every fragment of each of the superframes is in a packet. -/
def Covers (cfg : SenderConfig) (n : UInt16) (sends : List SenderCall) (packets : List Packet) :
    Prop :=
  ∀ k S, Sent cfg n sends k S → ∀ f ∈ S.fragments, ∃ p ∈ packets, f ∈ fragmentsIn p.data

/-- And every packet carries one of them. -/
structure Ships (cfg : SenderConfig) (n : UInt16) (sends : List SenderCall)
    (packets : List Packet) : Prop where
  carried : ∀ p ∈ packets, ∃ k S, Sent cfg n sends k S ∧ S.Carried p.data
  covers : Covers cfg n sends packets

theorem covers_nil (cfg : SenderConfig) (n : UInt16) (packets : List Packet) :
    Covers cfg n [] packets := fun _ _ hS => absurd hS.lt (Nat.not_lt_zero _)

theorem Covers.append {n : UInt16} {sends later : List SenderCall} {packets rest : List Packet}
    (h : Covers cfg n sends packets)
    (hlater : Covers cfg (n + UInt16.ofNat sends.length) later rest) :
    Covers cfg n (sends ++ later) (packets ++ rest) := by
  intro k S hS f hf
  cases hS with
  | @intro clk aData args get hsendable hle =>
      by_cases hlt : k < sends.length
      · rw [List.getElem?_append_left hlt] at get
        obtain ⟨p, hp, hmem⟩ := h k _ (.intro get hsendable hle) f hf
        exact ⟨p, List.mem_append_left _ hp, hmem⟩
      · rw [List.getElem?_append_right (not_lt.mp hlt)] at get
        have hsent := Sent.intro (n := n + UInt16.ofNat sends.length) get hsendable hle
        rw [UInt16.add_assoc, ← UInt16.ofNat_add, Nat.add_sub_cancel' (not_lt.mp hlt)] at hsent
        obtain ⟨p, hp, hmem⟩ := hlater _ _ hsent f hf
        exact ⟨p, List.mem_append_right _ hp, hmem⟩

theorem ships_nil (cfg : SenderConfig) (n : UInt16) : Ships cfg n [] [] where
  carried _ hp := absurd hp List.not_mem_nil
  covers := covers_nil cfg n []

theorem Ships.append {n : UInt16} {sends later : List SenderCall} {packets rest : List Packet}
    (h : Ships cfg n sends packets)
    (hlater : Ships cfg (n + UInt16.ofNat sends.length) later rest) :
    Ships cfg n (sends ++ later) (packets ++ rest) := by
  refine ⟨fun p hp => ?_, h.covers.append hlater.covers⟩
  rcases List.mem_append.mp hp with hp | hp
  · obtain ⟨k, S, hS, hcarried⟩ := h.carried p hp
    cases hS with
    | @intro clk aData args get hsendable hle =>
        have hget : (sends ++ later)[k]? = some (.send clk aData args) := by
          rw [List.getElem?_append_left (List.getElem?_eq_some_iff.mp get).1]
          exact get
        exact ⟨k, _, .intro hget hsendable hle, hcarried⟩
  · obtain ⟨k, S, hS, hcarried⟩ := hlater.carried p hp
    exact ⟨_, S, hS.append, hcarried⟩

theorem sent_planned {clk : SendClock} {aData : List UInt8} {args : SendArgs}
    (h : Sendable cfg aData) (hle : WithinEstimate cfg (.send clk aData args)) (s : Sender) :
    Sent cfg s.mSuperFrameNo [.send clk aData args] 0
      (superframeOf h (hle h) (s.evicted cfg clk) args) := by
  have hnumber : (s.evicted cfg clk).mSuperFrameNo =
      (ofNumber cfg (s.mSuperFrameNo + UInt16.ofNat 0)).mSuperFrameNo :=
    (mSuperFrameNo_evicted clk s).trans (UInt16.add_zero _).symm
  rw [superframeOf_congr h (hle h) hnumber]
  exact .intro rfl h (hle h)

/-! ### Nothing sent again -/

theorem ships_step {s : Sender} (hqueue : s.retention.mRetransmitQueue = []) {e : SenderCall}
    (he : AsksNothing e) (hle : WithinEstimate cfg e) :
    Ships cfg s.mSuperFrameNo (if s.Succeeds cfg e then [e] else [])
      ((Sender.machine cfg).step s e).2 := by
  cases e with
  | receiveNack aData => exact absurd he id
  | processRetransmits aMaxCount =>
      simp only [Sender.machine, processRetransmits_of_queue hqueue]
      have hfails : ¬ s.Succeeds cfg (.processRetransmits aMaxCount) := id
      rw [if_neg hfails]
      exact ships_nil cfg _
  | send clk aData args =>
      simp only [Sender.machine]
      rcases send_cases cfg clk s aData args with ⟨h, hsend⟩ | ⟨h, res, -, hsend⟩
      · have hsucceeds : s.Succeeds cfg (.send clk aData args) :=
          (send_ok_iff cfg clk s aData args).mpr h
        have hemitted := emitted_sendPlanned h (hle h) clk (s.evicted cfg clk) args
          ((@mRetransmitQueue_evicted cfg clk s).trans hqueue)
        have hsent := sent_planned h hle s
        rw [if_pos hsucceeds, hsend]
        refine ⟨fun p hp => ⟨0, _, hsent, hemitted.carried p hp⟩, fun k S hS f hf => ?_⟩
        obtain rfl : k = 0 := Nat.lt_one_iff.mp hS.lt
        rw [hS.unique hsent] at hf
        exact hemitted.covers f hf
      · have hfails : ¬ s.Succeeds cfg (.send clk aData args) :=
          fun hok => h ((send_ok_iff cfg clk s aData args).mp hok)
        rw [if_neg hfails, hsend]
        exact ships_nil cfg _

/-- The number after an event, from the superframes that it takes. -/
theorem mSuperFrameNo_step_length (s : Sender) (e : SenderCall) :
    ((Sender.machine cfg).step s e).1.mSuperFrameNo =
      s.mSuperFrameNo + UInt16.ofNat (if s.Succeeds cfg e then [e] else []).length := by
  rw [mSuperFrameNo_step]
  split_ifs <;> rfl

theorem ships_run {s : Sender} (hqueue : s.retention.mRetransmitQueue = []) {es : List SenderCall}
    (hasks : ∀ e ∈ es, AsksNothing e) (hle : ∀ e ∈ es, WithinEstimate cfg e) :
    Ships cfg s.mSuperFrameNo (s.successes cfg es) ((Sender.machine cfg).run s es).2 := by
  induction es generalizing s with
  | nil => exact ships_nil cfg _
  | cons e es ih =>
      have hstep := ships_step hqueue (hasks e List.mem_cons_self) (hle e List.mem_cons_self)
      have hnext : ((Sender.machine cfg).step s e).1.retention.mRetransmitQueue = [] :=
        mRetransmitQueue_step hqueue (hasks e List.mem_cons_self)
      have hrest := ih hnext (fun e he => hasks e (List.mem_cons_of_mem _ he))
        (fun e he => hle e (List.mem_cons_of_mem _ he))
      rw [mSuperFrameNo_step_length] at hrest
      exact hstep.append hrest

/-! ### Nothing bundled -/

/-- Without bundles a `send` puts every fragment out, whatever is waiting to be
sent again. -/
theorem covers_step (hsingle : cfg.mSubFragmentMode = .single) (s : Sender) {e : SenderCall}
    (hle : WithinEstimate cfg e) :
    Covers cfg s.mSuperFrameNo (if s.Succeeds cfg e then [e] else [])
      ((Sender.machine cfg).step s e).2 := by
  by_cases hok : s.Succeeds cfg e
  · cases e with
    | receiveNack aData => exact absurd hok id
    | processRetransmits aMaxCount => exact absurd hok id
    | send clk aData args =>
        rcases send_cases cfg clk s aData args with ⟨h, hsend⟩ | ⟨h, -⟩
        · simp only [Sender.machine, if_pos hok, hsend]
          intro k S hS f hf
          obtain rfl : k = 0 := Nat.lt_one_iff.mp hS.lt
          rw [hS.unique (sent_planned h hle s), fragments_superframeOf] at hf
          refine ⟨{ data := f.packet, streamId := args.aStreamId }, ?_, ?_⟩
          · rw [packets_sendPlanned hsingle clk _ h args]
            exact List.mem_map_of_mem hf
          · rw [fragmentsIn_of_ofPacket (Outgoing.ofPacket_superframe hf)]
            exact List.mem_singleton_self f
        · exact absurd ((send_ok_iff cfg clk s aData args).mp hok) h
  · rw [if_neg hok]
    exact covers_nil cfg _ _

theorem covers_run (hsingle : cfg.mSubFragmentMode = .single) (s : Sender) {es : List SenderCall}
    (hle : ∀ e ∈ es, WithinEstimate cfg e) :
    Covers cfg s.mSuperFrameNo (s.successes cfg es) ((Sender.machine cfg).run s es).2 := by
  induction es generalizing s with
  | nil => exact covers_nil cfg _ _
  | cons e es ih =>
      have hrest := ih ((Sender.machine cfg).step s e).1
        (fun e he => hle e (List.mem_cons_of_mem _ he))
      rw [mSuperFrameNo_step_length] at hrest
      exact (covers_step hsingle s (hle e List.mem_cons_self)).append hrest

theorem not_isBundle_run (hsingle : cfg.mSubFragmentMode = .single) (es : List SenderCall) :
    ∀ p ∈ ((Sender.machine cfg).run (Sender.new cfg) es).2, ¬ IsBundle p.data := by
  apply (Sender.machine cfg).run_output (I := fun s => Holds cfg s.retention)
    (C := fun _ _ => True) (P := fun p => ¬ IsBundle p.data)
  · intro s e hs _
    rw [step_retention]
    exact hs.after (makes_storeCalls cfg s e)
  · intro s e hs _ p hp
    cases e with
    | receiveNack aData => exact absurd hp List.not_mem_nil
    | processRetransmits aMaxCount => exact (travels_processRetransmits hs aMaxCount p hp).1
    | send clk aData args =>
        simp only [Sender.machine] at hp
        rcases send_cases cfg clk s aData args with ⟨h, hsend⟩ | ⟨-, res, -, hsend⟩
        · rw [hsend, packets_sendPlanned hsingle clk _ h args] at hp
          obtain ⟨f, hf, rfl⟩ := List.mem_map.mp hp
          exact not_isBundle_of_ofPacket (Outgoing.ofPacket_superframe hf)
        · rw [hsend] at hp
          exact absurd hp List.not_mem_nil
  · exact holds_empty cfg
  · exact (Sender.machine cfg).along_of_forall (fun _ _ _ => trivial) _

/-- The packets of a run without bundles, whatever is asked for again. -/
theorem ships_single (hsingle : cfg.mSubFragmentMode = .single) {es : List SenderCall}
    (hle : ∀ e ∈ es, WithinEstimate cfg e) :
    Ships cfg 0 ((Sender.new cfg).successes cfg es)
      ((Sender.machine cfg).run (Sender.new cfg) es).2 where
  carried p hp := by
    have hframe : p.data ∈ frames p.data := by
      rw [frames_of_not (not_isBundle_run hsingle es p hp)]
      exact List.mem_singleton_self p.data
    obtain ⟨k, f, hcut, hpacket⟩ := frames_cutFrom cfg es p hp p.data hframe
    obtain ⟨clk, aData, args, hget, h, hf⟩ := id hcut
    have hwithin := hle _ (mem_of_mem_successes (List.mem_of_getElem? hget)) h
    refine ⟨k, _, .intro hget h hwithin, ?_⟩
    rw [← hpacket]
    refine .alone ?_ hcut.ofPacket
    rwa [fragments_superframeOf]
  covers := covers_run hsingle (Sender.new cfg) hle

end Sender

/-! ### The session -/

namespace Network

variable {B : BufferSize} {scfg : SenderConfig} {rcfg : ReceiverConfig}

/-- The number of the `k`th superframe lies in the span from 0 on. -/
theorem inSpan_ofNat {k : ℕ} (hk : k < min (B.mask + 1) (2 ^ 15)) :
    B.InSpan 0 (UInt16.ofNat k) := by
  rw [BufferSize.InSpan, UInt16.sub_zero, UInt16.toNat_ofNat_of_lt']
  · exact hk
  · exact lt_of_lt_of_le (lt_of_lt_of_le hk (min_le_right _ _)) (by decide)

theorem ofNat_inj {k k' : ℕ} (hk : k < min (B.mask + 1) (2 ^ 15))
    (hk' : k' < min (B.mask + 1) (2 ^ 15)) (h : UInt16.ofNat k = UInt16.ofNat k') : k = k' := by
  have hlt := lt_of_lt_of_le hk (min_le_right _ _)
  have hlt' := lt_of_lt_of_le hk' (min_le_right _ _)
  exact Sender.number_injective (n := 0) (hlt.trans (by decide)) (hlt'.trans (by decide))
    (congrArg (0 + ·) h)

theorem arrives {sends : List SenderCall} {packets : List Packet}
    (hships : Sender.Ships scfg 0 sends packets)
    (hspan : sends.length ≤ min (B.mask + 1) (2 ^ 15)) {k : ℕ} {S : Superframe}
    (hS : Sender.Sent scfg 0 sends k S) {src : UInt8} {c : Call}
    (hc : HandsOver packets src c) : Receiver.ReadsWithin B 0 c ∧ Receiver.Arrives S src c := by
  cases hc with
  | pass clk => exact ⟨trivial, .pass clk⟩
  | @packet env p halloc hp =>
      obtain ⟨k', S', hS', hcarried⟩ := hships.carried p hp
      have hk := lt_of_lt_of_le hS.lt hspan
      have hk' := lt_of_lt_of_le hS'.lt hspan
      have hread : ∀ f, Receiver.ReadFrom p.data f → f.superFrameNo = UInt16.ofNat k' := by
        intro f hf
        have hmem := hcarried.fragmentsIn f (mem_fragmentsIn.mpr hf)
        rw [S'.superFrameNo f hmem, hS'.mSuperFrameNo, UInt16.zero_add]
      refine ⟨fun f hf => hread f hf ▸ inSpan_ofNat hk', ?_⟩
      by_cases heq : k' = k
      · subst heq
        exact .own halloc (hS.unique hS' ▸ hcarried)
      · refine .other fun f hf hsame => heq (ofNat_inj hk' hk ?_)
        rw [← hread f hf, hsame, hS.mSuperFrameNo, UInt16.zero_add]

theorem handsOver_receiverCalls {es : List NetworkEvent} {aSourceId : UInt8}
    (hsource : ∀ env k src, .packet env k src ∈ es →
      src = aSourceId ∧ ∀ i, env.memalign i = true) (n : Network B) :
    ∀ c ∈ n.receiverCalls scfg rcfg es,
      HandsOver ((machine B scfg rcfg).run n es).1.packets aSourceId c := by
  have hcalls : ∀ c ∈ n.receiverCalls scfg rcfg es, ∀ env aData src,
      c = .packet env aData src → src = aSourceId ∧ ∀ i, env.memalign i = true := by
    apply Machine.forall_flatten
    rintro n e he _ hc env aData src rfl
    cases e with
    | sender e => exact absurd hc List.not_mem_nil
    | packet env' k src' =>
        obtain ⟨p, -, heq⟩ := Option.map_eq_some_iff.mp (Option.mem_toList.mp hc)
        cases heq
        exact hsource env k src he
    | pass clk => cases List.mem_singleton.mp hc
  intro c hc
  cases c with
  | pass clk => exact .pass clk
  | packet env aData src =>
      obtain ⟨rfl, halloc⟩ := hcalls _ hc env aData src rfl
      obtain ⟨p, hp, rfl⟩ := mem_receiverCalls n es hc
      exact .packet halloc hp

/-- All fragments of the session have been handed over. -/
def Covered (scfg : SenderConfig) (sends : List SenderCall) (cs : List Call) : Prop :=
  ∀ k S, Sender.Sent scfg 0 sends k S → ∀ f ∈ S.fragments, f ∈ Receiver.handedOver cs

theorem covered_of_ships {sends : List SenderCall} {packets : List Packet}
    (hships : Sender.Ships scfg 0 sends packets) {cs : List Call} {aSourceId : UInt8}
    (hall : ∀ p ∈ packets, ∃ env, .packet env p.data aSourceId ∈ cs) : Covered scfg sends cs := by
  intro k S hS f hf
  obtain ⟨p, hp, hin⟩ := hships.covers k S hS f hf
  obtain ⟨env, hcall⟩ := hall p hp
  exact List.mem_flatMap.mpr ⟨_, hcall, hin⟩

/-- Whatever comes of a session in a pass at the end of it: one frame for each
superframe. -/
theorem framesOf_session {sends : List SenderCall} {packets : List Packet}
    (hships : Sender.Ships scfg 0 sends packets)
    (hspan : sends.length ≤ min (B.mask + 1) (2 ^ 15)) {cs : List Call} {aSourceId : UInt8}
    (hcs : ∀ c ∈ cs, HandsOver packets aSourceId c) (hcovered : Covered scfg sends cs)
    {last : PassClock} {k : ℕ} {S : Superframe} (hS : Sender.Sent scfg 0 sends k S)
    (hunexpired : (Receiver.machine B rcfg).Along (Receiver.Unexpired rcfg (UInt16.ofNat k))
      (Receiver.fresh B) (cs ++ [.pass last])) :
    ∃ frame, Receiver.framesOf (UInt16.ofNat k)
        ((Receiver.machine B rcfg).run (Receiver.fresh B) (cs ++ [.pass last])).2 = [frame] ∧
      frame.Carries S aSourceId := by
  have hnumber : UInt16.ofNat k = S.mSuperFrameNo :=
    (UInt16.zero_add _).symm.trans hS.mSuperFrameNo.symm
  have hinSpan : B.InSpan 0 S.mSuperFrameNo :=
    hnumber ▸ inSpan_ofNat (lt_of_lt_of_le hS.lt hspan)
  rw [hnumber] at hunexpired ⊢
  exact Receiver.Pending.run ⟨none, 0, Receiver.spanned_fresh⟩ hinSpan
    (.awaits ⟨rfl, rfl⟩ fun _ _ => List.not_mem_nil)
    (fun c hc => (arrives hships hspan hS (hcs c hc)).1)
    (fun c hc => (arrives hships hspan hS (hcs c hc)).2) hunexpired (hcovered k S hS)

/-- A frame that comes of a session has the number of one of its superframes. -/
theorem mSuperFrameNo_of_ships {sends : List SenderCall} {packets : List Packet}
    (hships : Sender.Ships scfg 0 sends packets) {cs : List Call} {aSourceId : UInt8}
    (hcs : ∀ c ∈ cs, HandsOver packets aSourceId c) {d : Delivery B}
    (hd : d ∈ Receiver.deliveries ((Receiver.machine B rcfg).run (Receiver.fresh B) cs).2) :
    ∃ k < sends.length, UInt16.ofNat k = d.frame.mSuperFrameNo := by
  have hacts : ∀ a ∈ (Receiver.machine B rcfg).flatten (Receiver.acts rcfg) (Receiver.fresh B) cs,
      ∀ now memalign src f, a = .handle now memalign src f →
        ∃ k < sends.length, f.superFrameNo = UInt16.ofNat k := by
    apply Machine.forall_flatten
    rintro r c hc _ ha now memalign src f rfl
    cases hcs c hc with
    | pass clk => cases List.mem_singleton.mp ha
    | @packet env p halloc hp =>
        rcases Receiver.mem_packetActs rcfg r env ha with heq | ⟨_, _, _, heq, hread⟩
        · cases heq
        · cases heq
          obtain ⟨k, S, hS, hcarried⟩ := hships.carried p hp
          refine ⟨k, hS.lt, ?_⟩
          rw [S.superFrameNo _ (hcarried.fragmentsIn _ (mem_fragmentsIn.mpr hread)),
            hS.mSuperFrameNo, UInt16.zero_add]
  rw [Receiver.run_acts] at hd
  have hfresh : Receiver.fresh B = (Traced.fresh B).receiver := rfl
  rw [hfresh, ← (Traced.run_receiver rcfg (Traced.fresh B) _).2] at hd
  obtain ⟨o, ho, rfl⟩ := List.mem_map.mp hd
  have hdelivered := Traced.delivered_run Traced.faithful_fresh rcfg _ o ho
  have haccepted := (Traced.forall_accepted rcfg
    (P := fun f => ∃ k < sends.length, f.superFrameNo = UInt16.ofNat k)
    (fun now memalign src f hact => hacts _ hact now memalign src f rfl)).2 o ho
  obtain ⟨f, hf⟩ := List.exists_mem_of_ne_nil _ hdelivered.ne_nil
  obtain ⟨k, hk, hnumber⟩ := haccepted f hf
  exact ⟨k, hk, hnumber.symm.trans (hdelivered.superFrameNo f hf)⟩

/-- The frames that come of a session are those that were sent, each of them
once, if all fragments have arrived before the last pass. -/
theorem delivered_of_covered {sends : List SenderCall} {packets : List Packet}
    (hships : Sender.Ships scfg 0 sends packets)
    (hspan : sends.length ≤ min (B.mask + 1) (2 ^ 15))
    (hsends : ∀ e ∈ sends, ∃ clk aData args, e = .send clk aData args ∧
      Sender.Sendable scfg aData ∧ Sender.estimate scfg aData.length ≤ maxSuperframeSize)
    {cs : List Call} {aSourceId : UInt8} (hcs : ∀ c ∈ cs, HandsOver packets aSourceId c)
    (hcovered : Covered scfg sends cs) {last : PassClock}
    (hunexpired : ∀ k < sends.length, (Receiver.machine B rcfg).Along
      (Receiver.Unexpired rcfg (UInt16.ofNat k)) (Receiver.fresh B) (cs ++ [.pass last])) :
    ∃ frames,
      ((Receiver.deliveries
          ((Receiver.machine B rcfg).run (Receiver.fresh B) (cs ++ [.pass last])).2).map
        Delivery.frame).Perm frames ∧
      List.Forall₂ (fun frame e => ∃ clk aData args, e = .send clk aData args ∧
          SuperFrame.Restores frame aData args ∧ frame.mSourceId = aSourceId)
        frames sends := by
  -- every superframe makes up a group of one frame
  have hgroup : ∀ k e, sends[k]? = some e → ∃ frame, Receiver.framesOf (UInt16.ofNat k)
      ((Receiver.machine B rcfg).run (Receiver.fresh B) (cs ++ [.pass last])).2 = [frame] ∧
      ∃ clk aData args, e = .send clk aData args ∧ frame.Restores aData args ∧
        frame.mSourceId = aSourceId := by
    intro k e hget
    obtain ⟨clk, aData, args, rfl, h, hestimate⟩ := hsends e (List.mem_of_getElem? hget)
    obtain ⟨frame, hframe, hcarries⟩ := framesOf_session hships hspan hcs hcovered
      (.intro hget h hestimate) (hunexpired k (List.getElem?_eq_some_iff.mp hget).1)
    exact ⟨frame, hframe, clk, aData, args, rfl, hcarries.restores, hcarries.mSourceId⟩
  have hkeys : ((List.range sends.length).map UInt16.ofNat).Nodup := by
    apply List.nodup_range.map_on
    intro k hk k' hk' heq
    exact ofNat_inj (lt_of_lt_of_le (List.mem_range.mp hk) hspan)
      (lt_of_lt_of_le (List.mem_range.mp hk') hspan) heq
  refine ⟨_, Groups.perm_flatMap_filter SuperFrame.mSuperFrameNo hkeys ?_, ?_⟩
  · -- and there are no other frames
    intro frame hframe
    obtain ⟨d, hd, rfl⟩ := List.mem_map.mp hframe
    have hcs' : ∀ c ∈ cs ++ [.pass last], HandsOver packets aSourceId c := by
      intro c hc
      rcases List.mem_append.mp hc with hc | hc
      · exact hcs c hc
      · exact List.mem_singleton.mp hc ▸ .pass last
    obtain ⟨k, hk, heq⟩ := mSuperFrameNo_of_ships hships hcs' hd
    exact List.mem_map.mpr ⟨k, List.mem_range.mpr hk, heq⟩
  · rw [List.flatMap_map]
    exact Groups.forall₂_flatMap_range hgroup

/-- A session of no more superframes than the ring has buckets: if every packet,
or what was sent again in its place, arrives at least once before the last pass
and no bucket expires before that, the receiver delivers what was sent, all of
it and each superframe once, whatever order the packets come in and however
often. -/
theorem session_delivered_once (B : BufferSize) (scfg : SenderConfig) (rcfg : ReceiverConfig)
    (es : List NetworkEvent) (last : PassClock) (aSourceId : UInt8)
    (hmode : scfg.mSubFragmentMode = .single ∨ ∀ e ∈ senderCalls es, Sender.AsksNothing e)
    (hle : ∀ e ∈ senderCalls es, Sender.WithinEstimate scfg e)
    (hspan : ((Sender.new scfg).successes scfg (senderCalls es)).length ≤
      min (B.mask + 1) (2 ^ 15))
    (hsource : ∀ env k src, .packet env k src ∈ es →
      src = aSourceId ∧ ∀ i, env.memalign i = true)
    (hall : ∀ p ∈ ((machine B scfg rcfg).run (new B scfg) es).1.packets,
      ∃ env, .packet env p.data aSourceId ∈ (new B scfg).receiverCalls scfg rcfg es)
    (hunexpired : ∀ k < ((Sender.new scfg).successes scfg (senderCalls es)).length,
      (Receiver.machine B rcfg).Along (Receiver.Unexpired rcfg (UInt16.ofNat k))
        (Receiver.fresh B) ((new B scfg).receiverCalls scfg rcfg es ++ [.pass last])) :
    ∃ frames,
      ((Receiver.deliveries
          ((machine B scfg rcfg).run (new B scfg) (es ++ [.pass last])).2).map
        Delivery.frame).Perm frames ∧
      List.Forall₂ (fun frame e => ∃ clk aData args, e = .send clk aData args ∧
          SuperFrame.Restores frame aData args ∧ frame.mSourceId = aSourceId)
        frames ((Sender.new scfg).successes scfg (senderCalls es)) := by
  have hcalls : (new B scfg).receiverCalls scfg rcfg (es ++ [.pass last]) =
      (new B scfg).receiverCalls scfg rcfg es ++ [.pass last] :=
    Machine.flatten_append ..
  have hships : Sender.Ships scfg 0 ((Sender.new scfg).successes scfg (senderCalls es))
      ((machine B scfg rcfg).run (new B scfg) es).1.packets := by
    have hqueue : (Sender.new scfg).retention.mRetransmitQueue = [] := rfl
    rw [(run_sender _ es).2]
    rcases hmode with hsingle | hasks
    · exact Sender.ships_single hsingle hle
    · exact Sender.ships_run hqueue hasks hle
  rw [(run_receiver _ _).2, hcalls]
  refine delivered_of_covered hships hspan (fun e he => ?_) (handsOver_receiverCalls hsource _)
    (covered_of_ships hships hall) hunexpired
  obtain ⟨clk, aData, args, rfl, h⟩ := Sender.sendable_of_mem_successes he
  exact ⟨clk, aData, args, rfl, h, hle _ (Sender.mem_of_mem_successes he) h⟩

/-- What a call hands over, and from which source. -/
def handed : Call → Option (List UInt8 × UInt8)
  | .packet _ aData aSourceId => some (aData, aSourceId)
  | .pass _ => none

/-- The first packet of the first superframe is lost, asked for and sent again
after the second superframe; the others come out of order, one of them twice. -/
def repairedRun : List NetworkEvent :=
  [.sender (.send (Sample.clockAt 0) (List.replicate 500 7) Sample.sendArgs),
    .packet Sample.env 2 0, .packet Sample.env 1 0, .pass Sample.clk,
    .sender (.receiveNack Sample.nack), .sender (Sample.sendAt 0 10),
    .sender (.processRetransmits 9), .packet Sample.env 3 0, .packet Sample.env 1 0,
    .packet Sample.env 4 0]

/-- Full-size packets, retained for a second. -/
def singleCfg : SenderConfig := SenderConfig.new 256 .single 1000 10000

theorem session_delivered_once_repairedRun :
    ∃ frames,
      ((Receiver.deliveries ((machine .default singleCfg {}).run
          (new .default singleCfg) (repairedRun ++ [.pass Sample.clk])).2).map
        Delivery.frame).Perm frames ∧
      List.Forall₂ (fun frame e => ∃ clk aData args, e = .send clk aData args ∧
          SuperFrame.Restores frame aData args ∧ frame.mSourceId = 0)
        frames ((Sender.new singleCfg).successes singleCfg (senderCalls repairedRun)) := by
  refine session_delivered_once .default singleCfg {} repairedRun Sample.clk 0 (.inl rfl) ?_
    (by decide +kernel) ?_ ?_ (by decide +kernel)
  · intro e he
    simp only [senderCalls, repairedRun, List.filterMap_cons, List.filterMap_nil, List.mem_cons,
      List.not_mem_nil, or_false] at he
    rcases he with rfl | rfl | rfl | rfl
    · exact fun _ => by decide +kernel
    · trivial
    · exact fun _ => by decide +kernel
    · trivial
  · intro env k src hmem
    simp only [repairedRun, List.mem_cons, List.not_mem_nil, or_false, NetworkEvent.packet.injEq,
      reduceCtorEq, false_or] at hmem
    rcases hmem with ⟨rfl, -, rfl⟩ | ⟨rfl, -, rfl⟩ | ⟨rfl, -, rfl⟩ | ⟨rfl, -, rfl⟩ |
      ⟨rfl, -, rfl⟩ <;>
      exact ⟨rfl, fun _ => rfl⟩
  · intro p hp
    have hdata : ∀ p ∈ ((machine .default singleCfg {}).run
        (new .default singleCfg) repairedRun).1.packets,
          (p.data, 0) ∈ ((new .default singleCfg).receiverCalls singleCfg {}
            repairedRun).filterMap handed := by
      decide +kernel
    obtain ⟨c, hc, heq⟩ := List.mem_filterMap.mp (hdata p hp)
    cases c with
    | pass clk => cases heq
    | packet env aData src =>
        cases heq
        exact ⟨env, hc⟩

end Network

end ElasticFrame
