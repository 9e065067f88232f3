import ElasticFrame.Sender.SizeLimit

/-!
Where a frame on the wire comes from. Whether it is sent for the first time,
again on request, or inside a bundle, a frame is a fragment of one of the
superframes that `send` has taken, and carries the number of that superframe.
-/

namespace ElasticFrame

open Lib

namespace Sender

variable {cfg : SenderConfig}

/-- The cut depends on the state only by the number of the superframe. -/
theorem planned_congr {s s' : Sender} (h : s.mSuperFrameNo = s'.mSuperFrameNo)
    (aData : List UInt8) (args : SendArgs) :
    s.planned cfg aData args = s'.planned cfg aData args := by
  rw [planned, planned, outgoing, outgoing, h]

def ofNumber (cfg : SenderConfig) (n : UInt16) : Sender := { Sender.new cfg with mSuperFrameNo := n }

@[simp] theorem ofNumber_mSuperFrameNo (cfg : SenderConfig) (n : UInt16) :
    (ofNumber cfg n).mSuperFrameNo = n := rfl

/-- The fragment is one of the `k`th of the superframes, which are numbered from
`n` on. -/
def CutFrom (cfg : SenderConfig) (n : UInt16) (sends : List SenderCall) (k : ℕ) (f : Fragment) :
    Prop :=
  ∃ clk aData args, sends[k]? = some (.send clk aData args) ∧ Sendable cfg aData ∧
    f ∈ ((ofNumber cfg (n + UInt16.ofNat k)).planned cfg aData args).superframe aData
      (plan cfg aData.length).2

theorem CutFrom.append {n : UInt16} {sends later : List SenderCall} {k : ℕ} {f : Fragment}
    (h : CutFrom cfg (n + UInt16.ofNat sends.length) later k f) :
    CutFrom cfg n (sends ++ later) (sends.length + k) f := by
  obtain ⟨clk, aData, args, hget, hrest⟩ := h
  refine ⟨clk, aData, args, ?_, ?_⟩
  · rw [List.getElem?_append_right (Nat.le_add_right _ _), Nat.add_sub_cancel_left, hget]
  · rwa [UInt16.ofNat_add, ← UInt16.add_assoc]

/-- The wire shows which of the superframes it is, modulo `2^16`. -/
theorem CutFrom.superFrameNo {n : UInt16} {sends : List SenderCall} {k : ℕ} {f : Fragment}
    (h : CutFrom cfg n sends k f) : f.superFrameNo = n + UInt16.ofNat k := by
  obtain ⟨_, _, _, _, _, hf⟩ := h
  exact Outgoing.superFrameNo_superframe hf

theorem CutFrom.lt {n : UInt16} {sends : List SenderCall} {k : ℕ} {f : Fragment}
    (h : CutFrom cfg n sends k f) : k < sends.length := by
  obtain ⟨_, _, _, hget, _⟩ := h
  exact (List.getElem?_eq_some_iff.mp hget).1

theorem number_injective {n : UInt16} {k k' : ℕ} (hk : k < 65536) (hk' : k' < 65536)
    (hsame : n + UInt16.ofNat k = n + UInt16.ofNat k') : k = k' := by
  have hnumber := congrArg UInt16.toNat ((UInt16.add_right_inj n).mp hsame)
  rw [UInt16.toNat_ofNat', UInt16.toNat_ofNat'] at hnumber
  omega

/-- Two fragments of one number are of one superframe, if no number has been
used twice. -/
theorem CutFrom.unique {n : UInt16} {sends : List SenderCall} {k k' : ℕ} {f f' : Fragment}
    (h : CutFrom cfg n sends k f) (hcount : sends.length ≤ 65536)
    (h' : CutFrom cfg n sends k' f') (hsame : f.superFrameNo = f'.superFrameNo) : k = k' := by
  rw [h.superFrameNo, h'.superFrameNo] at hsame
  exact number_injective (h.lt.trans_le hcount) (h'.lt.trans_le hcount) hsame

theorem CutFrom.ofPacket {n : UInt16} {sends : List SenderCall} {k : ℕ} {f : Fragment}
    (h : CutFrom cfg n sends k f) : Fragment.ofPacket f.packet = some f := by
  obtain ⟨_, _, _, _, _, hf⟩ := h
  exact Outgoing.ofPacket_superframe hf

theorem made_step {s : Sender} {e : SenderCall} {call : StoreCall}
    (hcall : call ∈ s.storeCalls cfg e) {data : List UInt8} (hdata : data ∈ call.made) :
    ∃ clk aData args, e = .send clk aData args ∧ Sendable cfg aData ∧
      ∃ f ∈ (s.planned cfg aData args).superframe aData (plan cfg aData.length).2,
        f.packet = data := by
  have hmade := List.mem_filterMap.mpr ⟨call, hcall, hdata⟩
  cases e with
  | send clk aData args =>
      by_cases h : Sendable cfg aData
      · have hfirst := first_send h clk s args
        rw [Retention.first_sent] at hfirst
        rw [storeCalls, hfirst] at hmade
        obtain ⟨f, hf, hpacket⟩ := List.mem_map.mp hmade
        rw [planned_congr (mSuperFrameNo_evicted clk s)] at hf
        exact ⟨clk, aData, args, rfl, h, f, hf, hpacket⟩
      · -- a `send` that is refused retains nothing
        have hnone := filter_sendCalls cfg clk s aData args
        rw [if_neg h] at hnone
        cases call with
        | retain =>
            have hmem := List.mem_filter.mpr ⟨hcall, (rfl : StoreCall.isRetain (.retain ..) = true)⟩
            rw [storeCalls, hnone] at hmem
            exact absurd hmem List.not_mem_nil
        | evict | request | take => cases hdata
  | receiveNack aData =>
      rw [storeCalls, made_nackCalls] at hmade
      exact absurd hmade List.not_mem_nil
  | processRetransmits aMaxCount =>
      rw [storeCalls, made_retransmitCalls] at hmade
      exact absurd hmade List.not_mem_nil

theorem mem_of_mem_successes {s : Sender} {es : List SenderCall} {e : SenderCall}
    (h : e ∈ s.successes cfg es) : e ∈ es := by
  refine (Sender.machine cfg).forall_flatten (P := fun e => e ∈ es) (fun s e' he' e he => ?_) s e h
  split_ifs at he
  · exact List.mem_singleton.mp he ▸ he'
  · exact absurd he List.not_mem_nil

theorem successes_cons (s : Sender) (e : SenderCall) (es : List SenderCall) :
    s.successes cfg (e :: es) = (if s.Succeeds cfg e then [e] else []) ++
      ((Sender.machine cfg).step s e).1.successes cfg es := rfl

theorem made_run (s : Sender) (es : List SenderCall) :
    ∀ call ∈ s.trace cfg es, ∀ data ∈ call.made,
      ∃ k f, CutFrom cfg s.mSuperFrameNo (s.successes cfg es) k f ∧ f.packet = data := by
  induction es generalizing s with
  | nil => exact fun call hcall => absurd hcall List.not_mem_nil
  | cons e es ih =>
      intro call hcall data hdata
      rw [trace, Machine.flatten, List.mem_append] at hcall
      rw [successes_cons]
      rcases hcall with hcall | hcall
      · obtain ⟨clk, aData, args, rfl, h, f, hf, hpacket⟩ := made_step hcall hdata
        have hsucceeds : s.Succeeds cfg (.send clk aData args) :=
          (send_ok_iff cfg clk s aData args).mpr h
        have hnumber : s.mSuperFrameNo =
            (ofNumber cfg (s.mSuperFrameNo + UInt16.ofNat 0)).mSuperFrameNo :=
          (UInt16.add_zero _).symm
        rw [planned_congr hnumber] at hf
        refine ⟨0, f, ⟨clk, aData, args, ?_, h, hf⟩, hpacket⟩
        rw [if_pos hsucceeds]
        rfl
      · obtain ⟨k, f, hf, hpacket⟩ := ih _ call hcall data hdata
        have hstep := mSuperFrameNo_step cfg s e
        refine ⟨(if s.Succeeds cfg e then [e] else []).length + k, f, CutFrom.append ?_, hpacket⟩
        have hlength : UInt16.ofNat (if s.Succeeds cfg e then [e] else []).length =
            if s.Succeeds cfg e then 1 else 0 := by
          split_ifs <;> rfl
        rwa [hlength, ← hstep]

/-- Every frame of every packet of a run is a fragment of a superframe that the
run has taken, under its number. -/
theorem frames_cutFrom (cfg : SenderConfig) (es : List SenderCall) :
    ∀ p ∈ ((Sender.machine cfg).run (Sender.new cfg) es).2, ∀ data ∈ frames p.data,
      ∃ k f, CutFrom cfg 0 ((Sender.new cfg).successes cfg es) k f ∧ f.packet = data :=
  (forall_frames_run_iff _ es).mpr (made_run (Sender.new cfg) es)

end Sender

end ElasticFrame
