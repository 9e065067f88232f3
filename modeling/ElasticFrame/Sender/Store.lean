import ElasticFrame.Sender.State
import ElasticFrame.Lib.Machine

/-!
The retained fragments as a machine of their own. Whatever the sender does,
its four containers see only four kinds of calls: an eviction, a fragment to
retain, a request for a fragment, and the request at the front of the queue
being taken. What is said about the containers is proved for each of these,
and holds between any two of them, in the middle of a `send` as well.
-/

namespace ElasticFrame

open Lib

namespace Retention

/-- The part of `receiveNack` that concerns one fragment. -/
def request (s : Retention) (lKey : UInt32) (mStreamId : UInt8) : Retention :=
  match s.mRetentionBuffer[lKey]? with
  | none => s
  | some f =>
      if f.mStreamId = mStreamId ∧ f.mGeneration ∉ s.mQueuedRetransmits then
        { s with
          mQueuedRetransmits := insert f.mGeneration s.mQueuedRetransmits
          mRetransmitQueue :=
            s.mRetransmitQueue ++ [{ mKey := lKey, mGeneration := f.mGeneration }] }
      else s

/-- The request at the front of the queue is taken; a request whose fragment
is gone is dropped. -/
def take (s : Retention) : Retention × Option (RetransmitRequest × RetainedFragment) :=
  match s.mRetransmitQueue with
  | [] => (s, none)
  | lRequest :: rest =>
      let popped := s.pop lRequest rest
      match popped.live lRequest.mKey lRequest.mGeneration with
      | none => (popped, none)
      | some f => (popped.retry lRequest f, some (lRequest, f))

theorem take_cons {s : Retention} {lRequest : RetransmitRequest} {rest : List RetransmitRequest}
    (hqueue : s.mRetransmitQueue = lRequest :: rest) :
    s.take =
      match (s.pop lRequest rest).live lRequest.mKey lRequest.mGeneration with
      | none => (s.pop lRequest rest, none)
      | some f => ((s.pop lRequest rest).retry lRequest f, some (lRequest, f)) := by
  rw [take, hqueue]

end Retention

/-- What the containers are asked to do. -/
inductive StoreCall
  | evict (lNow : ℤ)
  | retain (lNow mTimestampUs : ℤ) (aSuperFrameNo aFragmentNo : UInt16) (aStreamId : UInt8)
      (apData : List UInt8)
  | request (lKey : UInt32) (mStreamId : UInt8)
  | take
deriving DecidableEq

def StoreCall.isRetain : StoreCall → Bool
  | .retain .. => true
  | _ => false

/-- `P` holds for the key and the bytes of a fragment that is to be retained. -/
def StoreCall.Makes (P : UInt32 → List UInt8 → Prop) : StoreCall → Prop
  | .retain _ _ aSuperFrameNo aFragmentNo _ apData =>
      P (makeRetentionKey aSuperFrameNo aFragmentNo) apData
  | _ => True

/-- `P` holds for the key, the stream and the bytes of a fragment that is to be
retained. -/
def StoreCall.Enters (P : UInt32 → UInt8 → List UInt8 → Prop) : StoreCall → Prop
  | .retain _ _ aSuperFrameNo aFragmentNo aStreamId apData =>
      P (makeRetentionKey aSuperFrameNo aFragmentNo) aStreamId apData
  | _ => True

theorem StoreCall.makes_iff {P : UInt32 → List UInt8 → Prop} {call : StoreCall} :
    call.Makes P ↔ call.Enters fun lKey _ apData => P lKey apData := by
  cases call <;> exact Iff.rfl

theorem toNat_makeRetentionKey (aSuperFrameNo aFragmentNo : UInt16) :
    (makeRetentionKey aSuperFrameNo aFragmentNo).toNat =
      aSuperFrameNo.toNat * 65536 + aFragmentNo.toNat := by
  have hn := aSuperFrameNo.toNat_lt
  have hk := aFragmentNo.toNat_lt
  have h16 : (16 : UInt32).toNat % 32 = 16 := rfl
  rw [makeRetentionKey, UInt32.toNat_or, UInt32.toNat_shiftLeft, UInt16.toNat_toUInt32,
    UInt16.toNat_toUInt32, h16, Nat.mod_eq_of_lt (by rw [Nat.shiftLeft_eq]; omega),
    ← Nat.shiftLeft_add_eq_or_of_lt (by omega), Nat.shiftLeft_eq]

/-- What is sent with a call: a fragment for the first time, or again. -/
inductive Transmission
  | fragment (lKey : UInt32) (apData : List UInt8)
  | retransmit (lRequest : RetransmitRequest) (f : RetainedFragment)

def Transmission.data : Transmission → List UInt8
  | fragment _ apData => apData
  | retransmit _ f => f.mData

/-- The fragment that is sent for the first time. -/
def Transmission.first : Transmission → Option (List UInt8)
  | fragment _ apData => some apData
  | retransmit _ _ => none

/-- The fragment that is to be retained. -/
def StoreCall.made : StoreCall → Option (List UInt8)
  | .retain _ _ _ _ _ apData => some apData
  | _ => none

namespace Retention

def machine (cfg : SenderConfig) : Machine Retention StoreCall Transmission where
  step s
    | .evict lNow => (s.evictOldRetention cfg lNow 0, [])
    | .retain lNow mTimestampUs aSuperFrameNo aFragmentNo aStreamId apData =>
        (s.retainFragment cfg lNow mTimestampUs aSuperFrameNo aFragmentNo aStreamId apData,
          [.fragment (makeRetentionKey aSuperFrameNo aFragmentNo) apData])
    | .request lKey mStreamId => (s.request lKey mStreamId, [])
    | .take => (s.take.1, s.take.2.toList.map fun served => .retransmit served.1 served.2)

def after (cfg : SenderConfig) (s : Retention) (calls : List StoreCall) : Retention :=
  ((machine cfg).run s calls).1

/-- What is sent with the calls of a run. -/
def sent (cfg : SenderConfig) (s : Retention) (calls : List StoreCall) : List Transmission :=
  ((machine cfg).run s calls).2

variable {cfg : SenderConfig}

@[simp] theorem after_nil (s : Retention) : s.after cfg [] = s := rfl

theorem after_cons (s : Retention) (call : StoreCall) (calls : List StoreCall) :
    s.after cfg (call :: calls) = ((machine cfg).step s call).1.after cfg calls := rfl

theorem after_append (s : Retention) (calls calls' : List StoreCall) :
    s.after cfg (calls ++ calls') = (s.after cfg calls).after cfg calls' := by
  rw [after, Machine.run_append]
  rfl

@[simp] theorem sent_nil (s : Retention) : s.sent cfg [] = [] := rfl

theorem sent_cons (s : Retention) (call : StoreCall) (calls : List StoreCall) :
    s.sent cfg (call :: calls) =
      ((machine cfg).step s call).2 ++ ((machine cfg).step s call).1.sent cfg calls := rfl

theorem sent_append (s : Retention) (calls calls' : List StoreCall) :
    s.sent cfg (calls ++ calls') = s.sent cfg calls ++ (s.after cfg calls).sent cfg calls' := by
  rw [sent, Machine.run_append]
  rfl

theorem first_sent (s : Retention) (calls : List StoreCall) :
    (s.sent cfg calls).filterMap Transmission.first = calls.filterMap StoreCall.made := by
  induction calls generalizing s with
  | nil => rfl
  | cons call calls ih =>
      rw [sent_cons, List.filterMap_append, ih]
      cases call with
      | take =>
          have htake : ((machine cfg).step s .take).2.filterMap Transmission.first = [] := by
            simp only [machine]
            cases s.take.2 with
            | none => rfl
            | some served => rfl
          rw [htake]
          rfl
      | evict | retain | request => rfl

theorem after_invariant {I : Retention → Prop} {C : StoreCall → Prop}
    (hstep : ∀ s call, I s → C call → I ((machine cfg).step s call).1) {s : Retention}
    {calls : List StoreCall} (hs : I s) (hC : ∀ call ∈ calls, C call) : I (s.after cfg calls) :=
  (machine cfg).run_invariant hstep hs ((machine cfg).along_of_forall (fun _ => hC) s)

/-! ### The loops of the sender -/

/-- The requests of one entry of a NACK. -/
def rangeCalls (lEntry : NackEntry) (count lJ : ℕ) : List StoreCall :=
  (List.range' lJ count).map fun lJ =>
    .request (makeRetentionKey lEntry.mSuperFrameNo (lEntry.mFragmentNo + UInt16.ofNat lJ))
      lEntry.mStreamId

theorem requestRange_eq (lEntry : NackEntry) (count lJ : ℕ) (s : Retention) :
    requestRange lEntry count lJ s = s.after cfg (rangeCalls lEntry count lJ) := by
  induction count generalizing lJ s with
  | zero => rfl
  | succ count ih => exact ih (lJ + 1) _

/-- The requests of a NACK, up to an entry whose range leaves the 16 bits of
a fragment number. -/
def nackCalls (lEntries : List NackEntry) : List StoreCall :=
  (lEntries.takeWhile fun lEntry =>
    lEntry.mFragmentNo.toNat + lEntry.mFragmentCount.toNat ≤ 65535).flatMap fun lEntry =>
      rangeCalls lEntry (lEntry.mFragmentCount.toNat + 1) 0

theorem requestEntries_eq (lEntries : List NackEntry) (s : Retention) :
    (requestEntries lEntries s).1 = s.after cfg (nackCalls lEntries) := by
  induction lEntries generalizing s with
  | nil => rfl
  | cons lEntry rest ih =>
      rw [requestEntries, nackCalls, List.takeWhile_cons]
      by_cases hrange : lEntry.mFragmentNo.toNat + lEntry.mFragmentCount.toNat > 65535
      · rw [if_pos hrange, if_neg (by simpa using hrange)]
        rfl
      · rw [if_neg hrange, if_pos (by simpa using hrange), List.flatMap_cons, after_append,
          ← requestRange_eq, ih]
        rfl

end Retention

end ElasticFrame
