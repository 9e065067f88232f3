import ElasticFrame.CApi.Embedded
import ElasticFrame.CApi.SendCallback
import ElasticFrame.Lib.Slots
import ElasticFrame.Lib.TreeMap
import ElasticFrame.Repair.Timing

/-!
The legacy C interface: senders and receivers in two maps, under handles from
one counter. Handles are numbered from 1 and none is given out twice, so what is
done under a handle is what its sender or receiver would do alone, and a handle
that is not yet or no longer in use is refused.
-/

namespace ElasticFrame

open Lib

namespace CApi

/-! ### Receivers -/

/-- `efp_receiver_s`, with the `Receiver` and what it was constructed from.
`mNackCallback` is null, as there is no call to set it. -/
structure ReceiverObject where
  mpReceiver : Receiver .default
  cfg : ReceiverConfig
  callbacks : EfpReceiver

def efpModeRunToCompletion : UInt32 := 2

/-- What `std::make_unique<CReceiver>(..)` configures. -/
def receiverConfig (aTimeoutMs aHolTimeoutMs aMode : UInt32) : ReceiverConfig where
  mTimeoutMs := aTimeoutMs
  mHolTimeoutMs := aHolTimeoutMs
  mMaxNackRetries := 3
  mNackIntervalMs := 0
  mMode := if aMode = efpModeRunToCompletion then .runToCompletion else .threaded

/-- `efp_receiver_create`: null if the constructor throws, or memory or a thread
cannot be had. -/
def efpReceiverCreate (aTimeoutMs aHolTimeoutMs aMode : UInt32) (resources : Bool) :
    Option ReceiverObject :=
  if resources = true ∧ (receiverConfig aTimeoutMs aHolTimeoutMs aMode).accepted = true then
    some
      { mpReceiver := Receiver.fresh .default
        cfg := receiverConfig aTimeoutMs aHolTimeoutMs aMode
        callbacks := ⟨false, false⟩ }
  else none

namespace ReceiverObject

def setCallback (apReceiver : ReceiverObject) (aCallback : Bool) : ReceiverObject :=
  { apReceiver with callbacks := { apReceiver.callbacks with mCallback := aCallback } }

def setEmbeddedCallback (apReceiver : ReceiverObject) (aCallback : Bool) : ReceiverObject :=
  { apReceiver with callbacks := { apReceiver.callbacks with mEmbeddedCallback := aCallback } }

/-- An event of the `Receiver`, and the frames `ReceiveCallbackWrapper` is called
with. `NackCallbackWrapper` finds no callback. -/
def event (apReceiver : ReceiverObject) (e : Event) :
    ReceiverObject × List (Delivery .default) :=
  let handled := (Receiver.system .default apReceiver.cfg).step apReceiver.mpReceiver e
  ({ apReceiver with mpReceiver := handled.1 }, Receiver.deliveries handled.2)

def receive (apReceiver : ReceiverObject) (env : Surroundings) (clk : PassClock)
    (apData : List UInt8) (aSourceId : UInt8) :
    (ReceiverObject × List (Delivery .default)) × Result :=
  (apReceiver.event (.receive env clk apData aSourceId),
    (apReceiver.mpReceiver.receive apReceiver.cfg env clk apData aSourceId).2)

end ReceiverObject

/-! ### One object -/

/-- What a handle stands for. -/
inductive Object (κ : Type*)
  | sender (lpSender : EfpSender κ)
  | receiver (lpReceiver : ReceiverObject)

/-- The calls that take a handle, and the passes of the worker thread of a
receiver. -/
inductive ObjectCall
  | efpEndSend
  | efpEndReceive
  | efpSendData (clk : SendClock) (apData : List UInt8) (args : SendArgs)
  | efpReceiveFragment (env : Surroundings) (clk : PassClock) (apFragment : List UInt8)
      (aFromSource : UInt8)
  | worker (clk : PassClock)

/-- The result of a call, or a call of a callback. -/
inductive ObjectOutput (κ : Type*)
  | result (r : Result)
  | packet (call : κ × Packet)
  | frame (d : Delivery .default)

variable {κ : Type*}

namespace Object

def sender? : Object κ → Option (EfpSender κ)
  | sender lpSender => some lpSender
  | receiver _ => none

def receiver? : Object κ → Option ReceiverObject
  | sender _ => none
  | receiver lpReceiver => some lpReceiver

def refused : ObjectCall → List (ObjectOutput κ)
  | .worker _ => []
  | .efpEndSend | .efpEndReceive | .efpSendData .. | .efpReceiveFragment .. =>
      [.result .invalidParameter]

def senderStep (lpSender : EfpSender κ) : ObjectCall → Option (Object κ) × List (ObjectOutput κ)
  | .efpEndSend => (none, [.result .ok])
  | .efpSendData clk apData args =>
      let sent := lpSender.send clk apData args
      (some (sender sent.1), sent.2.1.map .packet ++ [.result sent.2.2])
  | c => (some (sender lpSender), refused c)

def receiverStep (lpReceiver : ReceiverObject) :
    ObjectCall → Option (Object κ) × List (ObjectOutput κ)
  | .efpEndReceive => (none, [.result .ok])
  | .efpReceiveFragment env clk apFragment aFromSource =>
      let received := lpReceiver.receive env clk apFragment aFromSource
      (some (receiver received.1.1), received.1.2.map .frame ++ [.result received.2])
  | .worker clk =>
      let passed := lpReceiver.event (.worker clk)
      (some (receiver passed.1), passed.2.map .frame)
  | c => (some (receiver lpReceiver), refused c)

/-- A sender or a receiver alone, until it is ended. -/
def machine (κ : Type*) : Machine (Option (Object κ)) ObjectCall (ObjectOutput κ) where
  step
    | none, c => (none, refused c)
    | some (sender lpSender), c => senderStep lpSender c
    | some (receiver lpReceiver), c => receiverStep lpReceiver c

theorem run_none (cs : List ObjectCall) : (machine κ).run none cs = (none, cs.flatMap refused) := by
  induction cs with
  | nil => rfl
  | cons c cs ih =>
      have hstep : (machine κ).step none c = (none, refused c) := rfl
      rw [Machine.run_cons, hstep, ih, List.flatMap_cons]

end Object

/-! ### The interface -/

structure LegacyApi (κ : Type*) where
  gSenderHandles : Std.ExtTreeMap UInt64 (EfpSender κ) compare := ∅
  gReceiverHandles : Std.ExtTreeMap UInt64 ReceiverObject compare := ∅
  gNextHandle : UInt64 := 1

/-- A call of the interface. For the two that create an object it is said
whether memory and threads can be had, and which callbacks are not null. -/
inductive LegacyCall (κ : Type*)
  | efpInitSend (aMtu : UInt64) (aCallback : Option κ) (resources : Bool)
  | efpInitReceive (aBucketTimeout aHolTimeout : UInt32) (aCallback aEmbeddedCallback : Bool)
      (aMode : UInt32) (resources : Bool)
  | object (aEfpObject : UInt64) (c : ObjectCall)

/-- The handle that is returned, or an output under a handle. -/
inductive LegacyOutput (κ : Type*)
  | returned (lHandle : UInt64)
  | object (aEfpObject : UInt64) (o : ObjectOutput κ)

/-- `efp_sender_create`, where memory may run out. -/
def efpSenderCreate (aMtu : UInt16) (resources : Bool) : Option (EfpSender κ) :=
  if resources = true then some (EfpSender.create aMtu) else none

namespace LegacyApi

def efpInitSend (s : LegacyApi κ) (aMtu : UInt64) (aCallback : Option κ) (resources : Bool) :
    LegacyApi κ × UInt64 :=
  match efpSenderCreate aMtu.toUInt16 resources with
  | none => (s, 0)
  | some lpSender =>
      let lHandle := s.gNextHandle
      ({ s with
          gNextHandle := s.gNextHandle + 1
          gSenderHandles := s.gSenderHandles.insert lHandle (lpSender.setCallback aCallback) },
        lHandle)

def efpInitReceive (s : LegacyApi κ) (aBucketTimeout aHolTimeout : UInt32)
    (aCallback aEmbeddedCallback : Bool) (aMode : UInt32) (resources : Bool) :
    LegacyApi κ × UInt64 :=
  match efpReceiverCreate aBucketTimeout aHolTimeout aMode resources with
  | none => (s, 0)
  | some lpReceiver =>
      let lHandle := s.gNextHandle
      ({ s with
          gNextHandle := s.gNextHandle + 1
          gReceiverHandles := s.gReceiverHandles.insert lHandle
            ((lpReceiver.setCallback aCallback).setEmbeddedCallback aEmbeddedCallback) },
        lHandle)

def efpEndSend (s : LegacyApi κ) (aEfpObject : UInt64) : LegacyApi κ × Result :=
  match s.gSenderHandles[aEfpObject]? with
  | none => (s, .invalidParameter)
  | some _ => ({ s with gSenderHandles := s.gSenderHandles.erase aEfpObject }, .ok)

def efpEndReceive (s : LegacyApi κ) (aEfpObject : UInt64) : LegacyApi κ × Result :=
  match s.gReceiverHandles[aEfpObject]? with
  | none => (s, .invalidParameter)
  | some _ => ({ s with gReceiverHandles := s.gReceiverHandles.erase aEfpObject }, .ok)

def efpSendData (s : LegacyApi κ) (aEfpObject : UInt64) (clk : SendClock) (apData : List UInt8)
    (args : SendArgs) : LegacyApi κ × List (κ × Packet) × Result :=
  match s.gSenderHandles[aEfpObject]? with
  | none => (s, [], .invalidParameter)
  | some lpSender =>
      let sent := lpSender.send clk apData args
      ({ s with gSenderHandles := s.gSenderHandles.insert aEfpObject sent.1 }, sent.2)

def efpReceiveFragment (s : LegacyApi κ) (aEfpObject : UInt64) (env : Surroundings)
    (clk : PassClock) (apFragment : List UInt8) (aFromSource : UInt8) :
    LegacyApi κ × List (Delivery .default) × Result :=
  match s.gReceiverHandles[aEfpObject]? with
  | none => (s, [], .invalidParameter)
  | some lpReceiver =>
      let received := lpReceiver.receive env clk apFragment aFromSource
      ({ s with gReceiverHandles := s.gReceiverHandles.insert aEfpObject received.1.1 },
        received.1.2, received.2)

def worker (s : LegacyApi κ) (aEfpObject : UInt64) (clk : PassClock) :
    LegacyApi κ × List (Delivery .default) :=
  match s.gReceiverHandles[aEfpObject]? with
  | none => (s, [])
  | some lpReceiver =>
      let passed := lpReceiver.event (.worker clk)
      ({ s with gReceiverHandles := s.gReceiverHandles.insert aEfpObject passed.1 }, passed.2)

/-- A call that takes a handle, with its outputs. -/
def onObject (s : LegacyApi κ) (aEfpObject : UInt64) :
    ObjectCall → LegacyApi κ × List (ObjectOutput κ)
  | .efpEndSend => ((s.efpEndSend aEfpObject).1, [.result (s.efpEndSend aEfpObject).2])
  | .efpEndReceive => ((s.efpEndReceive aEfpObject).1, [.result (s.efpEndReceive aEfpObject).2])
  | .efpSendData clk apData args =>
      let sent := s.efpSendData aEfpObject clk apData args
      (sent.1, sent.2.1.map .packet ++ [.result sent.2.2])
  | .efpReceiveFragment env clk apFragment aFromSource =>
      let received := s.efpReceiveFragment aEfpObject env clk apFragment aFromSource
      (received.1, received.2.1.map .frame ++ [.result received.2.2])
  | .worker clk => ((s.worker aEfpObject clk).1, (s.worker aEfpObject clk).2.map .frame)

def machine (κ : Type*) : Machine (LegacyApi κ) (LegacyCall κ) (LegacyOutput κ) where
  step s
    | .efpInitSend aMtu aCallback resources =>
        let created := s.efpInitSend aMtu aCallback resources
        (created.1, [.returned created.2])
    | .efpInitReceive aBucketTimeout aHolTimeout aCallback aEmbeddedCallback aMode resources =>
        let created :=
          s.efpInitReceive aBucketTimeout aHolTimeout aCallback aEmbeddedCallback aMode resources
        (created.1, [.returned created.2])
    | .object aEfpObject c =>
        ((s.onObject aEfpObject c).1, (s.onObject aEfpObject c).2.map (.object aEfpObject))

/-! ### Objects under numbers -/

end LegacyApi

def LegacyCall.created : LegacyCall κ → Option (Object κ)
  | .efpInitSend aMtu aCallback resources =>
      (efpSenderCreate aMtu.toUInt16 resources).map fun lpSender =>
        .sender (lpSender.setCallback aCallback)
  | .efpInitReceive aBucketTimeout aHolTimeout aCallback aEmbeddedCallback aMode resources =>
      (efpReceiverCreate aBucketTimeout aHolTimeout aMode resources).map fun lpReceiver =>
        .receiver ((lpReceiver.setCallback aCallback).setEmbeddedCallback aEmbeddedCallback)
  | .object _ _ => none

def LegacyCall.on (h : UInt64) : LegacyCall κ → Option ObjectCall
  | .object aEfpObject c => if aEfpObject = h then some c else none
  | .efpInitSend .. | .efpInitReceive .. => none

def LegacyOutput.on (h : UInt64) : LegacyOutput κ → Option (ObjectOutput κ)
  | .object aEfpObject o => if aEfpObject = h then some o else none
  | .returned _ => none

/-- The handle that is returned; 0 is none. -/
def LegacyOutput.handle? : LegacyOutput κ → Option UInt64
  | .returned lHandle => if lHandle = 0 then none else some lHandle
  | .object _ _ => none

/-- The same call with the handle read as a number. -/
def LegacyCall.events : LegacyCall κ → List (SlotEvent (Object κ) ObjectCall)
  | .object aEfpObject c => [.call aEfpObject.toNat c]
  | c => (c.created.map .create).toList

namespace LegacyApi

/-- The two maps hold the objects that are in use. -/
structure Stands (s : LegacyApi κ) (t : Slots (Object κ)) : Prop where
  next : s.gNextHandle = UInt64.ofNat t.next
  pos : 0 < t.next
  sender : ∀ h : UInt64, s.gSenderHandles[h]? = (t.slot h.toNat).bind Object.sender?
  receiver : ∀ h : UInt64, s.gReceiverHandles[h]? = (t.slot h.toNat).bind Object.receiver?
  unused : ∀ n, t.next ≤ n → t.slot n = none

theorem stands_new : Stands ({} : LegacyApi κ) ⟨fun _ => none, 1⟩ where
  next := rfl
  pos := Nat.one_pos
  sender _ := Std.ExtTreeMap.getElem?_empty
  receiver _ := Std.ExtTreeMap.getElem?_empty
  unused _ _ := rfl

variable {s : LegacyApi κ} {t : Slots (Object κ)}

theorem bind_update {α : Type*} (slot : ℕ → Option (Object κ)) (h h' : UInt64)
    (o : Option (Object κ)) (f : Object κ → Option α) :
    (Function.update slot h.toNat o h'.toNat).bind f =
      if h = h' then o.bind f else (slot h'.toNat).bind f := by
  split_ifs with heq
  · rw [heq, Function.update_self]
  · have hne : h'.toNat ≠ h.toNat := fun hsame => heq (UInt64.toNat_inj.mp hsame).symm
    rw [Function.update_of_ne hne]

theorem Stands.update {s' : LegacyApi κ} {h : UInt64} {o : Option (Object κ)} (hs : Stands s t)
    (hnext : s'.gNextHandle = s.gNextHandle)
    (hsender : ∀ h', s'.gSenderHandles[h']? =
      if h = h' then o.bind Object.sender? else s.gSenderHandles[h']?)
    (hreceiver : ∀ h', s'.gReceiverHandles[h']? =
      if h = h' then o.bind Object.receiver? else s.gReceiverHandles[h']?)
    (hused : t.slot h.toNat ≠ none) :
    Stands s' { t with slot := Function.update t.slot h.toNat o } where
  next := hnext.trans hs.next
  pos := hs.pos
  sender h' := by rw [hsender, bind_update, hs.sender]
  receiver h' := by rw [hreceiver, bind_update, hs.receiver]
  unused n hn := by
    have hne : n ≠ h.toNat := by
      rintro rfl
      exact hused (hs.unused _ hn)
    exact (Function.update_of_ne hne _ _).trans (hs.unused n hn)

theorem Stands.same {h : UInt64} {o : Option (Object κ)} (hs : Stands s t)
    (ho : t.slot h.toNat = o) : Stands s { t with slot := Function.update t.slot h.toNat o } := by
  rw [← ho, Function.update_eq_self]
  exact hs

theorem Stands.onSender {h : UInt64} {lpSender : EfpSender κ} (hs : Stands s t)
    (hslot : t.slot h.toNat = some (.sender lpSender)) (c : ObjectCall) :
    Stands (s.onObject h c).1
        { t with slot := Function.update t.slot h.toNat (Object.senderStep lpSender c).1 } ∧
      (s.onObject h c).2 = (Object.senderStep lpSender c).2 := by
  have hsender : s.gSenderHandles[h]? = some lpSender := by rw [hs.sender, hslot]; rfl
  have hreceiver : s.gReceiverHandles[h]? = none := by rw [hs.receiver, hslot]; rfl
  have hused : t.slot h.toNat ≠ none := by rw [hslot]; exact Option.some_ne_none _
  cases c with
  | efpEndSend =>
      simp only [onObject, LegacyApi.efpEndSend, hsender]
      refine ⟨hs.update rfl (TreeMap.getElem?_erase _ _) (TreeMap.getElem?_of_none hreceiver)
        hused, rfl⟩
  | efpSendData clk apData args =>
      simp only [onObject, LegacyApi.efpSendData, hsender]
      refine ⟨hs.update rfl (fun h' => ?_) (TreeMap.getElem?_of_none hreceiver) hused, rfl⟩
      exact TreeMap.getElem?_insert _ _ _ _
  | efpEndReceive =>
      simp only [onObject, LegacyApi.efpEndReceive, hreceiver]
      exact ⟨hs.same hslot, rfl⟩
  | efpReceiveFragment env clk apFragment aFromSource =>
      simp only [onObject, LegacyApi.efpReceiveFragment, hreceiver]
      exact ⟨hs.same hslot, rfl⟩
  | worker clk =>
      simp only [onObject, LegacyApi.worker, hreceiver]
      exact ⟨hs.same hslot, rfl⟩

theorem Stands.onReceiver {h : UInt64} {lpReceiver : ReceiverObject} (hs : Stands s t)
    (hslot : t.slot h.toNat = some (.receiver lpReceiver)) (c : ObjectCall) :
    Stands (s.onObject h c).1
        { t with slot := Function.update t.slot h.toNat (Object.receiverStep lpReceiver c).1 } ∧
      (s.onObject h c).2 = (Object.receiverStep lpReceiver c).2 := by
  have hsender : s.gSenderHandles[h]? = none := by rw [hs.sender, hslot]; rfl
  have hreceiver : s.gReceiverHandles[h]? = some lpReceiver := by rw [hs.receiver, hslot]; rfl
  have hused : t.slot h.toNat ≠ none := by rw [hslot]; exact Option.some_ne_none _
  cases c with
  | efpEndReceive =>
      simp only [onObject, LegacyApi.efpEndReceive, hreceiver]
      exact ⟨hs.update rfl (TreeMap.getElem?_of_none hsender) (TreeMap.getElem?_erase _ _) hused,
        rfl⟩
  | efpReceiveFragment env clk apFragment aFromSource =>
      simp only [onObject, LegacyApi.efpReceiveFragment, hreceiver]
      refine ⟨hs.update rfl (TreeMap.getElem?_of_none hsender) (fun h' => ?_) hused, rfl⟩
      exact TreeMap.getElem?_insert _ _ _ _
  | worker clk =>
      simp only [onObject, LegacyApi.worker, hreceiver]
      refine ⟨hs.update rfl (TreeMap.getElem?_of_none hsender) (fun h' => ?_) hused, rfl⟩
      exact TreeMap.getElem?_insert _ _ _ _
  | efpEndSend =>
      simp only [onObject, LegacyApi.efpEndSend, hsender]
      exact ⟨hs.same hslot, rfl⟩
  | efpSendData clk apData args =>
      simp only [onObject, LegacyApi.efpSendData, hsender]
      exact ⟨hs.same hslot, rfl⟩

theorem Stands.onNothing {h : UInt64} (hs : Stands s t) (hslot : t.slot h.toNat = none)
    (c : ObjectCall) : s.onObject h c = (s, Object.refused c) := by
  have hsender : s.gSenderHandles[h]? = none := by rw [hs.sender, hslot]; rfl
  have hreceiver : s.gReceiverHandles[h]? = none := by rw [hs.receiver, hslot]; rfl
  cases c <;>
    simp only [onObject, LegacyApi.efpEndSend, LegacyApi.efpEndReceive, LegacyApi.efpSendData,
      LegacyApi.efpReceiveFragment, LegacyApi.worker, hsender, hreceiver] <;> rfl

theorem Stands.onObject (hs : Stands s t) (h : UInt64) (c : ObjectCall) :
    Stands (s.onObject h c).1
        { t with
          slot := Function.update t.slot h.toNat
            ((Object.machine κ).step (t.slot h.toNat) c).1 } ∧
      (s.onObject h c).2 = ((Object.machine κ).step (t.slot h.toNat) c).2 := by
  cases hslot : t.slot h.toNat with
  | none =>
      rw [hs.onNothing hslot]
      exact ⟨hs.same hslot, rfl⟩
  | some o =>
      cases o with
      | sender lpSender => exact hs.onSender hslot c
      | receiver lpReceiver => exact hs.onReceiver hslot c

theorem Stands.create {s' : LegacyApi κ} {o : Object κ} (hs : Stands s t)
    (hnext : s'.gNextHandle = s.gNextHandle + 1)
    (hsender : ∀ h', s'.gSenderHandles[h']? =
      if s.gNextHandle = h' then o.sender? else s.gSenderHandles[h']?)
    (hreceiver : ∀ h', s'.gReceiverHandles[h']? =
      if s.gNextHandle = h' then o.receiver? else s.gReceiverHandles[h']?)
    (hroom : t.next < 2 ^ 64) :
    Stands s' ⟨Function.update t.slot t.next (some o), t.next + 1⟩ := by
  have htoNat : s.gNextHandle.toNat = t.next := by
    rw [hs.next]
    exact UInt64.toNat_ofNat_of_lt' hroom
  refine ⟨?_, Nat.succ_pos _, fun h' => ?_, fun h' => ?_, fun n hn => ?_⟩
  · rw [hnext, hs.next]
    exact (UInt64.ofNat_add _ _).symm
  · rw [hsender, hs.sender, ← htoNat, bind_update]
    rfl
  · rw [hreceiver, hs.receiver, ← htoNat, bind_update]
    rfl
  · have hlater : t.next < n := hn
    exact (Function.update_of_ne hlater.ne' _ _).trans (hs.unused n hlater.le)

/-! ### Runs -/

def numbered : LegacyOutput κ → Option (ℕ × Option (ObjectOutput κ))
  | .returned lHandle => if lHandle = 0 then none else some (lHandle.toNat, none)
  | .object aEfpObject o => some (aEfpObject.toNat, some o)

theorem numbered_returned (hs : Stands s t) (hroom : t.next < 2 ^ 64) :
    numbered (.returned s.gNextHandle : LegacyOutput κ) = some (t.next, none) := by
  have htoNat : s.gNextHandle.toNat = t.next := by
    rw [hs.next]
    exact UInt64.toNat_ofNat_of_lt' hroom
  have hne : s.gNextHandle ≠ 0 := by
    intro hzero
    have hpos := hs.pos
    rw [← htoNat, hzero] at hpos
    exact absurd hpos (Nat.lt_irrefl 0)
  rw [numbered, if_neg hne, htoNat]

/-- A step is one of the objects that the maps hold, or creates one. -/
theorem Stands.step (hs : Stands s t) (e : LegacyCall κ)
    (hroom : e.created ≠ none → t.next < 2 ^ 64) :
    Stands ((machine κ).step s e).1 ((Slots.machine (Object.machine κ)).run t e.events).1 ∧
      ((machine κ).step s e).2.filterMap numbered =
        ((Slots.machine (Object.machine κ)).run t e.events).2 := by
  cases e with
  | object h c =>
      obtain ⟨hstands, hout⟩ := hs.onObject h c
      refine ⟨hstands, ?_⟩
      simp only [machine, hout, LegacyCall.events, Machine.run_cons, Machine.run_nil,
        List.append_nil, List.filterMap_map]
      exact congrFun List.filterMap_eq_map _
  | efpInitSend aMtu aCallback resources =>
      simp only [machine, efpInitSend, LegacyCall.events, LegacyCall.created] at hroom ⊢
      cases hcreate : efpSenderCreate (κ := κ) aMtu.toUInt16 resources with
      | none => exact ⟨hs, rfl⟩
      | some lpSender =>
          rw [hcreate] at hroom
          have hnext := hroom (Option.some_ne_none _)
          refine ⟨hs.create rfl (fun h' => ?_) (fun h' => ?_) hnext, ?_⟩
          · exact TreeMap.getElem?_insert _ _ _ _
          · exact TreeMap.getElem?_of_none (by
              rw [hs.receiver, hs.unused _ _]
              · rfl
              · rw [hs.next, UInt64.toNat_ofNat_of_lt' hnext]) h'
          · rw [List.filterMap_cons_some (numbered_returned hs hnext)]
            rfl
  | efpInitReceive aBucketTimeout aHolTimeout aCallback aEmbeddedCallback aMode resources =>
      simp only [machine, efpInitReceive, LegacyCall.events, LegacyCall.created] at hroom ⊢
      cases hcreate : efpReceiverCreate aBucketTimeout aHolTimeout aMode resources with
      | none => exact ⟨hs, rfl⟩
      | some lpReceiver =>
          rw [hcreate] at hroom
          have hnext := hroom (Option.some_ne_none _)
          refine ⟨hs.create rfl (fun h' => ?_) (fun h' => ?_) hnext, ?_⟩
          · exact TreeMap.getElem?_of_none (by
              rw [hs.sender, hs.unused _ _]
              · rfl
              · rw [hs.next, UInt64.toNat_ofNat_of_lt' hnext]) h'
          · exact TreeMap.getElem?_insert _ _ _ _
          · rw [List.filterMap_cons_some (numbered_returned hs hnext)]
            rfl

def creations (es : List (LegacyCall κ)) : ℕ := (es.filterMap LegacyCall.created).length

theorem creations_events (es : List (LegacyCall κ)) :
    Slots.creations (es.flatMap LegacyCall.events) = creations es := by
  induction es with
  | nil => rfl
  | cons e es ih =>
      rw [List.flatMap_cons, Slots.creations_append, ih, creations, creations]
      cases hcreated : e.created with
      | none =>
          rw [List.filterMap_cons_none hcreated]
          cases e <;> simp [LegacyCall.events, hcreated, Slots.creations]
      | some o =>
          rw [List.filterMap_cons_some hcreated, List.length_cons, Nat.add_comm]
          cases e with
          | object h c => cases hcreated
          | efpInitSend | efpInitReceive =>
              simp [LegacyCall.events, hcreated, Slots.creations]

theorem Stands.run (hs : Stands s t) (es : List (LegacyCall κ))
    (hcount : t.next + creations es ≤ 2 ^ 64) :
    Stands ((machine κ).run s es).1
        ((Slots.machine (Object.machine κ)).run t (es.flatMap LegacyCall.events)).1 ∧
      ((machine κ).run s es).2.filterMap numbered =
        ((Slots.machine (Object.machine κ)).run t (es.flatMap LegacyCall.events)).2 := by
  induction es generalizing s t with
  | nil => exact ⟨hs, rfl⟩
  | cons e es ih =>
      have hsplit : creations (e :: es) = creations [e] + creations es := by
        rw [creations, ← List.singleton_append, List.filterMap_append, List.length_append]
        rfl
      have hroom : e.created ≠ none → t.next < 2 ^ 64 := by
        intro hcreated
        obtain ⟨o, ho⟩ := Option.ne_none_iff_exists'.mp hcreated
        have hone : creations [e] = 1 := by
          rw [creations, List.filterMap_cons_some ho]
          rfl
        omega
      obtain ⟨hstep, hout⟩ := hs.step e hroom
      have hnext := Slots.next_run (Object.machine κ) t e.events
      have hevents := creations_events [e]
      rw [List.flatMap_singleton] at hevents
      obtain ⟨hstands, houts⟩ := ih hstep (by omega)
      rw [Machine.run_cons, List.flatMap_cons, Machine.run_append, List.filterMap_append, hout,
        houts]
      exact ⟨hstands, rfl⟩

theorem callsOf_events (h : UInt64) (es : List (LegacyCall κ)) :
    Slots.callsOf h.toNat (es.flatMap LegacyCall.events) = es.filterMap (LegacyCall.on h) := by
  induction es with
  | nil => rfl
  | cons e es ih =>
      rw [List.flatMap_cons, Slots.callsOf, List.filterMap_append]
      change _ ++ Slots.callsOf h.toNat _ = _
      rw [ih]
      cases e with
      | object h' c =>
          by_cases heq : h' = h
          · simp [LegacyCall.events, LegacyCall.on, heq]
          · have hne : h'.toNat ≠ h.toNat := fun hsame => heq (UInt64.toNat_inj.mp hsame)
            simp [LegacyCall.events, LegacyCall.on, heq, hne]
      | efpInitSend | efpInitReceive =>
          simp only [LegacyCall.events, LegacyCall.on]
          cases (LegacyCall.created _) <;> rfl

theorem outputsOf_numbered (h : UInt64) (os : List (LegacyOutput κ)) :
    Slots.outputsOf h.toNat (os.filterMap numbered) = os.filterMap (LegacyOutput.on h) := by
  rw [Slots.outputsOf, List.filterMap_filterMap]
  congr 1
  funext o
  cases o with
  | returned lHandle =>
      simp only [numbered, LegacyOutput.on]
      split_ifs <;> simp
  | object h' o => simp [numbered, LegacyOutput.on, UInt64.toNat_inj]

theorem given_numbered (os : List (LegacyOutput κ)) :
    (Slots.given (os.filterMap numbered)).map UInt64.ofNat =
      os.filterMap LegacyOutput.handle? := by
  rw [Slots.given, List.filterMap_filterMap, List.map_filterMap]
  congr 1
  funext o
  cases o with
  | returned lHandle =>
      simp only [numbered, LegacyOutput.handle?]
      split_ifs <;> simp
  | object h' o => simp [numbered, LegacyOutput.handle?]

/-- In every run that gives out fewer handles than there are: the handles are
1, 2, 3 and so on, none of them twice. Under each of them every call is refused
until it is given out, and what is put out from then on is what its sender or
receiver puts out alone, in whatever order the calls under other handles come in
between; when it has been ended, every call is refused again. -/
theorem alone (before after : List (LegacyCall κ)) (init : LegacyCall κ) {o : Object κ}
    (hinit : init.created = some o)
    (hcount : creations (before ++ init :: after) < 2 ^ 64) :
    let os := ((machine κ).run {} (before ++ init :: after)).2
    let h := UInt64.ofNat (1 + creations before)
    os.filterMap LegacyOutput.handle? =
        (List.range' 1 (creations (before ++ init :: after))).map UInt64.ofNat ∧
      os.filterMap (LegacyOutput.on h) =
        (before.filterMap (LegacyCall.on h)).flatMap Object.refused ++
          ((Object.machine κ).run (some o) (after.filterMap (LegacyCall.on h))).2 := by
  intro os h
  obtain ⟨-, hout⟩ := (stands_new (κ := κ)).run (before ++ init :: after) (by
    simp only
    omega)
  have hevents : init.events = [.create o] := by
    cases init with
    | object h c => cases hinit
    | efpInitSend | efpInitReceive => simp [LegacyCall.events, hinit]
  have htoNat : h.toNat = 1 + Slots.creations (before.flatMap LegacyCall.events) := by
    rw [creations_events]
    have hsplit : creations (before ++ init :: after) =
        creations before + (creations after + 1) := by
      rw [creations, List.filterMap_append, List.filterMap_cons_some hinit, List.length_append,
        List.length_cons]
      rfl
    exact UInt64.toNat_ofNat_of_lt' (show 1 + creations before < 2 ^ 64 by omega)
  have hrun := Slots.outputsOf_run (Object.machine κ) ⟨fun _ => none, 1⟩
    (before.flatMap LegacyCall.events) o (after.flatMap LegacyCall.events)
  constructor
  · rw [← given_numbered, hout, Slots.given_run, creations_events]
  · rw [← outputsOf_numbered, hout, List.flatMap_append, List.flatMap_cons, hevents,
      List.singleton_append, htoNat, hrun, ← htoNat, callsOf_events, callsOf_events,
      Object.run_none]

/-- A receiver, and a call of the handle that the sender is about to have. -/
def beforeSender : List (LegacyCall Unit) :=
  [.efpInitReceive 100 0 true false 2 true,
    .object 2 (.efpSendData (Sample.clockAt 0) [7] Sample.sendArgs)]

def initSender : LegacyCall Unit := .efpInitSend 1456 (some ()) true

/-- The sender sends, is taken for a receiver, and is ended and called again. -/
def afterSender : List (LegacyCall Unit) :=
  [.object 2 (.efpSendData (Sample.clockAt 0) [7] Sample.sendArgs), .object 1 .efpEndSend,
    .object 2 .efpEndReceive, .object 2 .efpEndSend,
    .object 2 (.efpSendData (Sample.clockAt 0) [7] Sample.sendArgs)]

theorem alone_sender :
    let os := ((machine Unit).run {} (beforeSender ++ initSender :: afterSender)).2
    os.filterMap LegacyOutput.handle? = [1, 2] ∧
      os.filterMap (LegacyOutput.on 2) =
        .result .invalidParameter ::
          ((Object.machine Unit).run (some (.sender ((EfpSender.create 1456).setCallback (some ()))))
            (afterSender.filterMap (LegacyCall.on 2))).2 :=
  alone beforeSender afterSender initSender rfl (by decide)

end LegacyApi

end CApi

end ElasticFrame
