import ElasticFrame.Lib.RecursiveMutex
import ElasticFrame.Receiver.HandOff

/-!
The handles of the legacy C interface. `efp_end_receive` holds `gHandlesMutex`
while it destroys the receiver, which joins the delivery thread; the receive
callback, which the delivery thread runs, may call `efp_send_data` and
`efp_receive_fragment`, which lock `gHandlesMutex`. `stop` is careful not to
hold a mutex that the delivery thread needs while it joins it, but it does not
see this one.

A step of the callback is one of the user's code, up to a call of the
interface, or one of that call.
-/

namespace ElasticFrame

open Lib

/-- A call of the interface from a callback, with the calls that callbacks
make inside it. A handle that is not found has none. -/
inductive ApiCall
  | efpSendData (inside : List ApiCall)
  | efpReceiveFragment (inside : List ApiCall)

def ApiCall.inside : ApiCall → List ApiCall
  | efpSendData inside | efpReceiveFragment inside => inside

namespace Handles

inductive Thread
  | application
  | delivery
  deriving DecidableEq

/-- Where the application thread is in `efp_end_receive`. -/
inductive Application
  | idle
  /-- At the lock of `gHandlesMutex`. -/
  | lockHandles (aEfpObject : UInt64)
  /-- At `gReceiverHandles.find`. -/
  | find (aEfpObject : UInt64)
  /-- At a call of `stop`: that of `efp_receiver_destroy`, or the one again of
  the destructor. -/
  | callStop (again : Bool)
  | inStop (again : Bool)
  /-- At `gReceiverHandles.erase`. -/
  | erase
  /-- At the end of the lock's scope. -/
  | unlock

/-- Where the delivery thread is in the receive callback. -/
inductive Callback
  | outside
  /-- In the user's code, with these calls to make in the callback it is in,
  and these in the callbacks around it. -/
  | running (calls : List ApiCall) (around : List (List ApiCall))
  /-- In a call, at the lock of `gHandlesMutex`. -/
  | lockHandles (call : ApiCall) (calls : List ApiCall) (around : List (List ApiCall))

end Handles

/-- The receiver with the calls that are made for each frame, the handle under
which `gReceiverHandles` has it, and where the two threads are. -/
structure Handles where
  receiver : HandOff (List ApiCall) := {}
  handle : Option UInt64
  gHandlesMutex : RecursiveMutex Handles.Thread := .free
  application : Handles.Application := .idle
  callback : Handles.Callback := .outside

namespace Handles

def new (handle : UInt64) : Handles := { handle := some handle }

def applicationStep (s : Handles) : Handles :=
  match s.application with
  | .idle => s
  | .lockHandles aEfpObject =>
      match s.gHandlesMutex.lock .application with
      | none => s
      | some m => { s with gHandlesMutex := m, application := .find aEfpObject }
  | .find aEfpObject =>
      { s with
        application := if s.handle = some aEfpObject then .callStop false else .unlock }
  | .callStop again =>
      let r := s.receiver.stopperStep
      match r.stopper with
      | .outside => { s with receiver := r }
      | _ => { s with receiver := r, application := .inStop again }
  | .inStop again =>
      let r := s.receiver.stopperStep
      match r.stopper with
      | .outside =>
          { s with receiver := r, application := if again then .erase else .callStop true }
      | _ => { s with receiver := r }
  | .erase => { s with handle := none, application := .unlock }
  | .unlock => { s with gHandlesMutex := s.gHandlesMutex.unlock, application := .idle }

/-- The next step of the delivery thread: of `deliveryLoop`, or of the callback
that it calls. -/
def deliveryStep (s : Handles) : Handles × List (HandOff.Output (List ApiCall)) :=
  match s.callback with
  | .outside =>
      match s.receiver.delivery with
      | .call (some calls) => ({ s with callback := .running calls [] }, [])
      | _ =>
          let stepped := s.receiver.deliveryStep
          ({ s with receiver := stepped.1 }, stepped.2)
  | .running (call :: calls) around =>
      ({ s with callback := .lockHandles call calls around }, [])
  | .lockHandles call calls around =>
      match s.gHandlesMutex.lock .delivery with
      | none => (s, [])
      | some m =>
          ({ s with gHandlesMutex := m, callback := .running call.inside (calls :: around) }, [])
  | .running [] (calls :: around) =>
      ({ s with gHandlesMutex := s.gHandlesMutex.unlock, callback := .running calls around }, [])
  | .running [] [] =>
      let stepped := s.receiver.deliveryStep
      ({ s with receiver := stepped.1, callback := .outside }, stepped.2)

/-- A call of `efp_end_receive`, a step of it, or a step of one of the
receiver's threads. -/
inductive Turn
  | efpEndReceive (aEfpObject : UInt64)
  | application
  | deliverFrame (calls : List ApiCall)
  | worker
  | delivery
  | wake

def beginEnd (s : Handles) (aEfpObject : UInt64) : Handles :=
  match s.application with
  | .idle => { s with application := .lockHandles aEfpObject }
  | _ => s

/-- The threads as a machine: a run is an interleaving of their steps. -/
def machine : Machine Handles Turn (HandOff.Output (List ApiCall)) where
  step s
    | .efpEndReceive aEfpObject => (s.beginEnd aEfpObject, [])
    | .application => (s.applicationStep, [])
    | .deliverFrame calls => ({ s with receiver := s.receiver.beginDelivery calls }, [])
    | .worker =>
        let stepped := s.receiver.workerStep
        ({ s with receiver := stepped.1 }, stepped.2)
    | .delivery => s.deliveryStep
    | .wake => ({ s with receiver := ((HandOff.machine _).step s.receiver .wake).1 }, [])

/-! ### Waiting -/

/-- `efp_end_receive` waits for the delivery thread to end. -/
def Joins (s : Handles) : Prop :=
  (∃ again, s.application = .inStop again) ∧ s.receiver.stopper = .join ∧
    s.receiver.delivery ≠ .ended

/-- It does so with `gHandlesMutex`, for which the delivery thread waits. -/
def Deadlocked (s : Handles) : Prop :=
  s.Joins ∧ s.gHandlesMutex.holder = some .application ∧
    ∃ call calls around, s.callback = .lockHandles call calls around

/-- The thread is in an `efp_end_receive` that destroys the receiver. -/
def Application.Destroys (handle : Option UInt64) : Application → Prop
  | idle | lockHandles _ | unlock => False
  | find aEfpObject => handle = some aEfpObject
  | callStop _ | inStop _ | erase => True

instance (handle : Option UInt64) : (a : Application) → Decidable (a.Destroys handle)
  | .idle | .lockHandles _ | .unlock => isFalse id
  | .find aEfpObject => inferInstanceAs (Decidable (handle = some aEfpObject))
  | .callStop _ | .inStop _ | .erase => isTrue trivial

/-- The thread is in a callback that has calls to make, or is in one. -/
def Callback.Calls : Callback → Prop
  | outside => False
  | running calls around => calls ≠ [] ∨ around ≠ []
  | lockHandles .. => True

instance : (c : Callback) → Decidable c.Calls
  | .outside => isFalse id
  | .running _ _ => inferInstanceAs (Decidable (_ ∨ _))
  | .lockHandles .. => isTrue trivial

/-- `efp_end_receive` takes `gHandlesMutex` for the receiver's handle outside
the callbacks with calls to make. -/
def Application.KeepsApart (s : Handles) : Application → Prop
  | lockHandles aEfpObject =>
      s.gHandlesMutex.lock .application ≠ none → s.handle = some aEfpObject → ¬ s.callback.Calls
  | _ => True

instance (s : Handles) : (a : Application) → Decidable (a.KeepsApart s)
  | .lockHandles _ => inferInstanceAs (Decidable (_ → _))
  | .idle | .find _ | .callStop _ | .inStop _ | .erase | .unlock => isTrue trivial

/-- The thread comes to a callback with calls to make. -/
def CallsNext : HandOff.Loop (List ApiCall) → Prop
  | .call (some calls) => calls ≠ []
  | _ => False

instance : (l : HandOff.Loop (List ApiCall)) → Decidable (CallsNext l)
  | .call (some calls) => inferInstanceAs (Decidable (calls ≠ []))
  | .call none => isFalse id
  | .running | .lock | .predicate | .sleep | .blocked | .woken | .awake | .pop | .settle _
  | .unlock _ | .leave | .ended => isFalse id

/-- A callback with calls to make begins while the receiver is not being
destroyed. -/
def Callback.KeepsApart (s : Handles) : Callback → Prop
  | outside => CallsNext s.receiver.delivery → ¬ s.application.Destroys s.handle
  | _ => True

instance (s : Handles) : (c : Callback) → Decidable (c.KeepsApart s)
  | .outside => inferInstanceAs (Decidable (_ → _))
  | .running .. | .lockHandles .. => isTrue trivial

/-- An `efp_end_receive` that destroys the receiver and a callback with calls to
make do not overlap. -/
def KeepsApart (s : Handles) : Turn → Prop
  | .application => s.application.KeepsApart s
  | .delivery => s.callback.KeepsApart s
  | .efpEndReceive _ | .deliverFrame _ | .worker | .wake => True

instance (s : Handles) : (turn : Turn) → Decidable (s.KeepsApart turn)
  | .application => inferInstanceAs (Decidable (s.application.KeepsApart s))
  | .delivery => inferInstanceAs (Decidable (s.callback.KeepsApart s))
  | .efpEndReceive _ | .deliverFrame _ | .worker | .wake => isTrue trivial

/-! ### Without overlap -/

/-- The thread that destroys the receiver and the one that runs a callback with
calls to make are not both there. -/
def Apart (s : Handles) : Prop := s.application.Destroys s.handle → ¬ s.callback.Calls

section Step

variable {s : Handles}

theorem Apart.not_deadlocked (h : s.Apart) : ¬ s.Deadlocked := by
  rintro ⟨⟨⟨again, happlication⟩, -⟩, -, call, calls, around, hcallback⟩
  -- a thread that joins destroys the receiver, and one at the lock has a call to make
  refine h ?_ ?_
  · rw [happlication]
    trivial
  · rw [hcallback]
    trivial

theorem Apart.beginEnd (h : s.Apart) (aEfpObject : UInt64) : Apart (s.beginEnd aEfpObject) := by
  unfold Handles.beginEnd
  cases hphase : s.application with
  | idle => exact fun habs => absurd habs id
  | lockHandles aEfpObject => exact h
  | find aEfpObject => exact h
  | callStop again => exact h
  | inStop again => exact h
  | erase => exact h
  | unlock => exact h

theorem Apart.applicationStep (h : s.Apart) (hapart : s.KeepsApart .application) :
    Apart s.applicationStep := by
  unfold Handles.applicationStep
  cases hphase : s.application with
  | idle => exact h
  | lockHandles aEfpObject =>
      rw [KeepsApart, hphase] at hapart
      dsimp only
      cases hlock : s.gHandlesMutex.lock .application with
      | none => exact h
      | some m =>
          -- the only step of this thread that can begin an overlap
          refine hapart ?_
          rw [hlock]
          exact Option.some_ne_none m
  | find aEfpObject =>
      dsimp only
      split_ifs with hfound
      · exact fun _ => h (by rw [hphase]; exact hfound)
      · exact fun habs => absurd habs id
  | callStop again =>
      dsimp only
      split
      · exact fun _ => h (by rw [hphase]; trivial)
      · exact fun _ => h (by rw [hphase]; trivial)
  | inStop again =>
      dsimp only
      split
      · exact fun _ => h (by rw [hphase]; trivial)
      · exact fun _ => h (by rw [hphase]; trivial)
  | erase => exact fun habs => absurd habs id
  | unlock => exact fun habs => absurd habs id

theorem Apart.deliveryStep (h : s.Apart) (hapart : s.KeepsApart .delivery) :
    Apart s.deliveryStep.1 := by
  unfold Handles.deliveryStep
  cases hphase : s.callback with
  | outside =>
      rw [KeepsApart, hphase] at hapart
      dsimp only
      split
      case h_1 calls hcall =>
          -- the only step of this thread that can begin an overlap
          intro hdestroys hcalls
          refine hapart ?_ hdestroys
          rw [hcall]
          exact hcalls.resolve_right (not_not.mpr rfl)
      case h_2 => exact fun _ => id
  | running calls around =>
      rw [Apart, hphase] at h
      cases calls with
      | cons call calls =>
          exact fun hdestroys => absurd (.inl (List.cons_ne_nil _ _)) (h hdestroys)
      | nil =>
          cases around with
          | cons calls around =>
              exact fun hdestroys => absurd (.inr (List.cons_ne_nil _ _)) (h hdestroys)
          | nil => exact fun _ => id
  | lockHandles call calls around =>
      dsimp only
      cases hlock : s.gHandlesMutex.lock .delivery with
      | none => exact h
      | some m => exact fun hdestroys => absurd (by rw [hphase]; trivial) (h hdestroys)

theorem Apart.step {turn : Turn} (h : s.Apart) (hapart : s.KeepsApart turn) :
    Apart (machine.step s turn).1 := by
  cases turn with
  | efpEndReceive aEfpObject => exact h.beginEnd aEfpObject
  | application => exact h.applicationStep hapart
  | deliverFrame calls => exact h
  | worker => exact h
  | delivery => exact h.deliveryStep hapart
  | wake => exact h

end Step

/-- In a run in which the two do not overlap nobody waits for the other. -/
theorem not_deadlocked_of_along (handle : UInt64) {turns : List Turn}
    (h : machine.Along KeepsApart (new handle) turns) :
    machine.Along (fun s _ => ¬ s.Deadlocked) (new handle) turns ∧
      ¬ (machine.run (new handle) turns).1.Deadlocked := by
  have hnew : Apart (new handle) := fun habs => absurd habs id
  constructor
  · exact machine.along_of_invariant (fun _ _ hs hapart => hs.step hapart)
      (fun _ _ hs _ => hs.not_deadlocked) hnew h
  · have hend : Apart (machine.run (new handle) turns).1 :=
      machine.run_invariant (fun _ _ hs hapart => hs.step hapart) hnew h
    exact hend.not_deadlocked

/-! ### The receiver's threads -/

/-- The steps of the receiver's threads that a step stands for. -/
def acts (s : Handles) : Turn → List (HandOff.Turn (List ApiCall))
  | .efpEndReceive _ => []
  | .application =>
      match s.application with
      | .callStop _ | .inStop _ => [.stopper]
      | _ => []
  | .deliverFrame calls => [.deliverFrame calls]
  | .worker => [.worker]
  | .delivery =>
      match s.callback with
      | .outside =>
          match s.receiver.delivery with
          | .call (some _) => []
          | _ => [.delivery]
      | .running [] [] => [.delivery]
      | _ => []
  | .wake => [.wake]

theorem run_receiver (s : Handles) (turns : List Turn) :
    (machine.run s turns).1.receiver =
      ((HandOff.machine _).run s.receiver (machine.flatten acts s turns)).1 := by
  refine machine.run_flatten_part (HandOff.machine _) Handles.receiver acts (fun s turn => ?_) s
    turns
  cases turn with
  | efpEndReceive aEfpObject =>
      simp only [machine, beginEnd, acts]
      cases s.application <;> rfl
  | application =>
      simp only [machine, applicationStep, acts]
      cases s.application with
      | idle => rfl
      | lockHandles aEfpObject =>
          dsimp only
          cases s.gHandlesMutex.lock .application <;> rfl
      | find aEfpObject => rfl
      | callStop again =>
          dsimp only
          split <;> rfl
      | inStop again =>
          dsimp only
          split <;> rfl
      | erase => rfl
      | unlock => rfl
  | deliverFrame calls => rfl
  | worker => rfl
  | delivery =>
      simp only [machine, deliveryStep, acts]
      cases s.callback with
      | outside =>
          cases s.receiver.delivery with
          | call lpFrame => cases lpFrame <;> rfl
          | running | lock | predicate | sleep | blocked | woken | awake | pop | settle _
          | unlock _ | leave | ended => rfl
      | running calls around => cases calls <;> cases around <;> rfl
      | lockHandles call calls around =>
          dsimp only
          cases s.gHandlesMutex.lock .delivery <;> rfl
  | wake => rfl

/-- What the receiver's own threads do to `stop` and to the delivery thread. -/
structure Elsewhere (r r' : HandOff (List ApiCall)) : Prop where
  stopper : r'.stopper = r.stopper
  mRunning : r'.mRunning = r.mRunning
  delivery : r'.delivery = r.delivery ∨ r'.delivery = r.delivery.notified

theorem elsewhere_workerStep (r : HandOff (List ApiCall)) : Elsewhere r r.workerStep.1 := by
  unfold HandOff.workerStep
  cases r.worker with
  | outside => exact ⟨rfl, rfl, .inl rfl⟩
  | push frame => exact ⟨rfl, rfl, .inl rfl⟩
  | setReady => exact ⟨rfl, rfl, .inl rfl⟩
  | notifyOne => exact ⟨rfl, rfl, .inr rfl⟩
  | unlock => exact ⟨rfl, rfl, .inl rfl⟩

theorem elsewhere_beginDelivery (r : HandOff (List ApiCall)) (calls : List ApiCall) :
    Elsewhere r (r.beginDelivery calls) := by
  unfold HandOff.beginDelivery
  split
  · exact ⟨rfl, rfl, .inl rfl⟩
  · exact ⟨rfl, rfl, .inl rfl⟩

section Kept

variable {r r' : HandOff (List ApiCall)}
  (h : r'.delivery = r.delivery ∨ r'.delivery = r.delivery.notified)

include h

/-- No other thread takes the delivery thread out of a callback, or back from
its end. -/
theorem call_iff {lpFrame : Option (List ApiCall)} :
    r'.delivery = .call lpFrame ↔ r.delivery = .call lpFrame := by
  rcases h with h | h <;> simp [h]

theorem ended_iff : r'.delivery = .ended ↔ r.delivery = .ended := by
  rcases h with h | h <;> simp [h]

end Kept

theorem delivery_stopperStep (r : HandOff (List ApiCall)) :
    r.stopperStep.delivery = r.delivery ∨ r.stopperStep.delivery = r.delivery.notified := by
  unfold HandOff.stopperStep
  cases r.stopper with
  | outside =>
      dsimp only
      split_ifs <;> exact .inl rfl
  | exchange =>
      dsimp only
      split_ifs <;> exact .inl rfl
  | refused => exact .inl rfl
  | unlock => exact .inl rfl
  | notifyAll => exact .inr rfl
  | join =>
      dsimp only
      split <;> exact .inl rfl

/-- The delivery thread leaves `stop` alone, and does not come back from its
end. -/
theorem deliveryStep_stop (r : HandOff (List ApiCall)) :
    r.deliveryStep.1.stopper = r.stopper ∧ r.deliveryStep.1.mRunning = r.mRunning ∧
      (r.delivery = .ended → r.deliveryStep.1.delivery = .ended) := by
  unfold HandOff.deliveryStep
  cases hphase : r.delivery with
  | lock | woken =>
      dsimp only
      split_ifs <;> simp [hphase]
  | running | predicate | sleep | blocked | awake | pop | settle _ | unlock _ | call _ | leave
  | ended => simp [hphase]

/-! ### Where the threads are -/

def Application.depth : Application → ℕ
  | idle | lockHandles _ => 0
  | find _ | callStop _ | inStop _ | erase | unlock => 1

def Callback.depth : Callback → ℕ
  | outside => 0
  | running _ around | lockHandles _ _ around => around.length

/-- How far the receiver has been stopped. The first `stop` clears `mRunning`
and returns when the delivery thread has ended. -/
def Application.Stage (r : HandOff (List ApiCall)) (handle : Option UInt64) : Application → Prop
  | idle | lockHandles _ | find _ | unlock =>
      r.stopper = .outside ∧ (handle ≠ none → r.mRunning = true)
  | callStop false => r.stopper = .outside ∧ r.mRunning = true
  | inStop false =>
      r.stopper = .exchange ∧ r.mRunning = true ∨ r.stopper = .unlock ∨ r.stopper = .notifyAll ∨
        r.stopper = .join
  | callStop true | erase => r.stopper = .outside ∧ r.delivery = .ended
  | inStop true => r.delivery = .ended

theorem Application.Stage.kept {r r' : HandOff (List ApiCall)} {handle : Option UInt64}
    {a : Application} (h : a.Stage r handle) (hstopper : r'.stopper = r.stopper)
    (hrunning : r'.mRunning = r.mRunning) (hended : r.delivery = .ended → r'.delivery = .ended) :
    a.Stage r' handle := by
  cases a with
  | idle | lockHandles _ | find _ | unlock =>
      exact ⟨hstopper.trans h.1, fun hne => hrunning.trans (h.2 hne)⟩
  | callStop again =>
      cases again with
      | false => exact ⟨hstopper.trans h.1, hrunning.trans h.2⟩
      | true => exact ⟨hstopper.trans h.1, hended h.2⟩
  | inStop again =>
      cases again with
      | false =>
          rw [Application.Stage, hstopper, hrunning]
          exact h
      | true => exact hended h
  | erase => exact ⟨hstopper.trans h.1, hended h.2⟩

/-- The threads have locked `gHandlesMutex` as often as where they are says, and
the receiver is where they have brought it. -/
structure Staged (s : Handles) : Prop where
  application : s.gHandlesMutex.depth .application = s.application.depth
  delivery : s.gHandlesMutex.depth .delivery = s.callback.depth
  stage : s.application.Stage s.receiver s.handle
  calling : s.callback ≠ .outside → ∃ calls, s.receiver.delivery = .call (some calls)

theorem staged_new (handle : UInt64) : (new handle).Staged :=
  ⟨rfl, rfl, ⟨rfl, fun _ => rfl⟩, fun h => absurd rfl h⟩

section Step

variable {s : Handles}

theorem Staged.beginEnd (h : s.Staged) (aEfpObject : UInt64) : Staged (s.beginEnd aEfpObject) := by
  unfold Handles.beginEnd
  cases hphase : s.application with
  | idle =>
      obtain ⟨hdepth, hdelivery, hstage, hcalling⟩ := h
      rw [hphase] at hdepth hstage
      exact ⟨hdepth, hdelivery, hstage, hcalling⟩
  | lockHandles aEfpObject => exact h
  | find aEfpObject => exact h
  | callStop again => exact h
  | inStop again => exact h
  | erase => exact h
  | unlock => exact h

theorem Staged.elsewhere (h : s.Staged) {r : HandOff (List ApiCall)}
    (hr : Elsewhere s.receiver r) : Staged { s with receiver := r } := by
  refine ⟨h.application, h.delivery, ?_, fun hne => ?_⟩
  · exact h.stage.kept hr.stopper hr.mRunning (ended_iff hr.delivery).mpr
  · obtain ⟨calls, hcall⟩ := h.calling hne
    exact ⟨calls, (call_iff hr.delivery).mpr hcall⟩

theorem Staged.applicationMoves (h : s.Staged) {a : Application} {r : HandOff (List ApiCall)}
    {handle : Option UInt64} (hdepth : a.depth = s.application.depth) (hstage : a.Stage r handle)
    (hdelivery : r.delivery = s.receiver.delivery ∨
      r.delivery = s.receiver.delivery.notified) :
    Staged { s with receiver := r, handle := handle, application := a } := by
  refine ⟨h.application.trans hdepth.symm, h.delivery, hstage, fun hne => ?_⟩
  obtain ⟨calls, hcall⟩ := h.calling hne
  exact ⟨calls, (call_iff hdelivery).mpr hcall⟩

theorem stage_stopperStep {r : HandOff (List ApiCall)} {handle : Option UInt64}
    (h : (Application.inStop false).Stage r handle) :
    (Application.inStop false).Stage r.stopperStep handle ∧ r.stopperStep.stopper ≠ .outside ∨
      r.stopperStep.stopper = .outside ∧ r.stopperStep.delivery = .ended := by
  unfold HandOff.stopperStep
  rcases h with ⟨hphase, hrunning⟩ | hphase | hphase | hphase
  · rw [hphase, hrunning]
    exact .inl ⟨.inr (.inl rfl), fun habs => nomatch habs⟩
  · rw [hphase]
    exact .inl ⟨.inr (.inr (.inl rfl)), fun habs => nomatch habs⟩
  · rw [hphase]
    exact .inl ⟨.inr (.inr (.inr rfl)), fun habs => nomatch habs⟩
  · rw [hphase]
    dsimp only
    split
    case h_1 hended => exact .inr ⟨rfl, hended⟩
    case h_2 =>
        refine .inl ⟨.inr (.inr (.inr hphase)), ?_⟩
        rw [hphase]
        exact fun habs => nomatch habs

theorem Staged.applicationStep (h : s.Staged) : Staged s.applicationStep := by
  have hdepth := h.application
  have hstage := h.stage
  unfold Handles.applicationStep
  cases hphase : s.application with
  | idle => exact h
  | lockHandles aEfpObject =>
      rw [hphase] at hdepth hstage
      dsimp only
      cases hlock : s.gHandlesMutex.lock .application with
      | none => exact h
      | some m =>
          refine ⟨?_, ?_, hstage, h.calling⟩
          · exact (RecursiveMutex.depth_lock hlock).trans (by rw [hdepth]; rfl)
          · exact (RecursiveMutex.depth_lock_other hlock (by decide)).trans h.delivery
  | find aEfpObject =>
      rw [hphase] at hstage
      dsimp only
      split_ifs with hfound
      · have hrunning := hstage.2 (by rw [hfound]; exact Option.some_ne_none _)
        exact h.applicationMoves (by rw [hphase]; rfl) ⟨hstage.1, hrunning⟩ (.inl rfl)
      · exact h.applicationMoves (by rw [hphase]; rfl) hstage (.inl rfl)
  | callStop again =>
      have hdelivery := delivery_stopperStep s.receiver
      rw [hphase] at hstage
      cases again with
      | false =>
          -- `stop` goes on if it can lock `mDeliveryMutex`
          have hstep : s.receiver.stopperStep = if s.receiver.mDeliveryMutex = none then
              { s.receiver with mDeliveryMutex := some .stopper, stopper := .exchange }
              else s.receiver := by rw [HandOff.stopperStep, hstage.1]
          dsimp only
          split
          case h_1 houtside =>
              refine h.applicationMoves (by rw [hphase]) ⟨houtside, ?_⟩ hdelivery
              rw [hstep]
              split_ifs <;> exact hstage.2
          case h_2 hnot =>
              refine h.applicationMoves (by rw [hphase]; rfl) (.inl ?_) hdelivery
              rw [hstep] at hnot ⊢
              split_ifs at hnot ⊢ with hfree
              · exact ⟨rfl, hstage.2⟩
              · exact absurd hstage.1 hnot
      | true =>
          have hended := (ended_iff hdelivery).mpr hstage.2
          dsimp only
          split
          case h_1 houtside =>
              exact h.applicationMoves (by rw [hphase]) ⟨houtside, hended⟩ hdelivery
          case h_2 => exact h.applicationMoves (by rw [hphase]; rfl) hended hdelivery
  | inStop again =>
      have hdelivery := delivery_stopperStep s.receiver
      rw [hphase] at hstage
      dsimp only
      cases again with
      | false =>
          split
          case h_1 houtside =>
              rcases stage_stopperStep hstage with ⟨-, hnot⟩ | ⟨-, hended⟩
              · exact absurd houtside hnot
              · exact h.applicationMoves (by rw [hphase]; rfl) ⟨houtside, hended⟩ hdelivery
          case h_2 hnot =>
              rcases stage_stopperStep hstage with ⟨hstage', -⟩ | ⟨houtside, -⟩
              · exact h.applicationMoves (by rw [hphase]) hstage' hdelivery
              · exact absurd houtside hnot
      | true =>
          have hended := (ended_iff hdelivery).mpr hstage
          split
          case h_1 houtside =>
              exact h.applicationMoves (by rw [hphase]; rfl) ⟨houtside, hended⟩ hdelivery
          case h_2 => exact h.applicationMoves (by rw [hphase]) hended hdelivery
  | erase =>
      rw [hphase] at hstage
      exact h.applicationMoves (by rw [hphase]; rfl) ⟨hstage.1, fun habs => absurd rfl habs⟩
        (.inl rfl)
  | unlock =>
      rw [hphase] at hdepth hstage
      have hpos : 0 < s.gHandlesMutex.depth .application := by rw [hdepth]; exact Nat.one_pos
      have hother : s.gHandlesMutex.unlock.depth .delivery = s.gHandlesMutex.depth .delivery :=
        RecursiveMutex.depth_unlock_other hpos (by decide)
      exact ⟨RecursiveMutex.depth_unlock_of_eq hdepth, hother.trans h.delivery, hstage, h.calling⟩

theorem Staged.deliveryStep (h : s.Staged) : Staged s.deliveryStep.1 := by
  have hdepth := h.delivery
  obtain ⟨hstopper, hrunning, hended⟩ := deliveryStep_stop s.receiver
  have hstage := h.stage.kept hstopper hrunning hended
  unfold Handles.deliveryStep
  cases hphase : s.callback with
  | outside =>
      rw [hphase] at hdepth
      dsimp only
      split
      case h_1 calls hcall => exact ⟨h.application, hdepth, h.stage, fun _ => ⟨calls, hcall⟩⟩
      case h_2 => exact ⟨h.application, hdepth, hstage, fun habs => absurd rfl habs⟩
  | running calls around =>
      have hcall := h.calling (by rw [hphase]; exact fun habs => nomatch habs)
      rw [hphase] at hdepth
      cases calls with
      | cons call calls => exact ⟨h.application, hdepth, h.stage, fun _ => hcall⟩
      | nil =>
          cases around with
          | cons calls around =>
              have hpos : 0 < s.gHandlesMutex.depth .delivery := by
                rw [hdepth]
                exact Nat.succ_pos _
              have hother : s.gHandlesMutex.unlock.depth .application =
                  s.gHandlesMutex.depth .application :=
                RecursiveMutex.depth_unlock_other hpos (by decide)
              exact ⟨hother.trans h.application, RecursiveMutex.depth_unlock_of_eq hdepth, h.stage,
                fun _ => hcall⟩
          | nil => exact ⟨h.application, hdepth, hstage, fun habs => absurd rfl habs⟩
  | lockHandles call calls around =>
      have hcall := h.calling (by rw [hphase]; exact fun habs => nomatch habs)
      rw [hphase] at hdepth
      dsimp only
      cases hlock : s.gHandlesMutex.lock .delivery with
      | none => exact h
      | some m =>
          refine ⟨?_, ?_, h.stage, fun _ => hcall⟩
          · exact (RecursiveMutex.depth_lock_other hlock (by decide)).trans h.application
          · exact (RecursiveMutex.depth_lock hlock).trans (by rw [hdepth]; rfl)

theorem Staged.step (h : s.Staged) (turn : Turn) : Staged (machine.step s turn).1 := by
  cases turn with
  | efpEndReceive aEfpObject => exact h.beginEnd aEfpObject
  | application => exact h.applicationStep
  | deliverFrame calls => exact h.elsewhere (elsewhere_beginDelivery _ calls)
  | worker => exact h.elsewhere (elsewhere_workerStep _)
  | delivery => exact h.deliveryStep
  | wake => exact h.elsewhere ⟨rfl, rfl, .inr rfl⟩

end Step

theorem staged_run (handle : UInt64) (turns : List Turn) :
    Staged (machine.run (new handle) turns).1 :=
  machine.run_invariant (fun _ turn hs _ => hs.step turn) (staged_new handle)
    (machine.along_of_forall (C := fun _ _ => True) (fun _ _ _ => trivial) _)

theorem sound_receiver (handle : UInt64) (turns : List Turn) :
    ∃ os, (machine.run (new handle) turns).1.receiver.Sound os := by
  rw [run_receiver]
  exact ⟨_, HandOff.sound_run _⟩

/-! ### With overlap -/

section Step

variable {s : Handles}

theorem Joins.elsewhere (h : s.Joins) {r : HandOff (List ApiCall)} (hr : Elsewhere s.receiver r) :
    Joins { s with receiver := r } :=
  ⟨h.1, hr.stopper.trans h.2.1, fun hended => h.2.2 ((ended_iff hr.delivery).mp hended)⟩

theorem Joins.applicationStep (h : s.Joins) : s.applicationStep = s := by
  obtain ⟨⟨again, hphase⟩, hjoin, hended⟩ := h
  have hstep : s.receiver.stopperStep = s.receiver := by
    unfold HandOff.stopperStep
    rw [hjoin]
    dsimp only
    split
    case h_1 hended' => exact absurd hended' hended
    case h_2 => rfl
  rw [Handles.applicationStep, hphase]
  simp only [hstep, hjoin]
  rw [← hphase]

theorem Deadlocked.step (h : s.Deadlocked) (turn : Turn) : Deadlocked (machine.step s turn).1 := by
  obtain ⟨hjoins, hholder, hcallback⟩ := h
  cases turn with
  | efpEndReceive aEfpObject =>
      obtain ⟨again, hphase⟩ := hjoins.1
      have hsame : s.beginEnd aEfpObject = s := by rw [beginEnd, hphase]
      show Deadlocked (s.beginEnd aEfpObject)
      rw [hsame]
      exact ⟨hjoins, hholder, hcallback⟩
  | application =>
      show Deadlocked s.applicationStep
      rw [hjoins.applicationStep]
      exact ⟨hjoins, hholder, hcallback⟩
  | deliverFrame calls =>
      exact ⟨hjoins.elsewhere (elsewhere_beginDelivery _ calls), hholder, hcallback⟩
  | worker => exact ⟨hjoins.elsewhere (elsewhere_workerStep _), hholder, hcallback⟩
  | delivery =>
      obtain ⟨call, calls, around, hphase⟩ := hcallback
      have hsame : s.deliveryStep.1 = s := by
        rw [Handles.deliveryStep, hphase]
        simp only [RecursiveMutex.lock_eq_none hholder (show Thread.delivery ≠ _ by decide)]
      show Deadlocked s.deliveryStep.1
      rw [hsame]
      exact ⟨hjoins, hholder, call, calls, around, hphase⟩
  | wake => exact ⟨hjoins.elsewhere ⟨rfl, rfl, .inr rfl⟩, hholder, hcallback⟩

theorem Deadlocked.run (h : s.Deadlocked) (turns : List Turn) :
    Deadlocked (machine.run s turns).1 :=
  machine.run_invariant (fun _ turn hs _ => hs.step turn) h
    (machine.along_of_forall (C := fun _ _ => True) (fun _ _ _ => trivial) _)

/-- Once `efp_end_receive` joins, the next call of the callback is enough. -/
theorem Joins.deadlocked (h : s.Joins) (hstaged : s.Staged) (hcalls : s.callback.Calls) :
    ∃ turns, machine.Along KeepsApart s turns ∧ (machine.run s turns).1.Deadlocked := by
  have hholder : s.gHandlesMutex.holder = some .application := by
    obtain ⟨⟨again, hphase⟩, -⟩ := h
    rw [RecursiveMutex.holder_eq_some_iff, hstaged.application, hphase]
    exact Nat.one_pos
  have hdepth : s.callback.depth = 0 :=
    hstaged.delivery.symm.trans (RecursiveMutex.depth_eq_zero hholder (by decide))
  cases hphase : s.callback with
  | outside => rw [hphase] at hcalls; exact absurd hcalls id
  | lockHandles call calls around => exact ⟨[], trivial, h, hholder, call, calls, around, hphase⟩
  | running calls around =>
      rw [hphase] at hcalls hdepth
      obtain rfl : around = [] := List.length_eq_zero_iff.mp hdepth
      obtain ⟨call, calls, rfl⟩ :=
        List.exists_cons_of_ne_nil (hcalls.resolve_right (not_not.mpr rfl))
      have hstep : (machine.run s [.delivery]).1 =
          { s with callback := .lockHandles call calls [] } := by
        show s.deliveryStep.1 = _
        rw [Handles.deliveryStep, hphase]
      refine ⟨[.delivery], ⟨?_, trivial⟩, ?_⟩
      · rw [KeepsApart, hphase]
        trivial
      · rw [hstep]
        exact ⟨h, hholder, call, calls, [], rfl⟩

theorem worker_returns (s : Handles) : ∃ n r,
    (machine.run s (List.replicate n .worker)).1 = { s with receiver := r } ∧
      r.worker = .outside := by
  cases hphase : s.receiver.worker with
  | outside => exact ⟨0, s.receiver, rfl, hphase⟩
  | push frame => exact ⟨4, _, rfl, by simp [machine, HandOff.workerStep, hphase]⟩
  | setReady => exact ⟨3, _, rfl, by simp [machine, HandOff.workerStep, hphase]⟩
  | notifyOne => exact ⟨2, _, rfl, by simp [machine, HandOff.workerStep, hphase]⟩
  | unlock => exact ⟨1, _, rfl, by simp [HandOff.workerStep, hphase]⟩

/-- The application thread can go on to the join without the others. -/
def ComesToJoin (s : Handles) : Prop :=
  ∃ n, machine.Along KeepsApart s (List.replicate n .application) ∧
    (machine.run s (List.replicate n .application)).1.Joins ∧
    (machine.run s (List.replicate n .application)).1.callback = s.callback

theorem ComesToJoin.step {s' : Handles} (h : s'.ComesToJoin) (hstep : s.applicationStep = s')
    (hapart : s.KeepsApart .application) (hcallback : s'.callback = s.callback) :
    s.ComesToJoin := by
  obtain ⟨n, halong, hjoins, hsame⟩ := h
  have hrun : (machine.run s (List.replicate (n + 1) .application)).1 =
      (machine.run s' (List.replicate n .application)).1 := by
    rw [List.replicate_succ, Machine.run_cons, ← hstep]
    rfl
  refine ⟨n + 1, ⟨hapart, ?_⟩, hrun ▸ hjoins, by rw [hrun, hsame, hcallback]⟩
  show machine.Along KeepsApart s.applicationStep _
  rw [hstep]
  exact halong

theorem comesToJoin_of_inStop (hphase : s.application = .inStop false)
    (hstage : s.application.Stage s.receiver s.handle) {lpFrame : Option (List ApiCall)}
    (hcall : s.receiver.delivery = .call lpFrame) : s.ComesToJoin := by
  rw [hphase] at hstage
  rcases hstage with ⟨hstop, hrunning⟩ | hstop | hstop | hstop
  · refine ⟨3, ?_, ⟨⟨false, ?_⟩, ?_, ?_⟩, ?_⟩
    all_goals simp [Machine.run, Machine.along_cons, KeepsApart, Application.KeepsApart, machine,
      applicationStep, hphase, HandOff.stopperStep, hstop, hrunning, hcall, HandOff.Loop.notified]
  · refine ⟨2, ?_, ⟨⟨false, ?_⟩, ?_, ?_⟩, ?_⟩
    all_goals simp [Machine.run, Machine.along_cons, KeepsApart, Application.KeepsApart, machine,
      applicationStep, hphase, HandOff.stopperStep, hstop, hcall, HandOff.Loop.notified]
  · refine ⟨1, ?_, ⟨⟨false, ?_⟩, ?_, ?_⟩, ?_⟩
    all_goals simp [Machine.run, Machine.along_cons, KeepsApart, Application.KeepsApart, machine,
      applicationStep, hphase, HandOff.stopperStep, hstop, hcall, HandOff.Loop.notified]
  · exact ⟨0, trivial, ⟨⟨false, hphase⟩, hstop, by simp [hcall]⟩, rfl⟩

theorem comesToJoin_of_callStop (hphase : s.application = .callStop false)
    (hstage : s.application.Stage s.receiver s.handle) {lpFrame : Option (List ApiCall)}
    (hcall : s.receiver.delivery = .call lpFrame) (hfree : s.receiver.mDeliveryMutex = none) :
    s.ComesToJoin := by
  rw [hphase] at hstage
  have hstep : s.applicationStep =
      { s with
        receiver := { s.receiver with mDeliveryMutex := some .stopper, stopper := .exchange }
        application := .inStop false } := by
    simp only [applicationStep, hphase, HandOff.stopperStep, hstage.1, hfree, if_true]
  refine ComesToJoin.step ?_ hstep ?_ rfl
  · exact comesToJoin_of_inStop rfl (.inl ⟨rfl, hstage.2⟩) hcall
  · rw [KeepsApart, hphase]
    trivial

/-- While the delivery thread is in a callback with calls to make, an
`efp_end_receive` that destroys the receiver has not come further. -/
theorem Staged.comesToJoin (h : s.Staged) {os : List (HandOff.Output (List ApiCall))}
    (hsound : s.receiver.Sound os) (hworker : s.receiver.worker = .outside)
    (hdestroys : s.application.Destroys s.handle) (hcalls : s.callback.Calls) :
    s.ComesToJoin := by
  have hinside : s.callback ≠ .outside := by
    intro houtside
    rw [houtside] at hcalls
    exact hcalls
  obtain ⟨calls, hcall⟩ := h.calling hinside
  have hnot : s.receiver.delivery ≠ .ended := by
    rw [hcall]
    exact fun habs => nomatch habs
  have hfree : s.receiver.stopper = .outside → s.receiver.mDeliveryMutex = none := by
    intro hstopper
    refine hsound.free_of_not_holds ?_ ?_ ?_
    · rw [hworker]
      exact id
    · rw [hstopper]
      exact id
    · rw [hcall]
      exact id
  have hstage := h.stage
  cases hphase : s.application with
  | idle => rw [hphase] at hdestroys; exact absurd hdestroys id
  | lockHandles aEfpObject => rw [hphase] at hdestroys; exact absurd hdestroys id
  | unlock => rw [hphase] at hdestroys; exact absurd hdestroys id
  | find aEfpObject =>
      rw [hphase] at hdestroys hstage
      have hfound : s.handle = some aEfpObject := hdestroys
      have hrunning := hstage.2 (by rw [hfound]; exact Option.some_ne_none _)
      have hstep : s.applicationStep = { s with application := .callStop false } := by
        simp only [Handles.applicationStep, hphase, if_pos hfound]
      refine ComesToJoin.step ?_ hstep ?_ rfl
      · exact comesToJoin_of_callStop rfl ⟨hstage.1, hrunning⟩ hcall (hfree hstage.1)
      · rw [KeepsApart, hphase]
        trivial
  | callStop again =>
      cases again with
      | false =>
          refine comesToJoin_of_callStop hphase hstage hcall (hfree ?_)
          rw [hphase] at hstage
          exact hstage.1
      | true =>
          rw [hphase] at hstage
          exact absurd hstage.2 hnot
  | inStop again =>
      cases again with
      | false => exact comesToJoin_of_inStop hphase hstage hcall
      | true =>
          rw [hphase] at hstage
          exact absurd hstage hnot
  | erase =>
      rw [hphase] at hstage
      exact absurd hstage.2 hnot

end Step

/-- From where the two overlap, the deadlock can come about with no other
overlap. -/
theorem deadlocked_of_overlap (handle : UInt64) (turns : List Turn)
    (hdestroys : (machine.run (new handle) turns).1.application.Destroys
      (machine.run (new handle) turns).1.handle)
    (hcalls : (machine.run (new handle) turns).1.callback.Calls) :
    ∃ after, machine.Along KeepsApart (machine.run (new handle) turns).1 after ∧
      (machine.run (new handle) (turns ++ after)).1.Deadlocked := by
  -- the worker leaves `mDeliveryMutex`, the application joins, the callback makes its call
  obtain ⟨n, r, hrun, hworker⟩ := worker_returns (machine.run (new handle) turns).1
  have hreturned : (machine.run (new handle) (turns ++ List.replicate n .worker)).1 =
      { (machine.run (new handle) turns).1 with receiver := r } := by
    rw [Machine.run_append, ← hrun]
  obtain ⟨os, hsound⟩ := sound_receiver handle (turns ++ List.replicate n .worker)
  have hstaged := staged_run handle (turns ++ List.replicate n .worker)
  rw [hreturned] at hsound hstaged
  obtain ⟨m, halong, hjoins, hcallback⟩ := hstaged.comesToJoin hsound hworker hdestroys hcalls
  have hjoined := staged_run handle ((turns ++ List.replicate n .worker) ++
    List.replicate m .application)
  rw [Machine.run_append, hreturned] at hjoined
  obtain ⟨last, hapart, hlast⟩ := hjoins.deadlocked hjoined (by rw [hcallback]; exact hcalls)
  refine ⟨List.replicate n .worker ++ (List.replicate m .application ++ last), ?_, ?_⟩
  · have hworks : machine.Along KeepsApart (machine.run (new handle) turns).1
        (List.replicate n .worker) :=
      machine.along_of_forall (fun _ _ hmem => List.eq_of_mem_replicate hmem ▸ trivial) _
    rw [Machine.along_append, Machine.along_append, hrun]
    exact ⟨hworks, halong, hapart⟩
  · rw [← List.append_assoc, Machine.run_append, hreturned, Machine.run_append]
    exact hlast

/-- A step that lets the two overlap begins what can end in the deadlock. -/
theorem deadlocked_of_not_keepsApart (handle : UInt64) (turns : List Turn) (turn : Turn)
    (h : ¬ (machine.run (new handle) turns).1.KeepsApart turn) :
    ∃ after, machine.Along KeepsApart (machine.run (new handle) (turns ++ [turn])).1 after ∧
      (machine.run (new handle) (turns ++ [turn] ++ after)).1.Deadlocked := by
  have hrun := machine.run_concat (new handle) turns turn
  set s := (machine.run (new handle) turns).1
  cases turn with
  | application =>
      have happlication : ¬ s.application.KeepsApart s := h
      cases hphase : s.application with
      | lockHandles aEfpObject =>
          rw [hphase, Application.KeepsApart] at happlication
          push Not at happlication
          obtain ⟨hlock, hfound, hcalls⟩ := happlication
          obtain ⟨m, hm⟩ := Option.ne_none_iff_exists'.mp hlock
          have hstep : s.applicationStep =
              { s with gHandlesMutex := m, application := .find aEfpObject } := by
            simp only [applicationStep, hphase, hm]
          replace hrun := hrun.trans hstep
          refine deadlocked_of_overlap handle _ ?_ ?_
          · rw [hrun]
            exact hfound
          · rw [hrun]
            exact hcalls
      | idle | find _ | callStop _ | inStop _ | erase | unlock =>
          rw [hphase] at happlication
          exact absurd trivial happlication
  | delivery =>
      have hcallback : ¬ s.callback.KeepsApart s := h
      cases hphase : s.callback with
      | outside =>
          rw [hphase, Callback.KeepsApart] at hcallback
          push Not at hcallback
          obtain ⟨hnext, hdestroys⟩ := hcallback
          cases hloop : s.receiver.delivery with
          | call lpFrame =>
              cases lpFrame with
              | some calls =>
                  rw [hloop] at hnext
                  have hstep : s.deliveryStep.1 = { s with callback := .running calls [] } := by
                    simp only [deliveryStep, hphase, hloop]
                  replace hrun := hrun.trans hstep
                  refine deadlocked_of_overlap handle _ ?_ ?_
                  · rw [hrun]
                    exact hdestroys
                  · rw [hrun]
                    exact .inl hnext
              | none => rw [hloop] at hnext; exact absurd hnext id
          | running | lock | predicate | sleep | blocked | woken | awake | pop | settle _
          | unlock _ | leave | ended => rw [hloop] at hnext; exact absurd hnext id
      | running _ _ | lockHandles _ _ _ =>
          rw [hphase] at hcallback
          exact absurd trivial hcallback
  | efpEndReceive _ | deliverFrame _ | worker | wake => exact absurd trivial h

/-- In every run in which an `efp_end_receive` that destroys the receiver and a
callback with calls to make do not overlap, no state on the way and no state at
the end is one in which the one waits for the other. In every other run there
is a first step that lets them overlap, and from there the run can be continued
to such a state with no other step that does. -/
theorem never_deadlocked_iff (handle : UInt64) (turns : List Turn) :
    (machine.Along KeepsApart (new handle) turns →
        machine.Along (fun s _ => ¬ s.Deadlocked) (new handle) turns ∧
          ¬ (machine.run (new handle) turns).1.Deadlocked) ∧
      (¬ machine.Along KeepsApart (new handle) turns →
        ∃ before turn, before ++ [turn] <+: turns ∧
          machine.Along KeepsApart (new handle) before ∧
          ¬ (machine.run (new handle) before).1.KeepsApart turn ∧
          ∃ after, machine.Along KeepsApart (machine.run (new handle) (before ++ [turn])).1 after ∧
            (machine.run (new handle) (before ++ [turn] ++ after)).1.Deadlocked) := by
  refine ⟨not_deadlocked_of_along handle, fun hnot => ?_⟩
  obtain ⟨before, turn, hprefix, hbefore, hstep⟩ := machine.exists_of_not_along hnot
  have hafter := deadlocked_of_not_keepsApart handle before turn hstep
  exact ⟨before, turn, hprefix, hbefore, hstep, hafter⟩

/-- The delivery thread takes a frame out of the queue and calls the callback,
which has one call to make. -/
def callbackBegins : List Turn :=
  .deliverFrame [.efpSendData []] :: List.replicate 4 .worker ++ List.replicate 8 .delivery

/-- The callback returns before `efp_end_receive` is called. -/
def inTurn : List Turn :=
  callbackBegins ++ List.replicate 4 .delivery ++ .efpEndReceive 1 ::
    List.replicate 7 .application ++ List.replicate 8 .delivery ++ List.replicate 9 .application

theorem never_deadlocked_inTurn :
    machine.Along (fun s _ => ¬ s.Deadlocked) (new 1) inTurn ∧
      ¬ (machine.run (new 1) inTurn).1.Deadlocked :=
  (never_deadlocked_iff 1 inTurn).1 (by decide +kernel)

/-- `efp_end_receive` is called while the callback runs. -/
def overlapping : List Turn :=
  callbackBegins ++ .efpEndReceive 1 :: List.replicate 7 .application ++ [.delivery]

/-- The application holds `gHandlesMutex` and waits for the delivery thread to
end, which waits for `gHandlesMutex`. -/
theorem deadlocked_overlapping : (machine.run (new 1) overlapping).1.Deadlocked :=
  ⟨⟨⟨false, rfl⟩, rfl, fun h => nomatch h⟩, rfl, .efpSendData [], [], [], rfl⟩

end Handles

end ElasticFrame
