import ElasticFrame.Receiver.Accounts
import ElasticFrame.Receiver.Reentrant
import ElasticFrame.Receiver.HandOff
import ElasticFrame.Receiver.Representation

/-!
The receiver in threaded mode, with its threads: those of the application that
call `receive` and `stop`, the worker thread in `workerLoop` and the delivery
thread in `deliveryLoop`.

A handler locks `mNetMutex` for as long as it runs, so it is one step, and it
cannot be taken while the worker is in a pass. A pass is not one step: every
frame it delivers goes through the hand-off, statement by statement, with the
other threads in between. The callbacks return, and do not call the receiver.
-/

namespace ElasticFrame

open Lib

/-- Where the worker thread is in `workerLoop`. -/
inductive WorkerLoop (B : BufferSize)
  /-- At `while (mRunning.load())`. -/
  | running
  /-- At the construction of the lock of `mNetMutex`. -/
  | lock
  /-- In the last loop of `processTimeouts`, with these buckets to go. -/
  | deliver (lToDeliver : List B.Index)
  /-- Inside the scope of `mDeliveryMutex` in `deliverFrame`, or just after it. -/
  | enqueue (lpBucket : B.Index) (lToDeliver : List B.Index)
  /-- At `sleep_for`. -/
  | asleep
  | ended

/-- The worker holds `mNetMutex`. -/
def WorkerLoop.inPass {B : BufferSize} : WorkerLoop B → Bool
  | .deliver _ | .enqueue .. => true
  | .running | .lock | .asleep | .ended => false

structure Threaded (B : BufferSize) where
  receiver : Receiver B := {}
  handOff : HandOff SuperFrame := {}
  loop : WorkerLoop B := .running

namespace Threaded

variable {B : BufferSize}

/-- A call of `receive`, the next statement of a thread, or a spurious wake-up.
The worker's clock readings are used where a pass begins. -/
inductive Turn
  | receive (env : Surroundings) (aData : List UInt8) (aSourceId : UInt8)
  | worker (clk : PassClock)
  | stopper
  | delivery
  | wake

/-- A handler or a pass has locked `mNetMutex`, a NACK is handed out, or a frame
is put into the queue or handed out. -/
inductive Output
  | locked (c : Call)
  | nack (data : List UInt8)
  | handOff (o : HandOff.Output SuperFrame)

def receiveStep (cfg : ReceiverConfig) (s : Threaded B) (env : Surroundings) (aData : List UInt8)
    (aSourceId : UInt8) : Threaded B × List Output :=
  if s.loop.inPass then (s, [])
  else
    ({ s with receiver := (s.receiver.dispatch cfg env aData aSourceId).1 },
      [.locked (.packet env aData aSourceId)])

def workerStep (cfg : ReceiverConfig) (s : Threaded B) (clk : PassClock) :
    Threaded B × List Output :=
  match s.loop with
  | .running => ({ s with loop := if s.handOff.mRunning then .lock else .ended }, [])
  | .lock =>
      let nacked := s.receiver.processNacks cfg clk
      ({ s with receiver := nacked.1, loop := .deliver (nacked.1.selected cfg clk.timeouts) },
        .locked (.pass clk) :: nacked.2.map .nack)
  | .deliver [] => ({ s with loop := .asleep }, [])
  | .deliver (i :: is) =>
      match (s.receiver.mpBuckets i).mpFrame with
      -- outside the contract of `deliverFrame`, as in the pass that is one step
      | none => ({ s with loop := .deliver is }, [])
      | some f =>
          if s.handOff.mDeliveryMutex = none then
            ({ s with
              handOff := s.handOff.beginDelivery ((s.receiver.mpBuckets i).deliveredFrame f)
              loop := .enqueue i is }, [])
          else (s, [])
  | .enqueue i is =>
      match s.handOff.worker with
      | .outside => ({ s with receiver := (s.receiver.deliverFrame i).1, loop := .deliver is }, [])
      | _ => ({ s with handOff := s.handOff.workerStep.1 }, s.handOff.workerStep.2.map .handOff)
  | .asleep => ({ s with loop := .running }, [])
  | .ended => (s, [])

/-- The first join waits for the end of the worker. -/
def stopperStep (s : Threaded B) : Threaded B :=
  match s.handOff.stopper, s.loop with
  | .join, .ended => { s with handOff := s.handOff.stopperStep }
  | .join, _ => s
  | _, _ => { s with handOff := s.handOff.stopperStep }

/-- The receiver and its threads as a machine: a run is an interleaving. -/
def machine (B : BufferSize) (cfg : ReceiverConfig) : Machine (Threaded B) Turn Output where
  step s
    | .receive env aData aSourceId => s.receiveStep cfg env aData aSourceId
    | .worker clk => s.workerStep cfg clk
    | .stopper => (s.stopperStep, [])
    | .delivery =>
        ({ s with handOff := s.handOff.deliveryStep.1 }, s.handOff.deliveryStep.2.map .handOff)
    | .wake => ({ s with handOff := { s.handOff with delivery := s.handOff.delivery.notified } }, [])

/-! ### What can be seen of a run -/

def Output.call? : Output → Option Call
  | .locked c => some c
  | .nack _ | .handOff _ => none

def Output.nack? : Output → Option (List UInt8)
  | .nack data => some data
  | .locked _ | .handOff _ => none

def Output.handOff? : Output → Option (HandOff.Output SuperFrame)
  | .handOff o => some o
  | .locked _ | .nack _ => none

/-- The handlers and passes, in the order in which they have locked `mNetMutex`. -/
def calls (os : List Output) : List Call := os.filterMap Output.call?

def nacks (os : List Output) : List (List UInt8) := os.filterMap Output.nack?

def handOffs (os : List Output) : List (HandOff.Output SuperFrame) := os.filterMap Output.handOff?

def delivered (os : List Output) : List SuperFrame := HandOff.delivered (handOffs os)

/-! ### The pass that is one step -/

end Threaded

/-- The frame that `deliverFrame` is to put into the queue. -/
def HandOff.Enqueue.frame? {α : Type*} : HandOff.Enqueue α → Option α
  | push frame => some frame
  | outside | setReady | notifyOne | unlock => none

namespace Threaded

variable {B : BufferSize}

/-- The receiver that has taken the calls one after another. -/
def sequential (B : BufferSize) (cfg : ReceiverConfig) (os : List Output) :
    Receiver B × List (Receiver.Output B) :=
  (Receiver.machine B cfg).run {} (calls os)

/-- What it has handed out: its frames. -/
def framesOf (os : List (Receiver.Output B)) : List SuperFrame :=
  (Receiver.deliveries os).map Delivery.frame

/-- The receiver when the pass under way is over. -/
def finished (s : Threaded B) : Receiver B :=
  match s.loop with
  | .deliver is => (Receiver.deliverFrames is s.receiver).1
  | .enqueue i is => (Receiver.deliverFrames (i :: is) s.receiver).1
  | .running | .lock | .asleep | .ended => s.receiver

/-- The frames of the pass under way that are not in the queue yet. -/
def owed (s : Threaded B) : List SuperFrame :=
  match s.loop with
  | .deliver is => (Receiver.deliverFrames is s.receiver).2.map Delivery.frame
  | .enqueue i is =>
      s.handOff.worker.frame?.toList ++
        (Receiver.deliverFrames is (s.receiver.deliverFrame i).1).2.map Delivery.frame
  | .running | .lock | .asleep | .ended => []

/-- `stop` has cleared `mRunning` and returned. -/
def Stopped (s : Threaded B) : Prop :=
  s.handOff.mRunning = false ∧ s.handOff.stopper = .outside

/-- The threads together do what the receiver does that takes the same calls one
after another, as far as the pass under way has got. -/
structure Refines (cfg : ReceiverConfig) (s : Threaded B) (os : List Output) : Prop where
  sound : s.handOff.Sound (handOffs os)
  outside : s.handOff.worker ≠ .outside → ∃ i is, s.loop = .enqueue i is
  receiver : s.finished = (sequential B cfg os).1
  frames : framesOf (sequential B cfg os).2 = HandOff.enqueued (handOffs os) ++ s.owed
  nacks : nacks os = Receiver.nacks (sequential B cfg os).2
  /-- Whoever comes to `stop` after it has returned finds the threads ended. -/
  stopped : s.handOff.mRunning = false → s.handOff.stopper = .outside ∨
    s.handOff.stopper = .exchange ∨ s.handOff.stopper = .refused →
      s.handOff.delivery = .ended ∧ s.loop = .ended

theorem refines_init (cfg : ReceiverConfig) : Refines cfg ({} : Threaded B) [] where
  sound := HandOff.sound_init
  outside h := absurd rfl h
  receiver := rfl
  frames := rfl
  nacks := rfl
  stopped h := nomatch h

theorem sequential_append (cfg : ReceiverConfig) (os os' : List Output) :
    sequential B cfg (os ++ os') =
      (((Receiver.machine B cfg).run (sequential B cfg os).1 (calls os')).1,
        (sequential B cfg os).2 ++
          ((Receiver.machine B cfg).run (sequential B cfg os).1 (calls os')).2) := by
  rw [sequential, calls, List.filterMap_append, Machine.run_append]
  rfl

theorem framesOf_append (os os' : List (Receiver.Output B)) :
    framesOf (os ++ os') = framesOf os ++ framesOf os' := by
  rw [framesOf, Receiver.deliveries_append, List.map_append]
  rfl

section Step

variable {cfg : ReceiverConfig} {s : Threaded B} {os : List Output}

/-- A step in which nobody locks `mNetMutex` and no NACK is handed out. -/
theorem Refines.moves (h : s.Refines cfg os) {s' : Threaded B}
    (hos : List (HandOff.Output SuperFrame)) (hsound : s'.handOff.Sound (handOffs os ++ hos))
    (houtside : s'.handOff.worker ≠ .outside → ∃ i is, s'.loop = .enqueue i is)
    (hfinished : s'.finished = s.finished)
    (howed : s.owed = HandOff.enqueued hos ++ s'.owed)
    (hstopped : s'.handOff.mRunning = false → s'.handOff.stopper = .outside ∨
      s'.handOff.stopper = .exchange ∨ s'.handOff.stopper = .refused →
        s'.handOff.delivery = .ended ∧ s'.loop = .ended) :
    s'.Refines cfg (os ++ hos.map .handOff) := by
  have hcalls : calls (hos.map Output.handOff) = [] := by
    rw [calls, List.filterMap_map]
    exact List.filterMap_eq_nil_iff.mpr fun _ _ => rfl
  have hnacks : Threaded.nacks (hos.map Output.handOff) = [] := by
    rw [Threaded.nacks, List.filterMap_map]
    exact List.filterMap_eq_nil_iff.mpr fun _ _ => rfl
  have hhandOffs : handOffs (os ++ hos.map .handOff) = handOffs os ++ hos := by
    rw [handOffs, List.filterMap_append, List.filterMap_map]
    exact congrArg (handOffs os ++ ·) List.filterMap_some
  have hsequential : sequential B cfg (os ++ hos.map .handOff) = sequential B cfg os := by
    rw [sequential_append, hcalls, Machine.run_nil, List.append_nil]
  exact
    { sound := by
        rw [hhandOffs]
        exact hsound
      outside := houtside
      receiver := by
        rw [hsequential, hfinished]
        exact h.receiver
      frames := by
        rw [hsequential, hhandOffs, HandOff.enqueued_append, List.append_assoc, ← howed]
        exact h.frames
      nacks := by
        rw [hsequential, Threaded.nacks, List.filterMap_append]
        rw [Threaded.nacks] at hnacks
        rw [hnacks, List.append_nil]
        exact h.nacks
      stopped := hstopped }

/-- The delivery thread, and what wakes it up, touch nothing of the others. -/
theorem deliveryStep_others (t : HandOff SuperFrame) :
    t.deliveryStep.1.worker = t.worker ∧ t.deliveryStep.1.stopper = t.stopper ∧
      t.deliveryStep.1.mRunning = t.mRunning ∧ HandOff.enqueued t.deliveryStep.2 = [] ∧
        (t.delivery = .ended → t.deliveryStep.1.delivery = .ended) := by
  unfold HandOff.deliveryStep
  cases hloop : t.delivery with
  | lock | woken =>
      dsimp only
      split_ifs <;> exact ⟨rfl, rfl, rfl, rfl, nofun⟩
  | call lpFrame =>
      refine ⟨rfl, rfl, rfl, ?_, nofun⟩
      cases lpFrame <;> rfl
  | ended => exact ⟨rfl, rfl, rfl, rfl, fun _ => hloop⟩
  | _ => exact ⟨rfl, rfl, rfl, rfl, nofun⟩

theorem Refines.delivery (h : s.Refines cfg os) :
    ({ s with handOff := s.handOff.deliveryStep.1 } : Threaded B).Refines cfg
      (os ++ s.handOff.deliveryStep.2.map .handOff) := by
  obtain ⟨hworker, hstopper, hrunning, henqueued, hended⟩ := deliveryStep_others s.handOff
  apply h.moves _ h.sound.deliveryStep
  · intro hne
    exact h.outside (hworker ▸ hne)
  · rfl
  · rw [henqueued, List.nil_append]
    simp only [owed, hworker]
  · intro hstop hwhere
    obtain ⟨hdelivery, hloop⟩ := h.stopped (hrunning ▸ hstop) (hstopper ▸ hwhere)
    exact ⟨hended hdelivery, hloop⟩

theorem Refines.wake (h : s.Refines cfg os) :
    ({ s with
      handOff := { s.handOff with delivery := s.handOff.delivery.notified } } : Threaded B).Refines
      cfg (os ++ []) := by
  refine h.moves [] ?_ h.outside rfl rfl fun hstop hwhere => ?_
  · rw [List.append_nil]
    exact h.sound.notified
  · obtain ⟨hdelivery, hloop⟩ := h.stopped hstop hwhere
    exact ⟨HandOff.notified_eq_ended.mpr hdelivery, hloop⟩

theorem stopperStep_eq (s : Threaded B) :
    s.stopperStep = s ∨ s.stopperStep = { s with handOff := s.handOff.stopperStep } ∧
      (s.handOff.stopper = .join → s.loop = .ended) := by
  unfold stopperStep
  cases hstopper : s.handOff.stopper with
  | join =>
      cases hloop : s.loop with
      | ended => exact .inr ⟨rfl, fun _ => rfl⟩
      | _ => exact .inl rfl
  | _ => exact .inr ⟨rfl, nofun⟩

/-- The worker is where it was, and the delivery thread too unless it is woken up. -/
theorem stopperStep_others (t : HandOff SuperFrame) :
    t.stopperStep.worker = t.worker ∧
      (t.delivery = .ended → t.stopperStep.delivery = .ended) := by
  unfold HandOff.stopperStep
  cases hstopper : t.stopper with
  | outside | exchange =>
      dsimp only
      split_ifs <;> exact ⟨rfl, id⟩
  | notifyAll => exact ⟨rfl, HandOff.notified_eq_ended.mpr⟩
  | join =>
      dsimp only
      split <;> exact ⟨rfl, id⟩
  | _ => exact ⟨rfl, id⟩

/-- A `stop` that finds the flag cleared finds what another one has left. -/
theorem stopperStep_stopped {t : HandOff SuperFrame} (hstop : t.stopperStep.mRunning = false)
    (hwhere : t.stopperStep.stopper = .outside ∨ t.stopperStep.stopper = .exchange ∨
      t.stopperStep.stopper = .refused) :
    t.mRunning = false ∧ (t.stopper = .outside ∨ t.stopper = .exchange ∨ t.stopper = .refused) ∨
      t.stopper = .join ∧ t.delivery = .ended := by
  unfold HandOff.stopperStep at hstop hwhere
  cases hstopper : t.stopper with
  | outside =>
      refine .inl ⟨?_, .inl rfl⟩
      simp only [hstopper] at hstop
      split_ifs at hstop <;> exact hstop
  | exchange =>
      cases hrunning : t.mRunning with
      | false => exact .inl ⟨rfl, .inr (.inl rfl)⟩
      | true => simp [hstopper, hrunning] at hwhere
  | refused =>
      simp only [hstopper] at hstop
      exact .inl ⟨hstop, .inr (.inr rfl)⟩
  | unlock => simp [hstopper] at hwhere
  | notifyAll => simp [hstopper] at hwhere
  | join =>
      refine .inr ⟨rfl, ?_⟩
      simp only [hstopper] at hwhere
      split at hwhere
      case h_1 hended => exact hended
      case h_2 => simp [hstopper] at hwhere

theorem Refines.stopper (h : s.Refines cfg os) : s.stopperStep.Refines cfg (os ++ []) := by
  rcases stopperStep_eq s with hsame | ⟨hstep, hjoin⟩
  · rw [hsame, List.append_nil]
    exact h
  obtain ⟨hworker, hended⟩ := stopperStep_others s.handOff
  rw [hstep]
  refine h.moves [] ?_ ?_ rfl ?_ ?_
  · rw [List.append_nil]
    exact h.sound.stopperStep
  · intro hne
    exact h.outside (hworker ▸ hne)
  · simp only [owed, hworker]
    rfl
  · intro hstop hwhere
    rcases stopperStep_stopped hstop hwhere with ⟨hstop, hwhere⟩ | ⟨hstopper, hdelivery⟩
    · obtain ⟨hdelivery, hloop⟩ := h.stopped hstop hwhere
      exact ⟨hended hdelivery, hloop⟩
    · exact ⟨hended hdelivery, hjoin hstopper⟩

theorem Refines.receive (h : s.Refines cfg os) (env : Surroundings) (aData : List UInt8)
    (aSourceId : UInt8) :
    (s.receiveStep cfg env aData aSourceId).1.Refines cfg
      (os ++ (s.receiveStep cfg env aData aSourceId).2) := by
  unfold receiveStep
  cases hpass : s.loop.inPass with
  | true =>
      rw [if_pos rfl, List.append_nil]
      exact h
  | false =>
      rw [if_neg Bool.false_ne_true]
      have hcall : sequential B cfg (os ++ [.locked (.packet env aData aSourceId)]) =
          (((sequential B cfg os).1.dispatch cfg env aData aSourceId).1,
            (sequential B cfg os).2) := by
        rw [sequential_append]
        refine Prod.ext rfl ?_
        exact List.append_nil _
      have hhandOffs : handOffs (os ++ [.locked (.packet env aData aSourceId)]) = handOffs os := by
        rw [handOffs, List.filterMap_append]
        exact List.append_nil _
      -- outside a pass nothing is left to do
      have hidle : s.finished = s.receiver ∧ s.owed = [] ∧ ∀ r : Receiver B,
          ({ s with receiver := r } : Threaded B).finished = r ∧
            ({ s with receiver := r } : Threaded B).owed = [] := by
        unfold finished owed
        cases hloop : s.loop with
        | deliver is => simp [hloop, WorkerLoop.inPass] at hpass
        | enqueue i is => simp [hloop, WorkerLoop.inPass] at hpass
        | _ => exact ⟨rfl, rfl, fun _ => ⟨rfl, rfl⟩⟩
      obtain ⟨hfinished, howed, hidle⟩ := hidle
      exact
        { sound := by
            rw [hhandOffs]
            exact h.sound
          outside := h.outside
          receiver := by
            rw [hcall, (hidle _).1, ← h.receiver, hfinished]
          frames := by
            rw [hcall, hhandOffs, (hidle _).2, ← howed]
            exact h.frames
          nacks := by
            rw [hcall, Threaded.nacks, List.filterMap_append]
            exact (List.append_nil _).trans h.nacks
          stopped := h.stopped }

/-- A pass begins: its NACKs are handed out, and its frames are owed. -/
theorem Refines.lock (h : s.Refines cfg os) (clk : PassClock) (hloop : s.loop = .lock) :
    (s.workerStep cfg clk).1.Refines cfg (os ++ (s.workerStep cfg clk).2) := by
  rcases hnacked : s.receiver.processNacks cfg clk with ⟨r, lNacks⟩
  have hstep : s.workerStep cfg clk =
      ({ s with receiver := r, loop := .deliver (r.selected cfg clk.timeouts) },
        .locked (.pass clk) :: lNacks.map .nack) := by
    simp only [workerStep, hloop, hnacked]
  have hreceiver : s.receiver = (sequential B cfg os).1 := by
    rw [← h.receiver, finished, hloop]
  have hpass : (sequential B cfg os).1.processTimeouts cfg clk =
      ((Receiver.deliverFrames (r.selected cfg clk.timeouts) r).1,
        lNacks.map Receiver.Output.nack ++
          (Receiver.deliverFrames (r.selected cfg clk.timeouts) r).2.map
            Receiver.Output.deliver) := by
    rw [← hreceiver, Receiver.processTimeouts, hnacked]
    rfl
  have hcalls : calls (.locked (.pass clk) :: lNacks.map Output.nack) = [.pass clk] := by
    have hrest : (lNacks.map Output.nack).filterMap Output.call? = [] := by
      rw [List.filterMap_map]
      exact List.filterMap_eq_nil_iff.mpr fun _ _ => rfl
    exact congrArg (Call.pass clk :: ·) hrest
  have hcall : sequential B cfg (os ++ .locked (.pass clk) :: lNacks.map .nack) =
      ((Receiver.deliverFrames (r.selected cfg clk.timeouts) r).1,
        (sequential B cfg os).2 ++ (lNacks.map Receiver.Output.nack ++
          (Receiver.deliverFrames (r.selected cfg clk.timeouts) r).2.map
            Receiver.Output.deliver)) := by
    rw [sequential_append, hcalls, Machine.run_cons, Machine.run_nil, List.append_nil]
    show ((((sequential B cfg os).1.processTimeouts cfg clk).1),
      (sequential B cfg os).2 ++ ((sequential B cfg os).1.processTimeouts cfg clk).2) = _
    rw [hpass]
  have hhandOffs : handOffs (os ++ .locked (.pass clk) :: lNacks.map .nack) = handOffs os := by
    rw [handOffs, List.filterMap_append, List.filterMap_cons_none rfl, List.filterMap_map]
    exact (congrArg _ (List.filterMap_eq_nil_iff.mpr fun _ _ => rfl)).trans (List.append_nil _)
  rw [hstep]
  exact
    { sound := by
        rw [hhandOffs]
        exact h.sound
      outside := fun hne => by
        obtain ⟨i, is, heq⟩ := h.outside hne
        rw [hloop] at heq
        cases heq
      receiver := by
        rw [hcall]
        rfl
      frames := by
        have howed : s.owed = [] := by rw [owed, hloop]
        rw [hcall, hhandOffs, framesOf_append, h.frames, howed, List.append_nil, framesOf,
          Receiver.deliveries_append, Receiver.deliveries_nacks, Receiver.deliveries_delivers]
        rfl
      nacks := by
        rw [hcall, Receiver.nacks_append, Receiver.nacks_append, Receiver.nacks_nacks,
          Receiver.nacks_delivers, List.append_nil, ← h.nacks, Threaded.nacks,
          List.filterMap_append, List.filterMap_cons_none rfl, List.filterMap_map]
        exact congrArg _ List.filterMap_some
      stopped := fun hstop hwhere => by
        obtain ⟨-, heq⟩ := h.stopped hstop hwhere
        rw [hloop] at heq
        cases heq }

theorem Refines.goes (h : s.Refines cfg os) {r : Receiver B} {l : WorkerLoop B}
    (houtside : s.handOff.worker = .outside)
    (hfinished : ({ s with receiver := r, loop := l } : Threaded B).finished = s.finished)
    (howed : s.owed = ({ s with receiver := r, loop := l } : Threaded B).owed)
    (hended : s.loop = .ended → l = .ended) :
    ({ s with receiver := r, loop := l } : Threaded B).Refines cfg (os ++ []) := by
  refine h.moves [] ?_ (fun hne => absurd houtside hne) hfinished howed ?_
  · rw [List.append_nil]
    exact h.sound
  · intro hstop hwhere
    obtain ⟨hdelivery, hloop⟩ := h.stopped hstop hwhere
    exact ⟨hdelivery, hended hloop⟩

/-- Outside the scope of the lock, unless in the statements of the scope. -/
theorem Refines.outside_of_loop (h : s.Refines cfg os) (hloop : ∀ i is, s.loop ≠ .enqueue i is) :
    s.handOff.worker = .outside := by
  by_contra hne
  obtain ⟨i, is, heq⟩ := h.outside hne
  exact hloop i is heq

theorem beginDelivery_eq {t : HandOff SuperFrame} (f : SuperFrame) (houtside : t.worker = .outside)
    (hfree : t.mDeliveryMutex = none) :
    t.beginDelivery f = { t with mDeliveryMutex := some .worker, worker := .push f } := by
  rw [HandOff.beginDelivery, houtside, hfree]

theorem workerStep_others (t : HandOff SuperFrame) :
    t.workerStep.1.stopper = t.stopper ∧ t.workerStep.1.mRunning = t.mRunning ∧
      t.worker.frame?.toList =
        HandOff.enqueued t.workerStep.2 ++ t.workerStep.1.worker.frame?.toList := by
  unfold HandOff.workerStep
  cases hworker : t.worker with
  | outside => exact ⟨rfl, rfl, by rw [hworker]; rfl⟩
  | _ => exact ⟨rfl, rfl, rfl⟩

theorem Refines.worker (h : s.Refines cfg os) (clk : PassClock) :
    (s.workerStep cfg clk).1.Refines cfg (os ++ (s.workerStep cfg clk).2) := by
  cases hloop : s.loop with
  | lock => exact h.lock clk hloop
  | running =>
      have houtside := h.outside_of_loop (by simp [hloop])
      simp only [workerStep, hloop]
      split_ifs
      · exact h.goes houtside (by simp [finished, hloop]) (by simp [owed, hloop]) (by simp [hloop])
      · exact h.goes houtside (by simp [finished, hloop]) (by simp [owed, hloop]) (by simp [hloop])
  | asleep =>
      have houtside := h.outside_of_loop (by simp [hloop])
      simp only [workerStep, hloop]
      exact h.goes houtside (by simp [finished, hloop]) (by simp [owed, hloop]) (by simp [hloop])
  | ended =>
      simp only [workerStep, hloop]
      rw [List.append_nil]
      exact h
  | deliver is =>
      have houtside := h.outside_of_loop (by simp [hloop])
      cases is with
      | nil =>
          simp only [workerStep, hloop]
          exact h.goes houtside (by simp [finished, hloop, Receiver.deliverFrames])
            (by simp [owed, hloop, Receiver.deliverFrames]) (by simp [hloop])
      | cons i is =>
          simp only [workerStep, hloop]
          cases hframe : (s.receiver.mpBuckets i).mpFrame with
          | none =>
              have hnothing : s.receiver.deliverFrame i = (s.receiver, []) := by
                simp only [Receiver.deliverFrame, hframe]
              exact h.goes houtside
                (by simp [finished, hloop, Receiver.deliverFrames, hnothing])
                (by simp [owed, hloop, Receiver.deliverFrames, hnothing]) (by simp [hloop])
          | some f =>
              have hone : (s.receiver.deliverFrame i).2 =
                  [{ bucket := i, frame := (s.receiver.mpBuckets i).deliveredFrame f }] := by
                rw [Receiver.deliverFrame_eq _ hframe]
              dsimp only
              split_ifs with hfree
              · refine h.moves [] ?_ (fun _ => ⟨i, is, rfl⟩) ?_ ?_ ?_
                · rw [List.append_nil]
                  exact h.sound.beginDelivery _
                · simp only [finished, hloop]
                · simp only [owed, hloop, Receiver.deliverFrames, hone,
                    beginDelivery_eq _ houtside hfree]
                  rfl
                · rw [beginDelivery_eq _ houtside hfree]
                  intro hstop hwhere
                  obtain ⟨-, heq⟩ := h.stopped hstop hwhere
                  rw [hloop] at heq
                  cases heq
              · rw [List.append_nil]
                exact h
  | enqueue i is =>
      by_cases houtside : s.handOff.worker = .outside
      · have hstep : s.workerStep cfg clk =
            ({ s with receiver := (s.receiver.deliverFrame i).1, loop := .deliver is }, []) := by
          simp only [workerStep, hloop, houtside]
        rw [hstep]
        refine h.goes houtside ?_ ?_ (by simp [hloop])
        · simp only [finished, hloop, Receiver.deliverFrames]
        · simp only [owed, hloop, houtside]
          rfl
      · have hstep : s.workerStep cfg clk =
            ({ s with handOff := s.handOff.workerStep.1 },
              s.handOff.workerStep.2.map .handOff) := by
          simp only [workerStep, hloop]
        obtain ⟨hstopper, hrunning, hpushed⟩ := workerStep_others s.handOff
        rw [hstep]
        refine h.moves _ h.sound.workerStep (fun _ => ⟨i, is, hloop⟩) ?_ ?_ ?_
        · simp only [finished, hloop]
        · simp only [owed, hloop, hpushed, List.append_assoc]
        · intro hstop hwhere
          obtain ⟨-, heq⟩ := h.stopped (hrunning ▸ hstop) (hstopper ▸ hwhere)
          rw [hloop] at heq
          cases heq

theorem Refines.step (h : s.Refines cfg os) (t : Turn) :
    ((machine B cfg).step s t).1.Refines cfg (os ++ ((machine B cfg).step s t).2) := by
  cases t with
  | receive env aData aSourceId => exact h.receive env aData aSourceId
  | worker clk => exact h.worker clk
  | stopper => exact h.stopper
  | delivery => exact h.delivery
  | wake => exact h.wake

end Step

theorem refines_run (cfg : ReceiverConfig) (ts : List Turn) :
    ((machine B cfg).run {} ts).1.Refines cfg ((machine B cfg).run {} ts).2 :=
  (machine B cfg).run_history (C := fun _ _ => True) (fun _ _ t h _ => h.step t)
    (refines_init cfg) ((machine B cfg).along_of_forall (fun _ _ _ => trivial) _)

/-! ### Results -/

theorem owed_of_not_inPass {s : Threaded B} (h : s.loop.inPass = false) : s.owed = [] := by
  unfold owed
  cases hloop : s.loop with
  | deliver is => simp [hloop, WorkerLoop.inPass] at h
  | enqueue i is => simp [hloop, WorkerLoop.inPass] at h
  | _ => rfl

theorem finished_of_not_inPass {s : Threaded B} (h : s.loop.inPass = false) :
    s.finished = s.receiver := by
  unfold finished
  cases hloop : s.loop with
  | deliver is => simp [hloop, WorkerLoop.inPass] at h
  | enqueue i is => simp [hloop, WorkerLoop.inPass] at h
  | _ => rfl

/-- The delivery thread blocks when there is nothing left to hand out. -/
theorem Refines.delivered_of_blocked {cfg : ReceiverConfig} {s : Threaded B} {os : List Output}
    (h : s.Refines cfg os) (hpass : s.loop.inPass = false)
    (hblocked : s.handOff.delivery = .blocked) :
    delivered os = framesOf (sequential B cfg os).2 := by
  have houtside : s.handOff.worker = .outside := by
    apply h.outside_of_loop
    rintro i is hloop
    simp [hloop, WorkerLoop.inPass] at hpass
  have hnot : ¬ s.handOff.Notifies := by simp [HandOff.Notifies, houtside]
  obtain ⟨hqueue, -⟩ := h.sound.blocked_of_not_notifies hnot hblocked
  rw [h.frames, owed_of_not_inPass hpass, List.append_nil, h.sound.frames, hqueue, hblocked]
  simp [HandOff.Loop.lpFrame, delivered]

/-- The worker and the delivery thread have ended. -/
def Over (s : Threaded B) : Prop := s.handOff.delivery = .ended ∧ s.loop = .ended

theorem Over.step {s : Threaded B} (h : s.Over) (cfg : ReceiverConfig) (t : Turn) :
    ((machine B cfg).step s t).1.Over ∧
      ∀ o ∈ ((machine B cfg).step s t).2, ∃ env aData aSourceId,
        o = .locked (.packet env aData aSourceId) := by
  obtain ⟨hdelivery, hloop⟩ := h
  cases t with
  | receive env aData aSourceId =>
      have hpass : s.loop.inPass = false := by rw [hloop]; rfl
      simp only [machine, receiveStep, hpass, Bool.false_eq_true, if_false]
      refine ⟨⟨hdelivery, hloop⟩, fun o ho => ?_⟩
      rw [List.mem_singleton] at ho
      exact ⟨env, aData, aSourceId, ho⟩
  | worker clk =>
      simp only [machine, workerStep, hloop]
      exact ⟨⟨hdelivery, hloop⟩, fun o ho => absurd ho List.not_mem_nil⟩
  | stopper =>
      refine ⟨?_, fun o ho => absurd ho List.not_mem_nil⟩
      show s.stopperStep.Over
      rcases stopperStep_eq s with hsame | ⟨hstep, -⟩
      · rw [hsame]
        exact ⟨hdelivery, hloop⟩
      · rw [hstep]
        exact ⟨(stopperStep_others s.handOff).2 hdelivery, hloop⟩
  | delivery =>
      simp only [machine, HandOff.deliveryStep, hdelivery]
      exact ⟨⟨hdelivery, hloop⟩, fun o ho => absurd ho List.not_mem_nil⟩
  | wake =>
      refine ⟨⟨?_, hloop⟩, fun o ho => absurd ho List.not_mem_nil⟩
      exact HandOff.notified_eq_ended.mpr hdelivery

theorem Over.run {s : Threaded B} (h : s.Over) (cfg : ReceiverConfig) (ts : List Turn) :
    ∀ o ∈ ((machine B cfg).run s ts).2, ∃ env aData aSourceId,
      o = .locked (.packet env aData aSourceId) :=
  (machine B cfg).run_output (I := Over) (C := fun _ _ => True)
    (fun _ t h _ => (h.step cfg t).1) (fun _ t h _ => (h.step cfg t).2) h
    ((machine B cfg).along_of_forall (fun _ _ _ => trivial) _)

/-- In every interleaving the threads do what the receiver does that takes the
same handlers and passes one after another: its state outside a pass; its NACKs;
and its frames, of which the callback has got the first, in order, with the rest
on the way, and all of them when the delivery thread blocks between two passes.
After `stop` has returned neither callback is called again. -/
theorem refines_sequential (B : BufferSize) (cfg : ReceiverConfig) (ts : List Turn) :
    let s := ((machine B cfg).run {} ts).1
    let os := ((machine B cfg).run {} ts).2
    let whole := (Receiver.machine B cfg).run (Receiver.fresh B) (calls os)
    framesOf whole.2 =
        delivered os ++ s.handOff.delivery.lpFrame.toList ++ s.handOff.mDeliveryQueue ++ s.owed ∧
      nacks os = Receiver.nacks whole.2 ∧
      (s.loop.inPass = false → s.receiver = whole.1) ∧
      (s.loop.inPass = false → s.handOff.delivery = .blocked → delivered os = framesOf whole.2) ∧
      (s.Stopped → framesOf whole.2 = delivered os ++ s.handOff.mDeliveryQueue ∧
        ∀ ts', ∀ o ∈ ((machine B cfg).run s ts').2, ∃ env aData aSourceId,
          o = .locked (.packet env aData aSourceId)) := by
  intro s os whole
  have h : s.Refines cfg os := refines_run cfg ts
  have hframes : framesOf whole.2 =
      delivered os ++ s.handOff.delivery.lpFrame.toList ++ s.handOff.mDeliveryQueue ++ s.owed := by
    rw [show framesOf whole.2 = _ from h.frames, h.sound.frames]
    rfl
  refine ⟨hframes, h.nacks, fun hpass => ?_, fun hpass hblocked => ?_, fun hstopped => ?_⟩
  · exact (finished_of_not_inPass hpass).symm.trans h.receiver
  · exact h.delivered_of_blocked hpass hblocked
  · have hover : s.Over := h.stopped hstopped.1 (.inl hstopped.2)
    refine ⟨?_, hover.run cfg⟩
    rw [hframes, hover.1, owed_of_not_inPass (by rw [hover.2]; rfl)]
    simp [HandOff.Loop.lpFrame]

end Threaded

end ElasticFrame
