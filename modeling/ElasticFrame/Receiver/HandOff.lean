import ElasticFrame.Lib.Machine

/-!
The hand-off to the delivery thread. In threaded mode `deliverFrame` puts a
frame into `mDeliveryQueue` and notifies `mDeliveryCondition`; `deliveryLoop`
waits for the condition, takes the frames out one at a time and calls the
receive callback after it has released `mDeliveryMutex`; `stop` clears
`mRunning` under the same mutex and notifies after it has released it.

Every statement of the three is a step of its own, so that the order of the
flag, the release and the notification shows. A thread that cannot lock the
mutex stays where it is, and a blocked thread may wake up without having been
notified.
-/

namespace ElasticFrame

open Lib

namespace HandOff

/-- The threads that lock `mDeliveryMutex`. -/
inductive Thread
  | worker
  | stopper
  | delivery
  deriving DecidableEq

/-- Where the worker thread is in the threaded branch of `deliverFrame`. -/
inductive Enqueue (α : Type*)
  | outside
  /-- At `mDeliveryQueue.push_back`. -/
  | push (frame : α)
  /-- At `mDeliveryReady = true`. -/
  | setReady
  /-- At `mDeliveryCondition.notify_one()`. -/
  | notifyOne
  /-- At the end of the lock's scope. -/
  | unlock

/-- Where the thread that calls `stop` is. -/
inductive Stop
  | outside
  /-- At `mRunning.compare_exchange_strong`. -/
  | exchange
  /-- The receiver was not running; `stop` returns. -/
  | refused
  /-- At the end of the lock's scope. -/
  | unlock
  /-- At `mDeliveryCondition.notify_all()`. -/
  | notifyAll
  /-- At the joins. -/
  | join

/-- Where the delivery thread is in `deliveryLoop`. -/
inductive Loop (α : Type*)
  /-- At `while (mRunning.load())`. -/
  | running
  /-- At the construction of the lock. -/
  | lock
  /-- At the predicate of `wait`. -/
  | predicate
  /-- The predicate was false: about to release the mutex and block. -/
  | sleep
  | blocked
  /-- Unblocked, to lock the mutex again. -/
  | woken
  /-- At `if (!mRunning.load() && mDeliveryQueue.empty()) break`. -/
  | awake
  /-- At `if (!mDeliveryQueue.empty())`. -/
  | pop
  /-- At `if (mDeliveryQueue.empty()) mDeliveryReady = false`. -/
  | settle (lpFrame : Option α)
  /-- At the end of the lock's scope. -/
  | unlock (lpFrame : Option α)
  /-- At `if (lpFrame) mCallback(..)`. -/
  | call (lpFrame : Option α)
  /-- At `break`, before the lock is released. -/
  | leave
  | ended

variable {α : Type*}

def Enqueue.Holds : Enqueue α → Prop
  | outside => False
  | push _ | setReady | notifyOne | unlock => True

def Stop.Holds : Stop → Prop
  | outside | notifyAll | join => False
  | exchange | refused | unlock => True

def Loop.Holds : Loop α → Prop
  | running | lock | blocked | woken | call _ | ended => False
  | predicate | sleep | awake | pop | settle _ | unlock _ | leave => True

/-- The frame that has been taken out of the queue and not been handed to the
callback. -/
def Loop.lpFrame : Loop α → Option α
  | settle lpFrame | unlock lpFrame | call lpFrame => lpFrame
  | _ => none

/-- A notification reaches the thread if it is blocked. -/
def Loop.notified : Loop α → Loop α
  | blocked => woken
  | l => l

end HandOff

/-- What the three threads share, and where each of them is. -/
structure HandOff (α : Type*) where
  mDeliveryQueue : List α := []
  mDeliveryReady : Bool := false
  mRunning : Bool := true
  mDeliveryMutex : Option HandOff.Thread := none
  worker : HandOff.Enqueue α := .outside
  stopper : HandOff.Stop := .outside
  delivery : HandOff.Loop α := .running

namespace HandOff

variable {α : Type*}

/-- A frame is put into the queue, or handed to the receive callback. -/
inductive Output (α : Type*)
  | enqueued (frame : α)
  | delivered (frame : α)

/-- A step of one of the threads: a call of `deliverFrame`, the next statement
of that call, a statement of `stop` (or a call of it) or of `deliveryLoop`, or
a spurious wake-up. -/
inductive Turn (α : Type*)
  | deliverFrame (frame : α)
  | worker
  | stopper
  | delivery
  | wake

/-- `deliverFrame` locks the mutex, if it is free. -/
def beginDelivery (s : HandOff α) (frame : α) : HandOff α :=
  match s.worker, s.mDeliveryMutex with
  | .outside, none => { s with mDeliveryMutex := some .worker, worker := .push frame }
  | _, _ => s

def workerStep (s : HandOff α) : HandOff α × List (Output α) :=
  match s.worker with
  | .outside => (s, [])
  | .push frame =>
      ({ s with mDeliveryQueue := s.mDeliveryQueue ++ [frame], worker := .setReady },
        [.enqueued frame])
  | .setReady => ({ s with mDeliveryReady := true, worker := .notifyOne }, [])
  | .notifyOne => ({ s with delivery := s.delivery.notified, worker := .unlock }, [])
  | .unlock => ({ s with mDeliveryMutex := none, worker := .outside }, [])

/-- `stop` may be called again after it has returned. The joins wait for the
end of the other threads. -/
def stopperStep (s : HandOff α) : HandOff α :=
  match s.stopper with
  | .outside =>
      if s.mDeliveryMutex = none then
        { s with mDeliveryMutex := some .stopper, stopper := .exchange }
      else s
  | .exchange =>
      if s.mRunning then { s with mRunning := false, stopper := .unlock }
      else { s with stopper := .refused }
  | .refused => { s with mDeliveryMutex := none, stopper := .outside }
  | .unlock => { s with mDeliveryMutex := none, stopper := .notifyAll }
  | .notifyAll => { s with delivery := s.delivery.notified, stopper := .join }
  | .join =>
      match s.worker, s.delivery with
      | .outside, .ended => { s with stopper := .outside }
      | _, _ => s

def deliveryStep (s : HandOff α) : HandOff α × List (Output α) :=
  match s.delivery with
  | .running => ({ s with delivery := if s.mRunning then .lock else .ended }, [])
  | .lock | .woken =>
      if s.mDeliveryMutex = none then
        ({ s with mDeliveryMutex := some .delivery, delivery := .predicate }, [])
      else (s, [])
  | .predicate =>
      ({ s with delivery := if s.mDeliveryReady || !s.mRunning then .awake else .sleep }, [])
  | .sleep => ({ s with mDeliveryMutex := none, delivery := .blocked }, [])
  | .blocked => (s, [])
  | .awake =>
      ({ s with
        delivery := if !s.mRunning && s.mDeliveryQueue.isEmpty then .leave else .pop }, [])
  | .pop =>
      ({ s with
        mDeliveryQueue := s.mDeliveryQueue.tail, delivery := .settle s.mDeliveryQueue.head? }, [])
  | .settle lpFrame =>
      ({ s with
        mDeliveryReady := if s.mDeliveryQueue.isEmpty then false else s.mDeliveryReady
        delivery := .unlock lpFrame }, [])
  | .unlock lpFrame => ({ s with mDeliveryMutex := none, delivery := .call lpFrame }, [])
  | .call lpFrame => ({ s with delivery := .running }, lpFrame.toList.map .delivered)
  | .leave => ({ s with mDeliveryMutex := none, delivery := .ended }, [])
  | .ended => (s, [])

/-- The three threads as a machine: a run is an interleaving of their steps. -/
def machine (α : Type*) : Machine (HandOff α) (Turn α) (Output α) where
  step s
    | .deliverFrame frame => (s.beginDelivery frame, [])
    | .worker => s.workerStep
    | .stopper => (s.stopperStep, [])
    | .delivery => s.deliveryStep
    | .wake => ({ s with delivery := s.delivery.notified }, [])

def enqueued (os : List (Output α)) : List α :=
  os.filterMap fun
    | .enqueued frame => some frame
    | .delivered _ => none

/-- The frames the receive callback has been called with, in order. -/
def delivered (os : List (Output α)) : List α :=
  os.filterMap fun
    | .enqueued _ => none
    | .delivered frame => some frame

/-- `deliverFrame` has put a frame into the queue and is still to notify. -/
def Notifies (s : HandOff α) : Prop := s.worker = .setReady ∨ s.worker = .notifyOne

/-- `stop` has cleared `mRunning` and is still to notify. -/
def StopNotifies (s : HandOff α) : Prop := s.stopper = .unlock ∨ s.stopper = .notifyAll

/-! ### The invariant -/

/-- What holds between any two steps. The mutex is held by the thread that is
inside its scope; the flag and the queue disagree only inside a scope; and
whoever makes the delivery thread's predicate true while it is blocked is
still to notify it. -/
structure Sound (s : HandOff α) (os : List (Output α)) : Prop where
  worker : s.mDeliveryMutex = some .worker ↔ s.worker.Holds
  stopper : s.mDeliveryMutex = some .stopper ↔ s.stopper.Holds
  delivery : s.mDeliveryMutex = some .delivery ↔ s.delivery.Holds
  ready : s.worker ≠ .setReady → (∀ lpFrame, s.delivery ≠ .settle lpFrame) →
    (s.mDeliveryReady = true ↔ s.mDeliveryQueue ≠ [])
  settled : (∃ lpFrame, s.delivery = .settle lpFrame) → s.mDeliveryQueue ≠ [] →
    s.mDeliveryReady = true
  pushed : s.worker = .setReady → s.mDeliveryQueue ≠ []
  sleep : s.delivery = .sleep → s.mDeliveryQueue = [] ∧ s.mRunning = true
  blocked : s.delivery = .blocked →
    (s.mDeliveryQueue = [] ∨ s.Notifies) ∧ (s.mRunning = true ∨ s.StopNotifies)
  frames : enqueued os = delivered os ++ s.delivery.lpFrame.toList ++ s.mDeliveryQueue

theorem sound_init : Sound ({} : HandOff α) [] := by
  constructor <;> simp [Enqueue.Holds, Stop.Holds, Loop.Holds, enqueued, delivered, Loop.lpFrame]

theorem enqueued_append (os os' : List (Output α)) :
    enqueued (os ++ os') = enqueued os ++ enqueued os' :=
  List.filterMap_append

theorem delivered_append (os os' : List (Output α)) :
    delivered (os ++ os') = delivered os ++ delivered os' :=
  List.filterMap_append

@[simp] theorem lpFrame_notified (l : Loop α) : l.notified.lpFrame = l.lpFrame := by
  cases l <;> rfl

@[simp] theorem holds_notified (l : Loop α) : l.notified.Holds ↔ l.Holds := by
  cases l <;> exact Iff.rfl

theorem notified_ne_blocked (l : Loop α) : l.notified ≠ .blocked := by
  cases l <;> intro h <;> cases h

@[simp] theorem notified_eq_settle {l : Loop α} {lpFrame : Option α} :
    l.notified = .settle lpFrame ↔ l = .settle lpFrame := by
  cases l <;> simp [Loop.notified]

@[simp] theorem notified_eq_sleep {l : Loop α} : l.notified = .sleep ↔ l = .sleep := by
  cases l <;> simp [Loop.notified]

@[simp] theorem notified_eq_call {l : Loop α} {lpFrame : Option α} :
    l.notified = .call lpFrame ↔ l = .call lpFrame := by
  cases l <;> simp [Loop.notified]

@[simp] theorem notified_eq_ended {l : Loop α} : l.notified = .ended ↔ l = .ended := by
  cases l <;> simp [Loop.notified]

/-- A wake-up takes the delivery thread from where it is blocked, and is a
step of none of the others. -/
theorem Sound.notified {s : HandOff α} {os : List (Output α)} (h : s.Sound os) :
    Sound { s with delivery := s.delivery.notified } os where
  worker := h.worker
  stopper := h.stopper
  delivery := h.delivery.trans (holds_notified _).symm
  ready hw hd := h.ready hw fun lpFrame heq => hd lpFrame (notified_eq_settle.mpr heq)
  settled := fun ⟨lpFrame, heq⟩ => h.settled ⟨lpFrame, notified_eq_settle.mp heq⟩
  pushed := h.pushed
  sleep heq := h.sleep (notified_eq_sleep.mp heq)
  blocked heq := absurd heq (notified_ne_blocked _)
  frames := by
    rw [lpFrame_notified]
    exact h.frames

section Step

variable {s : HandOff α} {os : List (Output α)}

theorem Sound.exclusive (h : s.Sound os) :
    (s.worker.Holds → ¬ s.stopper.Holds ∧ ¬ s.delivery.Holds) ∧
      (s.stopper.Holds → ¬ s.worker.Holds ∧ ¬ s.delivery.Holds) ∧
        (s.delivery.Holds → ¬ s.worker.Holds ∧ ¬ s.stopper.Holds) := by
  rw [← h.worker, ← h.stopper, ← h.delivery]
  cases s.mDeliveryMutex with
  | none => simp
  | some t => cases t <;> simp

theorem Sound.free (h : s.Sound os) (hfree : s.mDeliveryMutex = none) :
    ¬ s.worker.Holds ∧ ¬ s.stopper.Holds ∧ ¬ s.delivery.Holds := by
  rw [← h.worker, ← h.stopper, ← h.delivery, hfree]
  simp

theorem Sound.free_of_not_holds (h : s.Sound os) (hworker : ¬ s.worker.Holds)
    (hstopper : ¬ s.stopper.Holds) (hdelivery : ¬ s.delivery.Holds) : s.mDeliveryMutex = none := by
  rw [← h.worker] at hworker
  rw [← h.stopper] at hstopper
  rw [← h.delivery] at hdelivery
  cases hmutex : s.mDeliveryMutex with
  | none => rfl
  | some t =>
      cases t with
      | worker => exact absurd hmutex hworker
      | stopper => exact absurd hmutex hstopper
      | delivery => exact absurd hmutex hdelivery

/-- While the worker has nothing to notify, what it could have put into the
queue is not there. -/
theorem Sound.blocked_of_not_notifies (h : s.Sound os) (hnot : ¬ s.Notifies)
    (hblocked : s.delivery = .blocked) :
    s.mDeliveryQueue = [] ∧ (s.mRunning = true ∨ s.StopNotifies) :=
  ⟨(h.blocked hblocked).1.resolve_right hnot, (h.blocked hblocked).2⟩

theorem Sound.beginDelivery (h : s.Sound os) (frame : α) : Sound (s.beginDelivery frame) os := by
  unfold HandOff.beginDelivery
  split
  case h_1 hworker hfree =>
      obtain ⟨-, hstopper, hdelivery⟩ := h.free hfree
      have hnot : ¬ s.Notifies := by simp [Notifies, hworker]
      exact
        { worker := by simp [Enqueue.Holds]
          stopper := by simpa using hstopper
          delivery := by simpa using hdelivery
          ready := fun _ hd => h.ready (by simp [hworker]) hd
          settled := h.settled
          pushed := fun heq => by cases heq
          sleep := h.sleep
          blocked := fun heq => (h.blocked_of_not_notifies hnot heq).imp_left .inl
          frames := h.frames }
  case h_2 => exact h

theorem Sound.workerStep (h : s.Sound os) : Sound s.workerStep.1 (os ++ s.workerStep.2) := by
  have hexclusive := h.exclusive.1
  unfold HandOff.workerStep
  cases hworker : s.worker with
  | outside =>
      rw [List.append_nil]
      exact h
  | push frame =>
      have hholds : s.worker.Holds := by rw [hworker]; trivial
      obtain ⟨hstopper, hdelivery⟩ := hexclusive hholds
      exact
        { worker := iff_of_true (h.worker.mpr hholds) trivial
          stopper := h.stopper
          delivery := h.delivery
          ready := fun hne => absurd rfl hne
          settled := fun ⟨lpFrame, heq⟩ => by
            rw [heq] at hdelivery
            exact absurd trivial hdelivery
          pushed := fun _ => List.append_ne_nil_of_right_ne_nil _ (List.cons_ne_nil _ _)
          sleep := fun heq => by
            rw [heq] at hdelivery
            exact absurd trivial hdelivery
          blocked := fun heq => ⟨.inr (.inl rfl), (h.blocked heq).2⟩
          frames := by
            rw [enqueued_append, delivered_append, h.frames]
            simp [enqueued, delivered] }
  | setReady =>
      have hholds : s.worker.Holds := by rw [hworker]; trivial
      obtain ⟨hstopper, hdelivery⟩ := hexclusive hholds
      rw [List.append_nil]
      exact
        { worker := iff_of_true (h.worker.mpr hholds) trivial
          stopper := h.stopper
          delivery := h.delivery
          ready := fun _ _ => iff_of_true rfl (h.pushed hworker)
          settled := fun _ _ => rfl
          pushed := fun heq => by cases heq
          sleep := h.sleep
          blocked := fun heq => ⟨.inr (.inr rfl), (h.blocked heq).2⟩
          frames := h.frames }
  | notifyOne =>
      have hholds : s.worker.Holds := by rw [hworker]; trivial
      have hnotified := h.notified
      rw [List.append_nil]
      exact
        { worker := iff_of_true (h.worker.mpr hholds) trivial
          stopper := hnotified.stopper
          delivery := hnotified.delivery
          ready := fun _ => hnotified.ready (by simp [hworker])
          settled := hnotified.settled
          pushed := fun heq => by cases heq
          sleep := hnotified.sleep
          blocked := fun heq => absurd heq (notified_ne_blocked _)
          frames := hnotified.frames }
  | unlock =>
      have hholds : s.worker.Holds := by rw [hworker]; trivial
      have hnot : ¬ s.Notifies := by simp [Notifies, hworker]
      obtain ⟨hstopper, hdelivery⟩ := hexclusive hholds
      rw [List.append_nil]
      exact
        { worker := by simp [Enqueue.Holds]
          stopper := by simpa using hstopper
          delivery := by simpa using hdelivery
          ready := fun _ => h.ready (by simp [hworker])
          settled := h.settled
          pushed := fun heq => by cases heq
          sleep := h.sleep
          blocked := fun heq => (h.blocked_of_not_notifies hnot heq).imp_left .inl
          frames := h.frames }

theorem Sound.stopperMoves (h : s.Sound os) {m : Option Thread} {p : Stop}
    (hworker : m = some .worker ↔ s.worker.Holds) (hstopper : m = some .stopper ↔ p.Holds)
    (hdelivery : m = some .delivery ↔ s.delivery.Holds)
    (hblocked : s.delivery = .blocked → s.StopNotifies → p = .unlock ∨ p = .notifyAll) :
    Sound { s with mDeliveryMutex := m, stopper := p } os where
  worker := hworker
  stopper := hstopper
  delivery := hdelivery
  ready := h.ready
  settled := h.settled
  pushed := h.pushed
  sleep := h.sleep
  blocked heq := ⟨(h.blocked heq).1, (h.blocked heq).2.imp_right (hblocked heq)⟩
  frames := h.frames

theorem Sound.stopperStep (h : s.Sound os) : Sound s.stopperStep os := by
  have hexclusive := h.exclusive.2.1
  unfold HandOff.stopperStep
  cases hstopper : s.stopper with
  | outside =>
      have hnot : ¬ s.StopNotifies := by simp [StopNotifies, hstopper]
      dsimp only
      split_ifs with hfree
      · obtain ⟨hworker, -, hdelivery⟩ := h.free hfree
        exact h.stopperMoves (by simpa using hworker) (by simp [Stop.Holds])
          (by simpa using hdelivery) fun _ habs => absurd habs hnot
      · exact h
  | exchange =>
      have hholds : s.stopper.Holds := by rw [hstopper]; trivial
      have hnot : ¬ s.StopNotifies := by simp [StopNotifies, hstopper]
      obtain ⟨-, hdelivery⟩ := hexclusive hholds
      dsimp only
      split_ifs with hrunning
      · exact
          { worker := h.worker
            stopper := iff_of_true (h.stopper.mpr hholds) trivial
            delivery := h.delivery
            ready := h.ready
            settled := h.settled
            pushed := h.pushed
            sleep := fun heq => by
              rw [heq] at hdelivery
              exact absurd trivial hdelivery
            blocked := fun heq => ⟨(h.blocked heq).1, .inr (.inl rfl)⟩
            frames := h.frames }
      · exact h.stopperMoves h.worker (iff_of_true (h.stopper.mpr hholds) trivial) h.delivery
          fun _ habs => absurd habs hnot
  | refused =>
      have hholds : s.stopper.Holds := by rw [hstopper]; trivial
      have hnot : ¬ s.StopNotifies := by simp [StopNotifies, hstopper]
      obtain ⟨hworker, hdelivery⟩ := hexclusive hholds
      exact h.stopperMoves (by simpa using hworker) (by simp [Stop.Holds])
        (by simpa using hdelivery) fun _ habs => absurd habs hnot
  | unlock =>
      have hholds : s.stopper.Holds := by rw [hstopper]; trivial
      obtain ⟨hworker, hdelivery⟩ := hexclusive hholds
      exact h.stopperMoves (by simpa using hworker) (by simp [Stop.Holds])
        (by simpa using hdelivery) fun _ _ => .inr rfl
  | notifyAll =>
      have hholds : ¬ s.stopper.Holds := by rw [hstopper]; exact id
      have hnotified := h.notified
      exact hnotified.stopperMoves hnotified.worker
        (iff_of_false (fun heq => hholds (h.stopper.mp heq)) id) hnotified.delivery
        fun heq => absurd heq (notified_ne_blocked _)
  | join =>
      have hholds : ¬ s.stopper.Holds := by rw [hstopper]; exact id
      have hnot : ¬ s.StopNotifies := by simp [StopNotifies, hstopper]
      dsimp only
      split
      · exact h.stopperMoves h.worker (iff_of_false (fun heq => hholds (h.stopper.mp heq)) id)
          h.delivery fun _ habs => absurd habs hnot
      · exact h

theorem Sound.deliveryMoves (h : s.Sound os) {m : Option Thread} {l : Loop α}
    (hworker : m = some .worker ↔ s.worker.Holds)
    (hstopper : m = some .stopper ↔ s.stopper.Holds) (hdelivery : m = some .delivery ↔ l.Holds)
    (hsettle : ∀ lpFrame, s.delivery ≠ .settle lpFrame) (hsettle' : ∀ lpFrame, l ≠ .settle lpFrame)
    (hwait : l = .sleep ∨ l = .blocked → s.mDeliveryQueue = [] ∧ s.mRunning = true)
    (hframe : l.lpFrame = s.delivery.lpFrame) :
    Sound { s with mDeliveryMutex := m, delivery := l } os where
  worker := hworker
  stopper := hstopper
  delivery := hdelivery
  ready hw _ := h.ready hw hsettle
  settled := fun ⟨lpFrame, heq⟩ => absurd heq (hsettle' lpFrame)
  pushed := h.pushed
  sleep heq := hwait (.inl heq)
  blocked heq := (hwait (.inr heq)).imp .inl .inl
  frames := by
    rw [h.frames, hframe]

theorem Sound.deliveryLocks (h : s.Sound os) (hloop : s.delivery = .lock ∨ s.delivery = .woken)
    (hfree : s.mDeliveryMutex = none) :
    Sound { s with mDeliveryMutex := some .delivery, delivery := .predicate } os := by
  obtain ⟨hworker, hstopper, -⟩ := h.free hfree
  have hnothing : s.delivery.lpFrame = none ∧ ∀ lpFrame, s.delivery ≠ .settle lpFrame := by
    rcases hloop with hloop | hloop <;> simp [hloop, Loop.lpFrame]
  exact h.deliveryMoves (by simpa using hworker) (by simpa using hstopper) (by simp [Loop.Holds])
    hnothing.2 (by simp) (by simp) hnothing.1.symm

theorem Sound.deliveryStep (h : s.Sound os) :
    Sound s.deliveryStep.1 (os ++ s.deliveryStep.2) := by
  have hexclusive := h.exclusive.2.2
  unfold HandOff.deliveryStep
  cases hloop : s.delivery with
  | running =>
      have hholds : ¬ s.delivery.Holds := by rw [hloop]; exact id
      rw [List.append_nil]
      refine h.deliveryMoves h.worker h.stopper ?_ (by simp [hloop]) ?_ ?_ ?_
      · refine iff_of_false (fun heq => hholds (h.delivery.mp heq)) ?_
        split_ifs <;> exact id
      · intro lpFrame
        split_ifs <;> simp
      · split_ifs <;> simp
      · rw [hloop]
        split_ifs <;> rfl
  | lock =>
      dsimp only
      split_ifs with hfree
      · rw [List.append_nil]
        exact h.deliveryLocks (.inl hloop) hfree
      · rw [List.append_nil]
        exact h
  | woken =>
      dsimp only
      split_ifs with hfree
      · rw [List.append_nil]
        exact h.deliveryLocks (.inr hloop) hfree
      · rw [List.append_nil]
        exact h
  | predicate =>
      have hholds : s.delivery.Holds := by rw [hloop]; trivial
      obtain ⟨hworker, -⟩ := hexclusive hholds
      have hready : s.mDeliveryReady = true ↔ s.mDeliveryQueue ≠ [] :=
        h.ready (fun heq => by rw [heq] at hworker; exact hworker trivial) (by simp [hloop])
      rw [List.append_nil]
      refine h.deliveryMoves h.worker h.stopper ?_ (by simp [hloop]) ?_ ?_ ?_
      · refine iff_of_true (h.delivery.mpr hholds) ?_
        split_ifs <;> trivial
      · intro lpFrame
        split_ifs <;> simp
      · split_ifs with hpredicate
        · simp
        · intro _
          rw [Bool.not_eq_true, Bool.or_eq_false_iff, Bool.not_eq_false'] at hpredicate
          rw [hpredicate.1, Bool.false_eq_true, false_iff, not_not] at hready
          exact ⟨hready, hpredicate.2⟩
      · rw [hloop]
        split_ifs <;> rfl
  | sleep =>
      have hholds : s.delivery.Holds := by rw [hloop]; trivial
      obtain ⟨hworker, hstopper⟩ := hexclusive hholds
      rw [List.append_nil]
      exact h.deliveryMoves (by simpa using hworker) (by simpa using hstopper)
        (by simp [Loop.Holds]) (by simp [hloop]) (by simp) (fun _ => h.sleep hloop)
        (by rw [hloop]; rfl)
  | blocked =>
      rw [List.append_nil]
      exact h
  | awake =>
      have hholds : s.delivery.Holds := by rw [hloop]; trivial
      rw [List.append_nil]
      refine h.deliveryMoves h.worker h.stopper ?_ (by simp [hloop]) ?_ ?_ ?_
      · refine iff_of_true (h.delivery.mpr hholds) ?_
        split_ifs <;> trivial
      · intro lpFrame
        split_ifs <;> simp
      · split_ifs <;> simp
      · rw [hloop]
        split_ifs <;> rfl
  | pop =>
      have hholds : s.delivery.Holds := by rw [hloop]; trivial
      obtain ⟨hworker, -⟩ := hexclusive hholds
      have hnot : s.worker ≠ .setReady := fun heq => by rw [heq] at hworker; exact hworker trivial
      have hready : s.mDeliveryReady = true ↔ s.mDeliveryQueue ≠ [] := h.ready hnot (by simp [hloop])
      have hframes := h.frames
      rw [List.append_nil]
      exact
        { worker := h.worker
          stopper := h.stopper
          delivery := iff_of_true (h.delivery.mpr hholds) trivial
          ready := fun _ hne => absurd rfl (hne _)
          settled := fun _ hne => hready.mpr fun heq => hne (by rw [heq]; rfl)
          pushed := fun heq => absurd heq hnot
          sleep := fun heq => by cases heq
          blocked := fun heq => by cases heq
          frames := by
            rw [hframes, hloop]
            cases s.mDeliveryQueue <;> simp [Loop.lpFrame] }
  | settle lpFrame =>
      have hholds : s.delivery.Holds := by rw [hloop]; trivial
      obtain ⟨hworker, -⟩ := hexclusive hholds
      have hnot : s.worker ≠ .setReady := fun heq => by rw [heq] at hworker; exact hworker trivial
      have hsettled := h.settled ⟨lpFrame, hloop⟩
      rw [List.append_nil]
      exact
        { worker := h.worker
          stopper := h.stopper
          delivery := iff_of_true (h.delivery.mpr hholds) trivial
          ready := fun _ _ => by
            dsimp only
            cases hqueue : s.mDeliveryQueue with
            | nil => simp
            | cons frame rest => simpa using hsettled (by simp [hqueue])
          settled := fun ⟨_, heq⟩ => by cases heq
          pushed := fun heq => absurd heq hnot
          sleep := fun heq => by cases heq
          blocked := fun heq => by cases heq
          frames := by
            rw [h.frames, hloop]
            rfl }
  | unlock lpFrame =>
      have hholds : s.delivery.Holds := by rw [hloop]; trivial
      obtain ⟨hworker, hstopper⟩ := hexclusive hholds
      rw [List.append_nil]
      exact h.deliveryMoves (by simpa using hworker) (by simpa using hstopper)
        (by simp [Loop.Holds]) (by simp [hloop]) (by simp) (by simp) (by rw [hloop]; rfl)
  | call lpFrame =>
      have hholds : ¬ s.delivery.Holds := by rw [hloop]; exact id
      have hframes := h.frames
      exact
        { worker := h.worker
          stopper := h.stopper
          delivery := iff_of_false (fun heq => hholds (h.delivery.mp heq)) id
          ready := fun hw _ => h.ready hw (by simp [hloop])
          settled := fun ⟨_, heq⟩ => by cases heq
          pushed := h.pushed
          sleep := fun heq => by cases heq
          blocked := fun heq => by cases heq
          frames := by
            rw [enqueued_append, delivered_append, hframes, hloop]
            cases lpFrame <;> simp [enqueued, delivered, Loop.lpFrame] }
  | leave =>
      have hholds : s.delivery.Holds := by rw [hloop]; trivial
      obtain ⟨hworker, hstopper⟩ := hexclusive hholds
      rw [List.append_nil]
      exact h.deliveryMoves (by simpa using hworker) (by simpa using hstopper)
        (by simp [Loop.Holds]) (by simp [hloop]) (by simp) (by simp) (by rw [hloop]; rfl)
  | ended =>
      rw [List.append_nil]
      exact h

end Step

theorem sound_run (turns : List (Turn α)) :
    Sound ((machine α).run {} turns).1 ((machine α).run {} turns).2 := by
  refine (machine α).run_history (C := fun _ _ => True) (fun s os turn h _ => ?_) sound_init
    ((machine α).along_of_forall (fun _ _ _ => trivial) _)
  cases turn with
  | deliverFrame frame =>
      rw [machine, List.append_nil]
      exact h.beginDelivery frame
  | worker => exact h.workerStep
  | stopper =>
      rw [machine, List.append_nil]
      exact h.stopperStep
  | delivery => exact h.deliveryStep
  | wake =>
      rw [machine, List.append_nil]
      exact h.notified

/-- In every interleaving: outside the scopes of the lock the flag says
whether there are frames in the queue; the callback has got the first of the
frames that have been put into it, in order; and the delivery thread is not
left blocked, neither with frames in the queue that nobody is about to notify
it of, nor after `stop` has notified it. -/
theorem handedOff_of_run (turns : List (Turn α)) :
    let s := ((machine α).run {} turns).1
    let os := ((machine α).run {} turns).2
    (s.mDeliveryMutex = none → (s.mDeliveryReady = true ↔ s.mDeliveryQueue ≠ [])) ∧
      delivered os <+: enqueued os ∧
        ¬ (s.delivery = .blocked ∧
          (s.mDeliveryQueue ≠ [] ∧ ¬ s.Notifies ∨ s.mRunning = false ∧ ¬ s.StopNotifies)) := by
  intro s os
  have h : Sound s os := sound_run turns
  refine ⟨fun hfree => ?_, ?_, ?_⟩
  · obtain ⟨hworker, -, hdelivery⟩ := h.free hfree
    refine h.ready (fun heq => ?_) fun lpFrame heq => ?_
    · rw [heq] at hworker
      exact hworker trivial
    · rw [heq] at hdelivery
      exact hdelivery trivial
  · rw [h.frames, List.append_assoc]
    exact List.prefix_append _ _
  · rintro ⟨hblocked, hleft⟩
    obtain ⟨hqueue, hrunning⟩ := h.blocked hblocked
    rcases hleft with ⟨hne, hnot⟩ | ⟨hstopped, hnot⟩
    · exact hnot (hqueue.resolve_left hne)
    · refine hnot (hrunning.resolve_left ?_)
      rw [hstopped]
      exact Bool.false_ne_true

/-- The delivery thread blocks, and a frame wakes it up. -/
example :
    delivered ((machine ℕ).run {}
      (List.replicate 4 .delivery ++ .deliverFrame 7 :: List.replicate 4 .worker ++
        List.replicate 7 .delivery)).2 = [7] := by
  decide

end HandOff

end ElasticFrame
