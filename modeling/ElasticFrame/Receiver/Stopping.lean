import ElasticFrame.Lib.Fairness
import ElasticFrame.Receiver.Nested
import ElasticFrame.Receiver.Threaded

/-!
`stop` returns. Once it has cleared `mRunning`, each statement of the worker, of
the delivery thread and of `stop` itself brings the joins nearer, and as long as
`stop` has not returned one of the three can go on; so it does under every fair
schedule, however many packets and spurious wake-ups come in between.
-/

namespace ElasticFrame

open Lib

/-! ### How far each thread has to go -/

namespace HandOff

variable {α : Type*}

def Enqueue.toGo : Enqueue α → ℕ
  | outside => 0
  | unlock => 1
  | notifyOne => 2
  | setReady => 3
  | push _ => 4

def Stop.toGo : Stop → ℕ
  | outside => 0
  | refused | join => 1
  | exchange | notifyAll => 2
  | unlock => 3

/-- To the end of the loop, once the flag is cleared. -/
def Loop.toGo : Loop α → ℕ
  | ended => 0
  | running | leave => 1
  | call _ => 2
  | unlock _ => 3
  | settle _ => 4
  | pop => 5
  | awake => 6
  | predicate => 7
  | lock | woken => 8
  | blocked => 9
  | sleep => 10

theorem toGo_notified (l : Loop α) :
    l.notified.toGo < l.toGo ∨ l.notified = l := by
  cases l with
  | blocked => exact .inl (Nat.lt_succ_self 8)
  | _ => exact .inr rfl

theorem toGo_notified_le (l : Loop α) : l.notified.toGo ≤ l.toGo := by
  rcases toGo_notified l with hlt | heq
  · exact hlt.le
  · rw [heq]

end HandOff

/-- To the end of the loop, with a pass before it if the lock is the next. -/
def WorkerLoop.toGo {B : BufferSize} : WorkerLoop B → ℕ
  | ended => 0
  | running => 1
  | asleep => 2
  | deliver is => 3 + 6 * is.length
  | enqueue _ is => 4 + 6 * is.length
  | lock => 4 + 6 * (B.mask + 1)

namespace Threaded

variable {B : BufferSize}

/-- The statements that are left until `stop` has returned, at most. -/
def toGo (s : Threaded B) : ℕ :=
  s.loop.toGo + s.handOff.worker.toGo + s.handOff.stopper.toGo + s.handOff.delivery.toGo

/-- A thread that can go on: `stop` up to the joins; then who holds the lock of
the queue, the delivery thread, and the worker. -/
def helpful (s : Threaded B) : HandOff.Thread :=
  match s.handOff.stopper with
  | .join =>
      if s.handOff.mDeliveryMutex = some .worker then .worker
      else
        match s.handOff.delivery, s.loop with
        | .ended, .ended => .stopper
        | .ended, _ => .worker
        | _, _ => .delivery
  | _ => .stopper

def belongs : HandOff.Thread → Turn → Prop
  | .worker, .worker _ | .stopper, .stopper | .delivery, .delivery => True
  | _, _ => False

theorem Refines.length_selected {cfg : ReceiverConfig} {s : Threaded B} {os : List Output}
    (h : s.Refines cfg os) (clk : PassClock) (hloop : s.loop = .lock) :
    ((s.receiver.processNacks cfg clk).1.selected cfg clk.timeouts).length ≤ B.mask + 1 := by
  have hreceiver : s.receiver = (sequential B cfg os).1 := by
    rw [← h.receiver, finished, hloop]
  have hrep : s.receiver.Represented := by
    rw [hreceiver]
    exact Receiver.represented_run Receiver.represented_fresh cfg _
  have hnacked : (s.receiver.processNacks cfg clk).1.Represented :=
    hrep.alike (Receiver.processNacks_alike cfg clk s.receiver)
  calc ((s.receiver.processNacks cfg clk).1.selected cfg clk.timeouts).length
      ≤ Fintype.card B.Index := (hnacked.selected cfg clk.timeouts).1.length_le_card
    _ = B.mask + 1 := Fintype.card_fin _

section Step

variable {cfg : ReceiverConfig} {s : Threaded B} {os : List Output}

theorem Refines.toGo_worker (h : s.Refines cfg os) (hstop : s.handOff.mRunning = false)
    (clk : PassClock) :
    (s.workerStep cfg clk).1.toGo < s.toGo ∨
      (s.workerStep cfg clk).1 = s ∧ (s.loop = .ended ∨
        (∃ i is, s.loop = .deliver (i :: is)) ∧ s.handOff.mDeliveryMutex ≠ none) := by
  cases hloop : s.loop with
  | running =>
      left
      simp [workerStep, hloop, hstop, toGo, WorkerLoop.toGo]
  | lock =>
      left
      have hlength := h.length_selected clk hloop
      simp only [workerStep, hloop, toGo, WorkerLoop.toGo]
      omega
  | asleep =>
      left
      simp [workerStep, hloop, toGo, WorkerLoop.toGo]
  | ended =>
      right
      simp [workerStep, hloop]
  | deliver is =>
      cases is with
      | nil =>
          left
          simp [workerStep, hloop, toGo, WorkerLoop.toGo]
      | cons i is =>
          have houtside := h.outside_of_loop (by simp [hloop])
          simp only [workerStep, hloop]
          cases hframe : (s.receiver.mpBuckets i).mpFrame with
          | none =>
              left
              simp [hloop, toGo, WorkerLoop.toGo]
          | some f =>
              dsimp only
              split_ifs with hfree
              · left
                rw [beginDelivery_eq _ houtside hfree]
                simp only [hloop, houtside, toGo, WorkerLoop.toGo, HandOff.Enqueue.toGo,
                  List.length_cons]
                omega
              · exact .inr ⟨rfl, .inr ⟨⟨i, is, rfl⟩, hfree⟩⟩
  | enqueue i is =>
      left
      by_cases houtside : s.handOff.worker = .outside
      · simp only [workerStep, hloop, houtside, toGo, WorkerLoop.toGo]
        omega
      · have hnotified := HandOff.toGo_notified_le s.handOff.delivery
        simp only [workerStep, hloop, toGo]
        cases hworker : s.handOff.worker with
        | outside => exact absurd hworker houtside
        | notifyOne =>
            simp only [HandOff.workerStep, hworker, HandOff.Enqueue.toGo]
            omega
        | _ => simp [HandOff.workerStep, hworker, HandOff.Enqueue.toGo]

theorem toGo_stopper (hstop : s.handOff.mRunning = false)
    (hreturned : s.handOff.stopper ≠ .outside) :
    s.stopperStep.toGo < s.toGo ∨
      s.stopperStep = s ∧ s.handOff.stopper = .join ∧
        ¬ (s.loop = .ended ∧ s.handOff.worker = .outside ∧ s.handOff.delivery = .ended) := by
  have hnotified := HandOff.toGo_notified_le s.handOff.delivery
  cases hstopper : s.handOff.stopper with
  | outside => exact absurd hstopper hreturned
  | exchange =>
      left
      simp [stopperStep, HandOff.stopperStep, hstopper, hstop, toGo, HandOff.Stop.toGo]
  | refused =>
      left
      simp [stopperStep, HandOff.stopperStep, hstopper, toGo, HandOff.Stop.toGo]
  | unlock =>
      left
      simp [stopperStep, HandOff.stopperStep, hstopper, toGo, HandOff.Stop.toGo]
  | notifyAll =>
      left
      simp only [stopperStep, HandOff.stopperStep, hstopper, toGo, HandOff.Stop.toGo]
      omega
  | join =>
      by_cases hover : s.loop = .ended ∧ s.handOff.worker = .outside ∧ s.handOff.delivery = .ended
      · obtain ⟨hloop, hworker, hdelivery⟩ := hover
        left
        simp [stopperStep, HandOff.stopperStep, hstopper, hloop, hworker, hdelivery, toGo,
          HandOff.Stop.toGo]
      · refine .inr ⟨?_, rfl, hover⟩
        cases hloop : s.loop with
        | ended =>
            simp only [stopperStep, HandOff.stopperStep, hstopper, hloop]
            split
            case h_1 hworker hdelivery => exact absurd ⟨hloop, hworker, hdelivery⟩ hover
            case h_2 => rw [← hloop]
        | _ => simp only [stopperStep, hstopper, hloop]

/-- The delivery thread goes on, waits for the lock, or is blocked. -/
theorem toGo_delivery (hstop : s.handOff.mRunning = false) :
    ({ s with handOff := s.handOff.deliveryStep.1 } : Threaded B).toGo < s.toGo ∨
      s.handOff.deliveryStep.1 = s.handOff ∧
        (s.handOff.delivery = .ended ∨ s.handOff.delivery = .blocked ∨
          (s.handOff.delivery = .lock ∨ s.handOff.delivery = .woken) ∧
            s.handOff.mDeliveryMutex ≠ none) := by
  cases hloop : s.handOff.delivery with
  | lock | woken =>
      by_cases hfree : s.handOff.mDeliveryMutex = none
      · left
        simp [HandOff.deliveryStep, hloop, hfree, toGo, HandOff.Loop.toGo]
      · right
        simp [HandOff.deliveryStep, hloop, hfree]
  | ended | blocked =>
      right
      simp [HandOff.deliveryStep, hloop]
  | awake =>
      left
      simp only [HandOff.deliveryStep, hloop, toGo]
      split_ifs <;> simp [HandOff.Loop.toGo]
  | _ =>
      left
      simp [HandOff.deliveryStep, hloop, hstop, toGo, HandOff.Loop.toGo]

/-- A turn brings the return nearer, or changes nothing that matters to it. -/
theorem Refines.toGo_step (h : s.Refines cfg os) (hstop : s.handOff.mRunning = false)
    (hreturned : s.handOff.stopper ≠ .outside) (t : Turn) :
    ((machine B cfg).step s t).1.toGo < s.toGo ∨
      ((machine B cfg).step s t).1.handOff = s.handOff ∧
        ((machine B cfg).step s t).1.loop = s.loop := by
  cases t with
  | receive env aData aSourceId =>
      right
      simp only [machine, receiveStep]
      split_ifs <;> exact ⟨rfl, rfl⟩
  | worker clk =>
      rcases h.toGo_worker hstop clk with hlt | ⟨hsame, -⟩
      · exact .inl hlt
      · refine .inr ⟨congrArg Threaded.handOff hsame, congrArg Threaded.loop hsame⟩
  | stopper =>
      rcases toGo_stopper hstop hreturned with hlt | ⟨hsame, -⟩
      · exact .inl hlt
      · exact .inr ⟨congrArg Threaded.handOff hsame, congrArg Threaded.loop hsame⟩
  | delivery =>
      rcases toGo_delivery hstop with hlt | ⟨hsame, -⟩
      · exact .inl hlt
      · exact .inr ⟨hsame, rfl⟩
  | wake =>
      rcases HandOff.toGo_notified s.handOff.delivery with hlt | hsame
      · left
        simp only [machine, toGo]
        omega
      · right
        simp only [machine, hsame, and_self]

theorem Refines.toGo_helpful (h : s.Refines cfg os) (hstop : s.handOff.mRunning = false)
    (hreturned : s.handOff.stopper ≠ .outside) {t : Turn} (ht : belongs s.helpful t) :
    ((machine B cfg).step s t).1.toGo < s.toGo := by
  by_cases hjoin : s.handOff.stopper = .join
  swap
  · -- only the joins wait
    have hhelpful : s.helpful = .stopper := by
      unfold helpful
      cases hstopper : s.handOff.stopper with
      | join => exact absurd hstopper hjoin
      | _ => rfl
    rw [hhelpful] at ht
    cases t with
    | stopper => exact (toGo_stopper hstop hreturned).resolve_right fun hwait => hjoin hwait.2.1
    | _ => exact absurd ht id
  have hnotStopper : s.handOff.mDeliveryMutex ≠ some .stopper := by
    rw [ne_eq, h.sound.stopper, hjoin]
    exact id
  by_cases hheld : s.handOff.mDeliveryMutex = some .worker
  · have hhelpful : s.helpful = .worker := by rw [helpful, hjoin, if_pos hheld]
    rw [hhelpful] at ht
    have hinside : s.handOff.worker ≠ .outside := by
      have hholds := h.sound.worker.mp hheld
      intro houtside
      rw [houtside] at hholds
      exact hholds
    obtain ⟨i, is, hloop⟩ := h.outside hinside
    cases t with
    | worker clk =>
        refine (h.toGo_worker hstop clk).resolve_right ?_
        rintro ⟨-, hended | ⟨⟨i, is, hdeliver⟩, -⟩⟩
        · rw [hloop] at hended
          cases hended
        · rw [hloop] at hdeliver
          cases hdeliver
    | _ => exact absurd ht id
  by_cases hended : s.handOff.delivery = .ended
  · -- the delivery thread has ended, so the lock is free
    have hfree : s.handOff.mDeliveryMutex = none := by
      cases hmutex : s.handOff.mDeliveryMutex with
      | none => rfl
      | some thread =>
          cases thread with
          | worker => exact absurd hmutex hheld
          | stopper => exact absurd hmutex hnotStopper
          | delivery =>
              have hholds := h.sound.delivery.mp hmutex
              rw [hended] at hholds
              exact absurd hholds id
    by_cases hover : s.loop = .ended
    · have hhelpful : s.helpful = .stopper := by
        rw [helpful, hjoin, if_neg hheld, hended, hover]
      have houtside := h.outside_of_loop (by simp [hover])
      rw [hhelpful] at ht
      cases t with
      | stopper =>
          exact (toGo_stopper hstop hreturned).resolve_right fun hwait =>
            hwait.2.2 ⟨hover, houtside, hended⟩
      | _ => exact absurd ht id
    · have hhelpful : s.helpful = .worker := by
        rw [helpful, hjoin, if_neg hheld, hended]
        cases hloop : s.loop with
        | ended => exact absurd hloop hover
        | _ => rfl
      rw [hhelpful] at ht
      cases t with
      | worker clk =>
          refine (h.toGo_worker hstop clk).resolve_right ?_
          rintro ⟨-, hended | ⟨-, hlocked⟩⟩
          · exact hover hended
          · exact hlocked hfree
      | _ => exact absurd ht id
  · have hhelpful : s.helpful = .delivery := by
      rw [helpful, hjoin, if_neg hheld]
      cases hloop : s.handOff.delivery with
      | ended => exact absurd hloop hended
      | _ => rfl
    rw [hhelpful] at ht
    cases t with
    | delivery =>
        refine (toGo_delivery hstop).resolve_right ?_
        rintro ⟨-, hdone | hblocked | ⟨hwaits, hlocked⟩⟩
        · exact hended hdone
        · -- `stop` has notified it
          rcases (h.sound.blocked hblocked).2 with hrunning | hnotifies
          · rw [hstop] at hrunning
            cases hrunning
          · rcases hnotifies with hunlock | hnotifyAll
            · rw [hjoin] at hunlock
              cases hunlock
            · rw [hjoin] at hnotifyAll
              cases hnotifyAll
        · -- nobody else is inside a scope
          cases hmutex : s.handOff.mDeliveryMutex with
          | none => exact hlocked hmutex
          | some thread =>
              cases thread with
              | worker => exact hheld hmutex
              | stopper => exact hnotStopper hmutex
              | delivery =>
                  have hholds := h.sound.delivery.mp hmutex
                  rcases hwaits with hlock | hwoken
                  · rw [hlock] at hholds
                    exact hholds
                  · rw [hwoken] at hholds
                    exact hholds
    | _ => exact absurd ht id

end Step

theorem mRunning_step (cfg : ReceiverConfig) {s : Threaded B} (h : s.handOff.mRunning = false)
    (t : Turn) : ((machine B cfg).step s t).1.handOff.mRunning = false := by
  cases t with
  | receive env aData aSourceId =>
      simp only [machine, receiveStep]
      split_ifs <;> exact h
  | worker clk =>
      have hbegin : ∀ f, (s.handOff.beginDelivery f).mRunning = s.handOff.mRunning := by
        intro f
        unfold HandOff.beginDelivery
        split <;> rfl
      have hinside : s.handOff.workerStep.1.mRunning = s.handOff.mRunning :=
        (workerStep_others s.handOff).2.1
      show (s.workerStep cfg clk).1.handOff.mRunning = false
      unfold workerStep
      split
      case h_4 =>
        split
        case h_1 => exact h
        case h_2 =>
          split_ifs
          · exact (hbegin _).trans h
          · exact h
      case h_5 =>
        split
        case h_1 => exact h
        case h_2 => exact hinside.trans h
      all_goals exact h
  | stopper =>
      have hstopped : s.handOff.stopperStep.mRunning = false := by
        unfold HandOff.stopperStep
        split
        case h_1 => split_ifs <;> exact h
        case h_2 => split_ifs <;> first | rfl | exact h
        case h_6 => split <;> exact h
        all_goals exact h
      show s.stopperStep.handOff.mRunning = false
      rcases stopperStep_eq s with hsame | ⟨hstep, -⟩
      · rw [hsame]
        exact h
      · rw [hstep]
        exact hstopped
  | delivery => exact (deliveryStep_others s.handOff).2.2.1.trans h
  | wake => exact h

theorem helpful_congr {s s' : Threaded B} (hhandOff : s'.handOff = s.handOff)
    (hloop : s'.loop = s.loop) : s'.toGo = s.toGo ∧ s'.helpful = s.helpful := by
  simp only [toGo, helpful, hhandOff, hloop, and_self]

/-- From any state reached in which `stop` has cleared `mRunning`, `stop` returns
under every schedule in which each of the three threads takes steps for ever. -/
theorem stop_returns (B : BufferSize) (cfg : ReceiverConfig) (ts : List Turn)
    (hstop : ((machine B cfg).run {} ts).1.handOff.mRunning = false) {schedule : ℕ → Turn}
    (hfair : Machine.Fair belongs schedule) :
    ∃ n, ((machine B cfg).after ((machine B cfg).run {} ts).1 schedule n).Stopped := by
  have hrule := (machine B cfg).eventually_of_fair
    (I := fun s => (∃ os, s.Refines cfg os) ∧ s.handOff.mRunning = false)
    (G := fun s => s.Stopped) toGo helpful ?_ ?_ ?_ ⟨⟨_, refines_run cfg ts⟩, hstop⟩ hfair
  · exact hrule
  · rintro s t ⟨⟨os, h⟩, hstop⟩
    exact ⟨⟨_, h.step t⟩, mRunning_step cfg hstop t⟩
  · rintro s t ⟨⟨os, h⟩, hstop⟩ hnot
    rcases h.toGo_step hstop (fun heq => hnot ⟨hstop, heq⟩) t with hlt | ⟨hhandOff, hloop⟩
    · exact .inl hlt
    · exact .inr (helpful_congr hhandOff hloop)
  · rintro s t ⟨⟨os, h⟩, hstop⟩ hnot ht
    exact h.toGo_helpful hstop (fun heq => hnot ⟨hstop, heq⟩) ht

def roundRobin (n : ℕ) : Turn :=
  if n % 3 = 0 then .worker { timeouts := 0, nacks := 0, nackDelay := fun _ => 0 }
  else if n % 3 = 1 then .stopper else .delivery

theorem fair_roundRobin : Machine.Fair belongs roundRobin := by
  intro i n
  cases i with
  | worker =>
      refine ⟨3 * n, by omega, ?_⟩
      rw [roundRobin, if_pos (by omega)]
      trivial
  | stopper =>
      refine ⟨3 * n + 1, by omega, ?_⟩
      rw [roundRobin, if_neg (by omega), if_pos (by omega)]
      trivial
  | delivery =>
      refine ⟨3 * n + 2, by omega, ?_⟩
      rw [roundRobin, if_neg (by omega), if_neg (by omega)]
      trivial

/-- A `stop` while the worker is about to lock. -/
theorem stop_returns_roundRobin :
    let turns := [roundRobin 0, .stopper, .stopper]
    let s := ((machine .default {}).run {} turns).1
    s.handOff.mRunning = false ∧ ∃ n, ((machine .default {}).after s roundRobin n).Stopped :=
  ⟨rfl, stop_returns .default {} _ rfl fair_roundRobin⟩

end Threaded

end ElasticFrame
