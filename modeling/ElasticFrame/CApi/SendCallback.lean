import ElasticFrame.Sender.Law
import ElasticFrame.Receiver.Newness

/-!
The send callback of the C interface. A handle keeps one `Sender`, and as
the callback of a `Sender` is fixed when it is constructed,
`efp_sender_set_callback` constructs a new one, whose superframes are
numbered from 0 again. A receiver that has seen the superframes before takes
a number that comes twice for a late fragment. The numbers of a handle go on
through a change of the callback just when the sender that is thrown away
has come round to 0, or nothing is sent before or after.
-/

namespace ElasticFrame

open Lib

namespace CApi

/-- `efp_sender_s`, with what its `Sender` is constructed from. The callbacks
are function pointers with their contexts; `none` is the null pointer. The
wrapper inside the `Sender` and the handle hold the same one. -/
structure EfpSender (κ : Type*) where
  mpSender : Sender
  mCallback : Option κ
  mMtu : UInt16

variable {κ : Type*}

/-- What `std::make_unique<CSender>(aMtu, lWrapper)` configures: the defaults
for all but the MTU. -/
def senderConfig (aMtu : UInt16) : SenderConfig :=
  SenderConfig.new aMtu .single 0 (50 * 1024 * 1024)

namespace EfpSender

def createWithCallback (aMtu : UInt16) (aCallback : Option κ) : EfpSender κ where
  mpSender := Sender.new (senderConfig aMtu)
  mCallback := aCallback
  mMtu := aMtu

/-- `efp_sender_create`: the callback is set later. -/
def create (aMtu : UInt16) : EfpSender κ := createWithCallback aMtu none

/-- `efp_sender_set_callback` recreates the sender. -/
def setCallback (apSender : EfpSender κ) (aCallback : Option κ) : EfpSender κ :=
  { apSender with
    mCallback := aCallback
    mpSender := Sender.new (senderConfig apSender.mMtu) }

/-- `SendCallbackWrapper::operator()`: the call of the callback for a packet. -/
def wrapper (apSender : EfpSender κ) (p : Packet) : Option (κ × Packet) :=
  apSender.mCallback.map fun mpCallback => (mpCallback, p)

/-- `efp_sender_send`: the calls of the callback, and the result. -/
def send (apSender : EfpSender κ) (clk : SendClock) (apData : List UInt8) (args : SendArgs) :
    EfpSender κ × List (κ × Packet) × Result :=
  let sent := apSender.mpSender.send (senderConfig apSender.mMtu) clk apData args
  ({ apSender with mpSender := sent.1.1 }, sent.1.2.filterMap apSender.wrapper, sent.2)

end EfpSender

inductive SenderCall (κ : Type*)
  | setCallback (aCallback : Option κ)
  | send (clk : SendClock) (apData : List UInt8) (args : SendArgs)

/-- A handle as a machine that puts out the packets of each send that hands
any over. -/
def machine (κ : Type*) : Machine (EfpSender κ) (SenderCall κ) (List (κ × Packet)) where
  step h
    | .setCallback aCallback => (h.setCallback aCallback, [])
    | .send clk apData args =>
        let sent := h.send clk apData args
        (sent.1, if sent.2.1 = [] then [] else [sent.2.1])

/-! ### Numbers on the wire -/

/-- The packets are fragments of a superframe with this number. -/
def Numbered (aSuperFrameNo : UInt16) (packets : List (κ × Packet)) : Prop :=
  ∀ p ∈ packets, ∃ f, Fragment.ofPacket p.2.data = some f ∧ f.superFrameNo = aSuperFrameNo

/-- The sends are numbered one by one, from this number on. -/
def NumberedFrom (aSuperFrameNo : UInt16) (wire : List (List (κ × Packet))) : Prop :=
  ∀ k packets, wire[k]? = some packets → Numbered (aSuperFrameNo + UInt16.ofNat k) packets

/-- A receiver that has seen the sends before the one at position `k`. It has
been given packets of them, any of them in any order any number of times,
with passes in between, and the numbers it has unwrapped lie within half
the range of the wire number of one another and of `k`. Each fragment is
labelled with the position of its send. -/
structure Seen (wire : List (List (κ × Packet))) (k : ℕ) (B : BufferSize) (cfg : ReceiverConfig)
    (as : List (ℤ × Act)) : Prop where
  earlier : ∀ l now memalign src f, (l, Act.handle now memalign src f) ∈ as →
    ∃ j : ℕ, j < k ∧ l = j ∧ ∃ packets, wire[j]? = some packets ∧
      ∃ p ∈ packets, Fragment.ofPacket p.2.data = some f
  near : (Labelled.machine B cfg).Along
    (fun t e => t.Unwraps e.2 → ∀ x, t.last = some x → |e.1 - x| < 2 ^ 15) (Labelled.fresh B) as
  last : ∀ x, ((Labelled.machine B cfg).run (Labelled.fresh B) as).1.last = some x →
    |(k : ℤ) - x| < 2 ^ 15

/-- No receiver takes a packet of a new superframe for one that it has seen.
The numbers are unwrapped to an `int64_t`. -/
def NeverTooOld (wire : List (List (κ × Packet))) : Prop :=
  ∀ (k : ℕ) (B : BufferSize) (cfg : ReceiverConfig) (as : List (ℤ × Act)),
    (k : ℤ) < int64Max → Seen wire k B cfg as →
      ∀ packets, wire[k]? = some packets → ∀ p ∈ packets, ∀ env src,
        (((Labelled.machine B cfg).run (Labelled.fresh B) as).1.receiver.dispatch cfg env
          p.2.data src).2 ≠ .fragmentTooOld

/-- The numbering goes on over the whole run, and every receiver can tell. -/
def Continues (wire : List (List (κ × Packet))) : Prop :=
  (∃ aSuperFrameNo, NumberedFrom aSuperFrameNo wire) ∧ NeverTooOld wire

/-- The call throws a sender away that has handed superframes over and not
come round to 0. -/
def EfpSender.Restarts (h : EfpSender κ) : SenderCall κ → Prop
  | .setCallback _ => h.mCallback ≠ none ∧ h.mpSender.mSuperFrameNo ≠ 0
  | .send .. => False

def EfpSender.HandsOver (h : EfpSender κ) : SenderCall κ → Prop
  | .setCallback _ => False
  | .send _ apData _ => h.mCallback ≠ none ∧ Sender.Sendable (senderConfig h.mMtu) apData

/-- No superframe is handed over in the run. -/
def Silent : EfpSender κ → List (SenderCall κ) → Prop :=
  (machine κ).Along fun h c => ¬ h.HandsOver c

def KeepsNumbering : EfpSender κ → List (SenderCall κ) → Prop
  | _, [] => True
  | h, c :: cs =>
      (h.Restarts c → Silent ((machine κ).step h c).1 cs) ∧
        KeepsNumbering ((machine κ).step h c).1 cs

/-! ### A step of a handle -/

theorem numberedFrom_nil (n : UInt16) : NumberedFrom n ([] : List (List (κ × Packet))) :=
  fun _ _ h => by cases h

theorem numberedFrom_cons {n : UInt16} {packets : List (κ × Packet)}
    {wire : List (List (κ × Packet))} :
    NumberedFrom n (packets :: wire) ↔ Numbered n packets ∧ NumberedFrom (n + 1) wire := by
  have hshift : ∀ k : ℕ, n + UInt16.ofNat (k + 1) = n + 1 + UInt16.ofNat k := by
    intro k
    rw [UInt16.ofNat_add, UInt16.add_assoc, UInt16.add_comm (UInt16.ofNat k)]
    rfl
  refine ⟨fun h => ⟨?_, fun k later hk => ?_⟩, fun h k later hk => ?_⟩
  · have h0 := h 0 packets rfl
    rwa [show n + UInt16.ofNat 0 = n from UInt16.add_zero n] at h0
  · have hk' := h (k + 1) later hk
    rwa [hshift] at hk'
  · cases k with
    | zero =>
        obtain rfl := Option.some.inj hk
        rw [show n + UInt16.ofNat 0 = n from UInt16.add_zero n]
        exact h.1
    | succ k =>
        rw [hshift]
        exact h.2 k later hk

theorem Numbered.unique {n m : UInt16} {packets : List (κ × Packet)} (hne : packets ≠ [])
    (hn : Numbered n packets) (hm : Numbered m packets) : n = m := by
  obtain ⟨p, hp⟩ := List.exists_mem_of_ne_nil packets hne
  obtain ⟨f, hf, rfl⟩ := hn p hp
  obtain ⟨f', hf', rfl⟩ := hm p hp
  rw [Option.some.inj (hf.symm.trans hf')]

theorem step_handsOver {h : EfpSender κ} {c : SenderCall κ} (hover : h.HandsOver c) :
    ∃ packets, packets ≠ [] ∧ Numbered h.mpSender.mSuperFrameNo packets ∧
      ((machine κ).step h c).2 = [packets] ∧
        ((machine κ).step h c).1.mCallback = h.mCallback ∧
          ((machine κ).step h c).1.mpSender.mSuperFrameNo = h.mpSender.mSuperFrameNo + 1 := by
  cases c with
  | setCallback aCallback => exact absurd hover id
  | send clk apData args =>
      obtain ⟨hcallback, hsendable⟩ := hover
      obtain ⟨callback, hsome⟩ := Option.ne_none_iff_exists'.mp hcallback
      set cfg := senderConfig h.mMtu
      set fragments := ((h.mpSender.evicted cfg clk).planned cfg apData args).superframe apData
        (Sender.plan cfg apData.length).2 with hfragments
      have hsend : h.mpSender.send cfg clk apData args =
          (Sender.sendPlanned cfg clk (h.mpSender.evicted cfg clk) apData args, .ok) := by
        rcases Sender.send_cases cfg clk h.mpSender apData args with ⟨-, hok⟩ | ⟨hnot, -⟩
        · exact hok
        · exact absurd hsendable hnot
      have hpackets := Sender.packets_sendPlanned rfl clk (h.mpSender.evicted cfg clk) hsendable args
      have hwrapped : (h.send clk apData args).2.1 =
          fragments.map fun f => (callback, { data := f.packet, streamId := args.aStreamId }) := by
        simp only [EfpSender.send]
        rw [hsend, hpackets, List.filterMap_map]
        refine Eq.trans (List.filterMap_congr fun f _ => ?_) (congrFun List.filterMap_eq_map _)
        rw [Function.comp_apply, EfpSender.wrapper, hsome]
        rfl
      have hne : (h.send clk apData args).2.1 ≠ [] := by
        rw [hwrapped, ne_eq, List.map_eq_nil_iff, hfragments, Outgoing.superframe]
        simp
      refine ⟨(h.send clk apData args).2.1, hne, fun p hp => ?_, if_neg hne, rfl, ?_⟩
      · rw [hwrapped] at hp
        obtain ⟨f, hf, rfl⟩ := List.mem_map.mp hp
        refine ⟨f, Outgoing.ofPacket_superframe hf, ?_⟩
        rw [Outgoing.superFrameNo_superframe hf]
        exact Sender.mSuperFrameNo_evicted clk h.mpSender
      · simp only [machine, EfpSender.send]
        rw [hsend, Sender.mSuperFrameNo_sendPlanned, Sender.mSuperFrameNo_evicted]

theorem step_not_handsOver {h : EfpSender κ} {c : SenderCall κ} (hnot : ¬ h.HandsOver c) :
    ((machine κ).step h c).2 = [] ∧
      ((∃ aCallback, c = .setCallback aCallback ∧
          ((machine κ).step h c).1.mpSender.mSuperFrameNo = 0) ∨
        ((machine κ).step h c).1.mCallback = h.mCallback ∧ ¬ h.Restarts c ∧
          (h.mCallback ≠ none →
            ((machine κ).step h c).1.mpSender.mSuperFrameNo = h.mpSender.mSuperFrameNo)) := by
  cases c with
  | setCallback aCallback => exact ⟨rfl, .inl ⟨aCallback, rfl, rfl⟩⟩
  | send clk apData args =>
      by_cases hcallback : h.mCallback = none
      · have hnone : (h.send clk apData args).2.1 = [] := by
          refine List.filterMap_eq_nil_iff.mpr fun p _ => ?_
          rw [EfpSender.wrapper, hcallback]
          rfl
        exact ⟨if_pos hnone, .inr ⟨rfl, id, fun hsome => absurd hcallback hsome⟩⟩
      · have hrefused : ¬ Sender.Sendable (senderConfig h.mMtu) apData :=
          fun hsendable => hnot ⟨hcallback, hsendable⟩
        rcases Sender.send_cases (senderConfig h.mMtu) clk h.mpSender apData args with
          ⟨hsendable, -⟩ | ⟨-, res, -, hsend⟩
        · exact absurd hsendable hrefused
        · have hnone : (h.send clk apData args).2.1 = [] := by
            simp only [EfpSender.send]
            rw [hsend]
            rfl
          refine ⟨if_pos hnone, .inr ⟨rfl, id, fun _ => ?_⟩⟩
          simp only [machine, EfpSender.send]
          rw [hsend]
          dsimp only
          split_ifs
          · rfl
          · exact Sender.mSuperFrameNo_evicted clk h.mpSender

/-! ### Runs of a handle -/

/-- A run puts something out just when it hands a superframe over. -/
theorem silent_iff {h : EfpSender κ} {cs : List (SenderCall κ)} :
    Silent h cs ↔ ((machine κ).run h cs).2 = [] := by
  induction cs generalizing h with
  | nil => exact iff_of_true trivial rfl
  | cons c cs ih =>
      rw [Silent, Machine.along_cons, Machine.run_cons, List.append_eq_nil_iff]
      refine and_congr ⟨fun hnot => (step_not_handsOver hnot).1, fun hout hover => ?_⟩ ih
      obtain ⟨packets, -, -, hpackets, -⟩ := step_handsOver hover
      rw [hpackets] at hout
      cases hout

theorem Silent.keepsNumbering {h : EfpSender κ} {cs : List (SenderCall κ)} (hs : Silent h cs) :
    KeepsNumbering h cs := by
  induction cs generalizing h with
  | nil => trivial
  | cons c cs ih => exact ⟨fun _ => hs.2, ih hs.2⟩

/-- Nothing has been handed over since the sender was constructed. -/
def EfpSender.Unused (h : EfpSender κ) : Prop :=
  h.mCallback = none ∨ h.mpSender.mSuperFrameNo = 0

/-- The next superframe that is handed over gets this number, if the callback
stays or the sender is recreated behind a null callback. -/
def EfpSender.Next (h : EfpSender κ) (aSuperFrameNo : UInt16) : Prop :=
  if h.mCallback = none then aSuperFrameNo = 0 else h.mpSender.mSuperFrameNo = aSuperFrameNo

/-- A sender that is not to start from 0 has gone wrong with its first
superframe. -/
theorem numberedFrom_run_of_unused {h : EfpSender κ} {n : UInt16} (hunused : h.Unused)
    (hn : n ≠ 0) (cs : List (SenderCall κ)) :
    NumberedFrom n ((machine κ).run h cs).2 ↔ Silent h cs := by
  induction cs generalizing h with
  | nil => exact iff_of_true (numberedFrom_nil n) trivial
  | cons c cs ih =>
      rw [Machine.run_cons, Silent, Machine.along_cons]
      by_cases hover : h.HandsOver c
      · obtain ⟨packets, hne, hnumber, hout, -⟩ := step_handsOver hover
        rw [hout, List.singleton_append, numberedFrom_cons]
        refine iff_of_false (fun hfrom => hn ?_) fun hsilent => hsilent.1 hover
        have hzero : h.mpSender.mSuperFrameNo = 0 := by
          refine hunused.resolve_left fun hnone => ?_
          cases c with
          | setCallback aCallback => exact hover
          | send clk apData args => exact hover.1 hnone
        rw [Numbered.unique hne hfrom.1 hnumber, hzero]
      · obtain ⟨hout, hstep⟩ := step_not_handsOver hover
        have hunused' : ((machine κ).step h c).1.Unused := by
          rcases hstep with ⟨-, -, hzero⟩ | ⟨hcallback, -, hsame⟩
          · exact .inr hzero
          · rw [EfpSender.Unused, hcallback]
            by_cases hnone : h.mCallback = none
            · exact .inl hnone
            · exact .inr ((hsame hnone).trans (hunused.resolve_left hnone))
        rw [hout, List.nil_append, ih hunused']
        exact (and_iff_right hover).symm

/-- The numbers go on just when nothing is handed over after a restart. -/
theorem numberedFrom_run_iff {h : EfpSender κ} {n : UInt16} (hnext : h.Next n)
    (cs : List (SenderCall κ)) :
    NumberedFrom n ((machine κ).run h cs).2 ↔ KeepsNumbering h cs := by
  induction cs generalizing h n with
  | nil => exact iff_of_true (numberedFrom_nil n) trivial
  | cons c cs ih =>
      rw [Machine.run_cons, KeepsNumbering]
      by_cases hover : h.HandsOver c
      · obtain ⟨packets, -, hnumber, hout, hcallback, hnumber'⟩ := step_handsOver hover
        have hsome : h.mCallback ≠ none ∧ ¬ h.Restarts c := by
          cases c with
          | setCallback aCallback => exact absurd hover id
          | send clk apData args => exact ⟨hover.1, id⟩
        rw [EfpSender.Next, if_neg hsome.1] at hnext
        have hnext' : ((machine κ).step h c).1.Next (n + 1) := by
          rw [EfpSender.Next, hcallback, if_neg hsome.1, hnumber', hnext]
        rw [hout, List.singleton_append, numberedFrom_cons, ih hnext',
          and_iff_right (hnext ▸ hnumber), and_iff_right fun hr => absurd hr hsome.2]
      · obtain ⟨hout, hstep⟩ := step_not_handsOver hover
        rw [hout, List.nil_append]
        rcases hstep with ⟨aCallback, rfl, hzero⟩ | ⟨hcallback, hnot, hsame⟩
        · have hunused' : ((machine κ).step h (.setCallback aCallback)).1.Unused := .inr hzero
          by_cases hn : n = 0
          · have hnot : ¬ h.Restarts (.setCallback aCallback) := by
              rintro ⟨hsome, hne⟩
              rw [EfpSender.Next, if_neg hsome] at hnext
              exact hne (hnext.trans hn)
            have hnext' : ((machine κ).step h (.setCallback aCallback)).1.Next n := by
              rw [EfpSender.Next]
              split_ifs
              · exact hn
              · exact hzero.trans hn.symm
            rw [ih hnext', and_iff_right fun hr => absurd hr hnot]
          · have hrestarts : h.Restarts (.setCallback aCallback) := by
              rw [EfpSender.Next] at hnext
              split_ifs at hnext with hnone
              · exact absurd hnext hn
              · exact ⟨hnone, hnext ▸ hn⟩
            rw [numberedFrom_run_of_unused hunused' hn]
            exact ⟨fun hs => ⟨fun _ => hs, hs.keepsNumbering⟩, fun hk => hk.1 hrestarts⟩
        · have hnext' : ((machine κ).step h c).1.Next n := by
            rw [EfpSender.Next, hcallback]
            rw [EfpSender.Next] at hnext
            split_ifs at hnext ⊢ with hnone
            · exact hnext
            · exact (hsame hnone).trans hnext
          rw [ih hnext', and_iff_right fun hr => absurd hr hnot]

theorem numberedFrom_zero {h : EfpSender κ} (hunused : h.Unused) {cs : List (SenderCall κ)} :
    (∃ aSuperFrameNo, NumberedFrom aSuperFrameNo ((machine κ).run h cs).2) ↔
      NumberedFrom 0 ((machine κ).run h cs).2 := by
  refine ⟨fun ⟨n, hn⟩ => ?_, fun hzero => ⟨0, hzero⟩⟩
  by_cases hne : n = 0
  · exact hne ▸ hn
  · have hsilent := (numberedFrom_run_of_unused hunused hne cs).mp hn
    rw [silent_iff.mp hsilent]
    exact numberedFrom_nil 0

/-! ### The receiver -/

theorem toNat_modEq_position (k : ℕ) :
    (((0 : UInt16) + UInt16.ofNat k).toNat : ℤ) ≡ k [ZMOD 2 ^ 16] := by
  rw [UInt16.zero_add, UInt16.toNat_ofNat', Int.natCast_mod]
  exact Int.mod_modEq _ _

/-- Sends that are numbered from 0 on are unwrapped to their positions or
what runs behind them. -/
theorem neverTooOld_of_numberedFrom {wire : List (List (κ × Packet))} (h : NumberedFrom 0 wire) :
    NeverTooOld wire := by
  intro k B cfg as hmax hseen packets hk p hp env src hold
  obtain ⟨f, hf, hnumber⟩ := h k packets hk p hp
  rw [Receiver.dispatch_of_ofPacket cfg _ env src hf] at hold
  have hlabels : ∀ l now memalign src f, (l, Act.handle now memalign src f) ∈ as →
      0 ≤ l ∧ l < k ∧ (f.superFrameNo.toNat : ℤ) ≡ l [ZMOD 2 ^ 16] := by
    intro l now memalign src f hmem
    obtain ⟨j, hjk, rfl, packets, hj, p, hp, hf⟩ := hseen.earlier l now memalign src f hmem
    obtain ⟨f', hf', hnumber'⟩ := h j packets hj p hp
    obtain rfl := Option.some.inj (hf.symm.trans hf')
    rw [hnumber']
    exact ⟨Int.natCast_nonneg j, Int.ofNat_lt.mpr hjk, toNat_modEq_position j⟩
  obtain ⟨c, hbelow⟩ := (Labelled.below_fresh (k : ℤ)).run Receiver.represented_fresh cfg hlabels
    hseen.near
  have hlabel : (f.superFrameNo.toNat : ℤ) ≡ k [ZMOD 2 ^ 16] := by
    rw [hnumber]
    exact toNat_modEq_position k
  exact hbelow.verdict_ne (Int.natCast_nonneg k) hmax src f hlabel hseen.last
    (Receiver.verdict_of_fragmentTooOld _ _ _ _ _ _ hold)

/-- The numbering goes on across every change of the callback just when no
superframe is handed over after a sender has been thrown away that has handed
superframes over and has not come round to 0. -/
theorem continues_run_iff (aMtu : UInt16) (aCallback : Option κ) (cs : List (SenderCall κ)) :
    Continues ((machine κ).run (EfpSender.createWithCallback aMtu aCallback) cs).2 ↔
      KeepsNumbering (EfpSender.createWithCallback aMtu aCallback) cs := by
  have hunused : (EfpSender.createWithCallback aMtu aCallback).Unused := .inr rfl
  have hnext : (EfpSender.createWithCallback aMtu aCallback).Next 0 := by
    rw [EfpSender.Next]
    split_ifs <;> rfl
  rw [Continues, numberedFrom_zero hunused, ← numberedFrom_run_iff hnext]
  exact and_iff_left_of_imp neverTooOld_of_numberedFrom

/-- The callback is set again between two superframes. -/
def replacedCallback : List (SenderCall Unit) :=
  [.send (Sample.clockAt 0) [7] Sample.sendArgs, .setCallback (some ()),
    .send (Sample.clockAt 0) [8] Sample.sendArgs]

def onePacket (payload : UInt8) : List UInt8 :=
  [2, 1, 0, 1, 0, 0, 0, 0, 0, 0, 0, 0, 0, 0, 0, 0, 0, 0, 0, 0, 0, 0, 0, 0, 0, 0, 0, payload]

theorem wire_replacedCallback :
    ((machine Unit).run (EfpSender.createWithCallback 256 (some ())) replacedCallback).2 =
      [[((), { data := onePacket 7, streamId := 1 })],
        [((), { data := onePacket 8, streamId := 1 })]] := by
  decide +kernel

/-- The first superframe arrives and is delivered. -/
def firstArrived : List (ℤ × Act) :=
  [(0, .handle 0 true 0 (.type2 (onePacket 7))), (0, .pass Sample.clk)]

/-- Both superframes have the number 0, and a receiver that has delivered the
first one refuses the second one. -/
theorem not_continues_replacedCallback :
    let wire := ((machine Unit).run (EfpSender.createWithCallback 256 (some ()))
      replacedCallback).2
    (¬ ∃ aSuperFrameNo, NumberedFrom aSuperFrameNo wire) ∧ ¬ NeverTooOld wire := by
  intro wire
  have hwire : wire = _ := wire_replacedCallback
  have hfirst : Fragment.ofPacket (onePacket 7) = some (.type2 (onePacket 7)) := by decide
  have hsecond : Fragment.ofPacket (onePacket 8) = some (.type2 (onePacket 8)) := by decide
  have hnumber : ∀ payload, (Fragment.type2 (onePacket payload)).superFrameNo = 0 := fun _ => rfl
  constructor
  · rintro ⟨n, hn⟩
    rw [hwire, numberedFrom_cons, numberedFrom_cons] at hn
    obtain ⟨f, hf, hf0⟩ := hn.1 _ List.mem_cons_self
    obtain ⟨g, hg, hg1⟩ := hn.2.1 _ List.mem_cons_self
    obtain rfl := Option.some.inj (hfirst.symm.trans hf)
    obtain rfl := Option.some.inj (hsecond.symm.trans hg)
    rw [hnumber] at hf0 hg1
    rw [← hf0] at hg1
    cases hg1
  · intro hnever
    refine hnever 1 .default {} firstArrived (by decide) ⟨?_, ?_, ?_⟩
      [((), { data := onePacket 8, streamId := 1 })] (by rw [hwire]; rfl) _ List.mem_cons_self
      Sample.env 0 ?_
    · intro l now memalign src f hmem
      simp only [firstArrived, List.mem_cons, Prod.mk.injEq, Act.handle.injEq, reduceCtorEq,
        and_false, List.not_mem_nil, or_false] at hmem
      obtain ⟨rfl, -, -, -, rfl⟩ := hmem
      exact ⟨0, by decide, rfl, _, by rw [hwire]; rfl, _, List.mem_cons_self, hfirst⟩
    · exact ⟨fun _ x hx => (by cases hx), fun h => absurd h id, trivial⟩
    · intro x hx
      have hlast : ((Labelled.machine .default {}).run (Labelled.fresh .default)
          firstArrived).1.last = some 0 := by
        decide +kernel
      obtain rfl := Option.some.inj (hlast.symm.trans hx)
      decide
    · decide +kernel

end CApi

end ElasticFrame
