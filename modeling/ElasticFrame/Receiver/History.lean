import ElasticFrame.Receiver.Representation

/-!
Runs one fragment at a time, and what an active bucket is made of.

A packet comes down to the fragments its handler handles: one for Type1,
Type2 and Type3, the members up to the first refused one for a bundle. On
this finer machine a history can be kept of the fragments each bucket has
accepted, and an active bucket is then exactly what opening it with the
first of them and filling in the others one after another gives. What is
proved of the contents of a frame is proved by induction on that history.
-/

namespace ElasticFrame

open Lib

inductive Act
  | handle (now : ℤ) (memalign : Bool) (aSourceId : UInt8) (f : Fragment)
  | bundle
  | pass (clk : PassClock)

namespace Receiver

variable {B : BufferSize}

/-- The receiver as a machine that handles one fragment at a time. -/
def fine (B : BufferSize) (cfg : ReceiverConfig) : Machine (Receiver B) Act (Output B) where
  step r
    | .handle now memalign src f => ((r.handle cfg now memalign src f).1, [])
    | .bundle => (r.countBundle, [])
    | .pass clk => r.processTimeouts cfg clk

@[simp] theorem fine_handle (cfg : ReceiverConfig) (r : Receiver B) (now : ℤ)
    (memalign : Bool) (src : UInt8) (f : Fragment) :
    (fine B cfg).step r (.handle now memalign src f) =
      ((r.handle cfg now memalign src f).1, []) := rfl

@[simp] theorem fine_bundle (cfg : ReceiverConfig) (r : Receiver B) :
    (fine B cfg).step r .bundle = (r.countBundle, []) := rfl

@[simp] theorem fine_pass (cfg : ReceiverConfig) (r : Receiver B) (clk : PassClock) :
    (fine B cfg).step r (.pass clk) = r.processTimeouts cfg clk := rfl

/-- The members a bundle has handled, up to the one that ends its loop. -/
def memberActs (cfg : ReceiverConfig) (env : Surroundings) (src : UInt8) (apData : List UInt8)
    (lFrameSize : ℕ) : (count lI lOffset : ℕ) → Receiver B → List Act
  | 0, _, _, _ => []
  | count + 1, lI, lOffset, r =>
      if getFrameType (byteAt apData lOffset) ≠ some .type1 then []
      else
        let member := (apData.drop lOffset).take lFrameSize
        let handled := r.handle cfg (env.nowUs lI) (env.memalign lI) src (.type1 member)
        .handle (env.nowUs lI) (env.memalign lI) src (.type1 member) ::
          if handled.2 ≠ .ok ∧ handled.2 ≠ .duplicateFragment then []
          else memberActs cfg env src apData lFrameSize count (lI + 1) (lOffset + lFrameSize)
            handled.1

def packetActs (cfg : ReceiverConfig) (r : Receiver B) (env : Surroundings)
    (aData : List UInt8) (src : UInt8) : List Act :=
  if aData = [] then []
  else
    match getFrameType (byteAt aData 0) with
    | none | some .type0 => []
    | some .type1 => [.handle (env.nowUs 0) (env.memalign 0) src (.type1 aData)]
    | some .type2 => [.handle (env.nowUs 0) (env.memalign 0) src (.type2 aData)]
    | some .type3 => [.handle (env.nowUs 0) (env.memalign 0) src (.type3 aData)]
    | some .type4 =>
        let count := (FrameType4.read aData).mFrameCount.toNat
        let lPayloadSize := aData.length - FrameType4.sizeof
        if aData.length < FrameType4.sizeof ∨ count = 0 then []
        else if lPayloadSize % count ≠ 0 ∨ lPayloadSize / count < FrameType1.sizeof then [.bundle]
        else .bundle ::
          memberActs cfg env src aData (lPayloadSize / count) count 0 FrameType4.sizeof
            r.countBundle

def acts (cfg : ReceiverConfig) (r : Receiver B) : Call → List Act
  | .packet env aData src => r.packetActs cfg env aData src
  | .pass clk => [.pass clk]

theorem run_memberActs (cfg : ReceiverConfig) (env : Surroundings) (src : UInt8)
    (apData : List UInt8) (lFrameSize count lI lOffset : ℕ) (r : Receiver B) :
    (fine B cfg).run r (memberActs cfg env src apData lFrameSize count lI lOffset r) =
      ((bundleLoop
        (fun r lI member => r.handle cfg (env.nowUs lI) (env.memalign lI) src (.type1 member))
        apData lFrameSize count lI lOffset r).1, []) := by
  induction count generalizing lI lOffset r with
  | zero => rfl
  | succ count ih =>
      rw [memberActs, bundleLoop]
      by_cases htype : getFrameType (byteAt apData lOffset) ≠ some .type1
      · rw [if_pos htype, if_pos htype]
        rfl
      · rw [if_neg htype, if_neg htype]
        simp only [Machine.run_cons, fine_handle, List.nil_append]
        split_ifs with hres
        · rfl
        · exact ih _ _ _

theorem run_packetActs (cfg : ReceiverConfig) (r : Receiver B) (env : Surroundings)
    (aData : List UInt8) (src : UInt8) :
    (fine B cfg).run r (r.packetActs cfg env aData src) = ((r.dispatch cfg env aData src).1, []) := by
  unfold packetActs dispatch
  split_ifs with hempty
  · rfl
  cases getFrameType (byteAt aData 0) with
  | none => rfl
  | some t =>
      cases t with
      | type0 => rfl
      | type1 => rfl
      | type2 => rfl
      | type3 => rfl
      | type4 =>
          simp only [handleType4]
          by_cases hlen : aData.length < FrameType4.sizeof
          · simp [hlen]
          by_cases hcount : (FrameType4.read aData).mFrameCount.toNat = 0
          · simp [hlen, hcount]
          by_cases hmod : (aData.length - FrameType4.sizeof) %
              (FrameType4.read aData).mFrameCount.toNat = 0
          · by_cases hsize : (aData.length - FrameType4.sizeof) /
                (FrameType4.read aData).mFrameCount.toNat < FrameType1.sizeof
            · simp [hlen, hcount, hmod, hsize, Machine.run_cons]
            · simp only [hlen, hcount, hmod, hsize, or_self, if_false, ne_eq,
                not_true_eq_false, Machine.run_cons, fine_bundle, run_memberActs]
              rfl
          · simp [hlen, hcount, hmod, Machine.run_cons]

theorem run_acts (cfg : ReceiverConfig) (r : Receiver B) (cs : List Call) :
    (machine B cfg).run r cs =
      (fine B cfg).run r ((machine B cfg).flatten (acts cfg) r cs) := by
  refine Machine.run_flatten _ _ _ (fun r c => ?_) r cs
  cases c with
  | packet env aData src => exact (run_packetActs cfg r env aData src).symm
  | pass clk => simp [acts, Machine.run_cons, machine]

def actsOf (B : BufferSize) (cfg : ReceiverConfig) (es : List Event) : List Act :=
  (machine B cfg).flatten (acts cfg) (Receiver.fresh B) (es.flatMap fun e => e.calls cfg)

theorem run_actsOf (B : BufferSize) (cfg : ReceiverConfig) (es : List Event) :
    (system B cfg).run (Receiver.fresh B) es =
      (fine B cfg).run (Receiver.fresh B) (actsOf B cfg es) := by
  rw [system_run, run_acts]
  rfl

theorem represented_fine_step {r : Receiver B} (h : r.Represented) (cfg : ReceiverConfig)
    (a : Act) : ((fine B cfg).step r a).1.Represented := by
  cases a with
  | handle now memalign src f => exact represented_handle h cfg now memalign src f
  | bundle => exact h.has h.congruent ⟨rfl, rfl, rfl, rfl⟩
  | pass clk => exact h.passed_represented (h.passed cfg clk).1

end Receiver

/-! ### What an active bucket is made of -/

/-- The bucket made by a list of accepted fragments, oldest first. -/
inductive Bucket.Built : List Fragment → Bucket → Prop
  | opened {b : Bucket} {cfg : ReceiverConfig} {now lOrder : ℤ} {src : UInt8} {s : Stream}
      {f : Fragment} (admissible : f.Admissible) (check : f.check = none)
      (alloc : 0 < f.totalSize) :
      Built [f] (b.openedWith cfg now lOrder (f.opening src s) f.packet)
  | filled {h : List Fragment} {b : Bucket} {src : UInt8} {f : Fragment} (built : Built h b)
      (admissible : f.Admissible) (check : f.check = none) (fits : f.Fits src b) :
      Built (h ++ [f]) (b.fill f)

theorem Bucket.Built.ne_nil {h : List Fragment} {b : Bucket} (hb : b.Built h) : h ≠ [] := by
  cases hb with
  | opened => simp
  | filled => simp

/-- A receiver, and for each bucket the fragments accepted since it was
opened last. -/
structure Traced (B : BufferSize) where
  receiver : Receiver B
  accepted : B.Index → List Fragment

namespace Traced

variable {B : BufferSize}

def fresh (B : BufferSize) : Traced B := { receiver := Receiver.fresh B, accepted := fun _ => [] }

/-- A fragment is accepted when its handler returns `ok`. The first one of an
active bucket starts its history anew. -/
def handle (cfg : ReceiverConfig) (t : Traced B) (now : ℤ) (memalign : Bool) (src : UInt8)
    (f : Fragment) : Traced B :=
  let i := B.index f.superFrameNo
  let handled := t.receiver.handle cfg now memalign src f
  { receiver := handled.1
    accepted :=
      if handled.2 = .ok then
        Function.update t.accepted i
          (if (t.receiver.mpBuckets i).mActive then t.accepted i ++ [f] else [f])
      else t.accepted }

/-- The machine of single steps that puts out each frame with the fragments
it was made of. -/
def machine (B : BufferSize) (cfg : ReceiverConfig) :
    Machine (Traced B) Act (Delivery B × List Fragment) where
  step t
    | .handle now memalign src f => (t.handle cfg now memalign src f, [])
    | .bundle => ({ t with receiver := t.receiver.countBundle }, [])
    | .pass clk =>
        ({ t with receiver := (t.receiver.processTimeouts cfg clk).1 },
          (Receiver.deliveries (t.receiver.processTimeouts cfg clk).2).map
            fun d => (d, t.accepted d.bucket))

/-- Keeping the history changes neither the receiver nor its deliveries. -/
theorem run_receiver (cfg : ReceiverConfig) (t : Traced B) (as : List Act) :
    ((machine B cfg).run t as).1.receiver = ((Receiver.fine B cfg).run t.receiver as).1 ∧
      ((machine B cfg).run t as).2.map Prod.fst =
        Receiver.deliveries ((Receiver.fine B cfg).run t.receiver as).2 := by
  have hsim := (machine B cfg).run_simulation (Receiver.fine B cfg)
    (R := fun t r => t.receiver = r) (C := fun _ _ => True)
    (p := fun o => some o.1) (q := Receiver.Output.delivery?)
    (fun t r a hr _ => ?_) (rfl : t.receiver = t.receiver)
    (Machine.along_of_forall (machine B cfg) (fun _ _ _ => trivial) t : Machine.Along _ _ _ as)
  · rw [List.filterMap_eq_map'] at hsim
    exact hsim
  · subst hr
    cases a with
    | handle now memalign src f => exact ⟨rfl, rfl⟩
    | bundle => exact ⟨rfl, rfl⟩
    | pass clk =>
        refine ⟨rfl, ?_⟩
        simp only [machine, List.filterMap_map]
        exact List.filterMap_some

/-- The history of every active bucket is what the bucket is made of. -/
structure Faithful (t : Traced B) : Prop where
  represented : t.receiver.Represented
  built : ∀ i, (t.receiver.mpBuckets i).mActive = true →
    (t.receiver.mpBuckets i).core.Built (t.accepted i)

theorem faithful_fresh : (Traced.fresh B).Faithful where
  represented := Receiver.represented_fresh
  built i hact := by simp [fresh, Receiver.fresh] at hact

theorem Faithful.handle {t : Traced B} (h : t.Faithful) (cfg : ReceiverConfig) (now : ℤ)
    (memalign : Bool) (src : UInt8) (f : Fragment) :
    (t.handle cfg now memalign src f).Faithful := by
  refine ⟨Receiver.represented_handle h.represented cfg now memalign src f, fun i => ?_⟩
  rcases hr : t.receiver.handle cfg now memalign src f with ⟨r', res⟩
  have hstep := t.receiver.handled cfg now memalign src f
  simp only [hr] at hstep
  simp only [Traced.handle, hr]
  cases hstep with
  | refused has hcode =>
      have hne : res ≠ .ok := by
        rcases hcode with ⟨rfl, -⟩ | hcode
        · simp
        · rintro rfl
          exact absurd hcode (by decide)
      rw [if_neg hne, has.mpBuckets]
      exact h.built i
  | stale has _ _ why =>
      have hne : res ≠ .ok := by
        rcases why with ⟨-, rfl⟩ | ⟨-, -, rfl⟩ <;> simp
      rw [if_neg hne, has.mpBuckets]
      exact h.built i
  | failed opens null has =>
      rw [if_neg (by simp), has.mpBuckets]
      by_cases hi : i = B.index f.superFrameNo
      · subst hi
        rw [Function.update_self]
        exact fun hact => absurd hact (by simp [Bucket.openFailed])
      · rw [Function.update_of_ne hi]
        exact h.built i
  | opened opens alloc has =>
      have hinactive : (t.receiver.mpBuckets (B.index f.superFrameNo)).mActive = false :=
        opens.inactive
      rw [if_pos rfl, has.mpBuckets, hinactive]
      by_cases hi : i = B.index f.superFrameNo
      · subst hi
        rw [Function.update_self, Function.update_self, Bucket.core_openedWith]
        exact fun _ => .opened opens.admissible opens.check alloc.1
      · rw [Function.update_of_ne hi, Function.update_of_ne hi]
        exact h.built i
  | filled fills has =>
      have hactive : (t.receiver.mpBuckets (B.index f.superFrameNo)).mActive = true :=
        fills.active
      rw [if_pos rfl, has.mpBuckets, hactive]
      by_cases hi : i = B.index f.superFrameNo
      · subst hi
        rw [Function.update_self, Function.update_self, Bucket.core_fill]
        exact fun _ => .filled (h.built _ hactive) fills.admissible fills.check
          (Bucket.fits_core fills.fits)
      · rw [Function.update_of_ne hi, Function.update_of_ne hi]
        exact h.built i

theorem Faithful.step {t : Traced B} (h : t.Faithful) (cfg : ReceiverConfig) (a : Act) :
    ((machine B cfg).step t a).1.Faithful := by
  cases a with
  | handle now memalign src f => exact h.handle cfg now memalign src f
  | bundle => exact ⟨Receiver.represented_fine_step h.represented cfg .bundle, h.built⟩
  | pass clk =>
      have hpass := (h.represented.passed cfg clk).1
      refine ⟨h.represented.passed_represented hpass, fun i hact => ?_⟩
      have hcore := hpass.buckets i
      simp only [machine] at hact hcore ⊢
      by_cases hdue : (t.receiver.mpBuckets i).mActive = true ∧
          (t.receiver.mpBuckets i).due cfg clk.timeouts = true
      · rw [if_pos hdue] at hcore
        rw [← Bucket.core_mActive, hcore] at hact
        exact absurd hact (by simp [Bucket.closed])
      · rw [if_neg hdue] at hcore
        rw [← Bucket.core_mActive, hcore, Bucket.core_mActive] at hact
        rw [hcore]
        exact h.built i hact

/-- A delivered frame is that of a well-formed bucket made of the fragments
put out with it. -/
def Delivered (o : Delivery B × List Fragment) : Prop :=
  ∃ b : Bucket, b.Built o.2 ∧ b.WellFormed o.1.bucket ∧ o.1.frame = b.delivered

theorem Faithful.delivered {t : Traced B} (h : t.Faithful) (cfg : ReceiverConfig) (a : Act) :
    ∀ o ∈ ((machine B cfg).step t a).2, Delivered o := by
  cases a with
  | handle now memalign src f => intro o ho; simp [machine] at ho
  | bundle => intro o ho; simp [machine] at ho
  | pass clk =>
      intro o ho
      simp only [machine, (h.represented.passed cfg clk).2, List.map_map, List.mem_map] at ho
      obtain ⟨i, hi, rfl⟩ := ho
      have hact := (h.represented.mem_dueList.mp hi).1
      exact ⟨(t.receiver.mpBuckets i).core, h.built i hact,
        Bucket.wellFormed_core.mpr (h.represented.wellFormed i hact), rfl⟩

theorem faithful_run {t : Traced B} (h : t.Faithful) (cfg : ReceiverConfig) (as : List Act) :
    ((machine B cfg).run t as).1.Faithful :=
  Machine.run_invariant _ (I := Faithful) (C := fun _ _ => True)
    (fun _ a ht _ => ht.step cfg a) h (Machine.along_of_forall _ (fun _ _ _ => trivial) t)

theorem delivered_run {t : Traced B} (h : t.Faithful) (cfg : ReceiverConfig) (as : List Act) :
    ∀ o ∈ ((machine B cfg).run t as).2, Delivered o :=
  Machine.run_output _ (I := Faithful) (C := fun _ _ => True) (P := Delivered)
    (fun _ a ht _ => ht.step cfg a) (fun _ a ht _ => ht.delivered cfg a) h
    (Machine.along_of_forall _ (fun _ _ _ => trivial) t)

/-- The run of the machine with histories that belongs to a run through the
public interface. -/
def ofEvents (B : BufferSize) (cfg : ReceiverConfig) (es : List Event) :
    Traced B × List (Delivery B × List Fragment) :=
  (machine B cfg).run (fresh B) (Receiver.actsOf B cfg es)

theorem ofEvents_receiver (B : BufferSize) (cfg : ReceiverConfig) (es : List Event) :
    (ofEvents B cfg es).1.receiver =
        ((Receiver.system B cfg).run (Receiver.fresh B) es).1 ∧
      (ofEvents B cfg es).2.map Prod.fst =
        Receiver.deliveries ((Receiver.system B cfg).run (Receiver.fresh B) es).2 := by
  rw [Receiver.run_actsOf]
  exact run_receiver cfg (fresh B) _

end Traced

end ElasticFrame
