import ElasticFrame.Bandwidth.Streams
import ElasticFrame.Lib.Lists

/-!
What the callbacks tell. An application that follows the two callbacks knows
the multiplier of every stream and whether it is paused: every assignment is
reported, and nothing is reported that was known already.
-/

namespace ElasticFrame

open Lib

variable {F : Type*}

/-- What a listener to the callbacks takes the streams to be. -/
@[ext]
structure Listener (F : Type*) where
  multipliers : UInt8 → F
  dropped : UInt8 → Bool

def Listener.note (l : Listener F) : BandwidthEvent F → Listener F
  | .packet _ => l
  | .mBandwidthCallback aStreamId newMultiplier =>
      { l with multipliers := Function.update l.multipliers aStreamId newMultiplier }
  | .mDropCallback aStreamId dropped =>
      { l with dropped := Function.update l.dropped aStreamId dropped }

/-- Before the first callback. -/
def Listener.initial [One F] : Listener F where
  multipliers _ := 1
  dropped _ := false

/-- After the callbacks among the events. -/
def replay [One F] (os : List (BandwidthEvent F)) : Listener F :=
  os.foldl Listener.note Listener.initial

namespace BandwidthEvent

def multiplier? (lI : UInt8) : BandwidthEvent F → Option F
  | mBandwidthCallback aStreamId newMultiplier =>
      if aStreamId = lI then some newMultiplier else none
  | _ => none

def dropped? (lI : UInt8) : BandwidthEvent F → Option Bool
  | mDropCallback aStreamId dropped => if aStreamId = lI then some dropped else none
  | _ => none

def drops : BandwidthEvent F → Bool
  | mDropCallback _ dropped => dropped
  | _ => false

end BandwidthEvent

open BandwidthEvent

theorem replay_getLast [One F] (os : List (BandwidthEvent F)) (lI : UInt8) :
    (1 :: os.filterMap (multiplier? lI)).getLast? = some ((replay os).multipliers lI) ∧
      (false :: os.filterMap (dropped? lI)).getLast? = some ((replay os).dropped lI) := by
  induction os using List.reverseRecOn with
  | nil => exact ⟨rfl, rfl⟩
  | append_singleton os o ih =>
      have hreplay : replay (os ++ [o]) = (replay os).note o := List.foldl_concat ..
      rw [hreplay, filterMap_concat, filterMap_concat, ← List.cons_append, ← List.cons_append]
      cases o with
      | packet p =>
          show (_ ++ []).getLast? = _ ∧ (_ ++ []).getLast? = _
          rw [List.append_nil, List.append_nil]
          exact ih
      | mBandwidthCallback aStreamId newMultiplier =>
          by_cases h : aStreamId = lI
          · subst h
            refine ⟨?_, ?_⟩
            · rw [show multiplier? aStreamId (mBandwidthCallback aStreamId newMultiplier) =
                some newMultiplier from if_pos rfl]
              simp only [Option.toList_some, List.getLast?_concat, Listener.note,
                Function.update_self]
            · show (_ ++ []).getLast? = _
              rw [List.append_nil]
              exact ih.2
          · simpa [multiplier?, dropped?, Listener.note, h, Ne.symm h] using ih
      | mDropCallback aStreamId dropped =>
          by_cases h : aStreamId = lI
          · subst h
            refine ⟨?_, ?_⟩
            · show (_ ++ []).getLast? = _
              rw [List.append_nil]
              exact ih.1
            · rw [show dropped? (F := F) aStreamId (mDropCallback aStreamId dropped) =
                some dropped from if_pos rfl]
              simp only [Option.toList_some, List.getLast?_concat, Listener.note,
                Function.update_self]
          · simpa [multiplier?, dropped?, Listener.note, h, Ne.symm h] using ih

namespace BandwidthManager

/-- The events so far tell what the manager's streams are, report no
multiplier twice in a row and pause and resume by turns. -/
structure Truthful [One F] (s : BandwidthManager F) (os : List (BandwidthEvent F)) : Prop where
  replayed : replay os = { multipliers := s.mCurrentMultipliers, dropped := s.mStreamDropped }
  changes : ∀ lI, (1 :: os.filterMap (multiplier? lI)).IsChain (· ≠ ·)
  alternates : ∀ lI, (false :: os.filterMap (dropped? lI)).IsChain (· ≠ ·)
  counted : s.mStreamsDropped = os.countP drops

/-- What a step puts out keeps the listener up to date. -/
def Tells [One F] (s : BandwidthManager F)
    (r : BandwidthManager F × List (BandwidthEvent F)) : Prop :=
  ∀ os, s.Truthful os → r.1.Truthful (os ++ r.2)

theorem tells_of_eq [One F] {s t : BandwidthManager F}
    (hmultipliers : t.mCurrentMultipliers = s.mCurrentMultipliers)
    (hdropped : t.mStreamDropped = s.mStreamDropped)
    (hcount : t.mStreamsDropped = s.mStreamsDropped) : s.Tells (t, []) := by
  intro os h
  rw [List.append_nil]
  refine ⟨?_, h.changes, h.alternates, ?_⟩
  · rw [hmultipliers, hdropped]
    exact h.replayed
  · rw [hcount]
    exact h.counted

theorem Tells.append [One F] {s : BandwidthManager F}
    {r r' : BandwidthManager F × List (BandwidthEvent F)} (h : s.Tells r) (h' : r.1.Tells r') :
    s.Tells (r'.1, r.2 ++ r'.2) := by
  intro os hs
  rw [← List.append_assoc]
  exact h' _ (h os hs)

/-- The manager is changed before or after, in what a listener does not
see. -/
theorem Tells.congr [One F] {s t : BandwidthManager F}
    {r : BandwidthManager F × List (BandwidthEvent F)} (h : t.Tells r)
    (hmultipliers : t.mCurrentMultipliers = s.mCurrentMultipliers)
    (hdropped : t.mStreamDropped = s.mStreamDropped)
    (hcount : t.mStreamsDropped = s.mStreamsDropped) : s.Tells r :=
  (tells_of_eq hmultipliers hdropped hcount).append h

theorem tells_run [One F] {ε : Type*} (M : Machine (BandwidthManager F) ε (BandwidthEvent F))
    (hstep : ∀ (s : BandwidthManager F) (e : ε), s.Tells (M.step s e)) (s : BandwidthManager F)
    (es : List ε) : s.Tells (M.run s es) := by
  induction es generalizing s with
  | nil => exact tells_of_eq rfl rfl rfl
  | cons e es ih => exact (hstep s e).append (ih _)

theorem tells_packets [One F] {s t : BandwidthManager F}
    (hmultipliers : t.mCurrentMultipliers = s.mCurrentMultipliers)
    (hdropped : t.mStreamDropped = s.mStreamDropped)
    (hcount : t.mStreamsDropped = s.mStreamsDropped) (ps : List Packet) :
    s.Tells (t, ps.map .packet) := by
  intro os h
  have hnote : ∀ l : Listener F, (ps.map BandwidthEvent.packet).foldl Listener.note l = l := by
    induction ps with
    | nil => exact fun _ => rfl
    | cons p ps ih => exact ih
  have hmultiplier : ∀ lI, (ps.map BandwidthEvent.packet).filterMap
      (multiplier? (F := F) lI) = [] := by
    intro lI
    rw [List.filterMap_map]
    exact List.filterMap_eq_nil_iff.mpr fun _ _ => rfl
  have hdrop : ∀ lI, (ps.map BandwidthEvent.packet).filterMap (dropped? (F := F) lI) = [] := by
    intro lI
    rw [List.filterMap_map]
    exact List.filterMap_eq_nil_iff.mpr fun _ _ => rfl
  refine ⟨?_, fun lI => ?_, fun lI => ?_, ?_⟩
  · rw [replay, List.foldl_append, hnote, hmultipliers, hdropped]
    exact h.replayed
  · rw [List.filterMap_append, hmultiplier, List.append_nil]
    exact h.changes lI
  · rw [List.filterMap_append, hdrop, List.append_nil]
    exact h.alternates lI
  · have hnone : (ps.map BandwidthEvent.packet).countP (drops (F := F)) = 0 := by
      rw [List.countP_eq_zero]
      intro o ho
      obtain ⟨p, -, rfl⟩ := List.mem_map.mp ho
      exact Bool.false_ne_true
    rw [List.countP_append, hnone, Nat.add_zero, hcount]
    exact h.counted

theorem tells_setMultiplier [One F] [LinearOrder F] (s : BandwidthManager F) (lI : UInt8)
    (lNewMult : F) : s.Tells (s.setMultiplier lI lNewMult) := by
  rw [setMultiplier]
  split_ifs with hne
  · intro os h
    have hlast := replay_getLast os
    refine ⟨?_, fun lJ => ?_, fun lJ => ?_, ?_⟩
    · rw [replay, List.foldl_concat, show os.foldl _ _ = _ from h.replayed]
      rfl
    · rw [List.filterMap_append]
      by_cases hJ : lI = lJ
      · subst hJ
        have hreport :
            [mBandwidthCallback lI lNewMult].filterMap (multiplier? lI) = [lNewMult] := by
          simp [multiplier?]
        rw [hreport]
        refine isChain_concat (h.changes lI) fun x hx => ?_
        rw [(hlast lI).1, h.replayed] at hx
        cases hx
        exact Ne.symm hne
      · have hreport : [mBandwidthCallback lI lNewMult].filterMap (multiplier? lJ) = [] := by
          simp [multiplier?, hJ]
        rw [hreport, List.append_nil]
        exact h.changes lJ
    · rw [List.filterMap_append, show [mBandwidthCallback lI lNewMult].filterMap (dropped? lJ) = []
        from rfl, List.append_nil]
      exact h.alternates lJ
    · rw [List.countP_append]
      exact h.counted
  · exact tells_of_eq rfl rfl rfl

theorem tells_setDropped [One F] {s : BandwidthManager F} {lI : UInt8} {dropped : Bool}
    (hne : s.mStreamDropped lI ≠ dropped) : s.Tells (s.setDropped lI dropped) := by
  intro os h
  have hlast := replay_getLast os
  refine ⟨?_, fun lJ => ?_, fun lJ => ?_, ?_⟩
  · rw [replay, setDropped, List.foldl_concat, show os.foldl _ _ = _ from h.replayed]
    rfl
  · rw [setDropped, List.filterMap_append,
      show [mDropCallback lI dropped].filterMap (multiplier? (F := F) lJ) = [] from rfl,
      List.append_nil]
    exact h.changes lJ
  · rw [setDropped, List.filterMap_append]
    by_cases hJ : lI = lJ
    · subst hJ
      have hreport : [mDropCallback lI dropped].filterMap (dropped? (F := F) lI) = [dropped] := by
        simp [dropped?]
      rw [hreport]
      refine isChain_concat (h.alternates lI) fun x hx => ?_
      rw [(hlast lI).2, h.replayed] at hx
      cases hx
      exact hne
    · have hreport : [mDropCallback lI dropped].filterMap (dropped? (F := F) lJ) = [] := by
        simp [dropped?, hJ]
      rw [hreport, List.append_nil]
      exact h.alternates lJ
  · rw [setDropped, List.countP_append, List.countP_singleton, ← h.counted]
    cases dropped <;> rfl

variable [Field F]

/-- The loop over the streams, between changes that a listener does not
see. -/
theorem tells_loop {M : Machine (BandwidthManager F) UInt8 (BandwidthEvent F)}
    (hstep : ∀ (s : BandwidthManager F) (lI : UInt8), s.Tells (M.step s lI))
    {s t : BandwidthManager F}
    (hmultipliers : t.mCurrentMultipliers = s.mCurrentMultipliers)
    (hdropped : t.mStreamDropped = s.mStreamDropped)
    (hcount : t.mStreamsDropped = s.mStreamsDropped) (lNow : ℤ) :
    s.Tells ((M.run t streams).1.resetRecovery lNow, (M.run t streams).2) := by
  have hloop := ((tells_run M hstep t streams).congr hmultipliers hdropped hcount).append
    (tells_of_eq (t := (M.run t streams).1.resetRecovery lNow) rfl rfl rfl)
  rwa [List.append_nil] at hloop

variable [LinearOrder F]

theorem tells_updateStreamMultiplier (s : BandwidthManager F) (aStreamId : UInt8) :
    s.Tells (s.updateStreamMultiplier aStreamId) := by
  rw [updateStreamMultiplier_eq]
  exact tells_setMultiplier s aStreamId _

theorem tells_decreaseStream (aNewHealth : NetworkHealth) (s : BandwidthManager F) (lI : UInt8) :
    s.Tells (decreaseStream aNewHealth s lI) := by
  rw [decreaseStream]
  by_cases hmanual : s.mManualMultiplier lI < 0
  · have hlowered : s.Tells (if s.getTargetMultiplier lI aNewHealth < s.mCurrentMultipliers lI
          then s.setMultiplier lI (s.getTargetMultiplier lI aNewHealth) else (s, [])) ∧
        (if s.getTargetMultiplier lI aNewHealth < s.mCurrentMultipliers lI
          then s.setMultiplier lI (s.getTargetMultiplier lI aNewHealth)
          else (s, [])).1.mStreamDropped = s.mStreamDropped := by
      split_ifs
      · exact ⟨tells_setMultiplier s lI _, (setMultiplier_spec s s lI _).2.1⟩
      · exact ⟨tells_of_eq rfl rfl rfl, rfl⟩
    rw [if_pos hmanual]
    dsimp only
    generalize (if s.getTargetMultiplier lI aNewHealth < s.mCurrentMultipliers lI
      then s.setMultiplier lI (s.getTargetMultiplier lI aNewHealth) else (s, [])) = lowered
        at hlowered ⊢
    obtain ⟨htells, hsame⟩ := hlowered
    refine htells.append ?_
    split_ifs with hdrop
    · apply tells_setDropped
      rw [hsame]
      exact hdrop.2.2
    · exact tells_of_eq rfl rfl rfl
  · rw [if_neg hmanual]
    exact tells_of_eq rfl rfl rfl

theorem tells_increaseStream (cfg : BandwidthManagerConfig F) (aNewHealth : NetworkHealth)
    (s : BandwidthManager F) (lI : UInt8) : s.Tells (increaseStream cfg aNewHealth s lI) := by
  simp only [increaseStream]
  split_ifs with hmanual hresume
  · refine (tells_setMultiplier s lI _).append (tells_setDropped ?_)
    rw [(setMultiplier_spec s s lI _).2.1, hresume.1]
    exact Bool.true_eq_false_eq_False
  · exact (tells_setMultiplier s lI _).append (tells_of_eq rfl rfl rfl)
  · exact tells_of_eq rfl rfl rfl

theorem tells_handleHealthChange (cfg : BandwidthManagerConfig F) (s : BandwidthManager F)
    (aNewHealth : NetworkHealth) (lNow : ℤ) :
    s.Tells (s.handleHealthChange cfg aNewHealth lNow) := by
  rw [handleHealthChange]
  dsimp only
  split_ifs
  · exact tells_loop (M := decreaseMachine aNewHealth) (tells_decreaseStream aNewHealth) (s := s)
      (t := { s with
        mCurrentHealth := aNewHealth, mBandwidthReductions := s.mBandwidthReductions + 1 })
      rfl rfl rfl lNow
  · exact tells_loop (M := increaseMachine cfg aNewHealth)
      (tells_increaseStream cfg aNewHealth) (s := s)
      (t := { s with
        mCurrentHealth := aNewHealth, mBandwidthIncreases := s.mBandwidthIncreases + 1 })
      rfl rfl rfl lNow
  · exact tells_of_eq rfl rfl rfl

theorem tells_tryBandwidthIncrease (cfg : BandwidthManagerConfig F) (s : BandwidthManager F)
    (lNow : ℤ) : s.Tells (s.tryBandwidthIncrease cfg lNow) := by
  rw [tryBandwidthIncrease]
  cases improved s.mCurrentHealth with
  | none => exact tells_of_eq rfl rfl rfl
  | some mCurrentHealth =>
      exact tells_loop (M := increaseMachine cfg mCurrentHealth)
        (tells_increaseStream cfg mCurrentHealth) (s := s)
        (t := { s with mCurrentHealth, mBandwidthIncreases := s.mBandwidthIncreases + 1 })
        rfl rfl rfl lNow

variable [FloatOps F]

theorem tells_update (cfg : BandwidthManagerConfig F) (s : BandwidthManager F)
    (clk : UpdateClock) : s.Tells (s.update cfg clk) := by
  have hevaluated : s.Tells ((s.measured clk.lNow).evaluated cfg clk.changed) := by
    refine Tells.congr (t := s.measured clk.lNow) ?_ rfl rfl rfl
    rw [evaluated]
    split_ifs
    · exact tells_handleHealthChange cfg _ _ _
    · exact tells_of_eq rfl rfl rfl
  have hprobed : ∀ t : BandwidthManager F, t.Tells
      (if t.mCurrentHealth ≠ .healthy then t.processProbing cfg clk.lNow clk.improved
        else (t, [])) := by
    intro t
    split_ifs
    · rw [processProbing]
      split_ifs
      · exact tells_tryBandwidthIncrease cfg t clk.improved
      · exact tells_of_eq rfl rfl rfl
    · exact tells_of_eq rfl rfl rfl
  rw [update]
  split_ifs
  · exact hevaluated.append (hprobed _)
  · exact tells_of_eq rfl rfl rfl

theorem tells_step (senderCfg : SenderConfig) (cfg : BandwidthManagerConfig F)
    (s : BandwidthManager F) (c : BandwidthCall F) :
    s.Tells ((machine senderCfg cfg).step s c) := by
  cases c with
  | setStreamConfig aStreamId aConfig =>
      exact (tells_updateStreamMultiplier _ aStreamId).congr rfl rfl rfl
  | setManualMultiplier aStreamId aMultiplier =>
      exact (tells_updateStreamMultiplier _ aStreamId).congr rfl rfl rfl
  | clearManualMultiplier aStreamId =>
      exact (tells_updateStreamMultiplier _ aStreamId).congr rfl rfl rfl
  | send clk aData args =>
      have hsend : ∀ t : BandwidthManager F × List Packet,
          t = (s.send senderCfg clk aData args).1 →
          t.1.mCurrentMultipliers = s.mCurrentMultipliers ∧
            t.1.mStreamDropped = s.mStreamDropped ∧
            t.1.mStreamsDropped = s.mStreamsDropped := by
        rintro t rfl
        rw [send]
        split_ifs <;> exact ⟨rfl, rfl, rfl⟩
      obtain ⟨hmultipliers, hdropped, hcount⟩ := hsend _ rfl
      exact tells_packets hmultipliers hdropped hcount _
  | receiveNack aData =>
      simp only [machine, receiveNack]
      split_ifs <;> exact tells_of_eq rfl rfl rfl
  | processRetransmits aMaxCount =>
      exact tells_packets (F := F) (s := s)
        (t := { s with mSender := (s.mSender.processRetransmits aMaxCount).1 }) rfl rfl rfl _
  | updateJitter aJitterUs => exact tells_of_eq rfl rfl rfl
  | updateRtt aRttUs =>
      simp only [machine, updateRtt]
      split_ifs <;> exact tells_of_eq rfl rfl rfl
  | update clk => exact tells_update cfg s clk

/-- The callbacks of a run tell what the streams are at its end. -/
theorem truthful_of_run (senderCfg : SenderConfig) (cfg : BandwidthManagerConfig F)
    (cs : List (BandwidthCall F)) :
    let run := (machine senderCfg cfg).run (new senderCfg) cs
    replay run.2 =
        { multipliers := run.1.mCurrentMultipliers, dropped := run.1.mStreamDropped } ∧
      (∀ lI, (1 :: run.2.filterMap (multiplier? lI)).IsChain (· ≠ ·)) ∧
      (∀ lI, (false :: run.2.filterMap (dropped? lI)).IsChain (· ≠ ·)) ∧
      run.1.mStreamsDropped = run.2.countP drops := by
  intro run
  have hnew : (new senderCfg : BandwidthManager F).Truthful [] :=
    ⟨rfl, fun _ => List.isChain_singleton _, fun _ => List.isChain_singleton _, rfl⟩
  have h := tells_run (machine senderCfg cfg) (tells_step senderCfg cfg) (new senderCfg) cs [] hnew
  exact ⟨h.replayed, h.changes, h.alternates, h.counted⟩

end BandwidthManager

end ElasticFrame
