import Concord.Clock

/-!
# What a correction does

A correction of the clock is refused, is only reported, fails, or is done (`Clock.Correction`). The
main statement is `apply_correction`, that there are no other ways. Each of them says what becomes
of the clock, of the world's own clock and of the events: at most one attempt to set the clock is
made, and none if the correction is refused or the clock is never touched.
-/

namespace Concord.Clock

/-- The clock after a correction by an offset. -/
def corrected (c : Clock) (offset : Binary64) (leap : Int) : Clock :=
  { c with pendingLeap := leap, lastOffset := some offset, corrections := c.corrections + 1 }

/-- Setting the leap indicator touches nothing else but the journal. -/
theorem setLeap_frame (c : Clock) (leap : Int) (w : World) :
    ∃ records, c.setLeap leap w = ({ c with pendingLeap := leap }, { w with records }) := by
  unfold setLeap
  split
  · rename_i h
    exact ⟨w.records, by rw [h]⟩
  · dsimp only
    split
    · exact ⟨_, rfl⟩
    · split
      · exact ⟨_, rfl⟩
      · exact ⟨w.records, rfl⟩

/-- The attempt to set the clock is made, and only the system can keep it from being set. -/
theorem step_end (offset : Binary64) (w : World) :
    (∃ fault, w.clockFault = some fault ∧ step offset w =
        (some (.clockWrite offset fault.message), w.record (.setTime (w.now.add offset)))) ∨
      (w.clockFault = none ∧ ∃ records, step offset w =
        (none, { w.record (.setTime (w.now.add offset)) with
          now := w.now.add offset, records })) := by
  simp only [step]
  split <;> rename_i hfault
  · exact .inl ⟨_, hfault, rfl⟩
  · exact .inr ⟨hfault, _, rfl⟩

/-- The ways in which a correction ends: the failure, the clock and the world that it leaves. -/
inductive Correction (c : Clock) (offset : Binary64) (leap : Int) (force : Bool) (w : World) :
    Option Failure × Clock × World → Prop where
  /-- The correction is refused, and nothing is touched. -/
  | refused {reason : String} : c.refusal? offset leap force = some reason →
      Correction c offset leap force w (some (.clockWrite offset reason), c, w)
  /-- The clock is never touched, and the correction counts as done. -/
  | reported {w' : World} : c.refusal? offset leap force = none → c.dryRun = true →
      w'.now = w.now → w'.events = w.events →
      Correction c offset leap force w (none, c.corrected offset leap, w')
  /-- The system does not let the clock be set. -/
  | failed {fault : ClockFault} {w' : World} : c.refusal? offset leap force = none →
      c.dryRun = false → w.clockFault = some fault →
      w'.events = w.events ++ [.setTime (w.now.add offset)] →
      Correction c offset leap force w
        (some (.clockWrite offset fault.message), { c with pendingLeap := leap }, w')
  /-- The clock is set forward by the offset. -/
  | done {w' : World} : c.refusal? offset leap force = none → c.dryRun = false →
      w.clockFault = none → w'.now = w.now.add offset →
      w'.events = w.events ++ [.setTime (w.now.add offset)] →
      Correction c offset leap force w (none, c.corrected offset leap, w')

/-- A correction ends in one of these ways. -/
theorem apply_correction (c : Clock) (offset : Binary64) (leap : Int) (force : Bool) (w : World) :
    Correction c offset leap force w (c.apply offset leap force w) := by
  unfold apply
  cases hrefusal : c.refusal? offset leap force with
  | some reason => exact .refused hrefusal
  | none =>
    obtain ⟨records, hset⟩ := c.setLeap_frame leap w
    simp only [hset]
    by_cases hdry : c.dryRun = true
    · rw [if_pos hdry]
      exact .reported hrefusal hdry rfl rfl
    · rw [if_neg hdry]
      rw [Bool.not_eq_true] at hdry
      rcases step_end offset { w with records } with ⟨fault, hfault, hstep⟩ | ⟨hfault, _, hstep⟩
      · rw [hstep]
        exact .failed hrefusal hdry hfault rfl
      · rw [hstep]
        exact .done hrefusal hdry hfault rfl rfl

/-- A correction is done, or it fails and at most the leap indicator is touched. -/
theorem apply_end (c : Clock) (offset : Binary64) (leap : Int) (force : Bool) (w : World) :
    (∃ reason pendingLeap w', c.apply offset leap force w =
        (some (.clockWrite offset reason), { c with pendingLeap }, w')) ∨
      ∃ w', c.apply offset leap force w = (none, c.corrected offset leap, w') := by
  have hend := c.apply_correction offset leap force w
  generalize c.apply offset leap force w = ended at hend ⊢
  cases hend with
  | refused hrefusal => exact .inl ⟨_, c.pendingLeap, w, rfl⟩
  | failed => exact .inl ⟨_, leap, _, rfl⟩
  | reported | done => exact .inr ⟨_, rfl⟩

/-- Whether a correction is done: it is forced or not too large, and the system lets the clock be
set unless it is not touched at all. -/
def accepts (c : Clock) (offset : Binary64) (force : Bool) (w : World) : Bool :=
  (force || !c.panicThreshold.lt offset.abs) && (c.dryRun || w.clockFault.isNone)

/-- A correction by a synchronized reference is refused exactly when it is too large and not
forced. -/
theorem isSome_refusal? (c : Clock) (offset : Binary64) {leap : Int} (force : Bool)
    (hleap : leap ≠ leapAlarm) :
    (c.refusal? offset leap force).isSome = (!force && c.panicThreshold.lt offset.abs) := by
  unfold refusal?
  rw [if_neg hleap]
  cases !force && c.panicThreshold.lt offset.abs <;> rfl

/-- A correction by a synchronized reference is done exactly when it is accepted. The world's clock
is then set forward by the offset, unless the clock is never touched. -/
theorem apply_of_accepts (c : Clock) (offset : Binary64) {leap : Int} (force : Bool) (w : World)
    (hleap : leap ≠ leapAlarm) :
    (c.accepts offset force w = false ∧ ∃ reason pendingLeap w', c.apply offset leap force w =
        (some (.clockWrite offset reason), { c with pendingLeap }, w')) ∨
      (c.accepts offset force w = true ∧ ∃ w',
        c.apply offset leap force w = (none, c.corrected offset leap, w') ∧
        w'.now = if c.dryRun then w.now else w.now.add offset) := by
  have haccepts : c.accepts offset force w =
      (!(c.refusal? offset leap force).isSome && (c.dryRun || w.clockFault.isNone)) := by
    rw [c.isSome_refusal? offset force hleap, Bool.not_and, Bool.not_not]
    rfl
  rw [haccepts]
  have hend := c.apply_correction offset leap force w
  generalize c.apply offset leap force w = ended at hend ⊢
  cases hend with
  | refused hrefusal => exact .inl ⟨by simp [hrefusal], _, c.pendingLeap, w, rfl⟩
  | reported hrefusal hdry hnow =>
    exact .inr ⟨by simp [hrefusal, hdry], _, rfl, by rw [hnow, if_pos hdry]⟩
  | failed hrefusal hdry hfault => exact .inl ⟨by simp [hdry, hfault], _, leap, _, rfl⟩
  | done hrefusal hdry hfault hnow =>
    exact .inr ⟨by simp [hrefusal, hfault], _, rfl, by simp [hnow, hdry]⟩

end Concord.Clock
