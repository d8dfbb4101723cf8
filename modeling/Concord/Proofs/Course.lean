import Concord.Proofs.RoundEvents
import Concord.Proofs.ServingStep
import Mathlib.Logic.Function.Iterate

/-!
# The course of a life

The daemon's life is taken apart into steps (`Life.next`): finding the peers, the first round,
opening one socket and then the other, a wait, a later round, and the end of serving. The course of
a life is the sequence of the states that it passes through (`Controller.course`), so that one can
say what is the case at a point of it, and what comes before and after.

The main statements are `exists_course_run`, that the course of a life ends where the life ends, and
`events_course`, that what the daemon does to the world is what it does in the steps, one after the
other (`Life.doing`).
-/

namespace Concord

/-- How far the daemon's life has come. -/
inductive Stage where
  /-- Nothing is done yet. -/
  | fresh
  /-- The peers are found. -/
  | found
  /-- The clock is corrected a first time. -/
  | synced
  /-- The responder is started, if there is one. -/
  | responding
  /-- Everything is served, and a wait begins. -/
  | steady
  /-- A wait is over, and a round begins. -/
  | woken
  /-- The life is over but for the end of serving. -/
  | closing (result : Except Trouble Unit)
  /-- Nothing more happens. -/
  | ended (result : Except Trouble Unit)

/-- The stage after a step with the given result. -/
def Stage.after {α : Type} (result : Except Trouble α) (stage : Stage) : Stage :=
  match result with
  | .ok _ => stage
  | .error trouble => .closing (.error trouble)

/-- A point of the daemon's life. -/
structure Life where
  stage : Stage
  /-- What happens in the waits to come. -/
  pauses : List Pause
  controller : Controller
  world : World

namespace Life

/-- Go on after a step, if it did not come to a trouble. -/
def onward {α : Type} (s : Life) (stage : Stage) (step : Step α) : Life :=
  ⟨Stage.after step.1 stage, s.pauses, step.2.1, step.2.2⟩

/-- The daemon is asked to stop while it waits. -/
def quit (pauses : List Pause) (c : Controller) (w : World) : Life :=
  ⟨.closing (.ok ()), pauses, (c.stop w).1, (c.stop w).2⟩

/-- The daemon waits until the next round, unless it is asked to stop. -/
def wait (s : Life) : Life :=
  if s.controller.stopping then { s with stage := .closing (.ok ()) }
  else
    let w := s.world.record (.wait s.controller.sleep)
    match s.pauses with
    | [] => quit [] s.controller w
    | pause :: rest =>
      match s.controller.pass pause w with
      | (some fault, c, w) => ⟨.closing (.error (.fault fault)), rest, c, w⟩
      | (none, c, w) => if pause.stop then quit rest c w else ⟨.woken, rest, c, w⟩

/-- The next point of the daemon's life. -/
def next (s : Life) : Life :=
  match s.stage with
  | .fresh => s.onward .found (s.controller.init s.world)
  | .found => s.onward .synced (Round.ending ⟨s.controller, s.world⟩ true)
  | .synced =>
    match s.controller.startResponder s.world with
    | (some trouble, c, w) => ⟨.closing (.error trouble), s.pauses, c, w⟩
    | (none, c, w) => ⟨.responding, s.pauses, c, w⟩
  | .responding =>
    match s.controller.startStatusServer s.world with
    | (some trouble, c, w) => ⟨.closing (.error trouble), s.pauses, c, w⟩
    | (none, c, w) => ⟨.steady, s.pauses, { c with phase := .steadyState }, w⟩
  | .steady => s.wait
  | .woken => s.onward .steady (Round.ending ⟨s.controller, s.world⟩ false)
  | .closing result =>
    let (c, w) := s.controller.stopServing s.world
    ⟨.ended result, s.pauses, { c with phase := .stopped }, w⟩
  | .ended _ => s

/-- What the daemon does to the world in the next step. -/
def doing (s : Life) : List Event := s.next.world.events.drop s.world.events.length

/-- The round that begins, if one does, and whether it is the first one. -/
def round? (s : Life) : Option (Bool × Round) :=
  match s.stage with
  | .found => some (true, ⟨s.controller, s.world⟩)
  | .woken => some (false, ⟨s.controller, s.world⟩)
  | _ => none

end Life

/-- The points of a controller's life in a world, with what happens in its waits. -/
def Controller.course (c : Controller) (pauses : List Pause) (w : World) (n : Nat) : Life :=
  Life.next^[n] ⟨.fresh, pauses, c, w⟩

namespace Life

/-! ## The end of a course -/

/-- The life comes to a point after some steps. -/
def Reaches (s t : Life) : Prop := ∃ n, next^[n] s = t

/-- A life that comes to a point after its next step comes to it. -/
theorem Reaches.step {s t : Life} (h : s.next.Reaches t) : s.Reaches t := by
  obtain ⟨n, hn⟩ := h
  exact ⟨n + 1, hn⟩

/-- A life is where it is. -/
theorem Reaches.here (s : Life) : s.Reaches s := ⟨0, rfl⟩

/-- The life comes to be over, with what a part of it came to. -/
def ClosesWith (s : Life) (step : Step Unit) : Prop :=
  ∃ rest, s.Reaches ⟨.closing step.1, rest, step.2.1, step.2.2⟩

/-- A life that comes to be over after its next step comes to be over. -/
theorem ClosesWith.step {s : Life} {result : Step Unit} (h : s.next.ClosesWith result) :
    s.ClosesWith result := by
  obtain ⟨rest, h⟩ := h
  exact ⟨rest, h.step⟩

/-- A life that is over is over. -/
theorem ClosesWith.here (result : Except Trouble Unit) (pauses : List Pause) (c : Controller)
    (w : World) : ClosesWith ⟨.closing result, pauses, c, w⟩ (result, c, w) := ⟨pauses, .here _⟩

/-- Waits and rounds come to what the steady state comes to. -/
theorem closesWith_steadyState (pauses : List Pause) (c : Controller) (w : World) :
    ClosesWith ⟨.steady, pauses, c, w⟩ (Controller.steadyState pauses c w) := by
  induction pauses generalizing c w with
  | nil =>
    refine .step ?_
    cases hstopping : c.stopping <;>
      simp only [next, wait, hstopping, Controller.steadyState, if_true, Bool.false_eq_true,
        if_false] <;> exact .here ..
  | cons pause rest ih =>
    refine .step ?_
    rw [Controller.steadyState]
    cases hstopping : c.stopping with
    | true =>
      simp only [next, wait, hstopping, if_true]
      exact .here ..
    | false =>
      simp only [next, wait, hstopping, Bool.false_eq_true, if_false]
      rcases c.pass pause (w.record (.wait c.sleep)) with ⟨fault, d, w'⟩
      cases fault with
      | some fault => exact .here ..
      | none =>
        simp only
        cases pause.stop with
        | true =>
          simp only [if_true]
          exact .here ..
        | false =>
          -- The wait is over, so a round follows and then the other waits.
          simp only [Bool.false_eq_true, if_false]
          refine .step ?_
          rcases hcycle : d.cycle w' with ⟨result, e, w''⟩
          have hending : Round.ending ⟨d, w'⟩ false = (result, e, w'') := hcycle
          simp only [next, onward, hending]
          cases result with
          | error trouble => exact .here ..
          | ok chosen => exact ih e w''

/-- The life comes to be over with what the daemon's life comes to before serving is stopped. -/
theorem closesWith_live (c : Controller) (pauses : List Pause) (w : World) :
    ClosesWith ⟨.fresh, pauses, c, w⟩ (c.live pauses w) := by
  refine .step ?_
  rcases hinit : c.init w with ⟨result, c₁, w₁⟩
  simp only [next, onward, hinit, Controller.live]
  cases result with
  | error trouble => exact .here ..
  | ok found =>
    refine .step ?_
    rcases hfirst : c₁.firstSync w₁ with ⟨result, c₂, w₂⟩
    have hending : Round.ending ⟨c₁, w₁⟩ true = (result.map some, c₂, w₂) := by
      simp only [Round.ending, if_true, hfirst]
    simp only [Stage.after, next, onward, hending, hfirst]
    cases result with
    | error trouble => exact .here ..
    | ok r =>
      refine .step ?_
      rcases hresponder : c₂.startResponder w₂ with ⟨trouble, c₃, w₃⟩
      simp only [Except.map, next, hresponder, Controller.startServing]
      cases trouble with
      | some trouble => exact .here ..
      | none =>
        refine .step ?_
        rcases hstatus : c₃.startStatusServer w₃ with ⟨trouble, c₄, w₄⟩
        simp only [next, hstatus]
        cases trouble with
        | some trouble => exact .here ..
        | none => exact closesWith_steadyState pauses _ w₄

end Life

namespace Controller

variable (c : Controller) (pauses : List Pause) (w : World)

@[simp] theorem course_zero : c.course pauses w 0 = ⟨.fresh, pauses, c, w⟩ := rfl

@[simp] theorem course_succ (n : Nat) :
    c.course pauses w (n + 1) = (c.course pauses w n).next := Function.iterate_succ_apply' ..

/-- The course of a life ends where the life ends. -/
theorem exists_course_run : ∃ n rest, c.course pauses w n =
    ⟨.ended (c.run pauses w).1, rest, (c.run pauses w).2.1, (c.run pauses w).2.2⟩ := by
  obtain ⟨rest, n, hn⟩ := Life.closesWith_live c pauses w
  refine ⟨n + 1, rest, ?_⟩
  rw [course_succ, course, hn]
  rfl

end Controller

/-! ## What a step does -/

/-- What can be done to the world in the step that begins at a stage. -/
def Stage.allows : Stage → Event → Bool
  | .found, .query .. | .woken, .query .. => true
  | .found, .setTime _ | .woken, .setTime _ => true
  | .synced, .bindUdp .. => true
  | .responding, .bindTcp .. => true
  | .steady, .wait _ | .steady, .send .. => true
  | .closing _, .closeUdp => true
  | _, _ => false

section

variable {stage : Stage}

theorem Stage.allows_bindUdp {host : String} {port : Int} :
    stage.allows (.bindUdp host port) = true ↔ stage = .synced := by
  cases stage <;> simp [allows]

theorem Stage.allows_bindTcp {host : String} {port : Int} :
    stage.allows (.bindTcp host port) = true ↔ stage = .responding := by
  cases stage <;> simp [allows]

theorem Stage.allows_setTime {value : Binary64} :
    stage.allows (.setTime value) = true ↔ stage = .found ∨ stage = .woken := by
  cases stage <;> simp [allows]

theorem Stage.allows_query {address : String} {port : Int} {timeout : Document} :
    stage.allows (.query address port timeout) = true ↔ stage = .found ∨ stage = .woken := by
  cases stage <;> simp [allows]

theorem Stage.allows_closeUdp :
    stage.allows .closeUdp = true ↔ ∃ result, stage = .closing result := by
  cases stage <;> simp [allows]

theorem Stage.allows_closing {result : Except Trouble Unit} {e : Event} :
    (Stage.closing result).allows e = true ↔ e = .closeUdp := by
  cases e <;> simp [allows]

end

/-- At a stage something is done to the world, and it is allowed there. -/
def Stage.Does (stage : Stage) (w w' : World) : Prop :=
  ∃ done, w'.events = w.events ++ done ∧ ∀ e ∈ done, stage.allows e = true

/-- Nothing is done. -/
theorem Stage.Does.nothing {stage : Stage} {w w' : World} (h : w'.events = w.events) :
    stage.Does w w' := ⟨[], by rw [h, List.append_nil], by simp⟩

namespace Life

/-- The ways in which a wait ends. -/
structure Waited (s t : Life) : Prop where
  stage : t.stage = .woken ∨ ∃ result, t.stage = .closing result
  controller : ∃ responder stopping, t.controller = { s.controller with responder, stopping }
  listens : t.controller.listens = s.controller.listens
  does : Stage.steady.Does s.world t.world

/-- A wait ends in one of these ways. -/
theorem wait_waited (s : Life) : s.Waited s.wait := by
  unfold wait
  split
  · exact ⟨.inr ⟨_, rfl⟩, ⟨_, _, rfl⟩, rfl, .nothing rfl⟩
  · have hwait : ∀ w : World, w.events = s.world.events ++ [.wait s.controller.sleep] →
        Stage.steady.Does s.world w := by
      intro w hw
      refine ⟨_, hw, ?_⟩
      intro e he
      obtain rfl := List.mem_singleton.1 he
      rfl
    cases s.pauses with
    | nil => exact ⟨.inr ⟨_, rfl⟩, ⟨_, _, rfl⟩, rfl, hwait _ rfl⟩
    | cons pause rest =>
      obtain ⟨⟨responder, hpass⟩, hlistens, sent, hsent, hall⟩ :=
        s.controller.pass_end pause (s.world.record (.wait s.controller.sleep))
      have hdoes : ∀ w : World, w.events = s.world.events ++ [.wait s.controller.sleep] ++ sent →
          Stage.steady.Does s.world w := by
        intro w hw
        refine ⟨_, hw.trans (List.append_assoc ..), ?_⟩
        intro e he
        obtain he | he := List.mem_append.1 he
        · obtain rfl := List.mem_singleton.1 he
          rfl
        · obtain ⟨data, address, port, rfl⟩ := hall e he
          rfl
      rcases hrun : s.controller.pass pause (s.world.record (.wait s.controller.sleep)) with
        ⟨fault, c, w⟩
      rw [hrun] at hpass hlistens hsent
      simp only at hpass hlistens hsent
      subst hpass
      simp only [hrun]
      cases fault with
      | some fault => exact ⟨.inr ⟨_, rfl⟩, ⟨_, _, rfl⟩, hlistens, hdoes _ hsent⟩
      | none =>
        simp only
        split
        · exact ⟨.inr ⟨_, rfl⟩, ⟨_, _, rfl⟩, hlistens, hdoes _ hsent⟩
        · exact ⟨.inl rfl, ⟨_, _, rfl⟩, hlistens, hdoes _ hsent⟩

variable {s : Life} {setup : Bool} {round : Round}

/-- The first round begins when the peers are found. -/
theorem round?_of_found (h : s.stage = .found) :
    s.round? = some (true, ⟨s.controller, s.world⟩) := by
  simp only [round?, h]

/-- A later round begins when a wait is over. -/
theorem round?_of_woken (h : s.stage = .woken) :
    s.round? = some (false, ⟨s.controller, s.world⟩) := by
  simp only [round?, h]

/-- A round is that of the controller in its world. -/
theorem eq_of_round? (h : s.round? = some (setup, round)) :
    round = ⟨s.controller, s.world⟩ ∧ s.stage = if setup then .found else .woken := by
  unfold round? at h
  split at h <;> cases h <;> exact ⟨rfl, by assumption⟩

/-- The life goes on after a round as that ends. -/
theorem next_of_round? (h : s.round? = some (setup, round)) :
    s.next = s.onward (if setup then .synced else .steady) (round.ending setup) := by
  obtain ⟨rfl, hstage⟩ := eq_of_round? h
  cases setup with
  | true =>
    have hstage : s.stage = .found := hstage
    simp only [next, hstage, if_true]
  | false =>
    have hstage : s.stage = .woken := hstage
    simp only [next, hstage, Bool.false_eq_true, if_false]

/-- A round makes its requests and treats the clock in one of the ways of `Round.ClockEnd`. -/
theorem events_of_round? (h : s.round? = some (setup, round)) :
    ∃ attempts, s.next.world.events =
        s.world.events ++ (round.requests setup ++ attempts) ∧
      round.ClockEnd setup (round.ending setup).1 (round.ending setup).2.1.clock attempts := by
  obtain ⟨attempts, hevents, hclock⟩ := round.clock_end setup
  refine ⟨attempts, ?_, hclock⟩
  rw [next_of_round? h, ← List.append_assoc]
  obtain ⟨rfl, -⟩ := eq_of_round? h
  exact hevents

/-- A round does what its stage allows. -/
theorem does_of_round? (h : s.round? = some (setup, round)) :
    s.stage.Does s.world s.next.world := by
  obtain ⟨attempts, hevents, hclock⟩ := events_of_round? h
  refine ⟨_, hevents, ?_⟩
  intro e he
  have hallowed : (∃ address port timeout, e = .query address port timeout) ∨
      ∃ value, e = .setTime value := by
    obtain he | he := List.mem_append.1 he
    · exact .inl (Round.query_of_mem_requests he)
    · obtain ⟨r, -, -, -, heq⟩ := hclock.of_mem he
      rw [heq] at he
      exact .inr ⟨_, List.mem_singleton.1 he⟩
  rw [(eq_of_round? h).2]
  cases setup <;> obtain ⟨_, _, _, rfl⟩ | ⟨_, rfl⟩ := hallowed <;> rfl

/-- Every step does what its stage allows. -/
theorem does_next (s : Life) : s.stage.Does s.world s.next.world := by
  cases hstage : s.stage with
  | fresh =>
    refine .nothing ?_
    simp only [next, hstage, onward]
    exact (s.controller.init_noted s.world).events
  | found =>
    rw [← hstage]
    exact does_of_round? (round?_of_found hstage)
  | woken =>
    rw [← hstage]
    exact does_of_round? (round?_of_woken hstage)
  | synced =>
    have hstart := s.controller.startResponder_start s.world
    simp only [next, hstage]
    generalize s.controller.startResponder s.world = started at hstart ⊢
    cases hstart with
    | skipped trouble => cases trouble <;> exact .nothing rfl
    | opened _ _ hevents | failed _ _ hevents => exact ⟨_, hevents, by simp [Stage.allows]⟩
  | responding =>
    have hstart := s.controller.startStatusServer_start s.world
    simp only [next, hstage]
    generalize s.controller.startStatusServer s.world = started at hstart ⊢
    cases hstart with
    | skipped trouble => cases trouble <;> exact .nothing rfl
    | tried _ hevents =>
      cases s.world.metricFault <;> exact ⟨_, hevents, by simp [Stage.allows]⟩
  | steady =>
    simp only [next, hstage]
    exact s.wait_waited.does
  | closing result =>
    obtain ⟨-, hevents⟩ := s.controller.stopServing_end s.world
    simp only [next, hstage]
    refine ⟨_, hevents, ?_⟩
    intro e he
    split at he
    · obtain rfl := List.mem_singleton.1 he
      rfl
    · cases he
  | ended result =>
    simp only [next, hstage]
    exact .nothing rfl

/-- What is done in a step is what it adds to the events. -/
theorem doing_eq {done : List Event} (h : s.next.world.events = s.world.events ++ done) :
    s.doing = done := by
  rw [doing, h, List.drop_left]

/-- A step adds to the events what is done in it. -/
theorem events_next (s : Life) : s.next.world.events = s.world.events ++ s.doing := by
  obtain ⟨done, hdone, -⟩ := s.does_next
  rw [doing_eq hdone, hdone]

/-- What is done in a step is allowed at its stage. -/
theorem allows_of_mem_doing {e : Event} (h : e ∈ s.doing) : s.stage.allows e = true := by
  obtain ⟨done, hdone, hall⟩ := s.does_next
  rw [doing_eq hdone] at h
  exact hall e h

/-- A step finds the peers, is a round, or touches the servers and the daemon's own life only. -/
theorem next_cases (s : Life) :
    (s.stage = .fresh ∧ s.next.controller = (s.controller.init s.world).2.1) ∨
      (∃ setup round, s.round? = some (setup, round)) ∨
      ∃ responder statusServer stopping phase,
        s.next.controller = { s.controller with responder, statusServer, stopping, phase } := by
  cases hstage : s.stage with
  | fresh =>
    refine .inl ⟨rfl, ?_⟩
    simp only [next, hstage, onward]
  | found => exact .inr (.inl ⟨_, _, round?_of_found hstage⟩)
  | woken => exact .inr (.inl ⟨_, _, round?_of_woken hstage⟩)
  | synced =>
    have hstart := s.controller.startResponder_start s.world
    simp only [next, hstage]
    generalize s.controller.startResponder s.world = started at hstart ⊢
    cases hstart with
    | skipped trouble => cases trouble <;> exact .inr (.inr ⟨_, _, _, _, rfl⟩)
    | opened | failed => exact .inr (.inr ⟨_, _, _, _, rfl⟩)
  | responding =>
    have hstart := s.controller.startStatusServer_start s.world
    simp only [next, hstage]
    generalize s.controller.startStatusServer s.world = started at hstart ⊢
    cases hstart with
    | skipped trouble => cases trouble <;> exact .inr (.inr ⟨_, _, _, _, rfl⟩)
    | tried => cases s.world.metricFault <;> exact .inr (.inr ⟨_, _, _, _, rfl⟩)
  | steady =>
    obtain ⟨responder, stopping, hframe⟩ := s.wait_waited.controller
    simp only [next, hstage, hframe]
    exact .inr (.inr ⟨_, _, _, _, rfl⟩)
  | closing result =>
    obtain ⟨⟨responder, statusServer, hframe⟩, -⟩ := s.controller.stopServing_end s.world
    simp only [next, hstage, hframe]
    exact .inr (.inr ⟨_, _, _, _, rfl⟩)
  | ended result =>
    simp only [next, hstage]
    exact .inr (.inr ⟨_, _, _, _, rfl⟩)

/-- Every step keeps the settings. -/
theorem settings_next (s : Life) : s.controller.SameSettings s.next.controller := by
  obtain ⟨-, heq⟩ | ⟨setup, round, hround⟩ | ⟨_, _, _, _, heq⟩ := s.next_cases
  · rw [heq]
    exact (s.controller.init_settings s.world).1
  · rw [next_of_round? hround]
    obtain ⟨rfl, -⟩ := eq_of_round? hround
    exact (Controller.ending_settings ⟨s.controller, s.world⟩ setup).1
  · rw [heq]
    exact ⟨rfl, rfl, rfl, rfl, rfl⟩

/-- The stages that can follow, each with where the life comes from and what went well. -/
inductive Follows (s : Life) : Stage → Prop where
  | found : s.stage = .fresh → (s.controller.init s.world).1 = .ok () → Follows s .found
  | synced {r : Reference} : s.stage = .found →
      (s.controller.firstSync s.world).1 = .ok r → Follows s .synced
  | responding : s.stage = .synced → Follows s .responding
  | steady : s.stage = .responding → Follows s .steady
  | woken : s.stage = .steady → Follows s .woken
  | again {chosen : Option Reference} : s.stage = .woken →
      (s.controller.cycle s.world).1 = .ok chosen → Follows s .steady
  | closing (result : Except Trouble Unit) : (∀ result, s.stage ≠ .closing result) →
      (∀ result, s.stage ≠ .ended result) → Follows s (.closing result)
  | ended {result : Except Trouble Unit} : s.stage = .closing result ∨ s.stage = .ended result →
      Follows s (.ended result)

/-- No other stages follow. -/
theorem follows_next (s : Life) : s.Follows s.next.stage := by
  cases hstage : s.stage with
  | fresh =>
    simp only [next, hstage, onward]
    cases hresult : (s.controller.init s.world).1 with
    | ok => exact .found hstage hresult
    | error trouble => exact .closing _ (by simp [hstage]) (by simp [hstage])
  | found =>
    simp only [next, hstage, onward, Round.ending, if_true]
    cases hresult : (s.controller.firstSync s.world).1 with
    | ok => exact .synced hstage hresult
    | error trouble => exact .closing _ (by simp [hstage]) (by simp [hstage])
  | woken =>
    simp only [next, hstage, onward, Round.ending, Bool.false_eq_true, if_false]
    cases hresult : (s.controller.cycle s.world).1 with
    | ok => exact .again hstage hresult
    | error trouble => exact .closing _ (by simp [hstage]) (by simp [hstage])
  | synced =>
    simp only [next, hstage]
    split
    · exact .closing _ (by simp [hstage]) (by simp [hstage])
    · exact .responding hstage
  | responding =>
    simp only [next, hstage]
    split
    · exact .closing _ (by simp [hstage]) (by simp [hstage])
    · exact .steady hstage
  | steady =>
    simp only [next, hstage]
    obtain hwoken | ⟨result, hclosing⟩ := s.wait_waited.stage
    · rw [hwoken]
      exact .woken hstage
    · rw [hclosing]
      exact .closing _ (by simp [hstage]) (by simp [hstage])
  | closing result =>
    simp only [next, hstage]
    exact .ended (.inl hstage)
  | ended result =>
    simp only [next, hstage]
    exact .ended (.inr hstage)

end Life

/-- What is done up to a point of a life is what is done in the steps before it. -/
theorem Controller.events_course (c : Controller) (pauses : List Pause) (w : World) (n : Nat) :
    (c.course pauses w n).world.events =
      w.events ++ (List.range n).flatMap fun i => (c.course pauses w i).doing := by
  induction n with
  | zero => simp
  | succ n ih =>
    rw [course_succ, Life.events_next, ih, List.range_succ, List.flatMap_append,
      List.append_assoc, List.flatMap_singleton]

end Concord
