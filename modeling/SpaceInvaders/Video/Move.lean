/-
**The motion of the pixmap.**

A positive speed is the displacement between two frames, a negative one the number of frames for one pixel.
`documented` is the position after some frames by that rule. The code adds a negative speed to the unsigned
coordinate, and a positive one may carry it beyond 65535.

* `documented_positive`, `documented_negative`: the rule, frame by frame;
* `runs_documented_iff`: the test follows the rule in every run exactly when each of its frames does;
* `frames_advance_iff`, `move_documented_iff`: which arguments that are;
* `not_documented_backwards`: a negative speed moves the pixmap backwards.
-/

import SpaceInvaders.Model.MoveTest

namespace SpaceInvaders

namespace Lab

/-! ### The documented motion -/

/-- The position after some frames. -/
def documented (start finish speed : Int) (frames : Nat) : Int :=
  if 0 < speed then start + min (frames * speed) (finish - start)
  else start + min (frames / -speed) (finish - start)

section Rule

variable {start finish speed : Int}

theorem documented_zero (forward : start ≤ finish) : documented start finish speed 0 = start := by
  unfold documented
  split
  · simp only [Nat.cast_zero, zero_mul]
    omega
  · simp only [Nat.cast_zero, Int.zero_ediv]
    omega

/-- A positive speed moves by the speed, up to the remaining distance. -/
theorem documented_positive (positive : 0 < speed) (frames : Nat) :
    documented start finish speed (frames + 1) = documented start finish speed frames +
      min speed (finish - documented start finish speed frames) := by
  have nonneg : 0 ≤ (frames : Int) * speed := Int.mul_nonneg (Int.natCast_nonneg frames) positive.le
  unfold documented
  rw [if_pos positive, if_pos positive, Nat.cast_succ, add_mul, one_mul]
  omega

/-- A negative speed moves by one pixel in `-speed` frames. -/
theorem documented_negative (negative : speed < 0) (frames : Nat) :
    documented start finish speed (frames + (-speed).toNat) =
      min (documented start finish speed frames + 1) finish := by
  have amount : ((-speed).toNat : Int) = -speed := Int.toNat_of_nonneg (by omega)
  have quotient : ((frames + (-speed).toNat : Nat) : Int) / -speed = (frames : Int) / -speed + 1 := by
    rw [Nat.cast_add, amount]
    exact Int.add_ediv_of_dvd_right (dvd_refl _) |>.trans (by rw [Int.ediv_self (by omega)])
  have nonneg : 0 ≤ (frames : Int) / -speed := Int.ediv_nonneg (Int.natCast_nonneg frames) (by omega)
  unfold documented
  rw [if_neg (by omega), if_neg (by omega), quotient]
  omega

/-- The pixmap never moves backwards. -/
theorem documented_mono {frames later : Nat} (order : frames ≤ later) :
    documented start finish speed frames ≤ documented start finish speed later := by
  have cast : (frames : Int) ≤ later := Int.ofNat_le.mpr order
  unfold documented
  split
  · next positive =>
    have := Int.mul_le_mul_of_nonneg_right cast (Int.le_of_lt positive)
    omega
  · next negative =>
    have quotients : (frames : Int) / -speed ≤ later / -speed := by
      rcases Int.lt_or_eq_of_le (Int.not_lt.mp negative) with below | none
      · exact Int.ediv_le_ediv (by omega) cast
      · rw [none, Int.neg_zero, Int.ediv_zero, Int.ediv_zero]
    omega

/-- The pixmap stays between its start and its end. -/
theorem documented_within (forward : start ≤ finish) (frames : Nat) :
    start ≤ documented start finish speed frames ∧ documented start finish speed frames ≤ finish := by
  have first : documented start finish speed 0 ≤ documented start finish speed frames :=
    documented_mono (Nat.zero_le frames)
  rw [documented_zero forward] at first
  refine ⟨first, ?_⟩
  unfold documented
  split <;> omega

end Rule

/-! ### The arguments -/

/-- The pixmap's way is along one axis. -/
def MoveArgs.OnAxis (args : MoveArgs) : Prop := args.horizontal ∨ args.vertical

/-- The coordinate that moves, at its start and at its end. -/
def MoveArgs.start (args : MoveArgs) : Int := if args.horizontal then args.xi.toNat else args.yi.toNat
def MoveArgs.finish (args : MoveArgs) : Int := if args.horizontal then args.xf.toNat else args.yf.toNat

/-- The position with that coordinate. -/
def MoveArgs.place (args : MoveArgs) (coordinate : Int) : Int × Int :=
  if args.horizontal then (coordinate, args.yi.toNat) else (args.xi.toNat, coordinate)

/-- The documented coordinate after some frames. -/
def MoveArgs.path (args : MoveArgs) (frames : Nat) : Int :=
  documented args.start args.finish args.speed.toInt frames

/-- The positions are printable, all the way. -/
def MoveArgs.Printable (mode : ModeInfo) (image : Xpm) (args : MoveArgs) : Prop :=
  ∀ coordinate, args.start ≤ coordinate → coordinate ≤ args.finish →
    printXpm mode image (args.place coordinate).1 (args.place coordinate).2 = 0

theorem MoveArgs.OnAxis.bounds {args : MoveArgs} (axis : args.OnAxis) :
    0 ≤ args.start ∧ args.start < args.finish ∧ args.finish ≤ 65535 := by
  have xSmall := args.xf.toNat_lt
  have ySmall := args.yf.toNat_lt
  unfold MoveArgs.start MoveArgs.finish
  by_cases horizontal : args.horizontal
  · have less := UInt16.lt_iff_toNat_lt.mp (of_decide_eq_true horizontal).1
    rw [if_pos horizontal, if_pos horizontal]
    omega
  · have less := UInt16.lt_iff_toNat_lt.mp (of_decide_eq_true (axis.resolve_left horizontal)).2
    rw [if_neg horizontal, if_neg horizontal]
    omega

/-- The ends of the way. -/
theorem MoveArgs.place_start (args : MoveArgs) :
    args.place args.start = ((args.xi.toNat : Int), (args.yi.toNat : Int)) := by
  unfold MoveArgs.place MoveArgs.start
  split <;> rfl

theorem MoveArgs.OnAxis.place_finish {args : MoveArgs} (axis : args.OnAxis) :
    args.place args.finish = ((args.xf.toNat : Int), (args.yf.toNat : Int)) := by
  unfold MoveArgs.place MoveArgs.finish
  by_cases horizontal : args.horizontal
  · rw [if_pos horizontal, if_pos horizontal, (of_decide_eq_true horizontal).2]
  · rw [if_neg horizontal, if_neg horizontal,
      (of_decide_eq_true (axis.resolve_left horizontal)).1]

/-- The loop's test on the coordinates, at a position of the way. -/
theorem MoveArgs.OnAxis.goesOn_iff {args : MoveArgs} (axis : args.OnAxis) (coordinate : Int) :
    ((args.place coordinate).1 < args.xf.toNat ∨ (args.place coordinate).2 < args.yf.toNat) ↔
      coordinate < args.finish := by
  unfold MoveArgs.place MoveArgs.finish
  by_cases horizontal : args.horizontal
  · have same := (of_decide_eq_true horizontal).2
    rw [if_pos horizontal, if_pos horizontal, same]
    omega
  · have same := (of_decide_eq_true (axis.resolve_left horizontal)).1
    rw [if_neg horizontal, if_neg horizontal, same]
    omega

theorem MoveArgs.place_injective (args : MoveArgs) {coordinate other : Int}
    (same : args.place coordinate = args.place other) : coordinate = other := by
  unfold MoveArgs.place at same
  split at same
  · exact (Prod.mk.inj same).1
  · exact (Prod.mk.inj same).2

/-- A timer interrupt moves along the way. -/
theorem movePosition_place {args : MoveArgs} {test : MoveTest} {coordinate : Int}
    (here : (test.xi, test.yi) = args.place coordinate) :
    ((movePosition args test).xi, (movePosition args test).yi) =
      args.place (advance args.speed.toInt args.finish coordinate) := by
  unfold movePosition
  unfold MoveArgs.place MoveArgs.finish at *
  by_cases horizontal : args.horizontal
  · rw [if_pos horizontal] at here
    obtain ⟨x, y⟩ := Prod.mk.inj here
    rw [if_pos horizontal, if_pos horizontal, if_pos horizontal, x, y]
  · rw [if_neg horizontal] at here
    obtain ⟨x, y⟩ := Prod.mk.inj here
    rw [if_neg horizontal, if_neg horizontal, if_neg horizontal, x, y]

/-! ### What is asked of a run -/

/-- The pixmap has been printed along the way as documented, the loop goes on before its end, and is left
there, unless the escape key has ended it. -/
structure Documented (args : MoveArgs) (test : MoveTest) : Prop where
  drawn : test.drawn = (List.range (test.frames + 1)).map fun frames => args.place (args.path frames)
  goesOn : test.control = .looping → args.path test.frames < args.finish
  ends : ∀ code, test.control = .returned code → test.scancode ≠ kbBreakEsc →
    (test.xi, test.yi) = ((args.xf.toNat : Int), (args.yf.toNat : Int))

/-- Each frame before the end takes the documented step. -/
def FramesAdvance (args : MoveArgs) : Prop :=
  ∀ frames, args.path frames < args.finish →
    advance args.speed.toInt args.finish (args.path frames) = args.path (frames + 1)

/-- The test on its way: at the documented position. -/
structure OnWay (args : MoveArgs) (test : MoveTest) : Prop where
  here : (test.xi, test.yi) = args.place (args.path test.frames)
  drawn : test.drawn = (List.range (test.frames + 1)).map fun frames => args.place (args.path frames)
  goesOn : test.control = .looping → args.path test.frames < args.finish
  ends : ∀ code, test.control = .returned code → test.scancode ≠ kbBreakEsc →
    args.path test.frames = args.finish

section Runs

variable {mode : ModeInfo} {image : Xpm} {calls : MoveCalls} {args : MoveArgs} {test : MoveTest}

theorem MoveArgs.path_bounds (axis : args.OnAxis) (frames : Nat) :
    args.start ≤ args.path frames ∧ args.path frames ≤ args.finish :=
  documented_within (Int.le_of_lt axis.bounds.2.1) frames

theorem OnWay.documented (axis : args.OnAxis) (onWay : OnWay args test) : Documented args test := by
  refine ⟨onWay.drawn, onWay.goesOn, fun code left other => ?_⟩
  rw [onWay.here, onWay.ends code left other, axis.place_finish]

/-- The loop's test, at the documented position. -/
theorem OnWay.loop (axis : args.OnAxis) (calls : MoveCalls)
    (here : (test.xi, test.yi) = args.place (args.path test.frames))
    (drawn : test.drawn = (List.range (test.frames + 1)).map fun frames => args.place (args.path frames)) :
    OnWay args (moveLoop calls args test) := by
  have coordinates : (test.xi < args.xf.toNat ∨ test.yi < args.yf.toNat) ↔
      args.path test.frames < args.finish := by
    rw [← axis.goesOn_iff, ← here]
  unfold moveLoop
  by_cases goesOn : test.scancode ≠ kbBreakEsc ∧ (test.xi < args.xf.toNat ∨ test.yi < args.yf.toNat)
  · rw [if_pos goesOn]
    exact ⟨here, drawn, fun _ => coordinates.mp goesOn.2, fun code same => nomatch same⟩
  · rw [if_neg goesOn]
    refine ⟨here, drawn, fun same => (nomatch same), fun _ _ other => ?_⟩
    have notBefore : ¬ args.path test.frames < args.finish :=
      fun before => goesOn ⟨other, coordinates.mpr before⟩
    exact Int.le_antisymm (MoveArgs.path_bounds axis test.frames).2 (Int.not_lt.mp notBefore)

/-- The frames that the position's move does not change. -/
theorem movePosition_frames (args : MoveArgs) (test : MoveTest) :
    (movePosition args test).frames = test.frames + 1 ∧
      (movePosition args test).drawn = test.drawn ∧
      (movePosition args test).scancode = test.scancode := by
  unfold movePosition
  split <;> exact ⟨rfl, rfl, rfl⟩

/-- A timer interrupt that takes the documented step. -/
theorem OnWay.timer (axis : args.OnAxis) (printable : args.Printable mode image)
    (here : (test.xi, test.yi) = args.place (args.path test.frames))
    (drawn : test.drawn = (List.range (test.frames + 1)).map fun frames => args.place (args.path frames))
    (advances : advance args.speed.toInt args.finish (args.path test.frames) =
      args.path (test.frames + 1)) :
    OnWay args (printMoved mode image calls args (movePosition args test)) := by
  have moved := movePosition_place here
  obtain ⟨frames, kept, -⟩ := movePosition_frames args test
  rw [advances] at moved
  obtain ⟨x, y⟩ := Prod.mk.inj moved
  have bounds := MoveArgs.path_bounds axis (test.frames + 1)
  have printed : printXpm mode image (movePosition args test).xi (movePosition args test).yi = 0 := by
    rw [x, y]
    exact printable _ bounds.1 bounds.2
  unfold printMoved
  rw [if_neg (not_not.mpr printed)]
  refine OnWay.loop axis calls ?_ ?_
  · show ((movePosition args test).xi, (movePosition args test).yi) =
      args.place (args.path (movePosition args test).frames)
    rw [frames, moved]
  · show (movePosition args test).drawn ++ [_] = (List.range ((movePosition args test).frames + 1)).map _
    rw [frames, kept, drawn, List.range_succ (n := test.frames + 1), List.map_append, moved]
    rfl

/-- One round of the loop, when each frame takes the documented step. -/
theorem OnWay.step (axis : args.OnAxis) (printable : args.Printable mode image)
    (advances : FramesAdvance args) (onWay : OnWay args test) (receive : LabReceive) :
    OnWay args (moveStep mode image calls args test receive) := by
  unfold moveStep
  split
  · next keyboard timer looping =>
    have next := advances test.frames (onWay.goesOn looping)
    have timed : ∀ scancode, OnWay args (if timer then
        printMoved mode image calls args (movePosition args { test with scancode := scancode })
        else moveLoop calls args { test with scancode := scancode }) := by
      intro scancode
      cases timer with
      | true =>
        exact @OnWay.timer mode image calls args { test with scancode := scancode } axis printable
          onWay.here onWay.drawn next
      | false =>
        have here : OnWay args (moveLoop calls args { test with scancode := scancode }) :=
          OnWay.loop axis calls onWay.here onWay.drawn
        exact here
    cases keyboard with
    | none => exact timed test.scancode
    | some ports => exact timed (kbcIh ports test.scancode)
  · exact OnWay.loop axis calls onWay.here onWay.drawn
  · exact onWay

/-- The test at the beginning of its loop. -/
theorem videoTestMove_eq (axis : args.OnAxis) (printable : args.Printable mode image)
    (ready : calls.setsUp) :
    videoTestMove mode image calls args =
      ⟨.looping, 0, args.xi.toNat, args.yi.toNat, 0, [((args.xi.toNat : Int), (args.yi.toNat : Int))]⟩ := by
  obtain ⟨-, forward, -⟩ := axis.bounds
  have printed := printable args.start (Int.le_refl _) (Int.le_of_lt forward)
  rw [args.place_start] at printed
  have goesOn := (axis.goesOn_iff args.start).mpr forward
  rw [args.place_start] at goesOn
  have onAxis : ¬ (¬ args.horizontal ∧ ¬ args.vertical) := by
    rintro ⟨notHorizontal, notVertical⟩
    exact axis.elim notHorizontal notVertical
  unfold videoTestMove moveLoop
  rw [if_neg onAxis, if_neg (not_not.mpr ready), if_neg (not_not.mpr printed), if_pos]
  have other : (0 : UInt8) ≠ kbBreakEsc := by decide
  exact ⟨other, goesOn⟩

theorem OnWay.initial (axis : args.OnAxis) (printable : args.Printable mode image)
    (ready : calls.setsUp) : OnWay args (videoTestMove mode image calls args) := by
  obtain ⟨-, forward, -⟩ := axis.bounds
  have start : args.path 0 = args.start := documented_zero (Int.le_of_lt forward)
  rw [videoTestMove_eq axis printable ready]
  refine ⟨?_, ?_, fun _ => ?_, fun code same => (nomatch same)⟩
  · rw [start, args.place_start]
  · show _ = [args.place (args.path 0)]
    rw [start, args.place_start]
  · show args.path 0 < args.finish
    rwa [start]

/-! ### Every frame or none -/

/-- A timer interrupt alone. -/
def timerOnly : LabReceive := .hardware none true

/-- A timer interrupt in the loop moves the pixmap and prints it. -/
theorem moveStep_timer (looping : test.control = .looping) :
    moveStep mode image calls args test timerOnly =
      printMoved mode image calls args (movePosition args test) := by
  unfold moveStep
  rw [looping]
  rfl

theorem moveLoop_variables (calls : MoveCalls) (args : MoveArgs) (test : MoveTest) :
    (moveLoop calls args test).frames = test.frames ∧ (moveLoop calls args test).drawn = test.drawn ∧
      (moveLoop calls args test).scancode = test.scancode := by
  unfold moveLoop
  split <;> exact ⟨rfl, rfl, rfl⟩

/-- What a timer interrupt on the way must do in a documented run: the documented step. -/
theorem Documented.timer_step (onWay : OnWay args test) (looping : test.control = .looping)
    (documented : Documented args (moveStep mode image calls args test timerOnly)) :
    advance args.speed.toInt args.finish (args.path test.frames) = args.path (test.frames + 1) := by
  obtain ⟨frames, kept, scancode⟩ := movePosition_frames args test
  have moved := movePosition_place onWay.here
  rw [moveStep_timer looping] at documented
  have drawn := documented.drawn
  unfold printMoved at drawn
  by_cases printed : printXpm mode image (movePosition args test).xi (movePosition args test).yi ≠ 0
  · -- the pixmap was not printed, and a position is missing
    rw [if_pos printed] at drawn
    have lengths := congrArg List.length drawn
    simp only [kept, frames, onWay.drawn, List.length_map, List.length_range] at lengths
    omega
  · rw [if_neg printed] at drawn
    have appended : test.drawn ++ [((movePosition args test).xi, (movePosition args test).yi)] =
        (List.range (test.frames + 1 + 1)).map fun frames => args.place (args.path frames) := by
      obtain ⟨count, same, -⟩ := moveLoop_variables calls args { movePosition args test with
        drawn := (movePosition args test).drawn ++
          [((movePosition args test).xi, (movePosition args test).yi)] }
      rw [same, count] at drawn
      rw [← kept, ← frames]
      exact drawn
    rw [List.range_succ (n := test.frames + 1), List.map_append, onWay.drawn] at appended
    have last := (List.append_inj' appended rfl).2
    rw [moved] at last
    exact args.place_injective (List.cons.inj last).1

/-- A timer interrupt in the loop is counted, and leaves the scancode alone. -/
theorem moveStep_timerOnly (looping : test.control = .looping) :
    (moveStep mode image calls args test timerOnly).frames = test.frames + 1 ∧
      (moveStep mode image calls args test timerOnly).scancode = test.scancode := by
  obtain ⟨frames, -, scancode⟩ := movePosition_frames args test
  rw [moveStep_timer looping, ← frames, ← scancode]
  unfold printMoved
  split
  · exact ⟨rfl, rfl⟩
  · obtain ⟨count, -, kept⟩ := moveLoop_variables calls args { movePosition args test with
      drawn := (movePosition args test).drawn ++
        [((movePosition args test).xi, (movePosition args test).yi)] }
    exact ⟨count, kept⟩

/-- A timer interrupt before the end keeps the test in its loop. -/
theorem OnWay.timer_looping (axis : args.OnAxis) (printable : args.Printable mode image)
    (onWay : OnWay args test) (looping : test.control = .looping) (other : test.scancode ≠ kbBreakEsc)
    (advances : advance args.speed.toInt args.finish (args.path test.frames) =
      args.path (test.frames + 1))
    (before : args.path (test.frames + 1) < args.finish) :
    OnWay args (moveStep mode image calls args test timerOnly) ∧
      (moveStep mode image calls args test timerOnly).control = .looping := by
  obtain ⟨counted, kept⟩ := @moveStep_timerOnly mode image calls args test looping
  have next : OnWay args (moveStep mode image calls args test timerOnly) := by
    rw [moveStep_timer looping]
    exact OnWay.timer axis printable onWay.here onWay.drawn advances
  refine ⟨next, ?_⟩
  cases control : (moveStep mode image calls args test timerOnly).control with
  | looping => rfl
  | returned code =>
    -- the loop is left at the end only
    have ended := next.ends code control (by rw [kept]; exact other)
    rw [counted] at ended
    omega

/-- In documented runs, timer interrupts alone bring the test along its way up to the end. -/
theorem timers_onWay (axis : args.OnAxis) (printable : args.Printable mode image) (ready : calls.setsUp)
    (documented : ∀ receives, Documented args
      (Runs.run (moveStep mode image calls args) (videoTestMove mode image calls args) receives))
    (frames : Nat) (before : args.path frames < args.finish) :
    let test := Runs.run (moveStep mode image calls args) (videoTestMove mode image calls args)
      (List.replicate frames timerOnly)
    OnWay args test ∧ test.control = .looping ∧ test.scancode = 0 ∧ test.frames = frames := by
  induction frames with
  | zero =>
    refine ⟨OnWay.initial axis printable ready, ?_⟩
    show (videoTestMove mode image calls args).control = .looping ∧ _
    rw [videoTestMove_eq axis printable ready]
    exact ⟨rfl, rfl, rfl⟩
  | succ frames ih =>
    have earlier : args.path frames < args.finish :=
      Int.lt_of_le_of_lt (documented_mono (Nat.le_succ frames)) before
    obtain ⟨onWay, looping, scancode, count⟩ := ih earlier
    have here := documented (List.replicate (frames + 1) timerOnly)
    rw [List.replicate_succ', Runs.run_snoc] at here ⊢
    have advances := here.timer_step onWay looping
    obtain ⟨counted, kept⟩ := @moveStep_timerOnly mode image calls args _ looping
    obtain ⟨next, goesOn⟩ := @OnWay.timer_looping mode image calls args _ axis printable onWay looping
      (by rw [scancode]; decide) advances (by rw [count]; exact before)
    exact ⟨next, goesOn, kept.trans scancode, counted.trans (by rw [count])⟩

/-- **The test is documented in every run exactly when each of its frames takes the documented step.** -/
theorem runs_documented_iff (axis : args.OnAxis) (printable : args.Printable mode image)
    (ready : calls.setsUp) :
    (∀ receives, Documented args
      (Runs.run (moveStep mode image calls args) (videoTestMove mode image calls args) receives)) ↔
      FramesAdvance args := by
  constructor
  · intro documented frames before
    obtain ⟨onWay, looping, -, count⟩ := timers_onWay axis printable ready documented frames before
    have here := documented (List.replicate frames timerOnly ++ [timerOnly])
    rw [Runs.run_snoc] at here
    have step := here.timer_step onWay looping
    rwa [count] at step
  · intro advances receives
    refine OnWay.documented axis ?_
    exact Runs.run_invariant (fun _ receive onWay => onWay.step axis printable advances receive)
      (OnWay.initial axis printable ready) receives

end Runs

/-! ### The arguments that are documented -/

/-- A positive speed whose last step stays in 16 bits; or the one pixel from 0 to 1 at speed -1, where
the wrap-around ends on it. -/
def MoveArgs.Advances (args : MoveArgs) : Prop :=
  (0 < args.speed.toInt ∧ args.start + (args.finish - args.start + args.speed.toInt - 1) /
    args.speed.toInt * args.speed.toInt ≤ 65535) ∨
  (args.speed.toInt = -1 ∧ args.start = 0 ∧ args.finish = 1)

/-- The smallest number of steps that covers a distance, times the step. -/
theorem ceiling_bounds {distance speed : Int} (positive : 0 < speed) (far : 0 < distance) :
    distance ≤ (distance + speed - 1) / speed * speed ∧
      (distance + speed - 1) / speed * speed < distance + speed ∧
      1 ≤ (distance + speed - 1) / speed := by
  have parts := Int.mul_ediv_add_emod (distance + speed - 1) speed
  have low := Int.emod_nonneg (distance + speed - 1) (Int.ne_of_gt positive)
  have high := Int.emod_lt_of_pos (distance + speed - 1) positive
  rw [Int.mul_comm] at parts
  refine ⟨by omega, by omega, ?_⟩
  exact (Int.le_ediv_iff_mul_le positive).mpr (by omega)

/-- The steps of a positive speed. -/
theorem frames_advance_positive {args : MoveArgs} (axis : args.OnAxis)
    (positive : 0 < args.speed.toInt) :
    FramesAdvance args ↔ args.start + (args.finish - args.start + args.speed.toInt - 1) /
      args.speed.toInt * args.speed.toInt ≤ 65535 := by
  obtain ⟨low, forward, high⟩ := axis.bounds
  have speedHigh : args.speed.toInt < 32768 := args.speed.toInt_lt
  obtain ⟨covers, least, some⟩ := ceiling_bounds positive (Int.sub_pos.mpr forward)
  have path : ∀ frames : Nat, args.path frames =
      args.start + min (frames * args.speed.toInt) (args.finish - args.start) := fun frames => if_pos positive
  unfold FramesAdvance
  generalize args.speed.toInt = speed at *
  generalize (args.finish - args.start + speed - 1) / speed = steps at *
  constructor
  · intro advances
    -- the last step: from the position before the end
    have cast : ((steps - 1).toNat : Int) = steps - 1 := Int.toNat_of_nonneg (by omega)
    have last := advances (steps - 1).toNat
    have before : args.path (steps - 1).toNat = args.start + (steps * speed - speed) := by
      rw [path, cast, sub_mul, one_mul]
      omega
    have after : args.path ((steps - 1).toNat + 1) = args.finish := by
      rw [path, Nat.cast_succ, cast, Int.sub_add_cancel]
      omega
    rw [before, after] at last
    have reached := last (by omega)
    unfold advance u16 at reached
    split at reached <;> omega
  · intro inside frames before
    rw [path] at before
    -- the step is one of those that cover the distance
    have within : (frames : Int) + 1 ≤ steps := by
      by_contra more
      have := Int.mul_le_mul_of_nonneg_right (show steps ≤ (frames : Int) by omega) positive.le
      omega
    have noWrap := Int.mul_le_mul_of_nonneg_right within positive.le
    have nonneg : 0 ≤ (frames : Int) * speed := Int.mul_nonneg (Int.natCast_nonneg frames) positive.le
    rw [add_mul, one_mul] at noWrap
    rw [path, path, Nat.cast_succ, add_mul, one_mul]
    unfold advance u16
    split <;> omega

/-- The steps of a negative speed: the first one wraps around. -/
theorem frames_advance_negative {args : MoveArgs} (axis : args.OnAxis)
    (negative : args.speed.toInt < 0) :
    FramesAdvance args ↔ args.speed.toInt = -1 ∧ args.start = 0 ∧ args.finish = 1 := by
  obtain ⟨low, forward, high⟩ := axis.bounds
  have speedLow : -32768 ≤ args.speed.toInt := args.speed.le_toInt
  have path : ∀ frames : Nat, args.path frames =
      args.start + min (frames / -args.speed.toInt) (args.finish - args.start) :=
    fun frames => if_neg (by omega)
  constructor
  · intro advances
    have start : args.path 0 = args.start := documented_zero (Int.le_of_lt forward)
    have first := advances 0 (by rw [start]; exact forward)
    rw [start, path, Nat.zero_add, Nat.cast_one] at first
    by_cases one : args.speed.toInt = -1
    · rw [one, Int.neg_neg, Int.ediv_one] at first
      unfold advance u16 at first
      refine ⟨one, ?_⟩
      split at first <;> omega
    · -- no pixel in the first frame is documented
      have none : (1 : Int) / -args.speed.toInt = 0 := Int.ediv_eq_zero_of_lt (by omega) (by omega)
      rw [none] at first
      unfold advance u16 at first
      exfalso
      split at first <;> omega
  · rintro ⟨one, zero, end1⟩ frames before
    rw [path, one, Int.neg_neg, Int.ediv_one] at before
    have start : frames = 0 := by omega
    subst start
    rw [path, path, one, zero, end1]
    decide

/-- **Which arguments take the documented steps.** -/
theorem frames_advance_iff {args : MoveArgs} (axis : args.OnAxis) (moving : args.speed.toInt ≠ 0) :
    FramesAdvance args ↔ args.Advances := by
  unfold MoveArgs.Advances
  rcases Int.lt_or_gt_of_ne moving with negative | positive
  · rw [frames_advance_negative axis negative]
    exact ⟨Or.inr, fun advances => advances.resolve_left fun forward => by omega⟩
  · rw [frames_advance_positive axis positive]
    exact ⟨fun inside => .inl ⟨positive, inside⟩, fun advances => by
      rcases advances with ⟨-, inside⟩ | ⟨backward, -⟩
      · exact inside
      · omega⟩

/-- **`video_test_move` moves as documented, in every run**, exactly for a positive speed whose last step
stays in 16 bits, and for the one pixel from 0 to 1 at speed -1. -/
theorem move_documented_iff (mode : ModeInfo) (image : Xpm) (calls : MoveCalls) (args : MoveArgs)
    (axis : args.OnAxis) (moving : args.speed ≠ 0) (printable : args.Printable mode image)
    (ready : calls.setsUp) :
    (∀ receives, Documented args
      (Runs.run (moveStep mode image calls args) (videoTestMove mode image calls args) receives)) ↔
      args.Advances := by
  rw [runs_documented_iff axis printable ready]
  refine frames_advance_iff axis fun zero => moving ?_
  exact Int16.toInt_inj.mp zero

/-- From 10 to 20 at speed -2, on the screen of mode `0x105`: the first frame moves backwards, to 8. -/
theorem not_documented_backwards :
    let args : MoveArgs := ⟨10, 0, 20, 0, -2⟩
    let test := Runs.run (moveStep ⟨1024, 768⟩ Xpm.bullet ⟨true, true⟩ args)
      (videoTestMove ⟨1024, 768⟩ Xpm.bullet ⟨true, true⟩ args) [timerOnly]
    test.drawn = [(10, 0), (8, 0)] ∧ ¬ Documented args test := by
  refine ⟨by decide, fun documented => ?_⟩
  have drawn := documented.drawn
  revert drawn
  decide

/-- From 10 to 20 at speed 3: the last step is the remaining pixel. -/
theorem move_documented_three :
    let args : MoveArgs := ⟨10, 0, 20, 0, 3⟩
    let test := Runs.run (moveStep ⟨1024, 768⟩ Xpm.bullet ⟨true, true⟩ args)
      (videoTestMove ⟨1024, 768⟩ Xpm.bullet ⟨true, true⟩ args) (List.replicate 4 timerOnly)
    test.drawn = [(10, 0), (13, 0), (16, 0), (19, 0), (20, 0)] ∧ Documented args test := by
  refine ⟨by decide, ?_⟩
  refine (move_documented_iff ⟨1024, 768⟩ Xpm.bullet ⟨true, true⟩ ⟨10, 0, 20, 0, 3⟩ (.inl (by decide))
    (by decide) (fun coordinate low high => ?_) rfl).mpr (.inl (by decide)) _
  have left : (10 : Int) ≤ coordinate := low
  have right : coordinate ≤ 20 := high
  refine printXpm_of_fits _ _ ?_ ?_ ?_ ?_
  · show (0 : Int) ≤ coordinate
    omega
  · exact Int.le_refl 0
  · show coordinate + 8 ≤ 1024
    omega
  · show (0 : Int) + 30 ≤ 768
    decide

end Lab

end SpaceInvaders
