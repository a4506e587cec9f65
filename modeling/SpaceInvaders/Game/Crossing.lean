/-
**A game that ends in a drawing error.**

While a row passes the ship's height the ship must be beside the formation, which leaves room on one side
only once it is past the middle. There the keys of one pause between two ticks bring the ship across.
A player who does that at every pass sees the whole formation sink below the screen.

* `Faces.block`: the messages of one move;
* `faces_crossing`, `sinks`: any number of moves, and the drop that is not drawn;
* `not_drawsSafely_crossing`: the run from the first key to `game_state` returning 1.
-/

import SpaceInvaders.Game.Descent
import SpaceInvaders.Game.Facing

namespace SpaceInvaders

/-! ### The course of the formation -/

/-- What holds of the offset on the way down: a drop is pending only behind an edge. -/
structure OnCourse (formation : Formation) : Prop where
  direction : formation.direction = 1 ∨ formation.direction = -1
  grid : 20 ∣ formation.dx
  left : -80 ≤ formation.dx
  right : formation.dx ≤ 500
  top : 0 ≤ formation.dy
  turned : formation.shouldDrop = true →
    (formation.dx = 500 ∧ formation.direction = -1) ∨ (formation.dx = -80 ∧ formation.direction = 1)

namespace Formation

/-- Where the ship is when a move comes up: on the far side of the middle, where the formation leaves
it room. -/
def berth (formation : Formation) : Int :=
  if formation.dx < 200 ∨ formation.dx = 200 ∧ formation.direction = 1 then 860 else 230

/-- Where the ship stands during the move. -/
def stand (formation : Formation) : Int :=
  if formation.dx < 200 ∨ formation.dx = 200 ∧ formation.direction = -1 then 860 else 230

/-- The keys that bring the ship from its berth to its stand. -/
def passing (formation : Formation) : List Receive :=
  if formation.dx = 200 then
    if formation.direction = 1 then List.replicate 21 (press kbA)
    else List.replicate 21 (press kbD)
  else []

/-- The roll that picks a column between the stands. -/
def aim (formation : Formation) : Nat := if formation.dx ≤ 400 then 3 else 2

/-- The messages of one move. -/
def block (formation : Formation) : List Receive :=
  formation.passing ++ (List.replicate 29 (timerTick formation.aim) ++ [timerTick formation.aim])

variable {formation : Formation}

/-- **The moves on the course**: a turn at an edge, a drop behind it, a step between the edges. -/
theorem move_on (course : OnCourse formation) :
    (formation.move.dx = formation.dx ∧ formation.move.dy = formation.dy ∧
      formation.move.shouldDrop = true ∧ formation.move.direction = -formation.direction ∧
      ((formation.dx = 500 ∧ formation.direction = 1) ∨
        (formation.dx = -80 ∧ formation.direction = -1))) ∨
    (formation.move.dx = formation.dx ∧ formation.move.dy = formation.dy + 40 ∧
      formation.move.shouldDrop = false ∧ formation.move.direction = formation.direction ∧
      ((formation.dx = 500 ∧ formation.direction = -1) ∨
        (formation.dx = -80 ∧ formation.direction = 1))) ∨
    (formation.move.dx = formation.dx + formation.direction * 20 ∧
      formation.move.dy = formation.dy ∧
      formation.move.shouldDrop = false ∧ formation.move.direction = formation.direction ∧
      -80 ≤ formation.move.dx ∧ formation.move.dx ≤ 500) := by
  obtain ⟨heads, grid, left, right, _, turned⟩ := course
  have edge : formation.atEdge = true ↔ (formation.dx = 500 ∧ formation.direction = 1) ∨
      (formation.dx = -80 ∧ formation.direction = -1) := by
    unfold atEdge
    rcases heads with heads | heads
    · rw [heads, if_pos (by decide), decide_eq_true_eq]
      omega
    · rw [heads, if_neg (by decide), decide_eq_true_eq]
      omega
  unfold move
  by_cases at' : formation.atEdge = true
  · rw [if_pos at']
    exact .inl ⟨rfl, rfl, rfl, by show formation.direction * -1 = _; omega, edge.mp at'⟩
  rw [if_neg at']
  by_cases drop : formation.shouldDrop = true
  · rw [if_pos drop]
    exact .inr (.inl ⟨rfl, rfl, rfl, rfl, turned drop⟩)
  · rw [if_neg drop]
    refine .inr (.inr ⟨rfl, rfl, rfl, rfl, ?_⟩)
    rw [edge] at at'
    show -80 ≤ formation.dx + formation.direction * 20 ∧ formation.dx + formation.direction * 20 ≤ 500
    omega

theorem move_onCourse (course : OnCourse formation) : OnCourse formation.move := by
  have moves := move_on course
  obtain ⟨heads, grid, left, right, top, _⟩ := course
  rcases moves with ⟨dx, dy, drop, turn, edge⟩ | ⟨dx, dy, drop, turn, _⟩ |
    ⟨dx, dy, drop, turn, inside⟩
  · exact ⟨by omega, dx ▸ grid, by omega, by omega, by omega, fun _ => by omega⟩
  · exact ⟨by omega, dx ▸ grid, by omega, by omega, by omega,
      fun pending => by rw [drop] at pending; cases pending⟩
  · exact ⟨by omega, by omega, by omega, by omega, by omega,
      fun pending => by rw [drop] at pending; cases pending⟩

theorem dy_le_move (course : OnCourse formation) : formation.dy ≤ formation.move.dy := by
  rcases move_on course with ⟨_, dy, _⟩ | ⟨_, dy, _⟩ | ⟨_, dy, _⟩ <;> omega

/-- The stand of one move is the berth of the next. -/
theorem move_berth (course : OnCourse formation) : formation.move.berth = formation.stand := by
  have heads := course.direction
  have grid := course.grid
  unfold berth stand
  rcases move_on course with ⟨dx, _, _, turn, edge⟩ | ⟨dx, _, _, turn, edge⟩ | ⟨dx, _, _, turn, _⟩
  all_goals
    split
    · rw [if_pos (by omega)]
    · rw [if_neg (by omega)]

theorem stand_is (formation : Formation) : Stand formation.stand := by
  unfold stand
  split
  · exact .inr rfl
  · exact .inl rfl

/-- The stand is beside the formation before and after the move. -/
theorem beside_stand (course : OnCourse formation) :
    formation.Beside formation.stand ∧ formation.move.Beside formation.stand := by
  have heads := course.direction
  have grid := course.grid
  unfold Beside stand
  rcases move_on course with ⟨dx, _, _, _, edge⟩ | ⟨dx, _, _, _, edge⟩ | ⟨dx, _⟩
  all_goals
    split
    · omega
    · omega

/-- The shots of the block fall between the stands. -/
theorem aims_between (course : OnCourse formation) :
    formation.AimsBetween formation.aim ∧ formation.move.AimsBetween formation.aim := by
  have moves := move_on course
  obtain ⟨heads, _, left, right, _, _⟩ := course
  unfold AimsBetween aim
  rcases moves with ⟨dx, _⟩ | ⟨dx, _⟩ | ⟨dx, _⟩
  all_goals
    split
    · omega
    · omega

end Formation

/-! ### Messages -/

/-- A running game whose ship faces the formation. -/
structure Faces (formation : Formation) (moveTimer x : Int) (program : Program) : Prop where
  reached : Reachable mode14C program
  running : program.control = .gameState
  goesOn : program.globals.scancode ≠ kbBreakEsc
  unhurt : program.globals.playerLost = false
  field : Facing formation moveTimer x program.globals.arena

namespace Faces

variable {formation : Formation} {moveTimer x : Int} {program : Program}

/-- A make code acts on the arena through `ship_action` only. -/
theorem press (faces : Faces formation moveTimer x program) {scancode : UInt8} {x' : Int}
    (make : scancode &&& kbBreakCode = 0)
    (moves : Facing formation moveTimer x' (shipAction mode14C scancode program.globals.arena)) :
    Faces formation moveTimer x' (step mode14C program (SpaceInvaders.press scancode)) := by
  obtain ⟨control, globals⟩ := program
  cases faces.running
  have other : scancode ≠ kbBreakEsc := by
    rintro rfl
    exact absurd make (by decide)
  have result : step mode14C ⟨.gameState, globals⟩ (SpaceInvaders.press scancode) =
      ⟨.gameState, gameInput mode14C (some (delivers scancode)) globals⟩ := by
    have key : (gameInput mode14C (some (delivers scancode)) globals).scancode = scancode := by
      show (gameKeyboard mode14C (delivers scancode) globals).scancode = _
      simp only [gameKeyboard, kbcIh_delivers]
      split <;> rfl
    show gameStateLoop (gameInput mode14C (some (delivers scancode)) globals) = _
    rw [gameStateLoop, key, if_neg other]
  have input : gameInput mode14C (some (delivers scancode)) globals =
      { globals with
        scancode := scancode
        arena := shipAction mode14C scancode globals.arena
        score :=
          if launchesBullet scancode globals.arena then scoreAddBullet globals.score
          else globals.score } := by
    show gameKeyboard mode14C (delivers scancode) globals = _
    simp only [gameKeyboard, kbcIh_delivers]
    rw [if_neg (not_not.mpr make)]
  have reached := faces.reached.step (SpaceInvaders.press scancode)
  rw [result, input] at reached ⊢
  exact ⟨reached, rfl, other, faces.unhurt, moves⟩

theorem left (faces : Faces formation moveTimer x program) (n : Nat) (room : 20 + 30 * (n : Int) < x)
    (small : x < 65536) :
    Faces formation moveTimer (x - 30 * n)
      (run mode14C program (List.replicate n (SpaceInvaders.press kbA))) := by
  induction n generalizing x program with
  | zero =>
    rw [show x - 30 * ((0 : Nat) : Int) = x by omega]
    exact faces
  | succ n ih =>
    have next := faces.press (by decide) (faces.field.left (by omega) small)
    have rest := ih next (by omega) (by omega)
    rwa [show x - 30 - 30 * (n : Int) = x - 30 * ((n + 1 : Nat) : Int) by omega] at rest

theorem right (faces : Faces formation moveTimer x program) (n : Nat) (low : 0 ≤ x)
    (room : x + 30 * (n : Int) ≤ 1102) :
    Faces formation moveTimer (x + 30 * n)
      (run mode14C program (List.replicate n (SpaceInvaders.press kbD))) := by
  induction n generalizing x program with
  | zero =>
    rw [show x + 30 * ((0 : Nat) : Int) = x by omega]
    exact faces
  | succ n ih =>
    have next := faces.press (by decide) (faces.field.right low (by omega))
    have rest := ih next (by omega) (by omega)
    rwa [show x + 30 + 30 * (n : Int) = x + 30 * ((n + 1 : Nat) : Int) by omega] at rest

/-- A tick that draws its frame. -/
theorem tick (faces : Faces formation moveTimer x program) {roll : Nat}
    (aims : (formation.tick moveTimer).1.AimsBetween roll) (stand : Stand x)
    (beside : (formation.tick moveTimer).1.Beside x)
    (drawn : ∀ arena, Facing (formation.tick moveTimer).1 (formation.tick moveTimer).2 x arena →
      SpaceInvaders.drawsFrame mode14C arena = true) :
    Faces (formation.tick moveTimer).1 (formation.tick moveTimer).2 x
      (step mode14C program (timerTick roll)) := by
  have firing := (fire_invariant.reachable faces.reached).2 faces.running
  obtain ⟨moved, safe⟩ := faces.field.tickArena firing aims stand beside
  obtain ⟨control, globals⟩ := program
  cases faces.running
  have unhurt : (gameTick mode14C ⟨roll, 0, .success⟩ globals).playerLost = false := by
    show (tickArena mode14C _ _ _ globals.playerLost).2 = false
    rw [faces.unhurt]
    exact safe
  have onScreen : SpaceInvaders.drawsFrame mode14C
      (gameTick mode14C ⟨roll, 0, .success⟩ globals).arena = true := drawn _ moved
  have notWon : countActiveEnemies (gameTick mode14C ⟨roll, 0, .success⟩ globals).arena ≠ 0 :=
    moved.not_won
  have goesOn : (gameTick mode14C ⟨roll, 0, .success⟩ globals).scancode ≠ kbBreakEsc := faces.goesOn
  have result : step mode14C ⟨.gameState, globals⟩ (timerTick roll) =
      ⟨.gameState, gameTick mode14C ⟨roll, 0, .success⟩ globals⟩ := by
    show finishTick mode14C _ (gameTick mode14C _ globals) = _
    rw [finishTick, if_neg (not_not.mpr onScreen), if_neg (by rw [unhurt]; exact Bool.false_ne_true),
      if_neg notWon, gameStateLoop, if_neg goesOn]
  have reached := faces.reached.step (timerTick roll)
  rw [result] at reached ⊢
  exact ⟨reached, rfl, goesOn, unhurt, moved⟩

/-- A tick that does not. -/
theorem fails (faces : Faces formation moveTimer x program) {roll : Nat}
    (aims : (formation.tick moveTimer).1.AimsBetween roll) (stand : Stand x)
    (beside : (formation.tick moveTimer).1.Beside x) (below : 620 < (formation.tick moveTimer).1.dy)
    (short : (formation.tick moveTimer).1.dy < 65000) :
    (step mode14C program (timerTick roll)).control = .returned 1 := by
  have firing := (fire_invariant.reachable faces.reached).2 faces.running
  obtain ⟨moved, _⟩ := faces.field.tickArena firing aims stand beside
  obtain ⟨control, globals⟩ := program
  cases faces.running
  show (finishTick mode14C _ (gameTick mode14C _ globals)).control = _
  have offScreen : ¬ SpaceInvaders.drawsFrame mode14C
      (gameTick mode14C ⟨roll, 0, .success⟩ globals).arena = true := by
    rw [Bool.not_eq_true]
    exact moved.not_drawsFrame below short
  rw [finishTick, if_pos offScreen]

/-- The ticks before the next move. -/
theorem ticks (faces : Faces formation moveTimer x program) (course : OnCourse formation)
    (bottom : formation.dy ≤ 600) (stand : Stand x) (beside : formation.Beside x) (n : Nat)
    (early : moveTimer + n < 30) :
    Faces formation (moveTimer + n) x
      (run mode14C program (List.replicate n (timerTick formation.aim))) := by
  induction n generalizing moveTimer program with
  | zero =>
    rw [show moveTimer + ((0 : Nat) : Int) = moveTimer by omega]
    exact faces
  | succ n ih =>
    have wait : formation.tick moveTimer = (formation, moveTimer + 1) := if_neg (by omega)
    have aims := (Formation.aims_between course).1
    have next := @tick _ _ _ _ faces formation.aim (by rw [wait]; exact aims) stand
      (by rw [wait]; exact beside) fun arena facing => by
        rw [wait] at facing
        exact facing.drawsFrame stand course.left course.right course.top bottom
    rw [wait] at next
    have rest := ih next (by omega)
    rwa [show moveTimer + 1 + (n : Int) = moveTimer + ((n + 1 : Nat) : Int) by omega] at rest

/-- The keys between two moves bring the ship to its stand. -/
theorem passing (faces : Faces formation moveTimer formation.berth program)
    (course : OnCourse formation) :
    Faces formation moveTimer formation.stand (run mode14C program formation.passing) := by
  unfold Formation.passing
  split
  · rename_i middle
    rcases course.direction with right | left
    · have berth : formation.berth = 860 := if_pos (.inr ⟨middle, right⟩)
      have stand : formation.stand = 230 := if_neg (by omega)
      rw [if_pos right, stand]
      rw [berth] at faces
      exact faces.left 21 (by omega) (by omega)
    · have berth : formation.berth = 230 := if_neg (by omega)
      have stand : formation.stand = 860 := if_pos (.inr ⟨middle, left⟩)
      rw [if_neg (by omega), stand]
      rw [berth] at faces
      exact faces.right 21 (by omega) (by omega)
  · have same : formation.stand = formation.berth := by
      unfold Formation.stand Formation.berth
      split
      · rw [if_pos (by omega)]
      · rw [if_neg (by omega)]
    rw [same]
    exact faces

/-- Before the move of a block. -/
theorem before_move (faces : Faces formation 0 formation.berth program) (course : OnCourse formation)
    (bottom : formation.dy ≤ 600) :
    Faces formation 29 formation.stand
      (run mode14C program
        (formation.passing ++ List.replicate 29 (timerTick formation.aim))) := by
  rw [run_append]
  exact (faces.passing course).ticks course bottom formation.stand_is
    (Formation.beside_stand course).1 29 (by omega)

/-- **One block** of the crossing. -/
theorem block (faces : Faces formation 0 formation.berth program) (course : OnCourse formation)
    (bottom : formation.move.dy ≤ 600) :
    Faces formation.move 0 formation.move.berth (run mode14C program formation.block) := by
  have low := Formation.dy_le_move course
  have next := Formation.move_onCourse course
  have ready := faces.before_move course (by omega)
  have moves : formation.tick 29 = (formation.move, 0) := rfl
  rw [Formation.block, ← List.append_assoc, run_append, Formation.move_berth course]
  refine @tick _ 29 _ _ ready formation.aim (Formation.aims_between course).2 formation.stand_is
    (Formation.beside_stand course).2 fun arena facing => ?_
  exact facing.drawsFrame formation.stand_is next.left next.right next.top bottom

end Faces

/-! ### The run -/

/-- The messages of `n` moves. -/
def crossing (formation : Formation) : Nat → List Receive
  | 0 => []
  | n + 1 => crossing formation n ++ (Formation.move^[n] formation).block

theorem crossing_succ (formation : Formation) (n : Nat) :
    crossing formation (n + 1) =
      crossing formation n ++ (Formation.move^[n] formation).block := rfl

theorem onCourse_iterate {formation : Formation} (course : OnCourse formation) (n : Nat) :
    OnCourse (Formation.move^[n] formation) := by
  induction n with
  | zero => exact course
  | succ n ih =>
    rw [Function.iterate_succ_apply']
    exact Formation.move_onCourse ih

/-- **The ship faces the formation all the way down.** -/
theorem faces_crossing {formation : Formation} {program : Program} (course : OnCourse formation)
    (faces : Faces formation 0 formation.berth program) {n : Nat}
    (bottom : (Formation.move^[n] formation).dy ≤ 600) :
    Faces (Formation.move^[n] formation) 0 (Formation.move^[n] formation).berth
      (run mode14C program (crossing formation n)) := by
  induction n with
  | zero => exact faces
  | succ n ih =>
    rw [Function.iterate_succ_apply'] at bottom ⊢
    have before := onCourse_iterate course n
    have low := Formation.dy_le_move before
    rw [crossing_succ, run_append]
    exact (ih (by omega)).block before bottom

/-- **The drop at the end of a crossing** fails to be drawn when it leads below the screen. -/
theorem sinks {formation : Formation} {program : Program} (course : OnCourse formation)
    (faces : Faces formation 0 formation.berth program) {n : Nat}
    (bottom : (Formation.move^[n] formation).dy ≤ 600)
    (below : 620 < (Formation.move^[n] formation).move.dy)
    (short : (Formation.move^[n] formation).move.dy < 65000) :
    ∃ before roll, crossing formation (n + 1) = before ++ [timerTick roll] ∧
      (run mode14C program before).control = .gameState ∧
      (step mode14C (run mode14C program before) (timerTick roll)).control = .returned 1 := by
  have before := onCourse_iterate course n
  have ready := (faces_crossing course faces bottom).before_move before bottom
  have ends := @Faces.fails _ 29 _ _ ready (Formation.move^[n] formation).aim
    (Formation.aims_between before).2 (Formation.stand_is _) (Formation.beside_stand before).2 below
    short
  rw [← run_append] at ready ends
  refine ⟨_, _, ?_, ready.running, ends⟩
  rw [crossing_succ, Formation.block]
  simp only [List.append_assoc]

/-! ### The first game -/

/-- The formation at the start of a game. -/
def opening : Formation := ⟨0, 0, 1, false⟩

theorem onCourse_opening : OnCourse opening :=
  ⟨.inl rfl, by decide, by decide, by decide, le_rfl, fun pending => by cases pending⟩

/-- The first game starts at the opening. -/
theorem faces_opening : Faces opening 0 350 (run mode14C (start none) [press kbEnter, timerTick 0]) where
  reached := (reachable_start mode14C none).run _
  running := by decide
  goesOn := by decide
  unhurt := by decide
  field := {
    march := by decide
    direction := .inl rfl
    moveTimer := by decide
    ship := by decide
    silent := by decide
    between := by decide }

/-- After 491 moves the lowest row is at 810, with a drop pending. -/
theorem sinking : Formation.move^[491] opening = ⟨-80, 600, 1, true⟩ := by
  decide +kernel

/-- The keys and ticks of a game that fails: start, cross over, and stand clear of 492 moves. -/
def fatalRun : List Receive :=
  [press kbEnter, timerTick 0] ++ List.replicate 17 (press kbD) ++ crossing opening (491 + 1)

/-- **A game that ends in a drawing error**: the last tick of the run returns 1 out of a running game. -/
theorem not_drawsSafely_crossing :
    (run mode14C (start none) fatalRun).control = .returned 1 ∧
      ¬ Runs.Along (step mode14C) DrawsSafely (start none) fatalRun := by
  have first : Faces opening 0 opening.berth
      (run mode14C (start none)
        ([press kbEnter, timerTick 0] ++ List.replicate 17 (press kbD))) := by
    rw [run_append]
    exact faces_opening.right 17 (by omega) (by omega)
  obtain ⟨before, roll, split, running, ends⟩ := sinks onCourse_opening first (n := 491)
    (by rw [sinking]) (by rw [sinking]; decide) (by rw [sinking]; decide)
  have whole : fatalRun = [press kbEnter, timerTick 0] ++ List.replicate 17 (press kbD) ++
      (before ++ [timerTick roll]) := by
    rw [fatalRun, split]
  constructor
  · rw [whole, run_append, run, Runs.run_snoc]
    exact ends
  · intro safe
    rw [whole] at safe
    have last := (Runs.along_append.mp (Runs.along_append.mp safe).2).2.1
    exact (last running).1 ends

end SpaceInvaders
