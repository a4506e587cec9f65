/-
**The formation's way down.**

No test of the program looks at the bottom of the screen. A game ends before the formation gets there
only when the ship stands below some column at the right moment; otherwise the drop from 810 to 850
takes a row off the screen, the frame is not drawn, and `game_state` returns 1.

* `drop_leaves`, `above_unless_drop`: one tick;
* `draws_safely_iff`: a run never fails to draw exactly when it never takes that drop.
-/

import SpaceInvaders.Game.Drawing

namespace SpaceInvaders

/-- A message to a running game has not failed: a tick drew every active enemy's sprite on the screen,
and the program has not returned 1. -/
def DrawsSafely (program : Program) (receive : Receive) : Prop :=
  program.control = .gameState →
    (step mode14C program receive).control ≠ .returned 1 ∧
      (receive.ticks = 1 → SpritesOnScreen mode14C (step mode14C program receive).globals.arena)

/-- A tick of a running game makes the formation drop, and an active enemy ends below the screen: the
call of `move_enemies` is due, a drop is pending, no active enemy is at the edge. -/
def DropsBelow (program : Program) (receive : Receive) : Prop :=
  program.control = .gameState ∧ receive.ticks = 1 ∧
    30 ≤ program.globals.arena.enemyMoveTimer + 1 ∧ program.globals.arena.shouldDrop = true ∧
    hitEdge mode14C program.globals.arena = false ∧
    ∃ enemy ∈ program.globals.arena.enemies, enemy.active = true ∧ 864 < enemy.y + 40 + 34

/-! ### One tick -/

/-- The active enemies after a tick were active after its moves. -/
theorem mem_advance_of_tickArena {timer roll : Nat} {arena : Arena} {lost : Bool} {enemy : Enemy}
    (member : enemy ∈ (tickArena mode14C timer roll arena lost).1.enemies)
    (active : enemy.active = true) : enemy ∈ (advance mode14C timer roll arena).enemies := by
  rcases tickArena_enemies mode14C timer roll arena lost with same | ⟨index, killed, _, _, after⟩
  · rw [same] at member
    exact member
  · rw [after] at member
    exact mem_of_mem_set_kill member active

/-- Unless it drops from there, the formation stays above the bottom of the screen. -/
theorem above_unless_drop {timer roll : Nat} {arena : Arena} (above : AboveBottom arena)
    (stays : ¬ (30 ≤ arena.enemyMoveTimer + 1 ∧ arena.shouldDrop = true ∧
      hitEdge mode14C arena = false ∧
      ∃ enemy ∈ arena.enemies, enemy.active = true ∧ 864 < enemy.y + 40 + 34)) :
    AboveBottom (tickArena mode14C timer roll arena false).1 := by
  intro enemy member active
  have moved := mem_advance_of_tickArena member active
  rcases advance_enemies_cases mode14C timer roll arena with ⟨_, same⟩ | ⟨due, clear, pending, drop⟩ |
    ⟨_, _, _, step⟩
  · rw [same] at moved
    exact above enemy moved active
  · -- a drop that does not lead below the screen
    rw [drop] at moved
    obtain ⟨before, inside, rfl⟩ := List.mem_map.mp moved
    rw [dropEnemy_active] at active
    rw [dropEnemy_of_active active]
    show before.y + 40 + 34 ≤ 864
    by_contra below
    exact stays ⟨due, pending, clear, before, inside, active, not_le.mp below⟩
  · rw [step] at moved
    obtain ⟨before, inside, rfl⟩ := List.mem_map.mp moved
    rw [stepEnemy_active] at active
    rw [stepEnemy_of_active _ active]
    exact above before inside active

/-- The drop leads below the screen: no bullet is low enough to hit an enemy there. -/
theorem drop_leaves {timer roll : Nat} {arena : Arena} (onField : OnField arena)
    (due : 30 ≤ arena.enemyMoveTimer + 1) (pending : arena.shouldDrop = true)
    (clear : hitEdge mode14C arena = false) {enemy : Enemy} (member : enemy ∈ arena.enemies)
    (active : enemy.active = true) (low : 864 < enemy.y + 40 + 34) :
    ¬ AboveBottom (tickArena mode14C timer roll arena false).1 := by
  intro above
  have dropped : dropEnemy enemy ∈ (advance mode14C timer roll arena).enemies := by
    rcases advance_enemies_cases mode14C timer roll arena with ⟨early | edge, _⟩ | ⟨_, _, _, drop⟩ |
      ⟨_, _, steps, _⟩
    · omega
    · rw [clear] at edge
      cases edge
    · rw [drop]
      exact List.mem_map_of_mem member
    · rw [pending] at steps
      cases steps
  have survives : dropEnemy enemy ∈ (tickArena mode14C timer roll arena false).1.enemies := by
    rw [tickArena_fst]
    refine mem_checkBulletEnemyCollision dropped fun bullet inside used => ?_
    change bullet ∈ (advance mode14C timer roll arena).bullets at inside
    rw [advance_bullets] at inside
    obtain ⟨before, _, rfl⟩ := List.mem_map.mp inside
    obtain ⟨was, same, _⟩ := updateBullet_of_active used
    have high := onField.bullets before (by assumption) was
    rw [same, dropEnemy_of_active active]
    by_contra hits
    have box := overlaps_iff.mp ((Bool.not_eq_false _).mp hits)
    simp only [bulletHeight] at box
    omega
  have fits := above _ survives (by rw [dropEnemy_active, active])
  rw [dropEnemy_of_active active] at fits
  change enemy.y + 40 + 34 ≤ 864 at fits
  omega

/-! ### Over whole runs -/

theorem menuHandlerLoop_ne_failure (globals : Globals) :
    (menuHandlerLoop globals).control ≠ .returned 1 := by
  rcases menuHandlerLoop_control globals with waits | returned
  · rw [waits]
    exact fun same => by cases same
  · rw [returned]
    decide

theorem gameStateLoop_ne_failure (globals : Globals) :
    (gameStateLoop globals).control ≠ .returned 1 := by
  unfold gameStateLoop
  split
  · exact menuHandlerLoop_ne_failure _
  · exact fun same => by cases same

/-- A tick that draws its frame does not return 1. -/
theorem finishTick_control {mode : ModeInfo} {answers : Answers} {globals : Globals}
    (drawn : drawsFrame mode globals.arena = true) :
    (finishTick mode answers globals).control ≠ .returned 1 := by
  unfold finishTick loseGame winGame
  rw [if_neg (not_not.mpr drawn)]
  split
  · exact menuHandlerLoop_ne_failure _
  split
  · exact menuHandlerLoop_ne_failure _
  · exact gameStateLoop_ne_failure _

/-- Above the bottom before a message without such a drop, the formation is above it afterwards. -/
theorem above_message {program : Program} (running : program.control = .gameState)
    (above : AboveBottom program.globals.arena) {receive : Receive}
    (stays : ¬ DropsBelow program receive) :
    AboveBottom (step mode14C program receive).globals.arena := by
  rw [(step_of_running mode14C running receive).1]
  cases receive with
  | failed => exact above
  | ignored => exact above
  | hardware keyboard timer =>
    cases timer with
    | none =>
      show AboveBottom (gameInput mode14C keyboard program.globals).arena
      rw [gameInput_arena_eq]
      exact above
    | some answers =>
      show AboveBottom (tickArena mode14C _ _ (gameInput mode14C keyboard program.globals).arena false).1
      rw [gameInput_arena_eq]
      exact above_unless_drop (by exact above) fun drop => stays ⟨running, rfl, drop⟩

/-- A message after which the formation is above the bottom has drawn it. -/
theorem drawsSafely_of_above {program : Program} (reached : Reachable mode14C program)
    {receive : Receive}
    (above : program.control = .gameState →
      AboveBottom (step mode14C program receive).globals.arena) : DrawsSafely program receive := by
  intro running
  have rigid : Rigid (step mode14C program receive).globals.arena :=
    (rigid_invariant.reachable (reached.step receive)).1
  refine ⟨?_, fun _ => (spritesOnScreen_iff rigid).mpr (above running)⟩
  obtain ⟨control, globals⟩ := program
  cases running
  cases receive with
  | failed => exact gameStateLoop_ne_failure _
  | ignored => exact gameStateLoop_ne_failure _
  | hardware keyboard timer =>
    cases timer with
    | none => exact gameStateLoop_ne_failure _
    | some answers =>
      have onField : OnField (tickArena mode14C (globals.timerCounter + 1) answers.enemyRoll
          (gameInput mode14C keyboard globals).arena false).1 := by
        have begins : AtTick mode14C (gameInput mode14C keyboard globals) :=
          ⟨_, keyboard, reached, rfl, rfl⟩
        exact (field_invariant.atTick begins).2.tickArena _ _
      have same := (@step_of_running mode14C ⟨.gameState, globals⟩ rfl
        (.hardware keyboard (some answers))).1
      rw [same] at above rigid
      have drawn := drawsFrame_of_sprites onField ((spritesOnScreen_iff rigid).mpr (above rfl))
      refine finishTick_control ?_
      show drawsFrame mode14C (tickArena mode14C ((gameInput mode14C keyboard globals).timerCounter + 1)
        _ _ false).1 = true
      rw [gameInput_timerCounter]
      exact drawn

/-- A safe message is no such drop. -/
theorem not_dropsBelow_of_drawsSafely {program : Program} (reached : Reachable mode14C program)
    {receive : Receive} (safe : DrawsSafely program receive) : ¬ DropsBelow program receive := by
  rintro ⟨running, tick, due, pending, clear, enemy, member, active, low⟩
  have rigid := (rigid_invariant.reachable (reached.step receive)).1
  have above := (spritesOnScreen_iff rigid).mp ((safe running).2 tick)
  rw [(step_of_running mode14C running receive).1] at above
  cases receive with
  | failed => cases tick
  | ignored => cases tick
  | hardware keyboard timer =>
    cases timer with
    | none => cases tick
    | some answers =>
      have onField : OnField (gameInput mode14C keyboard program.globals).arena :=
        (field_invariant.atTick ⟨program, keyboard, reached, running, rfl⟩).2
      rw [messageArena, gameInput_arena_eq] at above
      rw [gameInput_arena_eq] at onField
      exact drop_leaves onField due pending clear member active low above

/-- A game starts far above the bottom. -/
theorem above_startArena (mode : ModeInfo) (arena : Arena) : AboveBottom (startArena mode arena) := by
  show ∀ enemy ∈ (initEnemies Arena.initial).enemies, enemy.active = true → enemy.y + 34 ≤ 864
  decide

/-- **When a game is drawn to its end.** Over a whole run no message makes a running game fail exactly
when no tick takes the drop that leads below the screen. -/
theorem draws_safely_iff (csv : Option (List UInt8)) (messages : List Receive) :
    Runs.Along (step mode14C) DrawsSafely (start csv) messages ↔
      Runs.Along (step mode14C) (fun program receive => ¬ DropsBelow program receive) (start csv)
        messages := by
  have reached := reachable_start mode14C csv
  constructor
  · refine @Runs.Along.of_inductive _ _ _ (Reachable mode14C) _ _
      (fun program receive reached safe => ?_) _ reached _
    exact ⟨reached.step receive, not_dropsBelow_of_drawsSafely reached safe⟩
  · refine @Runs.Along.of_inductive _ _ _ (fun program => Reachable mode14C program ∧
      (program.control = .gameState → AboveBottom program.globals.arena)) _ _
      (fun program receive inv stays => ?_) _ ⟨reached, ?_⟩ _
    · obtain ⟨reached, above⟩ := inv
      have next := fun running => above_message running (above running) stays
      refine ⟨⟨reached.step receive, fun runs => ?_⟩, drawsSafely_of_above reached next⟩
      rcases control_before runs with running | waits
      · exact next running
      · obtain ⟨arena, same⟩ := GameStarts.arena_eq ⟨program, receive, reached, waits, rfl, runs⟩
        rw [same]
        exact above_startArena mode14C arena
    · exact fun running => absurd running (menuHandlerLoop_ne_gameState _)

end SpaceInvaders
