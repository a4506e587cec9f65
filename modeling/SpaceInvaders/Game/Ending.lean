/-
**Every game ends.**

`game_state` has no clock of its own: it goes on until the formation is shot, the ship is hit or rammed,
ESC is released or a frame fails. What bounds a game is the march of the formation, which the player can
thin out but not stop. Every call of `move_enemies` is paid out of a budget (`MarchBudget`): with `drops`
rows left above the lower border and `steps` steps left to the edge there are at most
`56 * drops + steps + 1` calls, and a kill never raises that number, because it bounds the way of every
active enemy.

* `march_call`: one call of `move_enemies` spends at least one unit;
* `every_game_ends`: after 33480 timer ticks, a little more than nine minutes, no game still runs.
-/

import SpaceInvaders.Game.Descent
import SpaceInvaders.Game.Turns

namespace SpaceInvaders

/-! ### The way of the formation -/

/-- `steps` steps bring every active enemy to the edge it moves to, and `drops` drops bring it to the
last row from which a drop leads below the screen. -/
structure WayLeft (steps drops : Nat) (arena : Arena) : Prop where
  right : arena.shouldDrop = false → arena.enemyDirection = 1 →
    ∀ enemy ∈ arena.enemies, enemy.active = true → 1100 ≤ enemy.x + 20 * steps
  left : arena.shouldDrop = false → arena.enemyDirection = -1 →
    ∀ enemy ∈ arena.enemies, enemy.active = true → enemy.x ≤ 20 + 20 * steps
  down : ∀ enemy ∈ arena.enemies, enemy.active = true → 790 < enemy.y + 40 * drops

/-- The calls of `move_enemies` that are left: a row costs 54 steps, a reversal and a drop. -/
def callsLeft (steps drops : Nat) (arena : Arena) : Nat :=
  56 * drops + if arena.shouldDrop then 0 else steps + 1

/-- At most `calls` calls of `move_enemies` are left. -/
def MarchBudget (calls : Nat) (arena : Arena) : Prop :=
  ∃ steps drops, WayLeft steps drops arena ∧ callsLeft steps drops arena ≤ calls

namespace MarchBudget

variable {calls : Nat} {arena arena' : Arena}

theorem congr (budget : MarchBudget calls arena) (same : arena'.march = arena.march) :
    MarchBudget calls arena' := by
  obtain ⟨steps, drops, ⟨right, left, down⟩, few⟩ := budget
  simp only [Arena.march, Prod.mk.injEq] at same
  obtain ⟨enemies, direction, pending⟩ := same
  refine ⟨steps, drops, ⟨?_, ?_, ?_⟩, ?_⟩
  · rwa [enemies, direction, pending]
  · rwa [enemies, direction, pending]
  · rwa [enemies]
  · rwa [callsLeft, pending]

/-- A kill leaves fewer enemies to bring home. -/
theorem kill (budget : MarchBudget calls arena) {index : Nat} {enemy : Enemy}
    (killed : arena'.enemies = arena.enemies.set index enemy.kill)
    (direction : arena'.enemyDirection = arena.enemyDirection)
    (pending : arena'.shouldDrop = arena.shouldDrop) : MarchBudget calls arena' := by
  obtain ⟨steps, drops, ⟨right, left, down⟩, few⟩ := budget
  have survivor : ∀ other ∈ arena'.enemies, other.active = true → other ∈ arena.enemies := by
    intro other member active
    rw [killed] at member
    exact mem_of_mem_set_kill member active
  refine ⟨steps, drops, ⟨?_, ?_, ?_⟩, ?_⟩
  · rw [direction, pending]
    exact fun clear heading other member active =>
      right clear heading other (survivor other member active) active
  · rw [direction, pending]
    exact fun clear heading other member active =>
      left clear heading other (survivor other member active) active
  · exact fun other member active => down other (survivor other member active) active
  · rwa [callsLeft, pending]

end MarchBudget

/-- **A call of `move_enemies` spends at least one unit** of the budget, as long as some enemy comes out
of it on the screen. A reversal is spent on the way sideways, and a drop buys another 54 steps. -/
theorem march_call {last : Option MoveKind} {calls : Nat} {arena : Arena}
    (turning : Turning last arena) (budget : MarchBudget calls arena)
    (onScreen : ∃ enemy ∈ (moveEnemies mode14C arena).enemies, enemy.active = true ∧
      enemy.y + 34 ≤ 864) :
    ∃ rest, rest + 1 ≤ calls ∧ MarchBudget rest (moveEnemies mode14C arena) := by
  obtain ⟨steps, drops, ⟨right, left, down⟩, few⟩ := budget
  have moved := turning.rigid.moveEnemies
  unfold callsLeft at few
  rcases moveEnemies_cases mode14C arena with ⟨edge, moves⟩ | ⟨_, drop, moves⟩ | ⟨clear, calm, moves⟩
  · -- a reversal: no drop was pending, so the way sideways is given up
    have calm : arena.shouldDrop = false := by
      by_contra pending
      have quiet := turning.clear (.inl (turning.pending.mp ((Bool.not_eq_false _).mp pending)))
      rw [quiet] at edge
      cases edge
    rw [calm, if_neg Bool.false_ne_true] at few
    rw [moves]
    refine ⟨56 * drops, by omega, 0, drops, ⟨fun pending => ?_, fun pending => ?_, down⟩, ?_⟩
    · cases pending
    · cases pending
    · show 56 * drops + 0 ≤ _
      exact le_rfl
  · -- a drop: one row further down, and a whole width to go
    rw [drop, if_pos rfl] at few
    rw [moves] at onScreen moved ⊢
    obtain ⟨lowest, member, active, high⟩ := onScreen
    obtain ⟨before, inside, rfl⟩ := List.mem_map.mp member
    rw [dropEnemy_active] at active
    rw [dropEnemy_of_active active] at high
    have above := down before inside active
    change before.y + 40 + 34 ≤ 864 at high
    obtain ⟨rows, rfl⟩ : ∃ rows, drops = rows + 1 := ⟨drops - 1, by omega⟩
    refine ⟨56 * rows + 55, by omega, 54, rows, ⟨fun _ _ enemy inside active => ?_,
      fun _ _ enemy inside active => ?_, fun enemy inside active => ?_⟩, le_rfl⟩
    · have margins := moved.margins enemy inside active
      omega
    · have margins := moved.margins enemy inside active
      omega
    · obtain ⟨was, stood, rfl⟩ := List.mem_map.mp inside
      rw [dropEnemy_active] at active
      have above := down was stood active
      rw [dropEnemy_of_active active]
      show 790 < was.y + 40 + 40 * rows
      push_cast at above
      omega
  · -- a step
    rw [calm, if_neg Bool.false_ne_true] at few
    have away := turning.rigid.clear_of_edge clear
    rw [moves] at onScreen ⊢
    obtain ⟨some, member, active, _⟩ := onScreen
    obtain ⟨before, inside, rfl⟩ := List.mem_map.mp member
    rw [stepEnemy_active] at active
    have here := away before inside active
    have goes : 1 ≤ steps := by
      rcases turning.rigid.direction with heading | heading
      · have way := right calm heading before inside active
        rw [heading] at here
        omega
      · have way := left calm heading before inside active
        rw [heading] at here
        omega
    obtain ⟨less, rfl⟩ : ∃ less, steps = less + 1 := ⟨steps - 1, by omega⟩
    refine ⟨56 * drops + (less + 1), by omega, less, drops, ⟨fun _ heading enemy inside active => ?_,
      fun _ heading enemy inside active => ?_, fun enemy inside active => ?_⟩, le_rfl⟩
    · obtain ⟨was, stood, rfl⟩ := List.mem_map.mp inside
      rw [stepEnemy_active] at active
      change arena.enemyDirection = 1 at heading
      have way := right calm heading was stood active
      rw [stepEnemy_of_active _ active, heading]
      show 1100 ≤ was.x + 1 * 20 + 20 * less
      push_cast at way
      omega
    · obtain ⟨was, stood, rfl⟩ := List.mem_map.mp inside
      rw [stepEnemy_active] at active
      change arena.enemyDirection = -1 at heading
      have way := left calm heading was stood active
      rw [stepEnemy_of_active _ active, heading]
      show was.x + -1 * 20 ≤ 20 + 20 * less
      push_cast at way
      omega
    · obtain ⟨was, stood, rfl⟩ := List.mem_map.mp inside
      rw [stepEnemy_active] at active
      rw [stepEnemy_of_active _ active]
      exact down was stood active

/-- A new formation has 19 rows below it, and at most 50 steps to go. -/
theorem marchBudget_startArena (arena : Arena) : MarchBudget 1115 (startArena mode14C arena) := by
  have places : ∀ enemy ∈ (startArena mode14C arena).enemies,
      100 ≤ enemy.x ∧ enemy.x ≤ 600 ∧ 50 ≤ enemy.y := by
    show ∀ enemy ∈ (initEnemies Arena.initial).enemies, 100 ≤ enemy.x ∧ enemy.x ≤ 600 ∧ 50 ≤ enemy.y
    decide
  refine ⟨50, 19, ⟨fun _ _ enemy member _ => ?_, fun _ _ enemy member _ => ?_,
    fun enemy member _ => ?_⟩, ?_⟩
  · have place := places enemy member
    omega
  · have place := places enemy member
    omega
  · have place := places enemy member
    omega
  · unfold callsLeft
    split <;> omega

/-! ### The ticks of a game -/

/-- The formation behind its last move, with its timer. -/
def Marching (arena : Arena) : Prop :=
  (∃ last, Turning last arena) ∧ 0 ≤ arena.enemyMoveTimer ∧ arena.enemyMoveTimer < 30

/-- A tick makes a call of `move_enemies`, or counts one further to it. -/
theorem Marching.tickArena {arena : Arena} (marching : Marching arena) (timer roll : Nat) :
    Marching (tickArena mode14C timer roll arena false).1 := by
  obtain ⟨⟨last, turning⟩, low, high⟩ := marching
  have counter : (SpaceInvaders.tickArena mode14C timer roll arena false).1.enemyMoveTimer =
      (advance mode14C timer roll arena).enemyMoveTimer := by
    rw [tickArena_fst, checkBulletEnemyCollision_eq]
    rfl
  rw [Marching, counter]
  rcases advance_march mode14C timer roll arena with ⟨early, same, clock⟩ | ⟨due, same, clock⟩
  · rw [clock]
    exact ⟨⟨last, (turning.congr same).tickArena false⟩, by omega, early⟩
  · rw [clock]
    exact ⟨⟨_, (turning.moveEnemies.2.congr same).tickArena false⟩, le_rfl, by decide⟩

/-- **The formation marches** in every reachable state, during games and between them. -/
theorem marching_invariant : ArenaInvariant mode14C Marching fun _ => Marching where
  initial := by
    refine ⟨⟨none, rigid_invariant.initial, ?_, ?_⟩, by decide, by decide⟩
    · exact iff_of_false Bool.false_ne_true fun same => by cases same
    · rintro (same | same)
      · cases same
      · cases same
  rest _ _ marching := marching
  start _ arena marching := by
    obtain ⟨⟨last, turning⟩, clock⟩ := marching
    exact ⟨⟨last, turning.startArena⟩, clock⟩
  key _ _ scancode marching := by
    obtain ⟨⟨last, turning⟩, clock⟩ := marching
    rw [shipAction_eq]
    exact ⟨⟨last, turning.congr rfl⟩, clock⟩
  tickRest _ _ _ marching := marching.tickArena _ _
  tick _ _ _ marching _ := marching.tickArena _ _

/-- At most `ticks` ticks are left to a game that waits with this arena. -/
def TicksLeft (ticks : Nat) (arena : Arena) : Prop :=
  ∃ calls, MarchBudget calls arena ∧ 30 * calls + 30 ≤ ticks + arena.enemyMoveTimer

/-- **A tick of a game is paid for**, when an enemy comes out of it on the screen. -/
theorem ticksLeft_tick {ticks timer roll : Nat} {arena : Arena} (lost : Bool) (marching : Marching arena)
    (left : TicksLeft ticks arena)
    (onScreen : ∃ enemy ∈ (tickArena mode14C timer roll arena lost).1.enemies,
      enemy.active = true ∧ enemy.y + 34 ≤ 864) :
    ∃ rest, rest + 1 ≤ ticks ∧ TicksLeft rest (tickArena mode14C timer roll arena lost).1 := by
  obtain ⟨⟨last, turning⟩, low, high⟩ := marching
  obtain ⟨calls, budget, enough⟩ := left
  -- behind the moves a tick only kills
  have spent {rest : Nat} (budget : MarchBudget rest (advance mode14C timer roll arena)) :
      MarchBudget rest (tickArena mode14C timer roll arena lost).1 := by
    rw [tickArena_fst]
    have before : MarchBudget rest
        (checkEnemyBulletCollision (advance mode14C timer roll arena) false).1 := budget.congr rfl
    rcases checkBulletEnemyCollision_enemies (checkEnemyBulletCollision
      (advance mode14C timer roll arena) false).1 with same | ⟨index, enemy, _, _, killed⟩
    · rw [checkBulletEnemyCollision_eq, same]
      exact before.congr rfl
    · rw [checkBulletEnemyCollision_eq, killed]
      exact before.kill rfl rfl rfl
  have counter : (tickArena mode14C timer roll arena lost).1.enemyMoveTimer =
      (advance mode14C timer roll arena).enemyMoveTimer := by
    rw [tickArena_fst, checkBulletEnemyCollision_eq]
    rfl
  rcases advance_march mode14C timer roll arena with ⟨early, same, clock⟩ | ⟨due, same, clock⟩
  · refine ⟨ticks - 1, by omega, calls, spent (budget.congr same), ?_⟩
    rw [counter, clock]
    omega
  · obtain ⟨enemy, member, active, high⟩ := onScreen
    have inside := mem_advance_of_tickArena member active
    have moved : (advance mode14C timer roll arena).enemies = (moveEnemies mode14C arena).enemies :=
      congrArg Prod.fst same
    rw [moved] at inside
    obtain ⟨rest, paid, later⟩ := march_call turning budget ⟨enemy, inside, active, high⟩
    refine ⟨ticks - 1, by omega, rest, spent (later.congr same), ?_⟩
    rw [counter, clock]
    omega

/-- A frame that is drawn is drawn above the lower border. -/
theorem above_of_drawn {timer roll : Nat} {arena : Arena} (lost : Bool) (above : AboveBottom arena)
    (drawn : drawsFrame mode14C (tickArena mode14C timer roll arena lost).1 = true) :
    AboveBottom (tickArena mode14C timer roll arena lost).1 := by
  intro enemy member active
  by_contra below
  have moved := mem_advance_of_tickArena member active
  have short : enemy.y < 65536 := by
    rcases advance_enemies_cases mode14C timer roll arena with ⟨_, same⟩ | ⟨_, _, _, same⟩ |
      ⟨_, _, _, same⟩
    · rw [same] at moved
      have high := above enemy moved active
      omega
    · rw [same] at moved
      obtain ⟨before, inside, rfl⟩ := List.mem_map.mp moved
      rw [dropEnemy_active] at active
      have high := above before inside active
      rw [dropEnemy_of_active active]
      show before.y + 40 < 65536
      omega
    · rw [same] at moved
      obtain ⟨before, inside, rfl⟩ := List.mem_map.mp moved
      rw [stepEnemy_active] at active
      have high := above before inside active
      rw [stepEnemy_of_active _ active]
      show before.y < 65536
      omega
  rw [drawsFrame_of_below member active (not_le.mp below) short] at drawn
  cases drawn

/-- **A running game shows its whole formation**, and every frame it has drawn did. -/
theorem above_running {program : Program} (reached : Reachable mode14C program)
    (running : program.control = .gameState) : AboveBottom program.globals.arena := by
  refine @Reachable.inGame mode14C (fun globals => AboveBottom globals.arena)
    (fun globals _ => above_startArena mode14C globals.arena)
    (fun globals receive above goesOn => ?_) program reached running
  cases receive with
  | failed => exact above
  | ignored => exact above
  | hardware keyboard timer =>
    have pressed : AboveBottom (gameInput mode14C keyboard globals).arena := by
      rw [gameInput_arena_eq]
      exact above
    cases timer with
    | none => exact pressed
    | some answers => exact above_of_drawn globals.playerLost pressed (finishTick_goesOn goesOn).1

/-- At most `ticks` ticks are left to the game of a program. -/
def GameLeft (ticks : Nat) (program : Program) : Prop :=
  Reachable mode14C program ∧
    (program.control = .gameState → TicksLeft ticks program.globals.arena)

/-- **Every message of a game is paid for by the ticks left to it.** -/
theorem gameLeft_step {ticks : Nat} {program : Program} {receive : Receive}
    (left : GameLeft ticks program) (running : program.control = .gameState) :
    ∃ rest, rest + receive.ticks ≤ ticks ∧ GameLeft rest (step mode14C program receive) := by
  obtain ⟨reached, left⟩ := left
  have marching := (marching_invariant.reachable reached).1
  obtain ⟨calls, budget, enough⟩ := left running
  have next := reached.step receive
  by_cases goesOn : (step mode14C program receive).control = .gameState
  · have after := step_goesOn running goesOn
    have alive := (alive_invariant mode14C).reachable next
    have above := above_running next goesOn
    rw [after] at alive above next ⊢
    cases receive with
    | failed => exact ⟨ticks, le_rfl, next, fun _ => ⟨calls, budget, enough⟩⟩
    | ignored => exact ⟨ticks, le_rfl, next, fun _ => ⟨calls, budget, enough⟩⟩
    | hardware keyboard timer =>
      have pressed : TicksLeft ticks (gameInput mode14C keyboard program.globals).arena := by
        rw [gameInput_arena_eq]
        exact ⟨calls, budget.congr rfl, enough⟩
      cases timer with
      | none => exact ⟨ticks, le_rfl, next, fun _ => pressed⟩
      | some answers =>
        obtain ⟨enemy, member, active⟩ := List.countP_pos_iff.mp (Nat.pos_of_ne_zero (alive.2 rfl))
        have ready : Marching (gameInput mode14C keyboard program.globals).arena := by
          rw [gameInput_arena_eq]
          exact ⟨marching.1.imp fun _ turning => turning.congr rfl, marching.2⟩
        obtain ⟨rest, paid, later⟩ :=
          ticksLeft_tick program.globals.playerLost ready pressed ⟨enemy, member, active, above enemy member active⟩
        exact ⟨rest, paid, next, fun _ => later⟩
  · -- the game is over, and the last unit pays for the tick that ended it
    have clock := marching.2
    refine ⟨ticks - 1, ?_, next, fun runs => absurd runs goesOn⟩
    cases receive with
    | failed => exact Nat.sub_le ticks 1
    | ignored => exact Nat.sub_le ticks 1
    | hardware keyboard timer =>
      cases timer with
      | none => exact Nat.sub_le ticks 1
      | some answers =>
        show ticks - 1 + 1 ≤ ticks
        omega

/-- What a game may take when it starts. -/
theorem gameLeft_started {opening : Program} (starts : GameStarts mode14C opening) :
    GameLeft 33480 opening := by
  obtain ⟨arena, same⟩ := starts.arena_eq
  have marching := (marching_invariant.reachable starts.reachable).1
  refine ⟨starts.reachable, fun _ => ⟨1115, ?_, ?_⟩⟩
  · rw [same]
    exact marchBudget_startArena arena
  · have clock := marching.2
    omega

/-- The timer ticks that a list of messages brings. -/
def ticksOf (messages : List Receive) : Nat := (messages.map Receive.ticks).sum

theorem total_ticks (mode : ModeInfo) (program : Program) (messages : List Receive) :
    Runs.total (step mode) (fun _ receive => receive.ticks) program messages = ticksOf messages := by
  induction messages generalizing program with
  | nil => rfl
  | cons receive messages ih => rw [Runs.total, ih, ticksOf, ticksOf, List.map_cons, List.sum_cons]

/-- The messages of a game bring at most 33480 ticks. -/
theorem ticks_of_plays {opening : Program} (starts : GameStarts mode14C opening)
    {messages : List Receive} (plays : Plays mode14C opening messages) :
    ticksOf messages ≤ 33480 := by
  rw [← total_ticks mode14C opening messages]
  exact Runs.total_le_of_budget (fun _ _ _ left running => gameLeft_step left running)
    (gameLeft_started starts) plays

/-- **Every game ends.** Whatever keys are pressed, whatever `rand()` returns and however often
`driver_receive` fails, once the timer has fired more than 33480 times since the start of a game, the
program has left `game_state`. -/
theorem every_game_ends {opening : Program} (starts : GameStarts mode14C opening)
    {messages : List Receive} (enough : 33480 < ticksOf messages) :
    ∃ taken < messages.length, (run mode14C opening (messages.take taken)).control ≠ .gameState := by
  by_contra still
  have plays : Plays mode14C opening messages := by
    refine (@Runs.along_state_iff _ _ (step mode14C) (fun program => program.control = .gameState) _
      _).mpr fun taken below => ?_
    by_contra left
    exact still ⟨taken, below, left⟩
  exact absurd (ticks_of_plays starts plays) (not_le.mpr enough)

/-- The first game of a program, with nobody at the keyboard. -/
theorem every_game_ends_firstGame :
    GameStarts mode14C (run mode14C (start none) [press kbEnter, timerTick 0]) ∧
      ∃ taken < (List.replicate 33481 (timerTick 0)).length,
        (run mode14C (run mode14C (start none) [press kbEnter, timerTick 0])
          ((List.replicate 33481 (timerTick 0)).take taken)).control ≠ .gameState :=
  ⟨gameStarts_firstGame, every_game_ends gameStarts_firstGame (by
    rw [ticksOf, List.map_replicate, List.sum_replicate]
    decide)⟩

end SpaceInvaders
