/-
**Every game can be won.**

`rand()` decides which enemy fires, and nothing else. The player `pilot` needs no luck: each of its shots
is launched just after a move of the formation and meets an enemy before the next one, or with it, so an
enemy falls every 30 ticks; meanwhile the formation comes down by ten rows at most, and the one bullet in
flight finds the ship on the other side of the screen.

* `Aimed.advance`: the way of a shot, tick by tick;
* `Idle.tick`, `Shooting.tick`: a tick without a shot, and one with a shot on its way;
* `tickArena_unhit`: no tick hits the ship where it stands clear;
* `Campaign.turn`: a pause and a tick, with the countdown of at most 600 ticks;
* `every_game_winnable`: from the start of any game, whatever `rand()` returns, the player wins with at least
  9000 points.
-/

import SpaceInvaders.Control.Escape
import SpaceInvaders.Game.Ending
import SpaceInvaders.Game.Results
import SpaceInvaders.Game.Strategy

namespace SpaceInvaders

/-! ### The height of the formation -/

/-- No active enemy is below the row that the ticks gone by allow for: a row costs a turn and a drop, 60
ticks, of which a pending drop has paid half. -/
def HighUp (left : Nat) (arena : Arena) : Prop :=
  ∃ rows : Nat, (∀ enemy ∈ arena.enemies, enemy.active = true → enemy.y ≤ 210 + 40 * (rows : Int)) ∧
    60 * (rows : Int) + (if arena.shouldDrop then 30 else 0) + arena.enemyMoveTimer + left ≤ 659

namespace HighUp

variable {left : Nat} {arena arena' : Arena}

theorem low (high : HighUp left arena) (counted : 0 ≤ arena.enemyMoveTimer) :
    ∀ enemy ∈ arena.enemies, enemy.active = true → enemy.y ≤ 610 := by
  obtain ⟨rows, above, paid⟩ := high
  intro enemy member active
  have place := above enemy member active
  split at paid <;> omega

/-- Where fewer enemies are left, and the rest is the same. -/
theorem mono (high : HighUp left arena)
    (survivors : ∀ enemy ∈ arena'.enemies, enemy.active = true → enemy ∈ arena.enemies)
    (pending : arena'.shouldDrop = arena.shouldDrop)
    (timer : arena'.enemyMoveTimer = arena.enemyMoveTimer) : HighUp left arena' := by
  obtain ⟨rows, above, paid⟩ := high
  refine ⟨rows, fun enemy member active => above enemy (survivors enemy member active) active, ?_⟩
  rwa [pending, timer]

/-- A tick before its checks. -/
theorem advance (high : HighUp (left + 1) arena) (early : arena.enemyMoveTimer < 30) (timer roll : Nat) :
    HighUp left (advance mode14C timer roll arena) := by
  obtain ⟨rows, above, paid⟩ := high
  rcases advance_march mode14C timer roll arena with ⟨_, same, clock⟩ | ⟨due, same, clock⟩
  · simp only [Arena.march, Prod.mk.injEq] at same
    obtain ⟨enemies, _, pending⟩ := same
    refine ⟨rows, by rwa [enemies], ?_⟩
    rw [pending, clock]
    push_cast at paid
    omega
  simp only [Arena.march, Prod.mk.injEq] at same
  obtain ⟨enemies, _, pending⟩ := same
  rcases moveEnemies_cases mode14C arena with ⟨_, moves⟩ | ⟨_, drop, moves⟩ | ⟨_, calm, moves⟩
  · -- a turn lets a drop pend
    rw [moves] at enemies pending
    refine ⟨rows, by rwa [enemies], ?_⟩
    rw [pending, clock]
    push_cast at paid
    split at paid <;> simp <;> omega
  · -- a drop
    rw [moves] at enemies pending
    refine ⟨rows + 1, fun enemy member active => ?_, ?_⟩
    · rw [enemies] at member
      obtain ⟨before, inside, rfl⟩ := List.mem_map.mp member
      rw [dropEnemy_active] at active
      have place := above before inside active
      rw [dropEnemy_of_active active]
      show before.y + 40 ≤ 210 + 40 * ((rows + 1 : Nat) : Int)
      omega
    · rw [pending, clock]
      rw [drop, if_pos rfl] at paid
      simp
      omega
  · -- a step
    rw [moves] at enemies pending
    refine ⟨rows, fun enemy member active => ?_, ?_⟩
    · rw [enemies] at member
      obtain ⟨before, inside, rfl⟩ := List.mem_map.mp member
      rw [stepEnemy_active] at active
      rw [stepEnemy_of_active _ active]
      exact above before inside active
    · rw [pending, clock]
      rw [calm, if_neg Bool.false_ne_true] at paid
      simp
      omega

theorem tickArena (high : HighUp (left + 1) arena) (early : arena.enemyMoveTimer < 30)
    (timer roll : Nat) (lost : Bool) : HighUp left (tickArena mode14C timer roll arena lost).1 := by
  refine (high.advance early timer roll).mono
    (fun enemy member active => mem_advance_of_tickArena member active) ?_ ?_
  · rw [tickArena_fst, checkBulletEnemyCollision_eq]
    rfl
  · rw [tickArena_fst, checkBulletEnemyCollision_eq]
    rfl

end HighUp

/-! ### The way of a shot -/

/-- The bullet at column `b` is below an active enemy that it will meet. -/
def Aimed (b : Int) (arena : Arena) : Prop :=
  ∃ (index : Nat) (target : Enemy), arena.enemies[index]? = some target ∧ target.active = true ∧
    target.y + 40 ≤ 670 - 20 * arena.enemyMoveTimer ∧
    meetingX arena target - 7 ≤ b ∧ b ≤ meetingX arena target + 39

/-- The shot meets an enemy when its box and the enemy's overlap. -/
theorem bulletHitsEnemy_iff {b y : Int} {enemy : Enemy} :
    bulletHitsEnemy ⟨b, y, true⟩ enemy = true ↔
      b < enemy.x + 40 ∧ enemy.x < b + 8 ∧ y < enemy.y + 40 ∧ enemy.y < y + 30 :=
  overlaps_iff

/-- **A tick of a shot that meets nothing** leaves it below its target: with the tick that moves the
formation it would have met it. -/
theorem Aimed.advance {b : Int} {arena : Arena} (aimed : Aimed b arena) (rigid : Rigid arena)
    (low : 0 ≤ arena.enemyMoveTimer) (high : arena.enemyMoveTimer < 30) {timer roll : Nat}
    (missed : ∀ enemy ∈ (advance mode14C timer roll arena).enemies, enemy.active = true →
      bulletHitsEnemy ⟨b, 670 - 20 * (arena.enemyMoveTimer + 1), true⟩ enemy = false) :
    arena.enemyMoveTimer + 1 < 30 ∧ Aimed b (SpaceInvaders.advance mode14C timer roll arena) := by
  obtain ⟨index, target, place, active, below, left, right⟩ := aimed
  have inside := List.mem_of_getElem? place
  obtain ⟨dy, down, rows⟩ := rigid.rows
  have top : 50 ≤ target.y := by
    have row := rows target inside active
    omega
  rcases advance_march mode14C timer roll arena with ⟨early, same, clock⟩ | ⟨due, same, clock⟩
  · -- the formation stands, so the shot has not come to the height of its target
    refine ⟨early, index, target, ?_⟩
    simp only [Arena.march, Prod.mk.injEq] at same
    obtain ⟨enemies, heads, pending⟩ := same
    rw [enemies] at missed
    have meeting : meetingX (SpaceInvaders.advance mode14C timer roll arena) target =
        meetingX arena target := by
      unfold meetingX hitEdge
      rw [enemies, heads, pending]
    rw [enemies, clock, meeting]
    refine ⟨place, active, ?_, left, right⟩
    by_cases highest : target.y = 50
    · omega
    · have here : meetingX arena target = target.x := if_neg fun three => highest three.1
      rw [here] at left right
      have not_met := missed target inside active
      rw [← Bool.not_eq_true, bulletHitsEnemy_iff] at not_met
      omega
  · -- only the highest row is out of reach for 29 ticks, and there the shot meets the moved target
    exfalso
    have highest : target.y = 50 := by omega
    have moved : (SpaceInvaders.advance mode14C timer roll arena).enemies =
        (moveEnemies mode14C arena).enemies := congrArg Prod.fst same
    rw [moved] at missed
    rcases moveEnemies_cases mode14C arena with ⟨edge, moves⟩ | ⟨_, drop, moves⟩ |
      ⟨clear, calm, moves⟩
    · have here : meetingX arena target = target.x := if_neg fun three => by
        rw [edge] at three
        cases three.2.1
      rw [moves] at missed
      have not_met := missed target inside active
      rw [← Bool.not_eq_true, bulletHitsEnemy_iff] at not_met
      omega
    · have here : meetingX arena target = target.x := if_neg fun three => by
        rw [drop] at three
        cases three.2.2
      rw [moves] at missed
      have not_met := missed (dropEnemy target) (List.mem_map_of_mem inside)
        (by rwa [dropEnemy_active])
      rw [← Bool.not_eq_true, bulletHitsEnemy_iff, dropEnemy_of_active active] at not_met
      dsimp only at not_met
      omega
    · have there : meetingX arena target = target.x + arena.enemyDirection * 20 :=
        if_pos ⟨highest, clear, calm⟩
      rw [moves] at missed
      have not_met := missed (stepEnemy arena.enemyDirection target) (List.mem_map_of_mem inside)
        (by rwa [stepEnemy_active])
      rw [← Bool.not_eq_true, bulletHitsEnemy_iff, stepEnemy_of_active _ active] at not_met
      dsimp only at not_met
      omega

/-- What a tick does to the bullets and the enemies, as far as the checks see them. -/
theorem tickArena_shot (timer roll : Nat) (arena : Arena) (lost : Bool) :
    ∃ before : Arena, before.bullets = arena.bullets.map updateBullet ∧
      before.enemies = (advance mode14C timer roll arena).enemies ∧
      (tickArena mode14C timer roll arena lost).1.bullets = (checkBulletEnemyCollision before).bullets ∧
      (tickArena mode14C timer roll arena lost).1.enemies = (checkBulletEnemyCollision before).enemies :=
  ⟨(checkEnemyBulletCollision (advance mode14C timer roll arena) false).1,
    advance_bullets mode14C timer roll arena, rfl, rfl, rfl⟩

/-- The variables of the march that the checks leave alone. -/
theorem tickArena_clock (timer roll : Nat) (arena : Arena) (lost : Bool) :
    (tickArena mode14C timer roll arena lost).1.enemyDirection =
        (advance mode14C timer roll arena).enemyDirection ∧
      (tickArena mode14C timer roll arena lost).1.shouldDrop =
        (advance mode14C timer roll arena).shouldDrop ∧
      (tickArena mode14C timer roll arena lost).1.enemyMoveTimer =
        (advance mode14C timer roll arena).enemyMoveTimer := by
  rw [tickArena_fst, checkBulletEnemyCollision_eq]
  exact ⟨rfl, rfl, rfl⟩

/-- The shot in the first slot against the enemies: it goes on, or it kills one of them and is gone. -/
theorem checkBulletEnemyCollision_one {arena : Arena} {shot : Bullet} {rest : List Bullet}
    (slots : arena.bullets = shot :: rest) (active : shot.active = true)
    (idle : ∀ bullet ∈ rest, bullet.active = false) :
    ((∀ enemy ∈ arena.enemies, enemy.active = true → bulletHitsEnemy shot enemy = false) ∧
        checkBulletEnemyCollision arena = arena) ∨
      ((∀ bullet ∈ (checkBulletEnemyCollision arena).bullets, bullet.active = false) ∧
        countActiveEnemies (checkBulletEnemyCollision arena) + 1 = countActiveEnemies arena) := by
  have none : rest.countP Bullet.active = 0 :=
    List.countP_eq_zero.mpr fun bullet member => by rw [idle bullet member]; exact Bool.false_ne_true
  cases meets : hitFirst shot arena.enemies with
  | none =>
    refine .inl ⟨hitFirst_eq_none_iff.mp meets, ?_⟩
    have misses : shootFirst arena.bullets arena.enemies = Option.none := by
      refine shootFirst_eq_none_iff.mpr fun bullet member used => ?_
      rw [slots] at member
      rcases List.mem_cons.mp member with rfl | later
      · exact meets
      · rw [idle bullet later] at used
        cases used
    rw [checkBulletEnemyCollision, misses]
  | some enemies =>
    have after : (checkBulletEnemyCollision arena).bullets = shot.retire :: rest := by
      rw [checkBulletEnemyCollision, slots, shootFirst, if_pos active, meets]
    have gone : ∀ bullet ∈ (checkBulletEnemyCollision arena).bullets, bullet.active = false := by
      rw [after]
      intro bullet member
      rcases List.mem_cons.mp member with rfl | later
      · exact shot.retire_active
      · exact idle bullet later
    have counts := checkBulletEnemyCollision_counts arena
    have before : bulletsInFlight arena = 1 := by
      rw [bulletsInFlight, slots, List.countP_cons_of_pos active, none]
    have landed : bulletsInFlight (checkBulletEnemyCollision arena) = 0 :=
      List.countP_eq_zero.mpr fun bullet member => by
        rw [gone bullet member]
        exact Bool.false_ne_true
    refine .inr ⟨gone, ?_⟩
    rw [before, landed] at counts
    omega

/-! ### The two phases -/

/-- No shot is on its way, and the next one is due in time: every enemy that is left costs 30 ticks. -/
structure Idle (left : Nat) (arena : Arena) : Prop where
  silent : ∀ bullet ∈ arena.bullets, bullet.active = false
  next : ∃ wait : Nat, 30 ∣ arena.enemyMoveTimer + wait ∧ 30 ≤ arena.fireDelayCounter + wait ∧
    wait + 30 * countActiveEnemies arena ≤ left

/-- A shot has been on its way since the last move of the formation. -/
structure Shooting (left : Nat) (arena : Arena) : Prop where
  slots : ∃ (b : Int) (rest : List Bullet),
    arena.bullets = ⟨b, 670 - 20 * arena.enemyMoveTimer, true⟩ :: rest ∧
      (∀ bullet ∈ rest, bullet.active = false) ∧ Aimed b arena
  delay : arena.fireDelayCounter = arena.enemyMoveTimer
  paid : 30 * (countActiveEnemies arena : Int) ≤ left + arena.enemyMoveTimer

section Tick

variable {left : Nat} {arena : Arena} (rigid : Rigid arena) (low : 0 ≤ arena.enemyMoveTimer)
  (high : arena.enemyMoveTimer < 30)

/-- The counter of the moves after a tick. -/
theorem tick_moveTimer (timer roll : Nat) (lost : Bool) :
    (arena.enemyMoveTimer + 1 < 30 ∧
        (tickArena mode14C timer roll arena lost).1.enemyMoveTimer = arena.enemyMoveTimer + 1) ∨
      (30 ≤ arena.enemyMoveTimer + 1 ∧
        (tickArena mode14C timer roll arena lost).1.enemyMoveTimer = 0) := by
  rw [(tickArena_clock timer roll arena lost).2.2]
  rcases advance_march mode14C timer roll arena with ⟨early, _, clock⟩ | ⟨due, _, clock⟩
  · exact .inl ⟨early, clock⟩
  · exact .inr ⟨due, clock⟩

include low high in
/-- **A tick without a shot**: one tick less to wait. -/
theorem Idle.tick (idle : Idle (left + 1) arena) (early : ¬ ShotDue arena) (timer roll : Nat)
    (lost : Bool) :
    Idle left (tickArena mode14C timer roll arena lost).1 ∧
      countActiveEnemies (tickArena mode14C timer roll arena lost).1 = countActiveEnemies arena := by
  obtain ⟨silent, wait, moves, ready, enough⟩ := idle
  have waits : wait ≠ 0 := by
    rintro rfl
    exact early ⟨by omega, by omega, silent⟩
  obtain ⟨before, bullets, enemies, bullets', enemies'⟩ := tickArena_shot timer roll arena lost
  have quiet : ∀ bullet ∈ before.bullets, bullet.active = false := by
    rw [bullets]
    intro bullet member
    obtain ⟨was, inside, rfl⟩ := List.mem_map.mp member
    exact updateBullet_idle was (silent was inside)
  rw [checkBulletEnemyCollision_of_idle quiet] at bullets' enemies'
  have alive : countActiveEnemies (tickArena mode14C timer roll arena lost).1 =
      countActiveEnemies arena := by
    rw [countActiveEnemies, enemies', enemies, advance_enemies]
    exact countActiveEnemies_moveAll mode14C arena
  refine ⟨⟨by rw [bullets']; exact quiet, wait - 1, ?_, ?_, ?_⟩, alive⟩
  · rcases @tick_moveTimer arena timer roll lost with ⟨_, clock⟩ | ⟨_, clock⟩ <;> rw [clock] <;> omega
  · rw [tickArena_fireDelayCounter]
    omega
  · rw [alive]
    omega

include rigid low high in
/-- **A tick with a shot on its way**: it comes nearer, or it kills an enemy. -/
theorem Shooting.tick (shooting : Shooting (left + 1) arena) (timer roll : Nat) (lost : Bool) :
    (Shooting left (tickArena mode14C timer roll arena lost).1 ∧
        countActiveEnemies (tickArena mode14C timer roll arena lost).1 = countActiveEnemies arena) ∨
      (Idle left (tickArena mode14C timer roll arena lost).1 ∧
        countActiveEnemies (tickArena mode14C timer roll arena lost).1 + 1 =
          countActiveEnemies arena) := by
  obtain ⟨⟨b, rest, slots, idle, aimed⟩, delay, paid⟩ := shooting
  obtain ⟨before, bullets, enemies, bullets', enemies'⟩ := tickArena_shot timer roll arena lost
  have counter := @tick_moveTimer arena timer roll lost
  have counted := tickArena_fireDelayCounter mode14C timer roll arena lost
  obtain ⟨heads, pending, clock⟩ := tickArena_clock timer roll arena lost
  have flies : updateBullet ⟨b, 670 - 20 * arena.enemyMoveTimer, true⟩ =
      ⟨b, 670 - 20 * (arena.enemyMoveTimer + 1), true⟩ := by
    unfold updateBullet
    rw [if_pos rfl]
    simp
    omega
  have idle' : ∀ bullet ∈ rest.map updateBullet, bullet.active = false := by
    intro bullet member
    obtain ⟨was, inside, rfl⟩ := List.mem_map.mp member
    exact updateBullet_idle was (idle was inside)
  rw [slots, List.map_cons, flies] at bullets
  have same : countActiveEnemies before = countActiveEnemies arena := by
    rw [countActiveEnemies, enemies, advance_enemies]
    exact countActiveEnemies_moveAll mode14C arena
  have after : countActiveEnemies (tickArena mode14C timer roll arena lost).1 =
      countActiveEnemies (checkBulletEnemyCollision before) := by
    rw [countActiveEnemies, enemies']
    rfl
  rw [after]
  rcases checkBulletEnemyCollision_one bullets rfl idle' with ⟨missed, stays⟩ | ⟨gone, killed⟩
  · rw [enemies] at missed
    obtain ⟨early, nearer⟩ := aimed.advance rigid low high missed
    rw [stays, bullets] at bullets'
    rw [stays, enemies] at enemies'
    rw [stays, same]
    have timer' : (tickArena mode14C timer roll arena lost).1.enemyMoveTimer =
        arena.enemyMoveTimer + 1 := by
      rcases counter with ⟨_, here⟩ | ⟨due, _⟩
      · exact here
      · omega
    refine .inl ⟨⟨⟨b, _, by rw [timer']; exact bullets', idle', ?_⟩, ?_, ?_⟩, rfl⟩
    · obtain ⟨index, target, place, active, below, window⟩ := nearer
      have meeting : meetingX (tickArena mode14C timer roll arena lost).1 target =
          meetingX (advance mode14C timer roll arena) target := by
        unfold meetingX hitEdge
        rw [enemies', heads, pending]
      exact ⟨index, target, by rw [enemies']; exact place, active, by rw [clock]; exact below,
        by rw [meeting]; exact window⟩
    · rw [counted, timer', delay]
    · rw [after, stays, same, timer']
      push_cast at paid
      omega
  · rw [same] at killed
    refine .inr ⟨⟨by rw [bullets']; exact gone, (30 - (arena.enemyMoveTimer + 1)).toNat, ?_, ?_, ?_⟩,
      killed⟩
    · rcases counter with ⟨_, here⟩ | ⟨_, here⟩ <;> rw [here] <;> omega
    · rw [counted, delay]
      omega
    · rw [after]
      push_cast at paid
      omega

end Tick

/-! ### Standing clear -/

/-- The enemies' bullet in flight falls beside the ship. -/
def Clear (arena : Arena) : Prop :=
  ∀ bullet ∈ arena.enemyBullets, bullet.active = true →
    bullet.x + 8 ≤ arena.x ∨ arena.x + 50 ≤ bullet.x

/-- The berth is beside the one bullet in flight. -/
theorem clear_berth {arena arena' : Arena} {timer : Nat}
    (inFlight : OneInFlight timer arena.enemyBullets) (fire : arena'.enemyBullets = arena.enemyBullets)
    (berth : arena'.x = berthX arena) : Clear arena' := by
  obtain ⟨first, rest, slots, _, idle, _⟩ := inFlight
  intro bullet member active
  rw [fire, slots] at member
  rcases List.mem_cons.mp member with rfl | later
  · have side : bulletRight arena = decide (600 ≤ bullet.x) := by
      have none : rest.any (fun bullet => bullet.active && decide (600 ≤ bullet.x)) = false := by
        rw [List.any_eq_false]
        intro other inside
        rw [idle other inside, Bool.false_and]
        exact Bool.false_ne_true
      rw [bulletRight, slots, List.any_cons, none, active, Bool.true_and, Bool.or_false]
    rw [berth, berthX, side]
    by_cases right : 600 ≤ bullet.x
    · rw [decide_eq_true right, if_pos rfl]
      omega
    · rw [decide_eq_false right, if_neg Bool.false_ne_true]
      omega
  · rw [idle bullet later] at active
    cases active

/-- Between the keys and the checks of a tick the bullet falls straight down, and a new one is still above
the ship. -/
theorem unhit_advance {arena : Arena} {timer : Nat} (firing : Firing timer arena) (clear : Clear arena)
    (roll : Nat)
    (high : ∀ enemy ∈ (advance mode14C (timer + 1) roll arena).enemies, enemy.active = true →
      enemy.y ≤ 610) :
    bulletOnShip (advance mode14C (timer + 1) roll arena) = false := by
  have falls : ∀ bullet ∈ (moveAll mode14C arena).enemyBullets, bullet.active = true →
      bulletHitsShip arena.x bullet = false := by
    rw [moveAll_enemyBullets]
    intro bullet member active
    obtain ⟨before, inside, rfl⟩ := List.mem_map.mp member
    obtain ⟨was, same, _⟩ := updateEnemyBullet_of_active active
    have beside := clear before inside was
    rw [same, ← Bool.not_eq_true]
    intro hits
    have box := overlaps_iff.mp hits
    simp only [bulletWidth, shipWidth] at box
    omega
  rw [bulletOnShip, advance_x, List.any_eq_false]
  intro bullet member hits
  rw [Bool.and_eq_true] at hits
  obtain ⟨active, hits⟩ := hits
  have misses : bulletHitsShip arena.x bullet = false := by
    rw [advance_enemies] at high
    unfold SpaceInvaders.advance at member
    split at member
    · rename_i due
      obtain ⟨shooter, chosen, fired⟩ := firing.shot roll due
      obtain ⟨inside, alive⟩ := List.mem_filter.mp (List.mem_of_getElem? chosen)
      have above := high shooter inside alive
      rw [fired] at member
      rcases List.mem_or_eq_of_mem_set member with before | rfl
      · exact falls bullet before active
      · rw [← Bool.not_eq_true]
        intro touches
        have box := overlaps_iff.mp touches
        simp only [enemyBullet, enemyHeight, bulletHeight, shipY] at box
        omega
    · exact falls bullet member active
  rw [misses] at hits
  cases hits

/-- **A tick does not hit a ship that stands clear** below a high formation. -/
theorem tickArena_unhit {left timer : Nat} {arena : Arena} (firing : Firing timer arena)
    (clear : Clear arena) (high : HighUp (left + 1) arena) (low : 0 ≤ arena.enemyMoveTimer)
    (early : arena.enemyMoveTimer < 30) (roll : Nat) :
    (tickArena mode14C (timer + 1) roll arena false).2 = false := by
  have moved := high.advance early (timer + 1) roll
  have counter : 0 ≤ (advance mode14C (timer + 1) roll arena).enemyMoveTimer := by
    rcases advance_march mode14C (timer + 1) roll arena with ⟨_, _, clock⟩ | ⟨_, _, clock⟩
    · rw [clock]
      omega
    · rw [clock]
  have above := moved.low counter
  have untouched : alienOnShip (shoot (advance mode14C (timer + 1) roll arena) false).1 = false := by
    rw [alienOnShip, List.any_eq_false]
    intro enemy member touches
    rw [Bool.and_eq_true] at touches
    obtain ⟨active, touches⟩ := touches
    have after : enemy ∈ (tickArena mode14C (timer + 1) roll arena false).1.enemies := member
    have place := above enemy (mem_advance_of_tickArena after active) active
    have box := overlaps_iff.mp touches
    simp only [shipY, enemyHeight] at box
    omega
  show ((false || bulletOnShip _) || alienOnShip (shoot _ false).1) = false
  rw [unhit_advance firing clear roll above, untouched]
  rfl

/-! ### The pauses -/

/-- What holds of the arena of every running game. -/
structure InPlay (timer : Nat) (arena : Arena) : Prop where
  firing : Firing timer arena
  onField : OnField arena
  marching : Marching arena
  spread : Spread arena

theorem Waits.inPlay {arena : Arena} {shots : Int} {ticks : Nat} {program : Program}
    (waits : Waits arena shots ticks program) : InPlay program.globals.timerCounter arena := by
  obtain ⟨reached, running, rfl, _, _⟩ := waits
  exact ⟨(fire_invariant.reachable reached).2 running, ((field_invariant.reachable reached).2 running).2,
    (marching_invariant.reachable reached).2 running,
    ((spread_invariant mode14C).reachable reached).2 running⟩

/-- Where the game stands: every shot but the one on its way has killed an enemy. -/
inductive Phase (left : Nat) (shots : Int) (arena : Arena) : Prop
  | idle (waits : Idle left arena) (fallen : shots + countActiveEnemies arena = 18)
  | shooting (flies : Shooting left arena) (fallen : shots + countActiveEnemies arena = 19)

theorem Shooting.not_due {left : Nat} {arena : Arena} (shooting : Shooting left arena) :
    ¬ ShotDue arena := by
  rintro ⟨_, _, silent⟩
  obtain ⟨b, rest, slots, _⟩ := shooting.slots
  have used := silent _ (by rw [slots]; exact List.mem_cons_self)
  cases used

theorem meetingX_margins {arena : Arena} (rigid : Rigid arena) {target : Enemy}
    (inside : target ∈ arena.enemies) (active : target.active = true) :
    20 ≤ meetingX arena target ∧ meetingX arena target ≤ 1100 := by
  unfold meetingX
  split
  · rename_i steps
    exact rigid.clear_of_edge steps.2.1 target inside active
  · exact rigid.margins target inside active

/-- The presses bring the gun under the place. -/
theorem pressesTo_under {place : Int} (left : 20 ≤ place) (right : place ≤ 1100) :
    place - 7 ≤ 1102 - 30 * (pressesTo place : Int) + 23 ∧
      1102 - 30 * (pressesTo place : Int) + 23 ≤ place + 39 := by
  have presses : (pressesTo place : Int) = min 36 ((1132 - place) / 30) := by
    unfold pressesTo
    rw [Nat.cast_min, Int.toNat_of_nonneg (by omega)]
    rfl
  rw [presses]
  omega

/-- A bullet starts at the middle of the ship's top. -/
theorem shipBullet_eq (x : Int) : shipBullet x = ⟨x + 23, 670, true⟩ := by
  have middle : x + 50 / 2 - 2 = x + 23 := by omega
  rw [shipBullet, shipWidth, bulletHeight, middle]
  rfl

/-- **The keys of a pause** leave a ship that stands clear, and no shot due. -/
theorem Phase.pause {left timer : Nat} {shots : Int} {arena : Arena} (phase : Phase left shots arena)
    (inPlay : InPlay timer arena) (high : HighUp left arena) :
    Phase left (shots + launches (pilot arena) arena) (actAll (pilot arena) arena) ∧
      ¬ ShotDue (actAll (pilot arena) arena) ∧ HighUp left (actAll (pilot arena) arena) ∧
      Clear (actAll (pilot arena) arena) := by
  have inside := inPlay.onField.ship
  have rigid := inPlay.firing.rigid
  by_cases due : ShotDue arena
  · cases phase with
    | shooting flies => exact absurd due flies.not_due
    | idle waits fallen =>
      obtain ⟨first, rest, slots⟩ := List.exists_cons_of_length_eq_add_one inPlay.spread.slots
      obtain ⟨target, found⟩ : ∃ target, arena.enemies.find? Enemy.active = some target := by
        rw [← Option.isSome_iff_exists, List.find?_isSome]
        exact List.countP_pos_iff.mp (Nat.pos_of_ne_zero inPlay.firing.alive)
      obtain ⟨same, one⟩ := pilot_fires inside due found slots
      obtain ⟨moved, _, silent⟩ := due
      obtain ⟨_, wait, _, _, enough⟩ := waits
      have active := List.find?_some found
      have member := List.mem_of_find?_eq_some found
      obtain ⟨index, place⟩ := List.mem_iff_getElem?.mp member
      obtain ⟨near, far⟩ := meetingX_margins rigid member active
      obtain ⟨under, window⟩ := pressesTo_under near far
      have above := high.low moved.ge target member active
      rw [same, one]
      refine ⟨.shooting
          ⟨⟨_, rest, ?_, ?_, index, target, place, active, ?_, under, window⟩, moved.symm, ?_⟩ ?_,
        fun again => ?_, ?_, clear_berth inPlay.firing.inFlight rfl rfl⟩
      · show shipBullet _ :: rest = _
        rw [moved, shipBullet_eq]
        rfl
      · exact fun bullet later => silent bullet (by rw [slots]; exact List.mem_cons_of_mem _ later)
      · show target.y + 40 ≤ 670 - 20 * arena.enemyMoveTimer
        omega
      · show 30 * (countActiveEnemies arena : Int) ≤ left + arena.enemyMoveTimer
        omega
      · show shots + 1 + (countActiveEnemies arena : Int) = 19
        omega
      · have delayed : (30 : Int) ≤ 0 := again.2.1
        exact absurd delayed (by decide)
      · exact high.mono (fun _ member _ => member) rfl rfl
  · obtain ⟨same, none⟩ := pilot_quiet inside due
    rw [same, none, Nat.cast_zero, Int.add_zero]
    refine ⟨?_, due, high.mono (fun _ member _ => member) rfl rfl,
      clear_berth inPlay.firing.inFlight rfl rfl⟩
    cases phase with
    | idle waits fallen => exact .idle ⟨waits.silent, waits.next⟩ fallen
    | shooting flies fallen => exact .shooting ⟨flies.slots, flies.delay, flies.paid⟩ fallen

/-- **A tick after the pause.** -/
theorem Phase.tick {left timer : Nat} {shots : Int} {arena : Arena} (phase : Phase (left + 1) shots arena)
    (inPlay : InPlay timer arena) (quiet : ¬ ShotDue arena) (counter roll : Nat) (lost : Bool) :
    Phase left shots (tickArena mode14C counter roll arena lost).1 := by
  obtain ⟨_, low, early⟩ := inPlay.marching
  cases phase with
  | idle waits fallen =>
    obtain ⟨later, alive⟩ := waits.tick low early quiet counter roll lost
    exact .idle later (by rw [alive]; exact fallen)
  | shooting flies fallen =>
    rcases flies.tick inPlay.firing.rigid low early counter roll lost with
      ⟨later, alive⟩ | ⟨later, killed⟩
    · exact .shooting later (by rw [alive]; exact fallen)
    · exact .idle later (by omega)

/-- As long as enemies are left, so are ticks. -/
theorem Phase.left_pos {left : Nat} {shots : Int} {arena : Arena} (phase : Phase left shots arena)
    (alive : countActiveEnemies arena ≠ 0) (early : arena.enemyMoveTimer < 30) : left ≠ 0 := by
  cases phase with
  | idle waits _ =>
    obtain ⟨_, wait, _, _, enough⟩ := waits
    omega
  | shooting flies _ =>
    have paid := flies.paid
    omega

/-! ### The ticks -/

/-- The game is won: eighteen shots, none in vain, and at least 9000 points. -/
def WonWell (after : Program) : Prop :=
  EndsWon after ∧ after.globals.score.currentScore.bulletsFired = 18 ∧
    9000 ≤ after.globals.score.currentScore.finalScore

/-- A game that the player will win within the ticks that are left. -/
def Campaign (left : Nat) (program : Program) : Prop :=
  HighUp left program.globals.arena ∧ ∃ shots ticks, Waits program.globals.arena shots ticks program ∧
    ticks + left ≤ 600 ∧ Phase left shots program.globals.arena

section Turn

variable {left ticks : Nat} {shots : Int} {arena : Arena} {program : Program}

/-- A tick that finds the ship clear below a high formation loses nothing, and draws its frame. -/
theorem Waits.tick_safe (waits : Waits arena shots ticks program) (high : HighUp (left + 1) arena)
    (clear : Clear arena) (answers : Answers) :
    tickOutcome mode14C (tickGlobals mode14C none answers program.globals) =
      if countActiveEnemies (tickGlobals mode14C none answers program.globals).arena = 0 then .won
      else .goesOn := by
  have inPlay := waits.inPlay
  obtain ⟨reached, running, rfl, _, _⟩ := waits
  have notLost := (inGame_of_reachable reached running).notLost
  have marching := inPlay.marching
  have after := (high.tickArena marching.2.2 (program.globals.timerCounter + 1) answers.enemyRoll
    program.globals.playerLost).low (marching.tickArena _ _).2.1
  have unhit : (tickGlobals mode14C none answers program.globals).playerLost = false := by
    show (tickArena mode14C _ _ _ program.globals.playerLost).2 = false
    rw [notLost]
    exact tickArena_unhit inPlay.firing clear high marching.2.1 marching.2.2 answers.enemyRoll
  have drawn : drawsFrame mode14C (tickGlobals mode14C none answers program.globals).arena = true := by
    refine drawsFrame_of_sprites (inPlay.onField.tickArena _ _)
      ((spritesOnScreen_iff (inPlay.firing.rigid.tickArena _ _)).mpr fun enemy member active => ?_)
    have low := after enemy member active
    omega
  rw [tickOutcome, if_neg (not_not.mpr drawn), unhit, if_neg Bool.false_ne_true]

/-- **The tick after a pause** wins the game, or leaves less of the countdown. -/
theorem Waits.tick (waits : Waits arena shots ticks program) (time : ticks + (left + 1) ≤ 600)
    (high : HighUp (left + 1) arena) (clear : Clear arena) (quiet : ¬ ShotDue arena)
    (phase : Phase (left + 1) shots arena) (answers : Answers) :
    WonWell (step mode14C program (.hardware none (some answers))) ∨
      Campaign left (step mode14C program (.hardware none (some answers))) := by
  have outcome := waits.tick_safe high clear answers
  have inPlay := waits.inPlay
  obtain ⟨reached, running, rfl, fired, clock⟩ := waits
  have next := reached.step (.hardware none (some answers))
  have inGame := inGame_of_reachable reached running
  have ends := (@step_ends mode14C program running inGame (.hardware none (some answers))).2
  rw [inGame.wins_eq] at ends
  obtain ⟨ticked, same⟩ := @Clock.tick mode14C _ _ clock answers
  have phase' : Phase left shots (tickGlobals mode14C none answers program.globals).arena :=
    phase.tick inPlay quiet (program.globals.timerCounter + 1) answers.enemyRoll program.globals.playerLost
  have stays := high.tickArena inPlay.marching.2.2 (program.globals.timerCounter + 1) answers.enemyRoll
    program.globals.playerLost
  by_cases cleared : countActiveEnemies (tickGlobals mode14C none answers program.globals).arena = 0
  · rw [if_pos cleared] at outcome
    have stored : (step mode14C program (.hardware none (some answers))).globals.score.currentScore =
        (scoreCalculateFinal (gameTick mode14C answers program.globals).score).currentScore := by
      rw [step_tick running]
      exact finishTick_finalScore (.inr outcome)
    have eighteen : shots = 18 := by
      cases phase' with
      | idle _ fallen =>
        rw [cleared] at fallen
        simpa using fallen
      | shooting flies _ =>
        obtain ⟨_, _, _, _, index, target, place, active, _⟩ := flies.slots
        exact absurd active ((List.countP_eq_zero.mp cleared) target (List.mem_of_getElem? place))
    refine .inl ⟨ends.mpr outcome, ?_, ?_⟩
    · rw [stored, (scoreCalculateFinal_keeps _).1.1, same, fired, eighteen]
    · have final := scoreCalculateFinalReturn_eq ticked.counting
      rw [same, fired, eighteen, ticked.time] at final
      rw [stored]
      refine le_of_le_of_eq ?_ final.symm
      unfold scoreOf
      omega
  · rw [if_neg cleared] at outcome
    have goesOn : step mode14C program (.hardware none (some answers)) =
        ⟨.gameState, tickGlobals mode14C none answers program.globals⟩ := by
      have other := (passedTest_of_reachable reached).resolve_left fun ⟨code, returned⟩ => by
        rw [running] at returned
        cases returned
      rw [step_tick running, finishTick_eq, outcome]
      exact if_neg other
    rw [goesOn] at next ⊢
    exact .inr ⟨stays, shots, ticks + 1, ⟨next, rfl, rfl, same.trans fired, ticked⟩, by omega, phase'⟩

/-- A pause with the keys of a player, and the tick that ends it. -/
def turn (keys : Arena → List UInt8) (program : Program) (answers : Answers) : Program :=
  step mode14C (run mode14C program ((keys program.globals.arena).map press))
    (.hardware none (some answers))

/-- **A turn of the player** wins the game, or leaves less of the countdown. -/
theorem Campaign.turn (campaign : Campaign left program) (answers : Answers) :
    ∃ rest, rest + 1 ≤ left ∧
      (WonWell (turn pilot program answers) ∨ Campaign rest (turn pilot program answers)) := by
  obtain ⟨high, shots, ticks, waits, time, phase⟩ := campaign
  obtain ⟨phase', quiet, high', clear⟩ := phase.pause waits.inPlay high
  have pressed := waits.presses (pilot_makes program.globals.arena)
  have inPlay := pressed.inPlay
  obtain ⟨rest, rfl⟩ :=
    Nat.exists_eq_succ_of_ne_zero (phase'.left_pos inPlay.firing.alive inPlay.marching.2.2)
  exact ⟨rest, le_rfl, pressed.tick time high' clear quiet phase' answers⟩

end Turn

/-! ### Winning -/

/-- A game starts with 600 ticks to win it. -/
theorem GameStarts.campaign {opening : Program} (starts : GameStarts mode14C opening) :
    Campaign 600 opening := by
  have reached := starts.reachable
  obtain ⟨globals, rfl⟩ := starts.eq_started
  have waits : Waits (startArena mode14C globals.arena) 0 0 ⟨.gameState, startedGlobals mode14C globals⟩ :=
    ⟨reached, rfl, rfl, rfl, clock_started mode14C globals⟩
  have inPlay := waits.inPlay
  obtain ⟨_, low, early⟩ := inPlay.marching
  have delay := inPlay.spread.spaced.delay
  have full := countActiveEnemies_startArena globals.arena
  refine ⟨⟨0, fun enemy member _ => ?_, ?_⟩, 0, 0, waits, le_rfl, .idle ⟨active_of_mem_retire,
    (60 - (startArena mode14C globals.arena).enemyMoveTimer).toNat, ?_, ?_, ?_⟩ ?_⟩
  · obtain ⟨index, place⟩ := List.mem_iff_getElem?.mp member
    have below : index < 18 := (List.getElem?_eq_some_iff.mp place).1
    have same : (initEnemies (initBullets globals.arena)).enemies[index]? = some enemy := place
    rw [initEnemies_getElem? _ below, Option.some.injEq] at same
    rw [← same]
    show enemyStartY + ((index / 6 : Nat) : Int) * enemySpacingY ≤ _
    rw [enemyStartY, enemySpacingY]
    omega
  · show 60 * ((0 : Nat) : Int) + _ + (startArena mode14C globals.arena).enemyMoveTimer + _ ≤ 659
    split <;> omega
  · show (30 : Int) ∣ (startArena mode14C globals.arena).enemyMoveTimer + _
    omega
  · show (30 : Int) ≤ (startArena mode14C globals.arena).fireDelayCounter + _
    omega
  · show _ + 30 * countActiveEnemies (startArena mode14C globals.arena) ≤ 600
    rw [full]
    omega
  · show (0 : Int) + (countActiveEnemies (startArena mode14C globals.arena) : Int) = 18
    rw [full]
    rfl

/-- **Every game can be won, whatever `rand()` returns.** There is a way to choose the keys of each pause,
A, D and space, by the arena alone that wins every game within 600 ticks: it fires eighteen shots, none of
them in vain, and ends with at least 9000 points. -/
theorem every_game_winnable : ∃ keys : Arena → List UInt8,
    (∀ arena, ∀ key ∈ keys arena, key = kbA ∨ key = kbD ∨ key = kbSpace) ∧
    ∀ opening, GameStarts mode14C opening → ∀ answers : Nat → Answers, ∃ ticks ≤ 600,
      WonWell (Runs.run (turn keys) opening ((List.range ticks).map answers)) ∧
      ∀ earlier < ticks,
        (Runs.run (turn keys) opening ((List.range earlier).map answers)).control = .gameState := by
  refine ⟨pilot, pilot_keys, fun opening starts answers => ?_⟩
  obtain ⟨ticks, few, won, before⟩ := Runs.done_within
    (fun left program answers (campaign : Campaign left program) => campaign.turn answers)
    starts.campaign answers
  refine ⟨ticks, few, won, fun earlier early => ?_⟩
  obtain ⟨rest, _, _, _, waits, _⟩ := before earlier early
  exact waits.running

end SpaceInvaders
