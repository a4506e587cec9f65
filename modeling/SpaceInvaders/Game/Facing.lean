/-
**A ship that stands clear of the whole formation.**

`Formation` is what is left of the enemies while none is lost: an offset, a direction and a pending drop.
`Facing` connects it to an arena in which the ship has fired nothing and the enemies' bullets fall
between its two stands.

* `Formation.moveEnemies_march`: a call of `move_enemies` moves the offset;
* `Facing.tickArena`: a tick with the ship at a stand beside the formation hurts no one;
* `Facing.drawsFrame`, `Facing.not_drawsFrame`: the frame, with the formation on the screen or below.
-/

import SpaceInvaders.Game.Drawing
import SpaceInvaders.Game.EnemyFire

namespace SpaceInvaders

/-! ### The full formation -/

/-- The offset of a formation without losses, and how it moves on. -/
structure Formation where
  dx : Int
  dy : Int
  direction : Int
  shouldDrop : Bool
deriving DecidableEq

namespace Formation

/-- An enemy at its place in the formation. -/
def place (formation : Formation) (enemy : Enemy) : Enemy :=
  { enemy with x := enemy.x + formation.dx, y := enemy.y + formation.dy }

/-- The enemies of the formation. -/
def enemies (formation : Formation) : List Enemy :=
  (initEnemies Arena.initial).enemies.map formation.place

/-- The formation is at the edge it moves to. -/
def atEdge (formation : Formation) : Bool :=
  if formation.direction > 0 then formation.dx ≥ 492 else formation.dx ≤ -80

/-- A call of `move_enemies`. -/
def move (formation : Formation) : Formation :=
  if formation.atEdge then
    { formation with direction := formation.direction * -1, shouldDrop := true }
  else if formation.shouldDrop then { formation with dy := formation.dy + 40, shouldDrop := false }
  else { formation with dx := formation.dx + formation.direction * 20, shouldDrop := false }

/-- The starting places: six columns from 100, three rows from 50, all active. -/
theorem start_places : ∀ enemy ∈ (initEnemies Arena.initial).enemies,
    enemy.active = true ∧ 100 ≤ enemy.x ∧ enemy.x ≤ 600 ∧ 50 ≤ enemy.y ∧ enemy.y ≤ 210 := by
  decide

theorem mem_enemies {formation : Formation} {enemy : Enemy} (member : enemy ∈ formation.enemies) :
    enemy.active = true ∧ 100 + formation.dx ≤ enemy.x ∧ enemy.x ≤ 600 + formation.dx ∧
      50 + formation.dy ≤ enemy.y ∧ enemy.y ≤ 210 + formation.dy := by
  obtain ⟨start, inside, rfl⟩ := List.mem_map.mp member
  obtain ⟨active, left, right, top, bottom⟩ := start_places start inside
  refine ⟨active, ?_⟩
  show 100 + formation.dx ≤ start.x + formation.dx ∧ start.x + formation.dx ≤ 600 + formation.dx ∧
    50 + formation.dy ≤ start.y + formation.dy ∧ start.y + formation.dy ≤ 210 + formation.dy
  omega

/-- The last enemy has the lowest row and the column to the right. -/
theorem last_mem (formation : Formation) :
    ⟨600 + formation.dx, 210 + formation.dy, true, 2⟩ ∈ formation.enemies :=
  List.mem_map_of_mem (show (⟨600, 210, true, 2⟩ : Enemy) ∈ (initEnemies Arena.initial).enemies by
    decide)

theorem first_mem (formation : Formation) :
    ⟨100 + formation.dx, 50 + formation.dy, true, 0⟩ ∈ formation.enemies :=
  List.mem_map_of_mem (show (⟨100, 50, true, 0⟩ : Enemy) ∈ (initEnemies Arena.initial).enemies by
    decide)

/-- The edge test on the enemies is the one on the offset. -/
theorem hitEdge_eq {formation : Formation} {arena : Arena}
    (direction : formation.direction = 1 ∨ formation.direction = -1)
    (march : arena.march = (formation.enemies, formation.direction, formation.shouldDrop)) :
    hitEdge mode14C arena = formation.atEdge := by
  simp only [Arena.march, Prod.mk.injEq] at march
  obtain ⟨enemies, heads, _⟩ := march
  rw [Bool.eq_iff_iff, hitEdge, List.any_eq_true, enemies, heads]
  unfold atEdge
  rcases direction with right | left
  · rw [right, if_pos (by decide), decide_eq_true_eq]
    constructor
    · rintro ⟨enemy, member, at'⟩
      have place := mem_enemies member
      simp [SpaceInvaders.atEdge, enemyWidth] at at'
      omega
    · intro far
      refine ⟨_, formation.last_mem, ?_⟩
      simp [SpaceInvaders.atEdge, enemyWidth]
      omega
  · rw [left, if_neg (by decide), decide_eq_true_eq]
    constructor
    · rintro ⟨enemy, member, at'⟩
      have place := mem_enemies member
      simp [SpaceInvaders.atEdge] at at'
      omega
    · intro far
      refine ⟨_, formation.first_mem, ?_⟩
      simp [SpaceInvaders.atEdge]
      omega

theorem map_drop (formation : Formation) :
    formation.enemies.map dropEnemy =
      { formation with dy := formation.dy + 40, shouldDrop := false }.enemies := by
  unfold enemies
  rw [List.map_map]
  refine List.map_congr_left fun start inside => ?_
  obtain ⟨active, _⟩ := start_places start inside
  rw [Function.comp_apply, dropEnemy_of_active (by exact active)]
  simp only [place, Enemy.mk.injEq, true_and, and_true]
  omega

theorem map_step (formation : Formation) :
    formation.enemies.map (stepEnemy formation.direction) =
      { formation with
        dx := formation.dx + formation.direction * 20, shouldDrop := false }.enemies := by
  unfold enemies
  rw [List.map_map]
  refine List.map_congr_left fun start inside => ?_
  obtain ⟨active, _⟩ := start_places start inside
  rw [Function.comp_apply, stepEnemy_of_active _ (by exact active)]
  simp only [place, Enemy.mk.injEq, and_true]
  omega

/-- **A call of `move_enemies` moves a formation without losses as a whole.** -/
theorem moveEnemies_march {formation : Formation} {arena : Arena}
    (direction : formation.direction = 1 ∨ formation.direction = -1)
    (march : arena.march = (formation.enemies, formation.direction, formation.shouldDrop)) :
    (moveEnemies mode14C arena).march =
      (formation.move.enemies, formation.move.direction, formation.move.shouldDrop) := by
  have edge := hitEdge_eq direction march
  simp only [Arena.march, Prod.mk.injEq] at march
  obtain ⟨enemies, heads, pending⟩ := march
  unfold move
  rcases moveEnemies_cases mode14C arena with ⟨at', step⟩ | ⟨clear, drops, step⟩ | ⟨clear, steps, step⟩
  · rw [step, if_pos (edge ▸ at'), Arena.march, enemies, heads]
    rfl
  · rw [step, if_neg (by rw [← edge, clear]; exact Bool.false_ne_true), ← pending, drops, if_pos rfl]
    rw [Arena.march, enemies, heads, map_drop]
  · rw [step, if_neg (by rw [← edge, clear]; exact Bool.false_ne_true), ← pending, steps,
      if_neg Bool.false_ne_true]
    rw [Arena.march, enemies, heads, map_step]

theorem move_direction {formation : Formation}
    (direction : formation.direction = 1 ∨ formation.direction = -1) :
    formation.move.direction = 1 ∨ formation.move.direction = -1 := by
  unfold move
  split
  · show formation.direction * -1 = 1 ∨ formation.direction * -1 = -1
    omega
  split <;> exact direction

/-- The formation and `enemy_move_timer` after a tick. -/
def tick (formation : Formation) (moveTimer : Int) : Formation × Int :=
  if 30 ≤ moveTimer + 1 then (formation.move, 0) else (formation, moveTimer + 1)

theorem tick_direction {formation : Formation}
    (direction : formation.direction = 1 ∨ formation.direction = -1) (moveTimer : Int) :
    (formation.tick moveTimer).1.direction = 1 ∨ (formation.tick moveTimer).1.direction = -1 := by
  unfold tick
  split
  · exact move_direction direction
  · exact direction

/-- The shooter of a low roll, in the highest row. -/
theorem shooter_x {formation : Formation} {enemy : Enemy} {roll : Nat} (low : roll < 6)
    (shooter : (formation.enemies.filter Enemy.active)[
      roll % formation.enemies.countP Enemy.active]? = some enemy) :
    enemy.x = 100 + 100 * (roll : Int) + formation.dx := by
  have active : ∀ enemy ∈ formation.enemies, enemy.active = true :=
    fun enemy member => (mem_enemies member).1
  have size : formation.enemies.length = 18 := by
    rw [enemies, List.length_map]
    rfl
  rw [List.filter_eq_self.mpr active, List.countP_eq_length.mpr active, size,
    Nat.mod_eq_of_lt (by omega), enemies, List.getElem?_map,
    initEnemies_getElem? Arena.initial (by omega)] at shooter
  cases shooter
  show enemyStartX + ((roll % 6 : Nat) : Int) * enemySpacingX + formation.dx = _
  rw [Nat.mod_eq_of_lt low, enemyStartX, enemySpacingX]
  omega

end Formation

/-! ### Facing the formation -/

/-- The ship stands at `x` before a formation without losses, has fired nothing, and the enemies' bullets
in flight fall between its two stands. -/
structure Facing (formation : Formation) (moveTimer x : Int) (arena : Arena) : Prop where
  march : arena.march = (formation.enemies, formation.direction, formation.shouldDrop)
  direction : formation.direction = 1 ∨ formation.direction = -1
  moveTimer : arena.enemyMoveTimer = moveTimer
  ship : arena.x = x
  silent : ∀ bullet ∈ arena.bullets, bullet.active = false
  between : ∀ bullet ∈ arena.enemyBullets, bullet.active = true → 280 ≤ bullet.x ∧ bullet.x ≤ 852

/-- The shots of the roll fall between the ship's two stands. -/
def Formation.AimsBetween (formation : Formation) (roll : Nat) : Prop :=
  roll < 6 ∧ 260 ≤ 100 + 100 * (roll : Int) + formation.dx ∧
    100 + 100 * (roll : Int) + formation.dx ≤ 832

/-- The ship's two stands. -/
def Stand (x : Int) : Prop := x = 230 ∨ x = 860

/-- The ship stands beside the columns of the formation. -/
def Formation.Beside (formation : Formation) (x : Int) : Prop :=
  x + 50 ≤ 100 + formation.dx ∨ 640 + formation.dx ≤ x

namespace Facing

variable {formation : Formation} {moveTimer x : Int} {arena : Arena}

theorem enemies_eq (facing : Facing formation moveTimer x arena) :
    arena.enemies = formation.enemies :=
  congrArg Prod.fst facing.march

/-- The formation before the checks of a tick. -/
theorem march_advance (facing : Facing formation moveTimer x arena) (timer roll : Nat) :
    (SpaceInvaders.advance mode14C timer roll arena).march =
        ((formation.tick moveTimer).1.enemies, (formation.tick moveTimer).1.direction,
          (formation.tick moveTimer).1.shouldDrop) ∧
      (SpaceInvaders.advance mode14C timer roll arena).enemyMoveTimer =
        (formation.tick moveTimer).2 := by
  unfold Formation.tick
  rcases advance_march mode14C timer roll arena with ⟨early, same, clock⟩ | ⟨due, step, clock⟩
  · rw [if_neg (by rw [← facing.moveTimer]; omega), same, clock, facing.moveTimer]
    exact ⟨facing.march, rfl⟩
  · rw [if_pos (by rw [← facing.moveTimer]; omega), step, clock]
    exact ⟨Formation.moveEnemies_march facing.direction facing.march, rfl⟩

/-- The bullets in flight fall straight down. -/
theorem between_moveAll (facing : Facing formation moveTimer x arena) :
    ∀ bullet ∈ (moveAll mode14C arena).enemyBullets, bullet.active = true →
      280 ≤ bullet.x ∧ bullet.x ≤ 852 := by
  rw [moveAll_enemyBullets]
  intro bullet member used
  obtain ⟨before, inside, rfl⟩ := List.mem_map.mp member
  obtain ⟨was, same, _⟩ := updateEnemyBullet_of_active used
  rw [same]
  exact facing.between before inside was

/-- The bullet a tick may launch falls between the stands, too. -/
theorem between_advance (facing : Facing formation moveTimer x arena) {timer : Nat}
    (firing : Firing timer arena) {roll : Nat}
    (aims : (formation.tick moveTimer).1.AimsBetween roll) :
    ∀ bullet ∈ (SpaceInvaders.advance mode14C (timer + 1) roll arena).enemyBullets,
      bullet.active = true → 280 ≤ bullet.x ∧ bullet.x ≤ 852 := by
  have enemies : (moveAll mode14C arena).enemies = (formation.tick moveTimer).1.enemies := by
    rw [← advance_enemies mode14C (timer + 1) roll]
    exact congrArg Prod.fst (facing.march_advance (timer + 1) roll).1
  unfold SpaceInvaders.advance
  split
  · rename_i due
    obtain ⟨shooter, chosen, fired⟩ := firing.shot roll due
    rw [countActiveEnemies, enemies] at chosen
    have column := Formation.shooter_x aims.1 chosen
    obtain ⟨_, left, right⟩ := aims
    rw [fired]
    intro bullet member used
    rcases List.mem_or_eq_of_mem_set member with before | rfl
    · exact facing.between_moveAll bullet before used
    · show 280 ≤ shooter.x + 20 ∧ shooter.x + 20 ≤ 852
      omega
  · exact facing.between_moveAll

/-- The moves and the shot of a tick. -/
theorem advance (facing : Facing formation moveTimer x arena) {timer : Nat}
    (firing : Firing timer arena) {roll : Nat}
    (aims : (formation.tick moveTimer).1.AimsBetween roll) :
    Facing (formation.tick moveTimer).1 (formation.tick moveTimer).2 x
      (advance mode14C (timer + 1) roll arena) := by
  obtain ⟨march, clock⟩ := facing.march_advance (timer + 1) roll
  refine ⟨march, Formation.tick_direction facing.direction _, clock, ?_, ?_,
    facing.between_advance firing aims⟩
  · rw [advance_x, facing.ship]
  · rw [advance_bullets]
    intro bullet member
    obtain ⟨before, inside, rfl⟩ := List.mem_map.mp member
    exact updateBullet_idle before (facing.silent before inside)

/-- The ship at a stand is beside all bullets. -/
theorem unhit (facing : Facing formation moveTimer x arena) (stand : Stand x) :
    ∀ bullet ∈ arena.enemyBullets, (bullet.active && bulletHitsShip arena.x bullet) = false := by
  intro bullet member
  rw [Bool.and_eq_false_iff]
  by_cases active : bullet.active = true
  · refine .inr ?_
    have place := facing.between bullet member active
    by_contra hits
    have box := overlaps_iff.mp ((Bool.not_eq_false _).mp hits)
    rw [facing.ship] at box
    simp only [bulletWidth, shipWidth] at box
    rcases stand with rfl | rfl <;> omega
  · exact .inl (by simpa using active)

/-- The ship beside the formation is not touched. -/
theorem untouched (facing : Facing formation moveTimer x arena) (beside : formation.Beside x) :
    checkShipAlienCollision arena false = false := by
  unfold checkShipAlienCollision
  rw [Bool.false_or, List.any_eq_false, facing.enemies_eq, facing.ship]
  intro enemy member
  have place := Formation.mem_enemies member
  rw [Bool.and_eq_true, not_and]
  intro _ touches
  have box := overlaps_iff.mp touches
  simp only [shipWidth, enemyWidth] at box
  unfold Formation.Beside at beside
  omega

/-- **A tick** that finds the ship at a stand beside the formation. -/
theorem tickArena (facing : Facing formation moveTimer x arena) {timer : Nat}
    (firing : Firing timer arena) {roll : Nat}
    (aims : (formation.tick moveTimer).1.AimsBetween roll) (stand : Stand x)
    (beside : (formation.tick moveTimer).1.Beside x) :
    Facing (formation.tick moveTimer).1 (formation.tick moveTimer).2 x
        (tickArena mode14C (timer + 1) roll arena false).1 ∧
      (tickArena mode14C (timer + 1) roll arena false).2 = false := by
  have moved := facing.advance firing aims
  have ready : (checkEnemyBulletCollision (SpaceInvaders.advance mode14C (timer + 1) roll arena)
      false).2 = false := by
    show (false || List.any _ _) = false
    rw [Bool.false_or, List.any_eq_false]
    exact fun bullet member => by rw [moved.unhit stand bullet member]; exact Bool.false_ne_true
  have noShot : checkBulletEnemyCollision (checkEnemyBulletCollision
      (SpaceInvaders.advance mode14C (timer + 1) roll arena) false).1 =
      (checkEnemyBulletCollision (SpaceInvaders.advance mode14C (timer + 1) roll arena) false).1 :=
    checkBulletEnemyCollision_of_idle moved.silent
  constructor
  · have released := tickArena_enemyBullets mode14C (timer + 1) roll arena false
    rw [tickArena_fst, noShot] at released ⊢
    refine ⟨moved.march, moved.direction, moved.moveTimer, moved.ship, moved.silent, ?_⟩
    intro bullet member active
    exact moved.between bullet (released.mem Bullet.retire_active member active) active
  · show checkShipAlienCollision (checkBulletEnemyCollision (checkEnemyBulletCollision
      (SpaceInvaders.advance mode14C (timer + 1) roll arena) false).1) (checkEnemyBulletCollision
      (SpaceInvaders.advance mode14C (timer + 1) roll arena) false).2 = false
    rw [noShot, ready]
    exact moved.untouched beside

theorem onField (facing : Facing formation moveTimer x arena) (stand : Stand x) : OnField arena := by
  refine ⟨?_, fun bullet member active => ?_⟩
  · unfold ShipInside
    rw [facing.ship]
    rcases stand with rfl | rfl <;> omega
  · rw [facing.silent bullet member] at active
    cases active

/-- The formation on the screen is drawn. -/
theorem drawsFrame (facing : Facing formation moveTimer x arena) (stand : Stand x)
    (left : -80 ≤ formation.dx) (right : formation.dx ≤ 500) (top : 0 ≤ formation.dy)
    (bottom : formation.dy ≤ 600) : drawsFrame mode14C arena = true := by
  refine drawsFrame_of_sprites (facing.onField stand) fun enemy member _ => ?_
  rw [facing.enemies_eq] at member
  have place := Formation.mem_enemies member
  have narrow := enemySprite_width_le enemy.type
  rw [enemySprite_height, mode14C_width, mode14C_height]
  omega

/-- The formation below the screen is not. -/
theorem not_drawsFrame (facing : Facing formation moveTimer x arena) (below : 620 < formation.dy)
    (short : formation.dy < 65000) : SpaceInvaders.drawsFrame mode14C arena = false := by
  have last := formation.last_mem
  rw [← facing.enemies_eq] at last
  exact drawsFrame_of_below last rfl (by show 864 < 210 + formation.dy + 34; omega)
    (by show 210 + formation.dy < 65536; omega)

theorem not_won (facing : Facing formation moveTimer x arena) : countActiveEnemies arena ≠ 0 := by
  have last := formation.last_mem
  rw [← facing.enemies_eq] at last
  unfold countActiveEnemies
  rw [Ne, List.countP_eq_zero]
  exact fun none => none _ last rfl

/-- The ship at another place. -/
theorem moveShip (facing : Facing formation moveTimer x arena) (x' : Int) :
    Facing formation moveTimer x' { arena with x := x' } :=
  ⟨facing.march, facing.direction, facing.moveTimer, rfl, facing.silent, facing.between⟩

theorem left (facing : Facing formation moveTimer x arena) (room : 50 < x) (small : x < 65536) :
    Facing formation moveTimer (x - 30) (shipAction mode14C kbA arena) := by
  have moved := facing.moveShip (x - 30)
  rw [shipAction, if_pos rfl, facing.ship, if_pos (by exact room),
    u16_of_range (by omega) (by omega)]
  exact moved

theorem right (facing : Facing formation moveTimer x arena) (low : 0 ≤ x) (room : x + 30 ≤ 1102) :
    Facing formation moveTimer (x + 30) (shipAction mode14C kbD arena) := by
  have moved := facing.moveShip (x + 30)
  rw [shipAction, if_neg (by decide), if_pos rfl, facing.ship, u16_of_range (by omega) (by omega)]
  have inside : ¬ x + 30 > mode14C.width - shipWidth := by
    rw [mode14C_width, shipWidth]
    omega
  simp only [if_neg inside]
  exact moved

end Facing

end SpaceInvaders
