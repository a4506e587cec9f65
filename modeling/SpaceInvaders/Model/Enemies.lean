/-
**The formation**: `enemies.c`.
-/

import SpaceInvaders.Model.Arena

namespace SpaceInvaders

/-- The enemy `init_enemies` puts at a row and column. -/
def initEnemy (row col : Nat) : Enemy where
  x := enemyStartX + col * enemySpacingX
  y := enemyStartY + row * enemySpacingY
  active := true
  type := row

/-- The function `init_enemies`: row by row, no more than `MAX_ENEMIES`. -/
def initEnemies (arena : Arena) : Arena :=
  { arena with
    enemies := ((List.range enemyRows).flatMap fun row =>
      (List.range enemyCols).map fun col => initEnemy row col).take maxEnemies }

/-- The sprite `draw_enemy` picks by the enemy's type. -/
def enemySprite (type : Int) : Xpm :=
  if type = 0 then .alien1 else if type = 1 then .alien2 else if type = 2 then .alien3 else .alien1

/-- The sprites are 45 or 51 pixels wide, and all are 34 high. -/
theorem enemySprite_width (type : Int) :
    (enemySprite type).width = 45 ∨ (enemySprite type).width = 51 := by
  unfold enemySprite
  split
  · decide
  split
  · decide
  split <;> decide

theorem enemySprite_width_le (type : Int) : (enemySprite type).width ≤ 51 := by
  have := enemySprite_width type
  omega

theorem enemySprite_height (type : Int) : (enemySprite type).height = 34 := by
  unfold enemySprite
  split
  · rfl
  split
  · rfl
  split <;> rfl

/-- The status of `draw_enemy`. -/
def drawEnemy (mode : ModeInfo) (enemy : Enemy) : Int :=
  if enemy.active then printXpm mode (enemySprite enemy.type) enemy.x enemy.y else 0

/-- The status of `draw_all_enemies`: 1 at the first enemy that is not drawn. -/
def drawAllEnemies (mode : ModeInfo) (arena : Arena) : Int :=
  if arena.enemies.any fun enemy => enemy.active && drawEnemy mode enemy ≠ 0 then 1 else 0

/-- The edge test of `move_enemies` on one enemy. -/
def atEdge (mode : ModeInfo) (direction : Int) (enemy : Enemy) : Bool :=
  (direction > 0 && enemy.x + enemyWidth ≥ mode.width - 20) || (direction < 0 && enemy.x ≤ 20)

/-- The flag `hit_edge`: some active enemy is at the edge the formation moves to. -/
def hitEdge (mode : ModeInfo) (arena : Arena) : Bool :=
  arena.enemies.any fun enemy => enemy.active && atEdge mode arena.enemyDirection enemy

/-- One round of the moving loop: a drop, or a step sideways. -/
def moveEnemy (shouldDrop : Bool) (direction : Int) (enemy : Enemy) : Enemy :=
  if enemy.active then
    if shouldDrop then { enemy with y := enemy.y + 40 }
    else { enemy with x := enemy.x + direction * 20 }
  else enemy

/-- The function `move_enemies`. -/
def moveEnemies (mode : ModeInfo) (arena : Arena) : Arena :=
  if hitEdge mode arena then
    { arena with enemyDirection := arena.enemyDirection * -1, shouldDrop := true }
  else
    { arena with
      enemies := arena.enemies.map (moveEnemy arena.shouldDrop arena.enemyDirection)
      shouldDrop := false }

/-- The function `count_active_enemies`. -/
def countActiveEnemies (arena : Arena) : Nat :=
  arena.enemies.countP Enemy.active

end SpaceInvaders
