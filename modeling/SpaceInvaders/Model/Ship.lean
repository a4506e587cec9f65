/-
**The ship, its bullets, the enemies' bullets and the shields**: `ship.c`.
-/

import SpaceInvaders.Model.Keyboard
import SpaceInvaders.Model.Enemies

namespace SpaceInvaders

/-- The status of `draw_ship`. -/
def drawShip (mode : ModeInfo) (x : Int) : Int :=
  if printXpm mode .ship x 700 ≠ 0 then 1 else 0

/-- Clearing an entry's `active` flag; its position stays. -/
def Bullet.retire (bullet : Bullet) : Bullet := { bullet with active := false }

@[simp] theorem Bullet.retire_active (bullet : Bullet) : bullet.retire.active = false := rfl

theorem active_of_mem_retire {bullets : List Bullet} :
    ∀ bullet ∈ bullets.map Bullet.retire, bullet.active = false := by
  intro bullet member
  obtain ⟨before, _, rfl⟩ := List.mem_map.mp member
  exact before.retire_active

/-- The function `init_bullets`. -/
def initBullets (arena : Arena) : Arena :=
  { arena with bullets := arena.bullets.map Bullet.retire }

/-- The function `init_enemy_bullets`. -/
def initEnemyBullets (arena : Arena) : Arena :=
  { arena with enemyBullets := arena.enemyBullets.map Bullet.retire }

/-- The space between two shields, the `spacing` of `init_shields`. -/
def shieldSpacing : Int := 200

/-- The shield `init_shields` writes at an index. -/
def initShield (mode : ModeInfo) (index : Nat) : Shield where
  x := (mode.width - (numShields * shieldWidth + (numShields - 1) * shieldSpacing)).tdiv 2 +
    index * (shieldWidth + shieldSpacing)
  y := mode.height - 250
  state := .full

/-- The function `init_shields`. -/
def initShields (mode : ModeInfo) (arena : Arena) : Arena :=
  { arena with shields := (List.range numShields).map (initShield mode) }

/-- The bullet a press of space launches from a ship at `x`. -/
def shipBullet (x : Int) : Bullet := ⟨x + shipWidth / 2 - 2, 700 - bulletHeight, true⟩

/-- The effect of `ship_action` on the arena. -/
def shipAction (mode : ModeInfo) (scancode : UInt8) (arena : Arena) : Arena :=
  if scancode = kbA then
    if arena.x > shipWidth then { arena with x := u16 (arena.x - 30) } else arena
  else if scancode = kbD then
    let x := u16 (arena.x + 30)
    { arena with x := if x > mode.width - shipWidth then u16 (mode.width - shipWidth) else x }
  else if scancode = kbSpace then
    if arena.fireDelayCounter ≥ 30 then
      { arena with
        bullets := (Slots.fillFirst Bullet.active (shipBullet arena.x) arena.bullets).getD
          arena.bullets
        -- the delay restarts even when every slot was taken
        fireDelayCounter := 0 }
    else arena
  else arena

/-- A key writes the ship, its bullets and the fire delay only. -/
theorem shipAction_eq (mode : ModeInfo) (scancode : UInt8) (arena : Arena) :
    shipAction mode scancode arena =
      { arena with
        x := (shipAction mode scancode arena).x
        bullets := (shipAction mode scancode arena).bullets
        fireDelayCounter := (shipAction mode scancode arena).fireDelayCounter } := by
  unfold shipAction
  split
  · split <;> rfl
  split
  · rfl
  split
  · split <;> rfl
  · rfl

/-- The call of `score_add_bullet` in `ship_action` is reached: a bullet was launched. -/
def launchesBullet (scancode : UInt8) (arena : Arena) : Bool :=
  scancode = kbSpace && arena.fireDelayCounter ≥ 30 &&
    (Slots.fillFirst Bullet.active (shipBullet arena.x) arena.bullets).isSome

/-- The bullet an enemy fires. -/
def enemyBullet (enemy : Enemy) : Bullet :=
  ⟨enemy.x + enemyWidth / 2, enemy.y + enemyHeight, true⟩

/-- The selection loop of `fire_enemy_bullet`, with `count` active enemies seen so far. When the
chosen enemy finds no free slot the loop goes on. -/
def fireFrom (chosen : Nat) (bullets : List Bullet) : (count : Nat) → List Enemy → List Bullet
  | _, [] => bullets
  | count, enemy :: rest =>
    if enemy.active then
      if count = chosen then
        match Slots.fillFirst Bullet.active (enemyBullet enemy) bullets with
        | some filled => filled
        | none => fireFrom chosen bullets (count + 1) rest
      else fireFrom chosen bullets (count + 1) rest
    else fireFrom chosen bullets count rest

/-- The function `fire_enemy_bullet`; `roll` is the value `rand()` returns. -/
def fireEnemyBullet (roll : Nat) (arena : Arena) : Arena :=
  if countActiveEnemies arena = 0 then arena
  else
    { arena with
      enemyBullets := fireFrom (roll % countActiveEnemies arena) arena.enemyBullets 0
        arena.enemies }

/-- The status of `draw_bullet`. -/
def drawBullet (mode : ModeInfo) (bullet : Bullet) : Int :=
  if bullet.active then
    if printXpm mode .bullet bullet.x bullet.y ≠ 0 then 1 else 0
  else 0

/-- The status of `draw_all_bullets`. -/
def drawAllBullets (mode : ModeInfo) (arena : Arena) : Int :=
  if arena.bullets.any fun bullet => bullet.active && drawBullet mode bullet ≠ 0 then 1 else 0

/-- One round of `update_bullets`. -/
def updateBullet (bullet : Bullet) : Bullet :=
  if bullet.active then { bullet with y := bullet.y - 20, active := ¬ bullet.y - 20 < 0 }
  else bullet

/-- The function `update_bullets`. -/
def updateBullets (arena : Arena) : Arena :=
  { arena with bullets := arena.bullets.map updateBullet }

/-- One round of `update_enemy_bullets`. -/
def updateEnemyBullet (mode : ModeInfo) (bullet : Bullet) : Bullet :=
  if bullet.active then { bullet with y := bullet.y + 20, active := ¬ bullet.y + 20 > mode.height }
  else bullet

/-- The function `update_enemy_bullets`. -/
def updateEnemyBullets (mode : ModeInfo) (arena : Arena) : Arena :=
  { arena with enemyBullets := arena.enemyBullets.map (updateEnemyBullet mode) }

end SpaceInvaders
