/-
**One timer tick of a game**: the collision checks and the timer branch of `game_state.c`.

`advance` is a tick up to the collision checks, `collide` the four checks in their order. The flag
`player_lost` is threaded through the two checks that set it.
-/

import SpaceInvaders.Model.Ship

namespace SpaceInvaders

/-! ### The collision checks -/

/-- The test of `check_bullet_enemy_collision`. -/
def bulletHitsEnemy (bullet : Bullet) (enemy : Enemy) : Bool :=
  overlaps bullet.x bullet.y bulletWidth bulletHeight enemy.x enemy.y enemyWidth enemyHeight

/-- The inner loop of `check_bullet_enemy_collision`: the first active enemy the bullet hits is
deactivated; `none` when it hits none. -/
def hitFirst (bullet : Bullet) : List Enemy → Option (List Enemy)
  | [] => none
  | enemy :: rest =>
    if enemy.active && bulletHitsEnemy bullet enemy then
      some ({ enemy with active := false } :: rest)
    else (hitFirst bullet rest).map (enemy :: ·)

/-- The outer loop of `check_bullet_enemy_collision`: it returns at the first hit. -/
def shootFirst : List Bullet → List Enemy → Option (List Bullet × List Enemy)
  | [], _ => none
  | bullet :: rest, enemies =>
    if bullet.active then
      match hitFirst bullet enemies with
      | some hit => some (bullet.retire :: rest, hit)
      | none => (shootFirst rest enemies).map fun after => (bullet :: after.1, after.2)
    else (shootFirst rest enemies).map fun after => (bullet :: after.1, after.2)

/-- The function `check_bullet_enemy_collision`. -/
def checkBulletEnemyCollision (arena : Arena) : Arena :=
  match shootFirst arena.bullets arena.enemies with
  | some (bullets, enemies) => { arena with bullets := bullets, enemies := enemies }
  | none => arena

/-- The test of `check_enemy_bullet_collision`. -/
def bulletHitsShip (x : Int) (bullet : Bullet) : Bool :=
  overlaps bullet.x bullet.y bulletWidth bulletHeight x shipY shipWidth shipHeight

/-- The function `check_enemy_bullet_collision`, with the flag `player_lost`. -/
def checkEnemyBulletCollision (arena : Arena) (playerLost : Bool) : Arena × Bool :=
  ({ arena with
      enemyBullets := arena.enemyBullets.map fun bullet =>
        if bullet.active && bulletHitsShip arena.x bullet then bullet.retire else bullet },
    playerLost || arena.enemyBullets.any fun bullet => bullet.active && bulletHitsShip arena.x bullet)

/-- The test of `check_ship_alien_collision`. -/
def shipHitsEnemy (x : Int) (enemy : Enemy) : Bool :=
  overlaps x shipY shipWidth shipHeight enemy.x enemy.y enemyWidth enemyHeight

/-- The function `check_ship_alien_collision`, on the flag `player_lost`. -/
def checkShipAlienCollision (arena : Arena) (playerLost : Bool) : Bool :=
  playerLost || arena.enemies.any fun enemy => enemy.active && shipHitsEnemy arena.x enemy

/-- The test of `check_shield_collision`. -/
def bulletHitsShield (bullet : Bullet) (shield : Shield) : Bool :=
  overlaps bullet.x bullet.y bulletWidth bulletHeight shield.x shield.y shieldWidth shieldHeight

/-- The state of a shield after one hit. -/
def ShieldState.hit : ShieldState → ShieldState
  | .full => .broken
  | .broken => .none
  | .none => .none

/-- The inner loop of `check_shield_collision`: one shield against every enemy bullet. -/
def shieldAgainst (shield : Shield) : List Bullet → Shield × List Bullet
  | [] => (shield, [])
  | bullet :: rest =>
    if bullet.active && bulletHitsShield bullet shield then
      let after := shieldAgainst { shield with state := shield.state.hit } rest
      (after.1, bullet.retire :: after.2)
    else
      let after := shieldAgainst shield rest
      (after.1, bullet :: after.2)

/-- One round of the outer loop: a shield that is already gone is skipped. -/
def shieldRound (shield : Shield) (bullets : List Bullet) : Shield × List Bullet :=
  if shield.state = .none then (shield, bullets) else shieldAgainst shield bullets

/-- The outer loop of `check_shield_collision`. -/
def shieldRounds : List Shield → List Bullet → List Shield × List Bullet
  | [], bullets => ([], bullets)
  | shield :: rest, bullets =>
    let first := shieldRound shield bullets
    let after := shieldRounds rest first.2
    (first.1 :: after.1, after.2)

/-- The function `check_shield_collision`. -/
def checkShieldCollision (arena : Arena) : Arena :=
  let after := shieldRounds arena.shields arena.enemyBullets
  { arena with shields := after.1, enemyBullets := after.2 }

/-! ### The tick -/

/-- The function `enemies_moving`: `move_enemies` every 30 calls. -/
def enemiesMoving (mode : ModeInfo) (arena : Arena) : Arena :=
  let arena := { arena with enemyMoveTimer := arena.enemyMoveTimer + 1 }
  if arena.enemyMoveTimer ≥ 30 then { moveEnemies mode arena with enemyMoveTimer := 0 } else arena

/-- The three moves of a tick: bullets, enemy bullets, formation. -/
def moveAll (mode : ModeInfo) (arena : Arena) : Arena :=
  enemiesMoving mode (updateEnemyBullets mode (updateBullets
    { arena with fireDelayCounter := arena.fireDelayCounter + 1 }))

/-- A tick up to the collision checks; `timer` is `timer_counter` after its increment. -/
def advance (mode : ModeInfo) (timer roll : Nat) (arena : Arena) : Arena :=
  if timer % 60 = 0 then fireEnemyBullet roll (moveAll mode arena) else moveAll mode arena

/-- The tick up to and including `check_bullet_enemy_collision`. -/
def shoot (arena : Arena) (playerLost : Bool) : Arena × Bool :=
  let (arena, playerLost) := checkEnemyBulletCollision arena playerLost
  (checkBulletEnemyCollision arena, playerLost)

/-- The four collision checks of a tick. -/
def collide (arena : Arena) (playerLost : Bool) : Arena × Bool :=
  let (arena, playerLost) := shoot arena playerLost
  let playerLost := checkShipAlienCollision arena playerLost
  (checkShieldCollision arena, playerLost)

/-- What a tick does to the arena and to `player_lost`. -/
def tickArena (mode : ModeInfo) (timer roll : Nat) (arena : Arena) (playerLost : Bool) :
    Arena × Bool :=
  collide (advance mode timer roll arena) playerLost

/-- The drawing calls of a tick whose failure ends the game all succeed. -/
def drawsFrame (mode : ModeInfo) (arena : Arena) : Bool :=
  drawShip mode arena.x = 0 ∧ drawAllEnemies mode arena = 0 ∧ drawAllBullets mode arena = 0

/-- The preparations of the `MENU_START` branch: the four `init_` functions. -/
def startArena (mode : ModeInfo) (arena : Arena) : Arena :=
  initShields mode (initEnemyBullets (initEnemies (initBullets arena)))

end SpaceInvaders
