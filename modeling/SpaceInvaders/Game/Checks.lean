/-
**What each part of a tick does**, one specification per function.

* Frames: the moves leave the ship and the shields, firing adds to the enemies' bullets only, the
  checks only deactivate.
* `moveEnemies_cases`: a call of `move_enemies` is a reversal, a drop or a step.
* `advance_march`: before the checks, a tick calls `move_enemies` or leaves the formation alone.
* `hitFirst_eq_some`, `shootFirst_eq_some` and their `none` cases: what
  `check_bullet_enemy_collision` finds.
-/

import SpaceInvaders.Model.GameState

namespace SpaceInvaders

/-! ### Frames -/

section Frames

variable (mode : ModeInfo) (timer roll : Nat) (arena : Arena)

/-- A move of the formation writes the formation's variables only. -/
theorem moveEnemies_eq :
    moveEnemies mode arena =
      { arena with
        enemies := (moveEnemies mode arena).enemies
        enemyDirection := (moveEnemies mode arena).enemyDirection
        shouldDrop := (moveEnemies mode arena).shouldDrop } := by
  unfold moveEnemies
  split <;> rfl

theorem enemiesMoving_eq :
    enemiesMoving mode arena =
      { arena with
        enemies := (enemiesMoving mode arena).enemies
        enemyDirection := (enemiesMoving mode arena).enemyDirection
        enemyMoveTimer := (enemiesMoving mode arena).enemyMoveTimer
        shouldDrop := (enemiesMoving mode arena).shouldDrop } := by
  simp only [enemiesMoving]
  split
  · rw [moveEnemies_eq]
  · rfl

@[simp] theorem moveAll_x : (moveAll mode arena).x = arena.x := by
  rw [moveAll, enemiesMoving_eq]
  rfl

@[simp] theorem moveAll_fireDelayCounter :
    (moveAll mode arena).fireDelayCounter = arena.fireDelayCounter + 1 := by
  rw [moveAll, enemiesMoving_eq]
  rfl

@[simp] theorem moveAll_bullets : (moveAll mode arena).bullets = arena.bullets.map updateBullet := by
  rw [moveAll, enemiesMoving_eq]
  rfl

@[simp] theorem moveAll_enemyBullets :
    (moveAll mode arena).enemyBullets = arena.enemyBullets.map (updateEnemyBullet mode) := by
  rw [moveAll, enemiesMoving_eq]
  rfl

@[simp] theorem moveAll_shields : (moveAll mode arena).shields = arena.shields := by
  rw [moveAll, enemiesMoving_eq]
  rfl

/-- Firing writes the enemies' bullets only. -/
theorem fireEnemyBullet_eq :
    fireEnemyBullet roll arena =
      { arena with enemyBullets := (fireEnemyBullet roll arena).enemyBullets } := by
  unfold fireEnemyBullet
  split <;> rfl

/-- Before the checks a tick differs from its moves in the enemies' bullets only. -/
theorem advance_eq :
    advance mode timer roll arena =
      { moveAll mode arena with enemyBullets := (advance mode timer roll arena).enemyBullets } := by
  unfold advance
  split
  · exact fireEnemyBullet_eq roll _
  · rfl

@[simp] theorem advance_x : (advance mode timer roll arena).x = arena.x := by
  rw [advance_eq]
  simp

@[simp] theorem advance_fireDelayCounter :
    (advance mode timer roll arena).fireDelayCounter = arena.fireDelayCounter + 1 := by
  rw [advance_eq]
  simp

@[simp] theorem advance_bullets :
    (advance mode timer roll arena).bullets = arena.bullets.map updateBullet := by
  rw [advance_eq]
  simp

@[simp] theorem advance_shields : (advance mode timer roll arena).shields = arena.shields := by
  rw [advance_eq]
  simp

@[simp] theorem advance_enemies :
    (advance mode timer roll arena).enemies = (moveAll mode arena).enemies := by
  rw [advance_eq]

/-- The bullet check writes the bullets and the enemies only. -/
theorem checkBulletEnemyCollision_eq :
    checkBulletEnemyCollision arena =
      { arena with
        bullets := (checkBulletEnemyCollision arena).bullets
        enemies := (checkBulletEnemyCollision arena).enemies } := by
  unfold checkBulletEnemyCollision
  split <;> rfl

@[simp] theorem checkBulletEnemyCollision_enemyBullets :
    (checkBulletEnemyCollision arena).enemyBullets = arena.enemyBullets := by
  rw [checkBulletEnemyCollision_eq]

@[simp] theorem checkBulletEnemyCollision_shields :
    (checkBulletEnemyCollision arena).shields = arena.shields := by
  rw [checkBulletEnemyCollision_eq]

/-- The arena after a tick: the flag `player_lost` does not enter it. -/
theorem tickArena_fst (lost : Bool) :
    (tickArena mode timer roll arena lost).1 =
      checkShieldCollision (checkBulletEnemyCollision
        (checkEnemyBulletCollision (advance mode timer roll arena) false).1) := rfl

@[simp] theorem tickArena_x (lost : Bool) :
    (tickArena mode timer roll arena lost).1.x = arena.x := by
  rw [tickArena_fst, checkBulletEnemyCollision_eq]
  exact advance_x mode timer roll arena

@[simp] theorem tickArena_fireDelayCounter (lost : Bool) :
    (tickArena mode timer roll arena lost).1.fireDelayCounter = arena.fireDelayCounter + 1 := by
  rw [tickArena_fst, checkBulletEnemyCollision_eq]
  exact advance_fireDelayCounter mode timer roll arena

end Frames

/-! ### Idle bullets -/

theorem updateBullet_idle (bullet : Bullet) (idle : bullet.active = false) :
    (updateBullet bullet).active = false := by
  rw [updateBullet, if_neg (by rw [idle]; exact Bool.false_ne_true)]
  exact idle

theorem updateEnemyBullet_idle (mode : ModeInfo) (bullet : Bullet) (idle : bullet.active = false) :
    (updateEnemyBullet mode bullet).active = false := by
  rw [updateEnemyBullet, if_neg (by rw [idle]; exact Bool.false_ne_true)]
  exact idle

/-! ### The formation's move -/

/-- The moving loop of `move_enemies` when the formation drops. -/
def dropEnemy (enemy : Enemy) : Enemy :=
  if enemy.active then { enemy with y := enemy.y + 40 } else enemy

/-- The moving loop of `move_enemies` when the formation moves sideways. -/
def stepEnemy (direction : Int) (enemy : Enemy) : Enemy :=
  if enemy.active then { enemy with x := enemy.x + direction * 20 } else enemy

@[simp] theorem dropEnemy_active (enemy : Enemy) : (dropEnemy enemy).active = enemy.active := by
  unfold dropEnemy
  split <;> rfl

@[simp] theorem stepEnemy_active (direction : Int) (enemy : Enemy) :
    (stepEnemy direction enemy).active = enemy.active := by
  unfold stepEnemy
  split <;> rfl

theorem dropEnemy_of_active {enemy : Enemy} (active : enemy.active = true) :
    dropEnemy enemy = { enemy with y := enemy.y + 40 } :=
  if_pos active

theorem stepEnemy_of_active (direction : Int) {enemy : Enemy} (active : enemy.active = true) :
    stepEnemy direction enemy = { enemy with x := enemy.x + direction * 20 } :=
  if_pos active

/-- **A call of `move_enemies`** is a reversal, a drop or a step. -/
theorem moveEnemies_cases (mode : ModeInfo) (arena : Arena) :
    (hitEdge mode arena = true ∧
      moveEnemies mode arena =
        { arena with enemyDirection := arena.enemyDirection * -1, shouldDrop := true }) ∨
    (hitEdge mode arena = false ∧ arena.shouldDrop = true ∧
      moveEnemies mode arena =
        { arena with enemies := arena.enemies.map dropEnemy, shouldDrop := false }) ∨
    (hitEdge mode arena = false ∧ arena.shouldDrop = false ∧
      moveEnemies mode arena =
        { arena with
          enemies := arena.enemies.map (stepEnemy arena.enemyDirection), shouldDrop := false }) := by
  unfold moveEnemies
  cases edge : hitEdge mode arena with
  | true => exact .inl ⟨rfl, rfl⟩
  | false =>
    cases drop : arena.shouldDrop with
    | true =>
      refine .inr (.inl ⟨rfl, rfl, ?_⟩)
      rw [if_neg Bool.false_ne_true]
      rfl
    | false =>
      refine .inr (.inr ⟨rfl, rfl, ?_⟩)
      rw [if_neg Bool.false_ne_true]
      rfl

/-- The variables `move_enemies` reads and writes. -/
def Arena.march (arena : Arena) : List Enemy × Int × Bool :=
  (arena.enemies, arena.enemyDirection, arena.shouldDrop)

/-- `move_enemies` reads nothing else. -/
theorem moveEnemies_march (mode : ModeInfo) {arena arena' : Arena}
    (same : arena.march = arena'.march) :
    (moveEnemies mode arena).march = (moveEnemies mode arena').march := by
  simp only [Arena.march, Prod.mk.injEq] at same
  obtain ⟨enemies, direction, drop⟩ := same
  unfold moveEnemies hitEdge
  rw [enemies, direction, drop]
  split <;> rfl

theorem enemiesMoving_of_due (mode : ModeInfo) (arena : Arena) (due : 30 ≤ arena.enemyMoveTimer + 1) :
    enemiesMoving mode arena =
      { moveEnemies mode { arena with enemyMoveTimer := arena.enemyMoveTimer + 1 } with
        enemyMoveTimer := 0 } :=
  if_pos due

theorem enemiesMoving_of_early (mode : ModeInfo) (arena : Arena)
    (early : arena.enemyMoveTimer + 1 < 30) :
    enemiesMoving mode arena = { arena with enemyMoveTimer := arena.enemyMoveTimer + 1 } :=
  if_neg (not_le.mpr early)

/-- Before the checks a tick calls `move_enemies`, when its timer is due, or leaves the formation
alone. -/
theorem advance_march (mode : ModeInfo) (timer roll : Nat) (arena : Arena) :
    (arena.enemyMoveTimer + 1 < 30 ∧ (advance mode timer roll arena).march = arena.march ∧
      (advance mode timer roll arena).enemyMoveTimer = arena.enemyMoveTimer + 1) ∨
    (30 ≤ arena.enemyMoveTimer + 1 ∧
      (advance mode timer roll arena).march = (moveEnemies mode arena).march ∧
      (advance mode timer roll arena).enemyMoveTimer = 0) := by
  have march : (advance mode timer roll arena).march = (moveAll mode arena).march := by
    rw [advance_eq]
    rfl
  have clock : (advance mode timer roll arena).enemyMoveTimer = (moveAll mode arena).enemyMoveTimer := by
    rw [advance_eq]
  obtain ⟨ready, moved, sameMarch, sameTimer⟩ : ∃ ready : Arena,
      moveAll mode arena = enemiesMoving mode ready ∧ ready.march = arena.march ∧
        ready.enemyMoveTimer = arena.enemyMoveTimer := ⟨_, rfl, rfl, rfl⟩
  rw [march, clock, moved, ← sameTimer]
  rcases lt_or_ge (ready.enemyMoveTimer + 1) 30 with early | due
  · rw [enemiesMoving_of_early mode ready early]
    exact .inl ⟨early, sameMarch, rfl⟩
  · rw [enemiesMoving_of_due mode ready due]
    exact .inr ⟨due, moveEnemies_march mode sameMarch, rfl⟩

/-- The enemies before the checks of a tick: as they were, dropped, or a step further. -/
theorem advance_enemies_cases (mode : ModeInfo) (timer roll : Nat) (arena : Arena) :
    ((arena.enemyMoveTimer + 1 < 30 ∨ hitEdge mode arena = true) ∧
      (advance mode timer roll arena).enemies = arena.enemies) ∨
    (30 ≤ arena.enemyMoveTimer + 1 ∧ hitEdge mode arena = false ∧ arena.shouldDrop = true ∧
      (advance mode timer roll arena).enemies = arena.enemies.map dropEnemy) ∨
    (30 ≤ arena.enemyMoveTimer + 1 ∧ hitEdge mode arena = false ∧ arena.shouldDrop = false ∧
      (advance mode timer roll arena).enemies =
        arena.enemies.map (stepEnemy arena.enemyDirection)) := by
  rcases advance_march mode timer roll arena with ⟨early, same, _⟩ | ⟨due, same, _⟩
  · exact .inl ⟨.inl early, congrArg Prod.fst same⟩
  have moved : (advance mode timer roll arena).enemies = (moveEnemies mode arena).enemies :=
    congrArg Prod.fst same
  rw [moved]
  rcases moveEnemies_cases mode arena with ⟨edge, step⟩ | ⟨clear, drops, step⟩ | ⟨clear, steps, step⟩
  · exact .inl ⟨.inr edge, by rw [step]⟩
  · exact .inr (.inl ⟨due, clear, drops, by rw [step]⟩)
  · exact .inr (.inr ⟨due, clear, steps, by rw [step]⟩)

@[simp] theorem countActiveEnemies_moveEnemies (mode : ModeInfo) (arena : Arena) :
    countActiveEnemies (moveEnemies mode arena) = countActiveEnemies arena := by
  have kept (move : Enemy → Enemy) (active : ∀ enemy, (move enemy).active = enemy.active) :
      (arena.enemies.map move).countP Enemy.active = arena.enemies.countP Enemy.active := by
    rw [List.countP_map]
    exact List.countP_congr fun enemy _ => by rw [Function.comp_apply, active]
  rcases moveEnemies_cases mode arena with ⟨_, step⟩ | ⟨_, _, step⟩ | ⟨_, _, step⟩
  · rw [step]
    rfl
  · rw [step]
    exact kept _ dropEnemy_active
  · rw [step]
    exact kept _ (stepEnemy_active _)

/-- A move kills no enemy. -/
@[simp] theorem countActiveEnemies_moveAll (mode : ModeInfo) (arena : Arena) :
    countActiveEnemies (moveAll mode arena) = countActiveEnemies arena := by
  simp only [moveAll, enemiesMoving]
  split
  · show countActiveEnemies (moveEnemies mode _) = _
    rw [countActiveEnemies_moveEnemies]
    rfl
  · rfl

@[simp] theorem moveAll_enemies_length (mode : ModeInfo) (arena : Arena) :
    (moveAll mode arena).enemies.length = arena.enemies.length := by
  have move (arena : Arena) : (moveEnemies mode arena).enemies.length = arena.enemies.length := by
    rcases moveEnemies_cases mode arena with ⟨_, step⟩ | ⟨_, _, step⟩ | ⟨_, _, step⟩
    · rw [step]
    · rw [step]
      exact List.length_map _
    · rw [step]
      exact List.length_map _
  simp only [moveAll, enemiesMoving]
  split
  · exact move _
  · rfl

/-! ### The bullet check -/

/-- Clearing an enemy's `active` flag. -/
def Enemy.kill (enemy : Enemy) : Enemy := { enemy with active := false }

/-- The inner loop hits no enemy exactly when the bullet meets no active one. -/
theorem hitFirst_eq_none_iff {bullet : Bullet} {enemies : List Enemy} :
    hitFirst bullet enemies = none ↔
      ∀ enemy ∈ enemies, enemy.active = true → bulletHitsEnemy bullet enemy = false := by
  induction enemies with
  | nil => simp [hitFirst]
  | cons enemy rest ih =>
    unfold hitFirst
    by_cases hit : (enemy.active && bulletHitsEnemy bullet enemy) = true
    · rw [if_pos hit]
      simp_all
    · rw [if_neg hit, Option.map_eq_none_iff, ih, List.forall_mem_cons]
      simp only [Bool.and_eq_true, not_and, Bool.not_eq_true] at hit
      exact ⟨fun later => ⟨hit, later⟩, fun all => all.2⟩

/-- The inner loop deactivates one active enemy the bullet meets. -/
theorem hitFirst_eq_some {bullet : Bullet} {enemies after : List Enemy}
    (hit : hitFirst bullet enemies = some after) :
    ∃ index enemy, enemies[index]? = some enemy ∧ enemy.active = true ∧
      bulletHitsEnemy bullet enemy = true ∧ after = enemies.set index enemy.kill := by
  induction enemies generalizing after with
  | nil => cases hit
  | cons enemy rest ih =>
    unfold hitFirst at hit
    by_cases here : (enemy.active && bulletHitsEnemy bullet enemy) = true
    · rw [if_pos here] at hit
      cases hit
      rw [Bool.and_eq_true] at here
      exact ⟨0, enemy, rfl, here.1, here.2, rfl⟩
    · rw [if_neg here] at hit
      obtain ⟨afterRest, hitRest, rfl⟩ := Option.map_eq_some_iff.mp hit
      obtain ⟨index, found, at', active, meets, rfl⟩ := ih hitRest
      exact ⟨index + 1, found, at', active, meets, rfl⟩

/-- The outer loop hits nothing exactly when no active bullet meets an active enemy. -/
theorem shootFirst_eq_none_iff {bullets : List Bullet} {enemies : List Enemy} :
    shootFirst bullets enemies = none ↔
      ∀ bullet ∈ bullets, bullet.active = true → hitFirst bullet enemies = none := by
  induction bullets with
  | nil => simp [shootFirst]
  | cons bullet rest ih =>
    unfold shootFirst
    by_cases active : bullet.active = true
    · rw [if_pos active]
      cases hit : hitFirst bullet enemies with
      | some after => simp [active, hit]
      | none => simp [active, hit, ih]
    · rw [if_neg active]
      simp [active, ih]

/-- The outer loop retires one active bullet together with the enemy it meets. -/
theorem shootFirst_eq_some {bullets bullets' : List Bullet} {enemies enemies' : List Enemy}
    (hit : shootFirst bullets enemies = some (bullets', enemies')) :
    ∃ before bullet after, bullets = before ++ bullet :: after ∧ bullet.active = true ∧
      bullets' = before ++ bullet.retire :: after ∧ hitFirst bullet enemies = some enemies' := by
  induction bullets generalizing bullets' with
  | nil => cases hit
  | cons bullet rest ih =>
    -- the loop goes on behind a bullet that hits nothing
    have goOn : ∀ {after}, ((shootFirst rest enemies).map fun found => (bullet :: found.1, found.2)) =
        some (after, enemies') →
        ∃ before found behind, bullet :: rest = before ++ found :: behind ∧ found.active = true ∧
          after = before ++ found.retire :: behind ∧ hitFirst found enemies = some enemies' := by
      intro after later
      obtain ⟨⟨afterRest, enemiesRest⟩, hitRest, same⟩ := Option.map_eq_some_iff.mp later
      cases same
      obtain ⟨before, found, behind, rfl, active, rfl, meets⟩ := ih hitRest
      exact ⟨bullet :: before, found, behind, rfl, active, rfl, meets⟩
    unfold shootFirst at hit
    by_cases active : bullet.active = true
    · rw [if_pos active] at hit
      cases first : hitFirst bullet enemies with
      | some after =>
        rw [first] at hit
        cases hit
        exact ⟨[], bullet, rest, rfl, active, rfl, first⟩
      | none =>
        rw [first] at hit
        exact goOn hit
    · rw [if_neg active] at hit
      exact goOn hit

/-- Without a bullet in flight the check does nothing. -/
theorem checkBulletEnemyCollision_of_idle {arena : Arena}
    (idle : ∀ bullet ∈ arena.bullets, bullet.active = false) :
    checkBulletEnemyCollision arena = arena := by
  have misses : shootFirst arena.bullets arena.enemies = none := by
    refine shootFirst_eq_none_iff.mpr fun bullet member active => ?_
    rw [idle bullet member] at active
    cases active
  rw [checkBulletEnemyCollision, misses]

/-- The bullet check retires a bullet or none. -/
theorem checkBulletEnemyCollision_bullets (arena : Arena) :
    Slots.Released Bullet.retire arena.bullets (checkBulletEnemyCollision arena).bullets := by
  unfold checkBulletEnemyCollision
  cases hit : shootFirst arena.bullets arena.enemies with
  | none => exact Slots.Released.refl _
  | some after =>
    obtain ⟨bullets, enemies⟩ := after
    obtain ⟨before, bullet, behind, split, _, rfl, _⟩ := shootFirst_eq_some hit
    rw [split]
    exact List.rel_append (Slots.Released.refl before)
      (List.Forall₂.cons (.inr rfl) (Slots.Released.refl behind))

/-- What the bullet check does to the enemies: nothing, or one active enemy is killed. -/
theorem checkBulletEnemyCollision_enemies (arena : Arena) :
    (checkBulletEnemyCollision arena).enemies = arena.enemies ∨
      ∃ index enemy, arena.enemies[index]? = some enemy ∧ enemy.active = true ∧
        (checkBulletEnemyCollision arena).enemies = arena.enemies.set index enemy.kill := by
  unfold checkBulletEnemyCollision
  cases hit : shootFirst arena.bullets arena.enemies with
  | none => exact .inl rfl
  | some after =>
    obtain ⟨_, bullet, _, _, _, _, meets⟩ := shootFirst_eq_some hit
    obtain ⟨index, enemy, found, active, _, killed⟩ := hitFirst_eq_some meets
    exact .inr ⟨index, enemy, found, active, killed⟩

/-- A tick moves the enemies and kills one of them at most. -/
theorem tickArena_enemies (mode : ModeInfo) (timer roll : Nat) (arena : Arena) (lost : Bool) :
    (tickArena mode timer roll arena lost).1.enemies = (advance mode timer roll arena).enemies ∨
      ∃ index enemy, (advance mode timer roll arena).enemies[index]? = some enemy ∧
        enemy.active = true ∧ (tickArena mode timer roll arena lost).1.enemies =
          (advance mode timer roll arena).enemies.set index enemy.kill :=
  checkBulletEnemyCollision_enemies
    (checkEnemyBulletCollision (advance mode timer roll arena) false).1

/-- The bullet check spares an enemy that no active bullet meets. -/
theorem mem_checkBulletEnemyCollision {arena : Arena} {enemy : Enemy} (member : enemy ∈ arena.enemies)
    (missed : ∀ bullet ∈ arena.bullets, bullet.active = true → bulletHitsEnemy bullet enemy = false) :
    enemy ∈ (checkBulletEnemyCollision arena).enemies := by
  unfold checkBulletEnemyCollision
  cases hit : shootFirst arena.bullets arena.enemies with
  | none => exact member
  | some after =>
    obtain ⟨bullets, enemies⟩ := after
    obtain ⟨before, bullet, behind, split, active, _, meets⟩ := shootFirst_eq_some hit
    obtain ⟨index, killed, found, _, overlap, rfl⟩ := hitFirst_eq_some meets
    obtain ⟨place, at'⟩ := List.mem_iff_getElem?.mp member
    -- the killed one is another one
    have other : index ≠ place := by
      rintro rfl
      rw [at', Option.some.injEq] at found
      have inside : bullet ∈ arena.bullets := by
        rw [split]
        exact List.mem_append_right _ List.mem_cons_self
      rw [← found, missed bullet inside active] at overlap
      cases overlap
    exact List.mem_iff_getElem?.mpr ⟨place, by rw [List.getElem?_set_ne other, at']⟩

/-! ### The checks on the enemies' bullets -/

theorem shieldAgainst_released (shield : Shield) (bullets : List Bullet) :
    Slots.Released Bullet.retire bullets (shieldAgainst shield bullets).2 := by
  induction bullets generalizing shield with
  | nil => exact List.Forall₂.nil
  | cons bullet rest ih =>
    simp only [shieldAgainst]
    split
    · exact List.Forall₂.cons (.inr rfl) (ih _)
    · exact List.Forall₂.cons (.inl rfl) (ih _)

theorem shieldRound_released (shield : Shield) (bullets : List Bullet) :
    Slots.Released Bullet.retire bullets (shieldRound shield bullets).2 := by
  unfold shieldRound
  split
  · exact Slots.Released.refl bullets
  · exact shieldAgainst_released shield bullets

theorem shieldRounds_released (shields : List Shield) (bullets : List Bullet) :
    Slots.Released Bullet.retire bullets (shieldRounds shields bullets).2 := by
  induction shields generalizing bullets with
  | nil => exact Slots.Released.refl bullets
  | cons shield rest ih =>
    exact (shieldRound_released shield bullets).trans (fun _ => rfl) (ih _)

/-- The checks of a tick retire enemy bullets, and do nothing else to them. -/
theorem tickArena_enemyBullets (mode : ModeInfo) (timer roll : Nat) (arena : Arena) (lost : Bool) :
    Slots.Released Bullet.retire (advance mode timer roll arena).enemyBullets
      (tickArena mode timer roll arena lost).1.enemyBullets := by
  have atShip : Slots.Released Bullet.retire (advance mode timer roll arena).enemyBullets
      (checkEnemyBulletCollision (advance mode timer roll arena) false).1.enemyBullets :=
    Slots.Released.map _ _
  rw [tickArena_fst]
  refine atShip.trans (fun _ => rfl) ?_
  rw [← checkBulletEnemyCollision_enemyBullets]
  exact shieldRounds_released _ _

/-- The player's bullets after a tick: moved up, and some retired. -/
theorem tickArena_bullets (mode : ModeInfo) (timer roll : Nat) (arena : Arena) (lost : Bool) :
    Slots.Released Bullet.retire (arena.bullets.map updateBullet)
      (tickArena mode timer roll arena lost).1.bullets := by
  rw [← advance_bullets mode timer roll arena, tickArena_fst]
  exact checkBulletEnemyCollision_bullets
    (checkEnemyBulletCollision (advance mode timer roll arena) false).1

end SpaceInvaders
