/-
**What a game reads of its arena.**

Clearing a bullet's `active` flag leaves its position in the slot, where nothing reads it again. Two
arenas that differ only in the idle slots (`Twin`) stay so through every operation of a game, and all
its tests come out the same.

* `Twin.shipAction`, `Twin.tickArena`: a key and a tick;
* `Twin.drawsFrame`: the drawing at the end of a tick.
-/

import SpaceInvaders.Game.Checks

namespace SpaceInvaders

/-- The bullets of the two lists agree, except for what idle slots hold. -/
abbrev SameBullets : List Bullet → List Bullet → Prop := Slots.SameBusy Bullet.active

/-- The arenas differ in the idle slots of the two bullet lists only. -/
def Twin (arena arena' : Arena) : Prop :=
  ∃ bullets enemyBullets, SameBullets arena.bullets bullets ∧
    SameBullets arena.enemyBullets enemyBullets ∧
    arena' = { arena with bullets := bullets, enemyBullets := enemyBullets }

/-! ### The ship -/

theorem Twin.shipAction {arena arena' : Arena} (twin : Twin arena arena') (mode : ModeInfo)
    (scancode : UInt8) : Twin (shipAction mode scancode arena) (shipAction mode scancode arena') := by
  obtain ⟨bullets, enemyBullets, same, same', rfl⟩ := twin
  unfold SpaceInvaders.shipAction
  split
  · split <;> exact ⟨bullets, enemyBullets, same, same', rfl⟩
  split
  · exact ⟨bullets, enemyBullets, same, same', rfl⟩
  split
  · split
    · refine ⟨_, enemyBullets, ?_, same', rfl⟩
      rcases same.fillFirst (shipBullet arena.x) with ⟨full, full'⟩ | ⟨_, _, taken, taken', related⟩
      · rw [full, full']
        exact same
      · rw [taken, taken']
        exact related
    · exact ⟨bullets, enemyBullets, same, same', rfl⟩
  · exact ⟨bullets, enemyBullets, same, same', rfl⟩

theorem Twin.launchesBullet {arena arena' : Arena} (twin : Twin arena arena') (scancode : UInt8) :
    launchesBullet scancode arena = launchesBullet scancode arena' := by
  obtain ⟨bullets, enemyBullets, same, _, rfl⟩ := twin
  unfold SpaceInvaders.launchesBullet
  rcases same.fillFirst (shipBullet arena.x) with ⟨full, full'⟩ | ⟨_, _, taken, taken', _⟩
  · rw [full, full']
  · rw [taken, taken']
    rfl

/-! ### The moves -/

theorem enemiesMoving_frame (mode : ModeInfo) (arena : Arena) (bullets enemyBullets : List Bullet) :
    enemiesMoving mode { arena with bullets := bullets, enemyBullets := enemyBullets } =
      { enemiesMoving mode arena with bullets := bullets, enemyBullets := enemyBullets } := by
  simp only [enemiesMoving]
  split
  · unfold moveEnemies
    have same : hitEdge mode { arena with
        bullets := bullets, enemyBullets := enemyBullets, enemyMoveTimer := arena.enemyMoveTimer + 1 } =
        hitEdge mode { arena with enemyMoveTimer := arena.enemyMoveTimer + 1 } := rfl
    rw [same]
    split <;> rfl
  · rfl

theorem Twin.moveAll {arena arena' : Arena} (twin : Twin arena arena') (mode : ModeInfo) :
    Twin (moveAll mode arena) (moveAll mode arena') := by
  obtain ⟨bullets, enemyBullets, same, same', rfl⟩ := twin
  refine ⟨bullets.map updateBullet, enemyBullets.map (updateEnemyBullet mode), ?_, ?_, ?_⟩
  · rw [moveAll_bullets]
    exact same.map updateBullet_idle
  · rw [moveAll_enemyBullets]
    exact same'.map (updateEnemyBullet_idle mode)
  · exact enemiesMoving_frame mode (updateEnemyBullets mode (updateBullets
      { arena with fireDelayCounter := arena.fireDelayCounter + 1 })) _ _

theorem sameBullets_fireFrom {bullets bullets' : List Bullet} (same : SameBullets bullets bullets')
    (chosen count : Nat) (enemies : List Enemy) :
    SameBullets (fireFrom chosen bullets count enemies) (fireFrom chosen bullets' count enemies) := by
  induction enemies generalizing count with
  | nil => exact same
  | cons enemy rest ih =>
    unfold fireFrom
    split
    · split
      · rcases same.fillFirst (enemyBullet enemy) with ⟨full, full'⟩ | ⟨_, _, taken, taken', related⟩
        · rw [full, full']
          exact ih (count + 1)
        · rw [taken, taken']
          exact related
      · exact ih (count + 1)
    · exact ih count

theorem Twin.fireEnemyBullet {arena arena' : Arena} (twin : Twin arena arena') (roll : Nat) :
    Twin (fireEnemyBullet roll arena) (fireEnemyBullet roll arena') := by
  obtain ⟨bullets, enemyBullets, same, same', rfl⟩ := twin
  unfold SpaceInvaders.fireEnemyBullet
  have count : countActiveEnemies { arena with bullets := bullets, enemyBullets := enemyBullets } =
      countActiveEnemies arena := rfl
  rw [count]
  split
  · exact ⟨bullets, enemyBullets, same, same', rfl⟩
  · exact ⟨bullets, _, same, sameBullets_fireFrom same' _ 0 arena.enemies, rfl⟩

theorem Twin.advance {arena arena' : Arena} (twin : Twin arena arena') (mode : ModeInfo)
    {timer timer' : Nat} (phase : timer % 60 = timer' % 60) (roll : Nat) :
    Twin (advance mode timer roll arena) (advance mode timer' roll arena') := by
  unfold SpaceInvaders.advance
  rw [phase]
  split
  · exact (twin.moveAll mode).fireEnemyBullet roll
  · exact twin.moveAll mode

/-! ### The checks -/

theorem Twin.checkEnemyBulletCollision {arena arena' : Arena} (twin : Twin arena arena')
    (lost : Bool) :
    Twin (checkEnemyBulletCollision arena lost).1 (checkEnemyBulletCollision arena' lost).1 ∧
      (checkEnemyBulletCollision arena lost).2 = (checkEnemyBulletCollision arena' lost).2 := by
  obtain ⟨bullets, enemyBullets, same, same', rfl⟩ := twin
  refine ⟨⟨bullets, _, same, same'.map fun bullet idle => ?_, rfl⟩, ?_⟩
  · rw [idle, Bool.false_and, if_neg Bool.false_ne_true]
    exact idle
  · show (lost || _) = (lost || _)
    rw [same'.any fun bullet idle => by rw [idle, Bool.false_and]]

theorem sameBullets_shootFirst {bullets bullets' : List Bullet} (same : SameBullets bullets bullets')
    (enemies : List Enemy) :
    (shootFirst bullets enemies = none ∧ shootFirst bullets' enemies = none) ∨
      ∃ after after' left, shootFirst bullets enemies = some (after, left) ∧
        shootFirst bullets' enemies = some (after', left) ∧ SameBullets after after' := by
  induction same with
  | nil => exact .inl ⟨rfl, rfl⟩
  | @cons bullet bullet' rest rest' head tail ih =>
    -- behind two slots that are passed over
    have pass : ((shootFirst rest enemies).map (fun after => (bullet :: after.1, after.2)) = none ∧
        (shootFirst rest' enemies).map (fun after => (bullet' :: after.1, after.2)) = none) ∨
        ∃ after after' left,
          (shootFirst rest enemies).map (fun after => (bullet :: after.1, after.2)) =
            some (after, left) ∧
          (shootFirst rest' enemies).map (fun after => (bullet' :: after.1, after.2)) =
            some (after', left) ∧ SameBullets after after' := by
      rcases ih with ⟨none, none'⟩ | ⟨_, _, left, found, found', related⟩
      · rw [none, none']
        exact .inl ⟨rfl, rfl⟩
      · rw [found, found']
        exact .inr ⟨_, _, left, rfl, rfl, List.Forall₂.cons head related⟩
    unfold shootFirst
    rcases head with rfl | ⟨idle, idle'⟩
    · split
      · cases hitFirst bullet enemies with
        | none => exact pass
        | some left => exact .inr ⟨_, _, left, rfl, rfl, List.Forall₂.cons (.inl rfl) tail⟩
      · exact pass
    · rw [if_neg (by rw [idle]; exact Bool.false_ne_true),
        if_neg (by rw [idle']; exact Bool.false_ne_true)]
      exact pass

theorem Twin.checkBulletEnemyCollision {arena arena' : Arena} (twin : Twin arena arena') :
    Twin (checkBulletEnemyCollision arena) (checkBulletEnemyCollision arena') := by
  obtain ⟨bullets, enemyBullets, same, same', rfl⟩ := twin
  unfold SpaceInvaders.checkBulletEnemyCollision
  rcases sameBullets_shootFirst same arena.enemies with
    ⟨none, none'⟩ | ⟨_, after', left, found, found', related⟩
  · simp only [none, none']
    exact ⟨bullets, enemyBullets, same, same', rfl⟩
  · simp only [found, found']
    exact ⟨after', enemyBullets, related, same', rfl⟩

theorem sameBullets_shieldAgainst {bullets bullets' : List Bullet}
    (same : SameBullets bullets bullets') (shield : Shield) :
    (shieldAgainst shield bullets).1 = (shieldAgainst shield bullets').1 ∧
      SameBullets (shieldAgainst shield bullets).2 (shieldAgainst shield bullets').2 := by
  induction same generalizing shield with
  | nil => exact ⟨rfl, List.Forall₂.nil⟩
  | @cons bullet bullet' rest rest' head tail ih =>
    simp only [shieldAgainst]
    rcases head with rfl | ⟨idle, idle'⟩
    · split
      · exact ⟨(ih _).1, List.Forall₂.cons (.inl rfl) (ih _).2⟩
      · exact ⟨(ih _).1, List.Forall₂.cons (.inl rfl) (ih _).2⟩
    · rw [idle, idle', Bool.false_and, Bool.false_and, if_neg Bool.false_ne_true]
      exact ⟨(ih shield).1, List.Forall₂.cons (.inr ⟨idle, idle'⟩) (ih shield).2⟩

theorem sameBullets_shieldRounds {bullets bullets' : List Bullet}
    (same : SameBullets bullets bullets') (shields : List Shield) :
    (shieldRounds shields bullets).1 = (shieldRounds shields bullets').1 ∧
      SameBullets (shieldRounds shields bullets).2 (shieldRounds shields bullets').2 := by
  induction shields generalizing bullets bullets' with
  | nil => exact ⟨rfl, same⟩
  | cons shield rest ih =>
    have round : (shieldRound shield bullets).1 = (shieldRound shield bullets').1 ∧
        SameBullets (shieldRound shield bullets).2 (shieldRound shield bullets').2 := by
      unfold shieldRound
      split
      · exact ⟨rfl, same⟩
      · exact sameBullets_shieldAgainst same shield
    obtain ⟨shields, related⟩ := ih round.2
    exact ⟨List.cons_eq_cons.mpr ⟨round.1, shields⟩, related⟩

theorem Twin.checkShieldCollision {arena arena' : Arena} (twin : Twin arena arena') :
    Twin (checkShieldCollision arena) (checkShieldCollision arena') := by
  obtain ⟨bullets, enemyBullets, same, same', rfl⟩ := twin
  obtain ⟨shields, related⟩ := sameBullets_shieldRounds same' arena.shields
  refine ⟨bullets, _, same, related, ?_⟩
  simp only [SpaceInvaders.checkShieldCollision, shields]

theorem Twin.checkShipAlienCollision {arena arena' : Arena} (twin : Twin arena arena') (lost : Bool) :
    checkShipAlienCollision arena lost = checkShipAlienCollision arena' lost := by
  obtain ⟨_, _, _, _, rfl⟩ := twin
  rfl

/-- **A tick** keeps arenas twins, and finds the game lost in both or in none. -/
theorem Twin.tickArena {arena arena' : Arena} (twin : Twin arena arena') (mode : ModeInfo)
    {timer timer' : Nat} (phase : timer % 60 = timer' % 60) (roll : Nat) (lost : Bool) :
    Twin (tickArena mode timer roll arena lost).1 (tickArena mode timer' roll arena' lost).1 ∧
      (tickArena mode timer roll arena lost).2 = (tickArena mode timer' roll arena' lost).2 := by
  obtain ⟨atShip, flag⟩ := (twin.advance mode phase roll).checkEnemyBulletCollision lost
  have shot := atShip.checkBulletEnemyCollision
  exact ⟨shot.checkShieldCollision, (shot.checkShipAlienCollision _).trans (congrArg _ flag)⟩

/-! ### The end of a tick -/

theorem Twin.drawsFrame {arena arena' : Arena} (twin : Twin arena arena') (mode : ModeInfo) :
    drawsFrame mode arena = drawsFrame mode arena' := by
  obtain ⟨bullets, enemyBullets, same, _, rfl⟩ := twin
  have bulletsDrawn : drawAllBullets mode arena =
      drawAllBullets mode { arena with bullets := bullets, enemyBullets := enemyBullets } := by
    unfold drawAllBullets
    rw [same.any fun bullet idle => by rw [idle, Bool.false_and]]
  unfold SpaceInvaders.drawsFrame
  rw [bulletsDrawn]
  rfl

theorem Twin.countActiveEnemies {arena arena' : Arena} (twin : Twin arena arena') :
    countActiveEnemies arena = countActiveEnemies arena' := by
  obtain ⟨_, _, _, _, rfl⟩ := twin
  rfl

end SpaceInvaders
