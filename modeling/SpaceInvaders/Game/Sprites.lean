/-
**Collisions against what is drawn.**

The four checks test boxes of the sizes `BULLET_WIDTH` x `BULLET_HEIGHT` and `ENEMY_WIDTH` x
`ENEMY_HEIGHT`. The player's bullet, the ship and the shields are drawn in the size they are tested
with, the enemies' bullets (5 x 17 for 8 x 30) and the enemies (45 or 51 x 34 for 40 x 40) are not.

* `collisions_match_iff`: at which offsets a check and the sprites agree;
* `not_collisionsMatch`: a bullet that a shield absorbs before their sprites touch.
-/

import SpaceInvaders.Lib.Boxes
import SpaceInvaders.Model.GameState

namespace SpaceInvaders

/-! ### What is drawn -/

/-- The box of an image drawn at a position. -/
def Xpm.at (image : Xpm) (x y : Int) : Box := ⟨x, y, image.width, image.height⟩

theorem Xpm.at_solid {image : Xpm} (wide : 0 < image.width) (tall : 0 < image.height) (x y : Int) :
    (image.at x y).Solid := by
  refine ⟨?_, ?_⟩
  · show (0 : Int) < image.width
    omega
  · show (0 : Int) < image.height
    omega

/-- The sprite `draw_bullet` draws. -/
def Bullet.drawn (bullet : Bullet) : Box := Xpm.bullet.at bullet.x bullet.y

/-- The sprite `draw_enemy_bullets` draws. -/
def Bullet.drawnByEnemy (bullet : Bullet) : Box := Xpm.enemyBullet.at bullet.x bullet.y

/-- The sprite `draw_ship` draws. -/
def shipDrawn (x : Int) : Box := Xpm.ship.at x shipY

/-- The sprite `draw_shields` draws, whole or broken. -/
def Shield.drawn (shield : Shield) : Box := Xpm.shield.at shield.x shield.y

/-- The sprite `draw_enemy` draws. -/
def Enemy.drawn (enemy : Enemy) : Box := (enemySprite enemy.type).at enemy.x enemy.y

theorem Bullet.drawn_solid (bullet : Bullet) : bullet.drawn.Solid :=
  Xpm.at_solid (by decide) (by decide) _ _

theorem Bullet.drawnByEnemy_solid (bullet : Bullet) : bullet.drawnByEnemy.Solid :=
  Xpm.at_solid (by decide) (by decide) _ _

theorem shipDrawn_solid (x : Int) : (shipDrawn x).Solid :=
  Xpm.at_solid (by decide) (by decide) _ _

theorem Shield.drawn_solid (shield : Shield) : shield.drawn.Solid :=
  Xpm.at_solid (by decide) (by decide) _ _

theorem Enemy.drawn_solid (enemy : Enemy) : enemy.drawn.Solid := by
  have wide := enemySprite_width enemy.type
  have tall := enemySprite_height enemy.type
  exact Xpm.at_solid (by omega) (by omega) _ _

/-! ### The enemies' bullets -/

/-- Only the part of an enemy bullet's tested box that its sprite does not fill touches the target: its
last 3 columns or its last 13 rows. -/
def BeyondBullet (bullet : Bullet) (target : Box) : Prop :=
  (-target.width < target.x - bullet.x ∧ target.x - bullet.x < 8 ∧
    -target.height < target.y - bullet.y ∧ target.y - bullet.y < 30) ∧
    (5 ≤ target.x - bullet.x ∨ 17 ≤ target.y - bullet.y)

/-- The test of an enemy bullet's box against a target agrees with the sprites unless the box alone
touches. -/
theorem enemyBullet_agrees_iff (bullet : Bullet) {target : Box} (solid : target.Solid) :
    ((overlaps bullet.x bullet.y bulletWidth bulletHeight target.x target.y target.width target.height =
        true) ↔ bullet.drawnByEnemy.Meet target) ↔ ¬ BeyondBullet bullet target := by
  rw [overlaps_iff, Box.meet_iff bullet.drawnByEnemy_solid solid]
  simp only [bulletWidth, bulletHeight, Bullet.drawnByEnemy, Xpm.at, Xpm.enemyBullet, BeyondBullet]
  omega

/-! ### The enemies -/

/-- Only one of an enemy's two boxes touches the other object: the last 5 or 11 columns of its sprite,
or the last 6 rows of its tested box. -/
def BeyondEnemy (object : Box) (enemy : Enemy) : Prop :=
  enemy.x - object.x < object.width ∧ enemy.y - object.y < object.height ∧
    ((-(enemySprite enemy.type).width < enemy.x - object.x ∧ enemy.x - object.x ≤ -40 ∧
        -34 < enemy.y - object.y) ∨
      (-40 < enemy.x - object.x ∧ -40 < enemy.y - object.y ∧ enemy.y - object.y ≤ -34))

/-- The test of an object against an enemy's box agrees with the sprites unless one box alone
touches. -/
theorem enemy_agrees_iff (enemy : Enemy) {object : Box} (solid : object.Solid) :
    ((overlaps object.x object.y object.width object.height enemy.x enemy.y enemyWidth enemyHeight =
        true) ↔ object.Meet enemy.drawn) ↔ ¬ BeyondEnemy object enemy := by
  have wide := enemySprite_width enemy.type
  have tall := enemySprite_height enemy.type
  rw [overlaps_iff, Box.meet_iff solid enemy.drawn_solid]
  simp only [enemyWidth, enemyHeight, Enemy.drawn, Xpm.at, BeyondEnemy, tall]
  omega

/-! ### The four checks -/

/-- Each check reports contact exactly when the sprites share a pixel. -/
structure CollisionsMatch : Prop where
  enemyBulletShip : ∀ x bullet, bulletHitsShip x bullet = true ↔ bullet.drawnByEnemy.Meet (shipDrawn x)
  enemyBulletShield : ∀ bullet shield,
    bulletHitsShield bullet shield = true ↔ bullet.drawnByEnemy.Meet shield.drawn
  bulletEnemy : ∀ bullet enemy, bulletHitsEnemy bullet enemy = true ↔ bullet.drawn.Meet enemy.drawn
  shipEnemy : ∀ x enemy, shipHitsEnemy x enemy = true ↔ (shipDrawn x).Meet enemy.drawn

/-- **Where collisions match what is drawn.** Each check agrees with the sprites at exactly the positions
where no part of a box alone touches. -/
theorem collisions_match_iff (x : Int) (bullet : Bullet) (shield : Shield) (enemy : Enemy) :
    ((bulletHitsShip x bullet = true ↔ bullet.drawnByEnemy.Meet (shipDrawn x)) ↔
      ¬ BeyondBullet bullet (shipDrawn x)) ∧
    ((bulletHitsShield bullet shield = true ↔ bullet.drawnByEnemy.Meet shield.drawn) ↔
      ¬ BeyondBullet bullet shield.drawn) ∧
    ((bulletHitsEnemy bullet enemy = true ↔ bullet.drawn.Meet enemy.drawn) ↔
      ¬ BeyondEnemy bullet.drawn enemy) ∧
    ((shipHitsEnemy x enemy = true ↔ (shipDrawn x).Meet enemy.drawn) ↔
      ¬ BeyondEnemy (shipDrawn x) enemy) := by
  refine ⟨?_, ?_, ?_, ?_⟩
  · exact enemyBullet_agrees_iff bullet (shipDrawn_solid x)
  · exact enemyBullet_agrees_iff bullet shield.drawn_solid
  · exact enemy_agrees_iff enemy bullet.drawn_solid
  · exact enemy_agrees_iff enemy (shipDrawn_solid x)

/-- **A phantom hit**: a falling bullet is absorbed by the first shield while 7 rows lie between their
sprites. -/
theorem not_collisionsMatch :
    (initShield mode14C 0).x = 182 ∧ (initShield mode14C 0).y = 614 ∧
      bulletHitsShield ⟨200, 590, true⟩ (initShield mode14C 0) = true ∧
      ¬ (Bullet.mk 200 590 true).drawnByEnemy.Meet (initShield mode14C 0).drawn ∧
      ¬ CollisionsMatch := by
  have apart : ¬ (Bullet.mk 200 590 true).drawnByEnemy.Meet (initShield mode14C 0).drawn := by
    rw [Box.meet_iff (Bullet.drawnByEnemy_solid _) (Shield.drawn_solid _)]
    decide
  refine ⟨by decide, by decide, by decide, apart, fun everywhere => apart ?_⟩
  exact (everywhere.enemyBulletShield _ _).mp (by decide)

end SpaceInvaders
