/-
**The playing field**: the data of `ship.h` and `enemies.h` and the global variables of `ship.c` and
`enemies.c`.

Arrays are lists of their fixed length. An `int` is an `Int`; the ship's `uint16_t x` is an `Int`
that every assignment passes through `u16`.
-/

import SpaceInvaders.Lib.Slots
import SpaceInvaders.Model.Graphics

namespace SpaceInvaders

/-! ### `ship.h` -/

def maxBullets : Nat := 10
def maxEnemyBullets : Nat := 10
def bulletWidth : Int := 8
def bulletHeight : Int := 30
def numShields : Nat := 4
def shieldWidth : Int := 47
def shieldHeight : Int := 34

/-- The structs `Bullet` and `EnemyBullet`, which have the same three fields. -/
structure Bullet where
  x : Int
  y : Int
  active : Bool
deriving DecidableEq

inductive ShieldState
  | full
  | broken
  | none
deriving DecidableEq

structure Shield where
  x : Int
  y : Int
  state : ShieldState
deriving DecidableEq

/-! ### `enemies.h` -/

def maxEnemies : Nat := 18
def enemyRows : Nat := 3
def enemyCols : Nat := 6
def enemyWidth : Int := 40
def enemyHeight : Int := 40
def enemySpacingX : Int := 100
def enemySpacingY : Int := 80
def enemyStartX : Int := 100
def enemyStartY : Int := 50

structure Enemy where
  x : Int
  y : Int
  active : Bool
  type : Int
deriving DecidableEq

/-! ### The global variables -/

/-- The ship's size, `ship_width` and `ship_height`, and its height on the screen, the `y` of
`game_state.c`; none of them is ever assigned. -/
def shipWidth : Int := 50
def shipHeight : Int := 50
def shipY : Int := 700

/-- The variables of `ship.c` and `enemies.c` that the game changes. -/
structure Arena where
  x : Int
  fireDelayCounter : Int
  bullets : List Bullet
  enemyBullets : List Bullet
  shields : List Shield
  enemies : List Enemy
  enemyDirection : Int
  enemyMoveTimer : Int
  shouldDrop : Bool

/-- The values the variables have when the program starts. -/
def Arena.initial : Arena where
  x := 350
  fireDelayCounter := 150
  bullets := List.replicate maxBullets ⟨0, 0, false⟩
  enemyBullets := List.replicate maxEnemyBullets ⟨0, 0, false⟩
  shields := List.replicate numShields ⟨0, 0, .full⟩
  enemies := List.replicate maxEnemies ⟨0, 0, false, 0⟩
  enemyDirection := 1
  enemyMoveTimer := 0
  shouldDrop := false

/-- The four inequalities of every collision check, on two boxes given by corner and size. -/
def overlaps (x y w h x' y' w' h' : Int) : Bool :=
  x < x' + w' && x + w > x' && y < y' + h' && y + h > y'

theorem overlaps_iff {x y w h x' y' w' h' : Int} :
    overlaps x y w h x' y' w' h' = true ↔
      x < x' + w' ∧ x' < x + w ∧ y < y' + h' ∧ y' < y + h := by
  simp [overlaps, and_assoc]

end SpaceInvaders
