/-
**The formation is rigid and stays inside the side margins.**

All active enemies share one offset from their starting places, a multiple of 20 sideways and of 40
downwards, because a call of `move_enemies` moves all of them or none. The edge test looks at the
surviving enemies only and uses a width of 40; the positions are multiples of 20, so it stops them
between 20 and 1100 all the same.

`Rigid` is kept by the three operations on the formation (`Rigid.moveEnemies`, `Rigid.kill`,
`rigid_startArena`), hence in every reachable state (`rigid_invariant`).
-/

import SpaceInvaders.Game.Checks
import SpaceInvaders.Game.Rule
import Mathlib.Tactic.IntervalCases

namespace SpaceInvaders

/-- Every active enemy is at its starting place moved by `(dx, dy)`. -/
def InFormation (dx dy : Int) (enemies : List Enemy) : Prop :=
  ∀ (index : Nat) enemy, enemies[index]? = some enemy → enemy.active = true →
    enemy.x = 100 + 100 * (index % 6 : Nat) + dx ∧ enemy.y = 50 + 80 * (index / 6 : Nat) + dy

/-- The active enemies keep to the margins. -/
def InMargins (enemies : List Enemy) : Prop :=
  ∀ enemy ∈ enemies, enemy.active = true → 20 ≤ enemy.x ∧ enemy.x ≤ 1100

/-- The invariant of the formation. -/
structure Rigid (arena : Arena) : Prop where
  size : arena.enemies.length = 18
  direction : arena.enemyDirection = 1 ∨ arena.enemyDirection = -1
  placed : ∃ dx dy : Int, 20 ∣ dx ∧ 40 ∣ dy ∧ 0 ≤ dy ∧ InFormation dx dy arena.enemies
  margins : InMargins arena.enemies

namespace Rigid

theorem congr {arena arena' : Arena} (rigid : Rigid arena) (same : arena'.march = arena.march) :
    Rigid arena' := by
  simp only [Arena.march, Prod.mk.injEq] at same
  obtain ⟨enemies, direction, _⟩ := same
  exact ⟨enemies ▸ rigid.size, direction ▸ rigid.direction, enemies ▸ rigid.placed,
    enemies ▸ rigid.margins⟩

/-- An active enemy stands between 50 and 210 below the formation's offset. -/
theorem rows {arena : Arena} (rigid : Rigid arena) :
    ∃ dy : Int, 0 ≤ dy ∧ ∀ enemy ∈ arena.enemies, enemy.active = true →
      (enemy.y = 50 + dy ∨ enemy.y = 130 + dy ∨ enemy.y = 210 + dy) := by
  obtain ⟨dx, dy, _, _, low, placed⟩ := rigid.placed
  refine ⟨dy, low, fun enemy member active => ?_⟩
  obtain ⟨index, inside⟩ := List.mem_iff_getElem?.mp member
  have below : index < 18 := rigid.size ▸ (List.getElem?_eq_some_iff.mp inside).1
  have at' := (placed index enemy inside active).2
  omega

/-- An active enemy stands on the 20-pixel grid. -/
theorem grid {arena : Arena} (rigid : Rigid arena) :
    ∀ enemy ∈ arena.enemies, enemy.active = true → 20 ∣ enemy.x := by
  obtain ⟨dx, dy, step, _, _, placed⟩ := rigid.placed
  intro enemy member active
  obtain ⟨index, inside⟩ := List.mem_iff_getElem?.mp member
  have at' := (placed index enemy inside active).1
  omega

/-- Killing an enemy keeps the formation. -/
theorem kill {arena arena' : Arena} (rigid : Rigid arena) {index : Nat} {enemy : Enemy}
    (killed : arena'.enemies = arena.enemies.set index enemy.kill)
    (direction : arena'.enemyDirection = arena.enemyDirection) : Rigid arena' := by
  obtain ⟨dx, dy, stepX, stepY, low, placed⟩ := rigid.placed
  refine ⟨by rw [killed, List.length_set, rigid.size], direction ▸ rigid.direction,
    ⟨dx, dy, stepX, stepY, low, fun place other inside active => ?_⟩, fun other member active => ?_⟩
  · rw [killed, List.getElem?_set] at inside
    split at inside
    · split at inside
      · cases inside
        cases active
      · cases inside
    · exact placed place other inside active
  · rw [killed] at member
    rcases List.mem_or_eq_of_mem_set member with before | rfl
    · exact rigid.margins other before active
    · cases active

/-- The edge test of a formation that moves on: no active enemy is at the edge it moves to. -/
theorem clear_of_edge {arena : Arena} (rigid : Rigid arena)
    (clear : hitEdge mode14C arena = false) :
    ∀ enemy ∈ arena.enemies, enemy.active = true →
      20 ≤ enemy.x + arena.enemyDirection * 20 ∧ enemy.x + arena.enemyDirection * 20 ≤ 1100 := by
  intro enemy member active
  have away : atEdge mode14C arena.enemyDirection enemy = false := by
    have every := (List.any_eq_false.mp clear) enemy member
    simpa [active] using every
  have onGrid := rigid.grid enemy member active
  have inside := rigid.margins enemy member active
  simp only [atEdge, Bool.or_eq_false_iff, Bool.and_eq_false_iff, decide_eq_false_iff_not] at away
  rw [enemyWidth, mode14C_width] at away
  obtain ⟨notRight, notLeft⟩ := away
  rcases rigid.direction with right | left
  · rcases notRight with other | short
    · omega
    · omega
  · rcases notLeft with other | short
    · omega
    · omega

/-- **A call of `move_enemies` keeps the formation.** -/
theorem moveEnemies {arena : Arena} (rigid : Rigid arena) :
    Rigid (moveEnemies mode14C arena) := by
  obtain ⟨dx, dy, stepX, stepY, low, placed⟩ := rigid.placed
  rcases moveEnemies_cases mode14C arena with ⟨_, moved⟩ | ⟨_, _, moved⟩ | ⟨clear, _, moved⟩
  · -- a reversal moves nothing
    rw [moved]
    refine ⟨rigid.size, ?_, rigid.placed, rigid.margins⟩
    have direction := rigid.direction
    show arena.enemyDirection * -1 = 1 ∨ arena.enemyDirection * -1 = -1
    omega
  · -- a drop adds 40 to `dy`
    rw [moved]
    refine ⟨by simpa using rigid.size, rigid.direction,
      ⟨dx, dy + 40, stepX, by omega, by omega, fun index enemy inside active => ?_⟩, ?_⟩
    · rw [List.getElem?_map] at inside
      obtain ⟨before, at', rfl⟩ := Option.map_eq_some_iff.mp inside
      rw [dropEnemy_active] at active
      rw [dropEnemy_of_active active]
      have place := placed index before at' active
      exact ⟨place.1, by show before.y + 40 = _; omega⟩
    · intro enemy member active
      obtain ⟨before, inside, rfl⟩ := List.mem_map.mp member
      rw [dropEnemy_active] at active
      rw [dropEnemy_of_active active]
      exact rigid.margins before inside active
  · -- a step adds 20 to `dx`, or takes it away
    rw [moved]
    have away := rigid.clear_of_edge clear
    refine ⟨by simpa using rigid.size, rigid.direction,
      ⟨dx + arena.enemyDirection * 20, dy, ?_, stepY, low, fun index enemy inside active => ?_⟩, ?_⟩
    · exact Int.dvd_add stepX (Int.dvd_mul_left _ _)
    · rw [List.getElem?_map] at inside
      obtain ⟨before, at', rfl⟩ := Option.map_eq_some_iff.mp inside
      rw [stepEnemy_active] at active
      rw [stepEnemy_of_active _ active]
      have place := placed index before at' active
      exact ⟨by show before.x + arena.enemyDirection * 20 = _; omega, place.2⟩
    · intro enemy member active
      obtain ⟨before, inside, rfl⟩ := List.mem_map.mp member
      rw [stepEnemy_active] at active
      rw [stepEnemy_of_active _ active]
      exact away before inside active

theorem advance {arena : Arena} (rigid : Rigid arena) (timer roll : Nat) :
    Rigid (advance mode14C timer roll arena) := by
  rcases advance_march mode14C timer roll arena with ⟨_, same, _⟩ | ⟨_, moved, _⟩
  · exact rigid.congr same
  · exact rigid.moveEnemies.congr moved

theorem tickArena {arena : Arena} (rigid : Rigid arena) (timer roll : Nat) :
    Rigid (tickArena mode14C timer roll arena false).1 := by
  have before : Rigid (checkEnemyBulletCollision (SpaceInvaders.advance mode14C timer roll arena)
      false).1 := (rigid.advance timer roll).congr rfl
  rw [tickArena_fst]
  rcases checkBulletEnemyCollision_enemies (checkEnemyBulletCollision
    (SpaceInvaders.advance mode14C timer roll arena) false).1 with same | ⟨index, enemy, _, _, killed⟩
  · rw [checkBulletEnemyCollision_eq, same]
    exact before.congr rfl
  · rw [checkBulletEnemyCollision_eq, killed]
    exact before.kill rfl rfl

end Rigid

/-- The enemies `init_enemies` writes, by index. -/
theorem initEnemies_getElem? (arena : Arena) {index : Nat} (below : index < 18) :
    (initEnemies arena).enemies[index]? = some (initEnemy (index / 6) (index % 6)) := by
  interval_cases index <;> rfl

theorem rigid_initEnemies (arena : Arena)
    (direction : arena.enemyDirection = 1 ∨ arena.enemyDirection = -1) : Rigid (initEnemies arena) := by
  have size : (initEnemies arena).enemies.length = 18 := rfl
  have places : ∀ index enemy, (initEnemies arena).enemies[index]? = some enemy →
      enemy = initEnemy (index / 6) (index % 6) ∧ index < 18 := by
    intro index enemy inside
    have below : index < 18 := size ▸ (List.getElem?_eq_some_iff.mp inside).1
    rw [initEnemies_getElem? arena below, Option.some.injEq] at inside
    exact ⟨inside.symm, below⟩
  refine ⟨size, direction, ⟨0, 0, by omega, by omega, le_rfl, fun index enemy inside _ => ?_⟩,
    fun enemy member _ => ?_⟩
  · obtain ⟨rfl, _⟩ := places index enemy inside
    simp only [initEnemy, enemyStartX, enemyStartY, enemySpacingX, enemySpacingY]
    omega
  · obtain ⟨index, inside⟩ := List.mem_iff_getElem?.mp member
    obtain ⟨rfl, below⟩ := places index enemy inside
    simp only [initEnemy, enemyStartX, enemySpacingX]
    omega

theorem rigid_startArena {arena : Arena} (rigid : Rigid arena) :
    Rigid (startArena mode14C arena) :=
  (rigid_initEnemies (initBullets arena) rigid.direction).congr rfl

theorem rigid_shipAction {arena : Arena} (rigid : Rigid arena) (scancode : UInt8) :
    Rigid (shipAction mode14C scancode arena) := by
  rw [shipAction_eq]
  exact rigid.congr rfl

/-- **The formation stays rigid** in every reachable state, during games and between them. -/
theorem rigid_invariant : ArenaInvariant mode14C Rigid fun _ => Rigid where
  initial := by
    refine ⟨rfl, .inl rfl, ⟨0, 0, by omega, by omega, le_rfl, fun index enemy inside active => ?_⟩,
      fun enemy member active => ?_⟩
    · have none := List.eq_of_mem_replicate (List.mem_of_getElem? inside)
      rw [none] at active
      cases active
    · rw [List.eq_of_mem_replicate member] at active
      cases active
  rest _ _ rigid := rigid
  start _ _ rigid := rigid_startArena rigid
  key _ _ scancode rigid := rigid_shipAction rigid scancode
  tickRest _ _ _ rigid := rigid.tickArena _ _
  tick _ _ _ rigid _ := rigid.tickArena _ _

/-- **Rigid inside the margins, in every reachable state.** The arena a tick draws is the arena of the
state it leads to, so this is also where the sprites, at most 51 wide, are drawn. -/
theorem formation_in_margins (csv : Option (List UInt8)) (messages : List Receive) :
    (run mode14C (start csv) messages).globals.arena.enemies.length = 18 ∧
      ∃ dx dy : Int, 20 ∣ dx ∧ 40 ∣ dy ∧ 0 ≤ dy ∧
        ∀ row col : Nat, row < 3 → col < 6 → ∀ enemy,
          (run mode14C (start csv) messages).globals.arena.enemies[6 * row + col]? = some enemy →
          enemy.active = true →
            enemy.x = 100 + 100 * (col : Int) + dx ∧ enemy.y = 50 + 80 * (row : Int) + dy ∧
              20 ≤ enemy.x ∧ enemy.x ≤ 1100 ∧
              enemy.x + (enemySprite enemy.type).width ≤ mode14C.width := by
  have rigid := (rigid_invariant.reachable ((reachable_start mode14C csv).run messages)).1
  refine ⟨rigid.size, ?_⟩
  obtain ⟨dx, dy, stepX, stepY, low, placed⟩ := rigid.placed
  refine ⟨dx, dy, stepX, stepY, low, fun row col _ _ enemy inside active => ?_⟩
  have place := placed _ enemy inside active
  have margins := rigid.margins enemy (List.mem_of_getElem? inside) active
  have narrow := enemySprite_width_le enemy.type
  rw [mode14C_width]
  omega

end SpaceInvaders
