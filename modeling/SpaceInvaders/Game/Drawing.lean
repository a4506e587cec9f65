/-
**What a tick draws, and where it can fail.**

In mode `0x14C` the ship keeps between 20 and 1102, and neither it nor its bullets ever leave the screen
(`onField_iff`). The formation keeps to the side margins, but nothing bounds it downwards.

* `field_invariant`: the ship and its bullets over whole runs;
* `drawsFrame_of_sprites`, `drawsFrame_of_below`: the frame is drawn while the formation is on the
  screen, and not when an active enemy has sunk below it.
-/

import SpaceInvaders.Game.Screen

namespace SpaceInvaders

/-- The ship stands where its keys can bring it. -/
def ShipInside (arena : Arena) : Prop := 20 < arena.x ∧ arena.x ≤ 1102

/-- The ship and the player's bullets in flight are on the screen. -/
structure OnField (arena : Arena) : Prop where
  ship : ShipInside arena
  bullets : ∀ bullet ∈ arena.bullets, bullet.active = true →
    43 ≤ bullet.x ∧ bullet.x ≤ 1125 ∧ 0 ≤ bullet.y ∧ bullet.y ≤ 670

/-- In mode `0x14C` this is the general invariant of the screen. -/
theorem onField_iff {arena : Arena} : OnField arena ↔ OnScreen mode14C arena := by
  constructor
  · rintro ⟨⟨left, right⟩, bullets⟩
    exact ⟨left, right, bullets⟩
  · rintro ⟨left, right, bullets⟩
    exact ⟨⟨left, right⟩, bullets⟩

theorem ShipInside.drawShip {arena : Arena} (inside : ShipInside arena) :
    drawShip mode14C arena.x = 0 := by
  have alone : OnScreen mode14C { arena with bullets := [] } :=
    ⟨inside.1, inside.2, fun bullet member => by cases member⟩
  exact alone.drawShip (by decide)

namespace OnField

theorem shipAction {arena : Arena} (onField : OnField arena) (scancode : UInt8) :
    OnField (shipAction mode14C scancode arena) :=
  onField_iff.mpr ((onField_iff.mp onField).shipAction (by decide) scancode)

theorem tickArena {arena : Arena} (onField : OnField arena) (timer roll : Nat) :
    OnField (tickArena mode14C timer roll arena false).1 :=
  onField_iff.mpr ((onField_iff.mp onField).tickArena timer roll false)

theorem drawAllBullets {arena : Arena} (onField : OnField arena) :
    drawAllBullets mode14C arena = 0 :=
  (onField_iff.mp onField).drawAllBullets (by decide)

end OnField

/-- **The ship and its bullets stay on the screen** in every reachable game, under a formation inside
the side margins. -/
theorem field_invariant : ArenaInvariant mode14C (fun arena => Rigid arena ∧ ShipInside arena)
    fun _ arena => Rigid arena ∧ OnField arena where
  initial := ⟨rigid_invariant.initial, by unfold ShipInside; decide⟩
  rest _ _ inv := ⟨inv.1, inv.2.ship⟩
  start _ arena rest := by
    refine ⟨rigid_startArena rest.1, rest.2, fun bullet member active => ?_⟩
    rw [active_of_mem_retire bullet member] at active
    cases active
  key _ _ scancode inv := ⟨rigid_shipAction inv.1 scancode, inv.2.shipAction scancode⟩
  tickRest _ _ _ inv := ⟨inv.1.tickArena _ _, (inv.2.tickArena _ _).ship⟩
  tick _ _ _ inv _ := ⟨inv.1.tickArena _ _, inv.2.tickArena _ _⟩

/-! ### The formation -/

/-- Every active enemy's sprite ends above the lower border of the screen. -/
def AboveBottom (arena : Arena) : Prop :=
  ∀ enemy ∈ arena.enemies, enemy.active = true → enemy.y + 34 ≤ 864

/-- The box of an active enemy's sprite lies wholly on the screen. -/
def SpritesOnScreen (mode : ModeInfo) (arena : Arena) : Prop :=
  ∀ enemy ∈ arena.enemies, enemy.active = true →
    0 ≤ enemy.x ∧ enemy.x + (enemySprite enemy.type).width ≤ mode.width ∧
      0 ≤ enemy.y ∧ enemy.y + (enemySprite enemy.type).height ≤ mode.height

/-- Only the lower border matters for a formation inside the margins. -/
theorem spritesOnScreen_iff {arena : Arena} (rigid : Rigid arena) :
    SpritesOnScreen mode14C arena ↔ AboveBottom arena := by
  obtain ⟨dy, low, rows⟩ := rigid.rows
  refine forall₃_congr fun enemy member active => ?_
  have margins := rigid.margins enemy member active
  have row := rows enemy member active
  have narrow := enemySprite_width_le enemy.type
  rw [enemySprite_height, mode14C_width, mode14C_height]
  omega

theorem drawAllEnemies_of_sprites {mode : ModeInfo} {arena : Arena}
    (onScreen : SpritesOnScreen mode arena) : drawAllEnemies mode arena = 0 := by
  unfold drawAllEnemies
  rw [if_neg]
  rw [Bool.not_eq_true, List.any_eq_false]
  intro enemy member fails
  rw [Bool.and_eq_true, decide_eq_true_eq] at fails
  obtain ⟨active, fails⟩ := fails
  obtain ⟨left, right, top, bottom⟩ := onScreen enemy member active
  unfold drawEnemy at fails
  rw [if_pos active] at fails
  exact fails (printXpm_of_fits mode _ left top right bottom)

/-- **A frame is drawn** when the formation is on the screen. -/
theorem drawsFrame_of_sprites {arena : Arena} (onField : OnField arena)
    (onScreen : SpritesOnScreen mode14C arena) : drawsFrame mode14C arena = true := by
  unfold drawsFrame
  rw [decide_eq_true_eq]
  exact ⟨onField.ship.drawShip, drawAllEnemies_of_sprites onScreen, onField.drawAllBullets⟩

/-- An active enemy below the screen makes the frame fail. -/
theorem drawsFrame_of_below {arena : Arena} {enemy : Enemy} (member : enemy ∈ arena.enemies)
    (active : enemy.active = true) (low : 864 < enemy.y + 34) (short : enemy.y < 65536) :
    drawsFrame mode14C arena = false := by
  have fails : drawEnemy mode14C enemy ≠ 0 := by
    unfold drawEnemy printXpm
    rw [if_pos active, if_neg]
    · decide
    have wide := enemySprite_width enemy.type
    rw [pixelsOnScreen_iff, enemySprite_height, u16_of_range (by omega) short, mode14C_height]
    omega
  have enemies : drawAllEnemies mode14C arena ≠ 0 := by
    unfold drawAllEnemies
    rw [if_pos]
    · decide
    rw [List.any_eq_true]
    exact ⟨enemy, member, by rw [active, decide_eq_true fails]; rfl⟩
  unfold drawsFrame
  rw [decide_eq_false_iff_not]
  exact fun drawn => enemies drawn.2.1

end SpaceInvaders
