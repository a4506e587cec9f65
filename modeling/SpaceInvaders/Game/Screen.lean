/-
**The ship and its bullets never leave the screen**, at any resolution of at least 400 by 750.

The left move is tested before it is made, the right move is clamped after it; both leave room for the
16-bit coordinate, up to the largest resolution there is. Bullets start above the ship and only fly up.

* `OnScreen`: the invariant, kept by the keys and the ticks;
* `ship_on_screen`: every reachable state and every draw.
-/

import SpaceInvaders.Game.PlayerShots
import SpaceInvaders.Game.Outcome

namespace SpaceInvaders

/-- The ship and the player's bullets in flight are on the screen. -/
structure OnScreen (mode : ModeInfo) (arena : Arena) : Prop where
  left : 20 < arena.x
  right : arena.x ≤ mode.width - 50
  bullets : ∀ bullet ∈ arena.bullets, bullet.active = true →
    43 ≤ bullet.x ∧ bullet.x ≤ mode.width - 27 ∧ 0 ≤ bullet.y ∧ bullet.y ≤ 670

/-- The ship's position after a key, in whole numbers. -/
def shipMove (mode : ModeInfo) (scancode : UInt8) (x : Int) : Int :=
  if scancode = kbA then if 50 < x then x - 30 else x
  else if scancode = kbD then min (x + 30) (mode.width - 50)
  else x

/-- A round of `draw_all_bullets` cannot fail for a bullet on the screen. -/
theorem drawAllBullets_of_onScreen {mode : ModeInfo} {arena : Arena}
    (onScreen : ∀ bullet ∈ arena.bullets, bullet.active = true →
      0 ≤ bullet.x ∧ bullet.x + 8 ≤ mode.width ∧ 0 ≤ bullet.y ∧ bullet.y + 30 ≤ mode.height) :
    drawAllBullets mode arena = 0 := by
  unfold drawAllBullets
  rw [if_neg]
  rw [Bool.not_eq_true, List.any_eq_false]
  intro bullet member fails
  rw [Bool.and_eq_true, decide_eq_true_eq] at fails
  obtain ⟨active, fails⟩ := fails
  obtain ⟨left, right, top, bottom⟩ := onScreen bullet member active
  have drawn : printXpm mode .bullet bullet.x bullet.y = 0 :=
    printXpm_of_fits mode .bullet left top right bottom
  unfold drawBullet at fails
  rw [if_pos active, if_neg (not_not.mpr drawn)] at fails
  exact fails rfl

namespace OnScreen

variable {mode : ModeInfo} {arena : Arena}

/-- The 16-bit position never wraps. -/
theorem shipAction_x (onScreen : OnScreen mode arena) (scancode : UInt8) :
    (shipAction mode scancode arena).x = shipMove mode scancode arena.x := by
  have bound := mode.width_bounds.2
  obtain ⟨left, right, _⟩ := onScreen
  unfold SpaceInvaders.shipAction shipMove
  by_cases isA : scancode = kbA
  · rw [if_pos isA, if_pos isA]
    by_cases free : 50 < arena.x
    · rw [if_pos (by exact free), if_pos free]
      exact u16_of_range (by omega) (by omega)
    · rw [if_neg (by exact free), if_neg free]
  rw [if_neg isA, if_neg isA]
  by_cases isD : scancode = kbD
  · rw [if_pos isD, if_pos isD]
    show (if u16 (arena.x + 30) > mode.width - shipWidth then u16 (mode.width - shipWidth)
      else u16 (arena.x + 30)) = _
    rw [shipWidth, u16_of_range (by omega) (by omega), u16_of_range (by omega) (by omega)]
    by_cases past : arena.x + 30 > mode.width - 50
    · rw [if_pos past, min_eq_right (by omega)]
    · rw [if_neg past, min_eq_left (by omega)]
  rw [if_neg isD, if_neg isD]
  split
  · split <;> rfl
  · rfl

/-- A launched bullet starts above the ship. -/
theorem shipAction (onScreen : OnScreen mode arena) (wide : 400 ≤ mode.width) (scancode : UInt8) :
    OnScreen mode (shipAction mode scancode arena) := by
  have moved := onScreen.shipAction_x scancode
  obtain ⟨left, right, bullets⟩ := onScreen
  have place : 20 < shipMove mode scancode arena.x ∧
      shipMove mode scancode arena.x ≤ mode.width - 50 := by
    unfold shipMove
    split
    · split <;> omega
    split <;> omega
  refine ⟨by rw [moved]; exact place.1, by rw [moved]; exact place.2, ?_⟩
  unfold SpaceInvaders.shipAction
  split
  · split <;> exact bullets
  split
  · exact bullets
  split
  · split
    · show ∀ bullet ∈ (Slots.fillFirst Bullet.active (shipBullet arena.x) arena.bullets).getD
        arena.bullets, _
      cases taken : Slots.fillFirst Bullet.active (shipBullet arena.x) arena.bullets with
      | none => exact bullets
      | some filled =>
        refine Slots.forall_mem_fillFirst taken bullets fun _ => ?_
        simp only [shipBullet, shipWidth, bulletHeight]
        omega
    · exact bullets
  · exact bullets

theorem tickArena (onScreen : OnScreen mode arena) (timer roll : Nat) (lost : Bool) :
    OnScreen mode (tickArena mode timer roll arena lost).1 := by
  obtain ⟨left, right, bullets⟩ := onScreen
  refine ⟨by rwa [tickArena_x], by rwa [tickArena_x], fun bullet member active => ?_⟩
  have moved := (tickArena_bullets mode timer roll arena lost).mem Bullet.retire_active member active
  obtain ⟨before, inside, rfl⟩ := List.mem_map.mp moved
  obtain ⟨was, same, high⟩ := updateBullet_of_active active
  have place := bullets before inside was
  rw [same]
  show 43 ≤ before.x ∧ before.x ≤ mode.width - 27 ∧ 0 ≤ before.y - 20 ∧ before.y - 20 ≤ 670
  omega

theorem drawShip (onScreen : OnScreen mode arena) (tall : 750 ≤ mode.height) :
    drawShip mode arena.x = 0 := by
  obtain ⟨left, right, _⟩ := onScreen
  have drawn : printXpm mode .ship arena.x 700 = 0 := by
    apply printXpm_of_fits mode .ship (by omega) (by omega)
    · show arena.x + 50 ≤ mode.width
      omega
    · show (700 : Int) + 50 ≤ mode.height
      omega
  unfold SpaceInvaders.drawShip
  rw [if_neg (not_not.mpr drawn)]

theorem bullets_fit (onScreen : OnScreen mode arena) (tall : 750 ≤ mode.height) :
    ∀ bullet ∈ arena.bullets, bullet.active = true →
      0 ≤ bullet.x ∧ bullet.x + 8 ≤ mode.width ∧ 0 ≤ bullet.y ∧ bullet.y + 30 ≤ mode.height := by
  intro bullet member active
  have place := onScreen.bullets bullet member active
  omega

theorem drawAllBullets (onScreen : OnScreen mode arena) (tall : 750 ≤ mode.height) :
    drawAllBullets mode arena = 0 :=
  drawAllBullets_of_onScreen (onScreen.bullets_fit tall)

end OnScreen

/-- **The ship and its bullets stay on the screen** in every reachable state. -/
theorem screen_invariant {mode : ModeInfo} (wide : 400 ≤ mode.width) :
    ArenaInvariant mode (OnScreen mode) fun _ => OnScreen mode where
  initial := by
    refine ⟨by decide, ?_, fun bullet member active => ?_⟩
    · show (350 : Int) ≤ mode.width - 50
      omega
    · rw [List.eq_of_mem_replicate member] at active
      cases active
  rest _ _ onScreen := onScreen
  start _ arena onScreen := by
    refine ⟨onScreen.left, onScreen.right, fun bullet member active => ?_⟩
    rw [active_of_mem_retire bullet member] at active
    cases active
  key _ _ scancode onScreen := onScreen.shipAction wide scancode
  tickRest _ _ _ onScreen := onScreen.tickArena _ _ _
  tick _ _ _ onScreen _ := onScreen.tickArena _ _ _

/-- What a draw of the ship and its bullets finds, and that it succeeds. -/
structure ShipShown (mode : ModeInfo) (arena : Arena) : Prop where
  ship : 20 < arena.x ∧ arena.x ≤ mode.width - 50
  bullets : ∀ bullet ∈ arena.bullets, bullet.active = true →
    0 ≤ bullet.x ∧ bullet.x + Xpm.bullet.width ≤ mode.width ∧
      0 ≤ bullet.y ∧ bullet.y + Xpm.bullet.height ≤ mode.height
  drawsShip : drawShip mode arena.x = 0
  drawsBullets : drawAllBullets mode arena = 0

theorem OnScreen.shown {mode : ModeInfo} {arena : Arena} (onScreen : OnScreen mode arena)
    (tall : 750 ≤ mode.height) : ShipShown mode arena :=
  ⟨⟨onScreen.left, onScreen.right⟩, onScreen.bullets_fit tall, onScreen.drawShip tall,
    onScreen.drawAllBullets tall⟩

/-- **The ship and the player's bullets never leave the screen.** In every reachable state no key makes
the 16-bit position wrap, and both the state and what the next tick of a running game draws show the
ship and its bullets in full. -/
theorem ship_on_screen {mode : ModeInfo} (wide : 400 ≤ mode.width) (tall : 750 ≤ mode.height)
    {program : Program} (reached : Reachable mode program) :
    ShipShown mode program.globals.arena ∧
      (∀ scancode, (shipAction mode scancode program.globals.arena).x =
        shipMove mode scancode program.globals.arena.x) ∧
      (program.control = .gameState → ∀ keyboard answers,
        ShipShown mode (tickGlobals mode keyboard answers program.globals).arena) := by
  have onScreen := ((screen_invariant wide).reachable reached).1
  refine ⟨onScreen.shown tall, onScreen.shipAction_x, fun running keyboard answers => ?_⟩
  have pressed := (screen_invariant wide).atTick ⟨program, keyboard, reached, running, rfl⟩
  have ticked : OnScreen mode (tickGlobals mode keyboard answers program.globals).arena :=
    OnScreen.tickArena pressed _ _ false
  exact ticked.shown tall

/-- The smallest screen, with the ship pushed to its right margin. -/
theorem ship_on_screen_smallest :
    (400 ≤ (ModeInfo.mk 400 750).width ∧ 750 ≤ (ModeInfo.mk 400 750).height ∧
      Reachable (ModeInfo.mk 400 750)
        (run (ModeInfo.mk 400 750) (start none) [press kbEnter, timerTick 0, press kbD])) ∧
    drawShip (ModeInfo.mk 400 750)
      (run (ModeInfo.mk 400 750) (start none)
        [press kbEnter, timerTick 0, press kbD]).globals.arena.x = 0 := by
  have reached : Reachable (ModeInfo.mk 400 750)
      (run (ModeInfo.mk 400 750) (start none) [press kbEnter, timerTick 0, press kbD]) :=
    (reachable_start (ModeInfo.mk 400 750) none).run _
  exact ⟨⟨by decide, by decide, reached⟩,
    (ship_on_screen (by decide) (by decide) reached).1.drawsShip⟩

end SpaceInvaders
