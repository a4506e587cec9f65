/-
**A player who aims, fires and stands clear.**

Nothing in `game_state` limits the keys between two ticks, so in one pause a player can bring the ship under
a target, fire, and take it out of the way of the enemies' bullet again: the ship is hit only where it
stands when the timer fires. `pilot` is such a player. It decides by the arena alone, without memory and
without a guess at `rand()`.

* `Waits.presses`: what the keys of one pause do to a running game;
* `actAll_right`, `actAll_left`, `actAll_space`: the way to the right border, back from it, and a shot;
* `pilot_quiet`, `pilot_fires`: what the keys of `pilot` leave, without and with a shot.
-/

import SpaceInvaders.Game.Drawing
import SpaceInvaders.Game.LiveScore
import SpaceInvaders.Game.ShotCount

namespace SpaceInvaders

/-! ### The keys of a pause -/

/-- What keys pressed one after the other do to the arena. -/
def actAll (keys : List UInt8) (arena : Arena) : Arena :=
  keys.foldl (fun arena key => shipAction mode14C key arena) arena

@[simp] theorem actAll_nil (arena : Arena) : actAll [] arena = arena := rfl

@[simp] theorem actAll_cons (key : UInt8) (keys : List UInt8) (arena : Arena) :
    actAll (key :: keys) arena = actAll keys (shipAction mode14C key arena) := rfl

@[simp] theorem actAll_append (first second : List UInt8) (arena : Arena) :
    actAll (first ++ second) arena = actAll second (actAll first arena) :=
  List.foldl_append

/-- The bullets that the keys launch. -/
def launches : List UInt8 → Arena → Nat
  | [], _ => 0
  | key :: keys, arena =>
    (if launchesBullet key arena then 1 else 0) + launches keys (shipAction mode14C key arena)

theorem launches_append (first second : List UInt8) (arena : Arena) :
    launches (first ++ second) arena = launches first arena + launches second (actAll first arena) := by
  induction first generalizing arena with
  | nil => exact (Nat.zero_add _).symm
  | cons key keys ih => rw [List.cons_append, launches, ih, launches, actAll_cons, Nat.add_assoc]

/-- Keys other than space launch nothing. -/
theorem launches_of_moves {keys : List UInt8} (moves : ∀ key ∈ keys, key ≠ kbSpace) (arena : Arena) :
    launches keys arena = 0 := by
  induction keys generalizing arena with
  | nil => rfl
  | cons key keys ih =>
    have other : launchesBullet key arena = false := by
      unfold launchesBullet
      rw [decide_eq_false (moves key List.mem_cons_self)]
      rfl
    rw [launches, other, ih fun later member => moves later (List.mem_cons_of_mem _ member)]
    rfl

/-- A running game with its arena, its shots and its clock. -/
structure Waits (arena : Arena) (shots : Int) (ticks : Nat) (program : Program) : Prop where
  reached : Reachable mode14C program
  running : program.control = .gameState
  arena : program.globals.arena = arena
  shots : program.globals.score.currentScore.bulletsFired = shots
  clock : Clock ticks program.globals

namespace Waits

variable {arena : Arena} {shots : Int} {ticks : Nat} {program : Program}

/-- A make code acts on the arena through `ship_action`, and counts the bullet it launches. -/
theorem press (waits : Waits arena shots ticks program) {key : UInt8} (make : key &&& kbBreakCode = 0) :
    Waits (shipAction mode14C key arena)
      (shots + ((if launchesBullet key arena then 1 else 0 : Nat) : Int)) ticks
      (step mode14C program (press key)) := by
  obtain ⟨reached, running, same, fired, clock⟩ := waits
  have next := reached.step (SpaceInvaders.press key)
  have later := (@Clock.input mode14C _ _ clock (some (delivers key))).1
  obtain ⟨control, globals⟩ := program
  cases running
  subst same
  have other : key ≠ kbBreakEsc := by
    rintro rfl
    exact absurd make (by decide)
  have input : gameInput mode14C (some (delivers key)) globals =
      { globals with
        scancode := key
        arena := shipAction mode14C key globals.arena
        score :=
          if launchesBullet key globals.arena then scoreAddBullet globals.score
          else globals.score } := by
    show gameKeyboard mode14C (delivers key) globals = _
    simp only [gameKeyboard, kbcIh_delivers]
    rw [if_neg (not_not.mpr make)]
  have result : step mode14C ⟨.gameState, globals⟩ (SpaceInvaders.press key) =
      ⟨.gameState, gameInput mode14C (some (delivers key)) globals⟩ := by
    show gameStateLoop (gameInput mode14C (some (delivers key)) globals) = _
    rw [gameStateLoop, if_neg (by rw [input]; exact other)]
  rw [result] at next ⊢
  refine ⟨next, rfl, by rw [input], ?_, later⟩
  rw [input]
  show (if _ then _ else _ : Score).currentScore.bulletsFired = _
  have counts : scoreAddBullet globals.score =
      { globals.score with
        currentScore :=
          { globals.score.currentScore with
            bulletsFired := globals.score.currentScore.bulletsFired + 1 } } := if_pos clock.counting
  split
  · rw [counts, ← fired]
    rfl
  · rw [← fired]
    exact (Int.add_zero _).symm

/-- **The keys of one pause.** -/
theorem presses (waits : Waits arena shots ticks program) {keys : List UInt8}
    (make : ∀ key ∈ keys, key &&& kbBreakCode = 0) :
    Waits (actAll keys arena) (shots + launches keys arena) ticks
      (run mode14C program (keys.map SpaceInvaders.press)) := by
  induction keys generalizing arena shots program with
  | nil =>
    rw [show launches [] arena = 0 from rfl, Int.natCast_zero, Int.add_zero]
    exact waits
  | cons key keys ih =>
    have first := waits.press (make key List.mem_cons_self)
    have rest := ih first fun later member => make later (List.mem_cons_of_mem _ member)
    rw [launches, Int.natCast_add, ← Int.add_assoc]
    exact rest

end Waits

/-! ### The ways of the ship -/

/-- A press of D on the field. -/
theorem shipAction_right {arena : Arena} (inside : ShipInside arena) :
    shipAction mode14C kbD arena = { arena with x := min (arena.x + 30) 1102 } := by
  obtain ⟨left, right⟩ := inside
  rw [shipAction, if_neg (by decide), if_pos rfl, u16_of_range (by omega) (by omega), mode14C_width,
    shipWidth, u16_of_range (by decide) (by decide)]
  have clamped : (if arena.x + 30 > 1152 - 50 then (1152 : Int) - 50 else arena.x + 30) =
      min (arena.x + 30) 1102 := by
    split <;> omega
  exact congrArg (fun x => { arena with x := x }) clamped

/-- A press of A with room to the left. -/
theorem shipAction_left {arena : Arena} (room : 50 < arena.x) (inside : arena.x ≤ 1102) :
    shipAction mode14C kbA arena = { arena with x := arena.x - 30 } := by
  rw [shipAction, if_pos rfl, if_pos (by exact room), u16_of_range (by omega) (by omega)]

theorem actAll_right (n : Nat) {arena : Arena} (inside : ShipInside arena) :
    actAll (List.replicate n kbD) arena = { arena with x := min (arena.x + 30 * n) 1102 } := by
  have within := inside.2
  induction n generalizing arena with
  | zero =>
    show arena = { arena with x := min (arena.x + 30 * 0) 1102 }
    rw [min_eq_left (by omega)]
    simp
  | succ n ih =>
    have left := inside.1
    rw [List.replicate_succ, actAll_cons, shipAction_right inside,
      ih ⟨by show 20 < min (arena.x + 30) 1102; omega, by show min (arena.x + 30) 1102 ≤ 1102; omega⟩
        (by show min (arena.x + 30) 1102 ≤ 1102; omega)]
    congr 1
    show min (min (arena.x + 30) 1102 + 30 * (n : Int)) 1102 = min (arena.x + 30 * ((n + 1 : Nat) : Int)) 1102
    omega

theorem actAll_left (n : Nat) {arena : Arena} (room : 20 + 30 * (n : Int) < arena.x)
    (inside : arena.x ≤ 1102) :
    actAll (List.replicate n kbA) arena = { arena with x := arena.x - 30 * n } := by
  induction n generalizing arena with
  | zero => simp
  | succ n ih =>
    rw [List.replicate_succ, actAll_cons, shipAction_left (by omega) inside,
      ih (by show 20 + 30 * (n : Int) < arena.x - 30; omega) (by show arena.x - 30 ≤ 1102; omega)]
    congr 1
    show arena.x - 30 - 30 * (n : Int) = arena.x - 30 * ((n + 1 : Nat) : Int)
    omega

/-- A shot with all slots free. -/
theorem actAll_space {arena : Arena} (ready : 30 ≤ arena.fireDelayCounter) {first : Bullet}
    {rest : List Bullet} (slots : arena.bullets = first :: rest) (free : first.active = false) :
    shipAction mode14C kbSpace arena =
        { arena with bullets := shipBullet arena.x :: rest, fireDelayCounter := 0 } ∧
      launchesBullet kbSpace arena = true := by
  have filled : Slots.fillFirst Bullet.active (shipBullet arena.x) arena.bullets =
      some (shipBullet arena.x :: rest) := by
    rw [slots, Slots.fillFirst, if_neg (by rw [free]; exact Bool.false_ne_true)]
  constructor
  · rw [shipAction_space, if_pos (by exact ready), filled]
    rfl
  · unfold launchesBullet
    rw [filled, decide_eq_true ready]
    rfl

/-! ### The player -/

/-- All the way to the right border. -/
def toRight : List UInt8 := List.replicate 37 kbD

/-- And from there all the way to the left. -/
def toLeft : List UInt8 := List.replicate 36 kbA

/-- Where a bullet that is launched at once meets the target. Only on its way to the highest row does the
formation move, once, before it is there. -/
def meetingX (arena : Arena) (target : Enemy) : Int :=
  if target.y = 50 ∧ hitEdge mode14C arena = false ∧ arena.shouldDrop = false then
    target.x + arena.enemyDirection * 20
  else target.x

/-- The presses that bring the ship from the right border under a place. -/
def pressesTo (x : Int) : Nat := min 36 ((1132 - x) / 30).toNat

/-- From the right border under the place, a shot, and back. -/
def shotKeys (x : Int) : List UInt8 := List.replicate (pressesTo x) kbA ++ kbSpace :: toRight

/-- A shot is due: the formation has just moved, the gun is ready, and the last bullet is gone. -/
def ShotDue (arena : Arena) : Prop :=
  arena.enemyMoveTimer = 0 ∧ 30 ≤ arena.fireDelayCounter ∧
    ∀ bullet ∈ arena.bullets, bullet.active = false

instance (arena : Arena) : Decidable (ShotDue arena) := inferInstanceAs (Decidable (_ ∧ _ ∧ _))

/-- An enemy bullet falls in the right half of the screen. -/
def bulletRight (arena : Arena) : Bool :=
  arena.enemyBullets.any fun bullet => bullet.active && decide (600 ≤ bullet.x)

/-- **The player**: to the right border, a shot at the first enemy that is left when one is due, and over to
the left border when the enemies' bullet falls on the right. -/
def pilot (arena : Arena) : List UInt8 :=
  toRight ++
    ((if ShotDue arena then
        (arena.enemies.find? Enemy.active).elim [] fun target => shotKeys (meetingX arena target)
      else []) ++
    if bulletRight arena then toLeft else [])

/-- Where the ship stands when the timer fires. -/
def berthX (arena : Arena) : Int := if bulletRight arena then 22 else 1102

/-- The player uses the keys of the ship only. -/
theorem pilot_keys (arena : Arena) : ∀ key ∈ pilot arena, key = kbA ∨ key = kbD ∨ key = kbSpace := by
  intro key member
  unfold pilot toRight at member
  rcases List.mem_append.mp member with right | later
  · exact .inr (.inl (List.eq_of_mem_replicate right))
  rcases List.mem_append.mp later with shot | left
  · split at shot
    · cases found : arena.enemies.find? Enemy.active with
      | none =>
        rw [found] at shot
        cases shot
      | some target =>
        rw [found] at shot
        rcases List.mem_append.mp shot with under | fires
        · exact .inl (List.eq_of_mem_replicate under)
        rcases List.mem_cons.mp fires with rfl | back
        · exact .inr (.inr rfl)
        · exact .inr (.inl (List.eq_of_mem_replicate back))
    · cases shot
  · split at left
    · exact .inl (List.eq_of_mem_replicate left)
    · cases left

theorem pilot_makes (arena : Arena) : ∀ key ∈ pilot arena, key &&& kbBreakCode = 0 := by
  intro key member
  rcases pilot_keys arena key member with rfl | rfl | rfl <;> decide

theorem toRight_moves : ∀ key ∈ toRight, key ≠ kbSpace := by
  intro key member
  rw [List.eq_of_mem_replicate member]
  decide

theorem left_moves (n : Nat) : ∀ key ∈ List.replicate n kbA, key ≠ kbSpace := by
  intro key member
  rw [List.eq_of_mem_replicate member]
  decide

/-- From anywhere on the field to the right border. -/
theorem actAll_toRight {arena : Arena} (inside : ShipInside arena) :
    actAll toRight arena = { arena with x := 1102 } := by
  have left := inside.1
  rw [toRight, actAll_right 37 inside, min_eq_right (by omega)]

/-- From the right border to the berth. -/
theorem actAll_berth {arena : Arena} (docked : arena.x = 1102) (dodges : Bool) :
    actAll (if dodges then toLeft else []) arena =
        { arena with x := if dodges then 22 else 1102 } ∧
      launches (if dodges then toLeft else []) arena = 0 := by
  cases dodges with
  | true =>
    refine ⟨?_, launches_of_moves (left_moves 36) arena⟩
    rw [if_pos rfl, if_pos rfl, toLeft, actAll_left 36 (by omega) (by omega), docked]
    rfl
  | false =>
    refine ⟨?_, rfl⟩
    show arena = { arena with x := 1102 }
    rw [← docked]

/-- A pause without a shot. -/
theorem pilot_quiet {arena : Arena} (inside : ShipInside arena) (early : ¬ ShotDue arena) :
    actAll (pilot arena) arena = { arena with x := berthX arena } ∧ launches (pilot arena) arena = 0 := by
  have berth := @actAll_berth { arena with x := 1102 } rfl (bulletRight arena)
  rw [pilot, if_neg early, List.nil_append, actAll_append, launches_append,
    launches_of_moves toRight_moves, actAll_toRight inside, Nat.zero_add]
  exact berth

/-- **A pause with a shot**: the bullet starts under the target's place, the ship ends at its berth. -/
theorem pilot_fires {arena : Arena} (inside : ShipInside arena) (due : ShotDue arena) {target : Enemy}
    (found : arena.enemies.find? Enemy.active = some target) {first : Bullet} {rest : List Bullet}
    (slots : arena.bullets = first :: rest) :
    actAll (pilot arena) arena =
        { arena with
          x := berthX arena
          bullets := shipBullet (1102 - 30 * pressesTo (meetingX arena target)) :: rest
          fireDelayCounter := 0 } ∧
      launches (pilot arena) arena = 1 := by
  obtain ⟨_, ready, idle⟩ := id due
  have few : pressesTo (meetingX arena target) ≤ 36 := min_le_left _ _
  generalize presses_eq : pressesTo (meetingX arena target) = n at few ⊢
  have free : first.active = false := idle first (by rw [slots]; exact List.mem_cons_self)
  have under := @actAll_left n { arena with x := 1102 } (by show 20 + 30 * (n : Int) < 1102; omega) le_rfl
  obtain ⟨fires, counts⟩ := @actAll_space { arena with x := 1102 - 30 * (n : Int) } ready first rest
    slots free
  have back := @actAll_toRight
    { arena with
      x := 1102 - 30 * (n : Int)
      bullets := shipBullet (1102 - 30 * (n : Int)) :: rest
      fireDelayCounter := 0 }
    ⟨by show 20 < 1102 - 30 * (n : Int); omega, by show 1102 - 30 * (n : Int) ≤ 1102; omega⟩
  have berth := @actAll_berth
    { arena with
      x := 1102
      bullets := shipBullet (1102 - 30 * (n : Int)) :: rest
      fireDelayCounter := 0 } rfl (bulletRight arena)
  rw [pilot, if_pos due, found, Option.elim, shotKeys, presses_eq]
  simp only [actAll_append, launches_append, actAll_cons, launches, actAll_toRight inside,
    launches_of_moves toRight_moves, launches_of_moves (left_moves n), under, fires, counts, back,
    berth.1, berth.2, if_true]
  exact ⟨rfl, trivial⟩

end SpaceInvaders
