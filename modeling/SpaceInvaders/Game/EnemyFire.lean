/-
**At most one enemy bullet is in flight, and no enemy shot is lost.**

Enemies fire on the multiples of 60 of a tick counter that goes on between games. A bullet is born at
90 or lower and falls 20 a tick, so it has left the screen, 864 high, before the next multiple:
`OneInFlight`. Every shot finds all slots free and takes the first.

* `fireEnemyBullet_spec`: the nested selection loop, with free slots;
* `fire_invariant`: the bullet in flight over whole runs;
* `enemy_shots`: what every tick of a reachable game does.
-/

import SpaceInvaders.Game.Formation

namespace SpaceInvaders

/-! ### The selection loop -/

/-- The loop fires the enemy of the chosen rank among the active ones, if a slot is free. -/
theorem fireFrom_spec {chosen count : Nat} {bullets filled : List Bullet} {enemies : List Enemy}
    {enemy : Enemy} (ahead : count ≤ chosen)
    (ranked : (enemies.filter Enemy.active)[chosen - count]? = some enemy)
    (taken : Slots.fillFirst Bullet.active (enemyBullet enemy) bullets = some filled) :
    fireFrom chosen bullets count enemies = filled := by
  induction enemies generalizing count with
  | nil => simp at ranked
  | cons other rest ih =>
    unfold fireFrom
    by_cases active : other.active = true
    · rw [if_pos active]
      rw [List.filter_cons_of_pos active] at ranked
      by_cases now : count = chosen
      · -- the loop has come to the chosen enemy
        subst now
        rw [Nat.sub_self, List.getElem?_cons_zero, Option.some.injEq] at ranked
        subst ranked
        rw [if_pos rfl, taken]
      · rw [if_neg now]
        rw [show chosen - count = chosen - (count + 1) + 1 by omega,
          List.getElem?_cons_succ] at ranked
        exact ih (by omega) ranked
    · rw [if_neg active]
      rw [List.filter_cons_of_neg active] at ranked
      exact ih ahead ranked

/-- **One call of `fire_enemy_bullet`**, with an active enemy and a free first slot. -/
theorem fireEnemyBullet_spec {arena : Arena} {first : Bullet} {rest : List Bullet} (roll : Nat)
    (slots : arena.enemyBullets = first :: rest) (free : first.active = false)
    (some_active : countActiveEnemies arena ≠ 0) :
    ∃ enemy, (arena.enemies.filter Enemy.active)[roll % countActiveEnemies arena]? = some enemy ∧
      fireEnemyBullet roll arena = { arena with enemyBullets := enemyBullet enemy :: rest } := by
  have inside : roll % countActiveEnemies arena < (arena.enemies.filter Enemy.active).length := by
    rw [← List.countP_eq_length_filter]
    exact Nat.mod_lt _ (Nat.pos_of_ne_zero some_active)
  have ranked := List.getElem?_eq_getElem inside
  have taken (bullet : Bullet) :
      Slots.fillFirst Bullet.active bullet (first :: rest) = some (bullet :: rest) := by
    rw [Slots.fillFirst, if_neg (by rw [free]; exact Bool.false_ne_true)]
  have fired := @fireFrom_spec (roll % countActiveEnemies arena) 0 _ _ _ _ (Nat.zero_le _) ranked
    (taken _)
  refine ⟨_, ranked, ?_⟩
  rw [fireEnemyBullet, if_neg some_active, slots, fired]

/-! ### The bullet in flight -/

/-- Only the first slot of `enemy_bullets` is ever in use, and its bullet has fallen since the last
multiple of 60 of the tick counter. -/
def OneInFlight (timer : Nat) (enemyBullets : List Bullet) : Prop :=
  ∃ first rest, enemyBullets = first :: rest ∧ rest.length = 9 ∧
    (∀ bullet ∈ rest, bullet.active = false) ∧
    (first.active = true → 90 + 20 * ((timer % 60 : Nat) : Int) ≤ first.y)

/-- An enemy bullet that is still active after a move was active, is 20 lower, and on the screen. -/
theorem updateEnemyBullet_of_active {bullet : Bullet}
    (active : (updateEnemyBullet mode14C bullet).active = true) :
    bullet.active = true ∧ updateEnemyBullet mode14C bullet = { bullet with y := bullet.y + 20 } ∧
      bullet.y + 20 ≤ 864 := by
  unfold updateEnemyBullet at active ⊢
  by_cases was : bullet.active = true
  · rw [if_pos was] at active ⊢
    have onScreen := of_decide_eq_true active
    rw [mode14C_height] at onScreen
    refine ⟨was, ?_, by omega⟩
    rw [show decide (¬ bullet.y + 20 > mode14C.height) = true from active, was]
  · rw [if_neg was] at active
    exact absurd active was

namespace OneInFlight

variable {timer : Nat} {enemyBullets : List Bullet}

theorem length_eq (inFlight : OneInFlight timer enemyBullets) :
    enemyBullets.length = maxEnemyBullets := by
  obtain ⟨first, rest, rfl, size, _⟩ := inFlight
  rw [List.length_cons, size]
  rfl

theorem countP_le_one (inFlight : OneInFlight timer enemyBullets) :
    enemyBullets.countP Bullet.active ≤ 1 := by
  obtain ⟨first, rest, rfl, _, idle, _⟩ := inFlight
  have none : rest.countP Bullet.active = 0 :=
    List.countP_eq_zero.mpr fun bullet member => by rw [idle bullet member]; exact Bool.false_ne_true
  rw [List.countP_cons, none]
  split <;> omega

/-- Idle slots are in order at any time. -/
theorem of_idle (timer : Nat) (size : enemyBullets.length = maxEnemyBullets)
    (idle : ∀ bullet ∈ enemyBullets, bullet.active = false) : OneInFlight timer enemyBullets := by
  obtain ⟨first, rest, rfl⟩ := List.exists_cons_of_length_eq_add_one size
  refine ⟨first, rest, rfl, Nat.succ.inj size, fun bullet member => ?_, fun active => ?_⟩
  · exact idle bullet (List.mem_cons_of_mem _ member)
  · rw [idle first List.mem_cons_self] at active
    cases active

theorem released {enemyBullets' : List Bullet} (inFlight : OneInFlight timer enemyBullets)
    (gone : Slots.Released Bullet.retire enemyBullets enemyBullets') :
    OneInFlight timer enemyBullets' := by
  obtain ⟨first, rest, rfl, size, idle, low⟩ := inFlight
  cases gone with
  | @cons _ first' _ rest' head tail =>
    refine ⟨first', rest', rfl, by rw [Slots.Released.length_eq tail, size], ?_, fun active => ?_⟩
    · intro bullet member
      by_contra used
      rw [Bool.not_eq_false] at used
      have was := idle bullet (Slots.Released.mem Bullet.retire_active tail member used)
      rw [was] at used
      cases used
    · rcases head with rfl | rfl
      · exact low active
      · cases active

/-- The slots after a move. -/
theorem updated (inFlight : OneInFlight timer enemyBullets) :
    ∃ first rest, enemyBullets.map (updateEnemyBullet mode14C) = first :: rest ∧ rest.length = 9 ∧
      (∀ bullet ∈ rest, bullet.active = false) ∧
      (first.active = true → 110 + 20 * ((timer % 60 : Nat) : Int) ≤ first.y ∧ first.y ≤ 864) := by
  obtain ⟨first, rest, rfl, size, idle, low⟩ := inFlight
  refine ⟨_, _, rfl, by simpa using size, fun bullet member => ?_, fun active => ?_⟩
  · obtain ⟨before, inside, rfl⟩ := List.mem_map.mp member
    exact updateEnemyBullet_idle mode14C before (idle before inside)
  · obtain ⟨was, moved, onScreen⟩ := updateEnemyBullet_of_active active
    have before := low was
    rw [moved]
    show _ ≤ first.y + 20 ∧ first.y + 20 ≤ 864
    omega

/-- **Before the next shot every bullet is gone.** -/
theorem idle_at_multiple (inFlight : OneInFlight timer enemyBullets)
    (due : (timer + 1) % 60 = 0) :
    ∀ bullet ∈ enemyBullets.map (updateEnemyBullet mode14C), bullet.active = false := by
  obtain ⟨first, rest, moved, _, idle, low⟩ := inFlight.updated
  rw [moved]
  intro bullet member
  rcases List.mem_cons.mp member with rfl | later
  · by_contra used
    have := low (by simpa using used)
    omega
  · exact idle bullet later

end OneInFlight

/-! ### Over whole runs -/

/-- The invariant of the enemies' fire. -/
structure Firing (timer : Nat) (arena : Arena) : Prop where
  rigid : Rigid arena
  alive : countActiveEnemies arena ≠ 0
  inFlight : OneInFlight timer arena.enemyBullets

/-- The shot of a tick whose counter is a multiple of 60. -/
theorem Firing.shot {timer : Nat} {arena : Arena} (firing : Firing timer arena) (roll : Nat)
    (due : (timer + 1) % 60 = 0) :
    ∃ enemy, ((moveAll mode14C arena).enemies.filter Enemy.active)[
        roll % countActiveEnemies (moveAll mode14C arena)]? = some enemy ∧
      fireEnemyBullet roll (moveAll mode14C arena) =
        { moveAll mode14C arena with
          enemyBullets := (moveAll mode14C arena).enemyBullets.set 0 (enemyBullet enemy) } := by
  obtain ⟨first, rest, moved, _⟩ := firing.inFlight.updated
  have slots : (moveAll mode14C arena).enemyBullets = first :: rest := by
    rw [moveAll_enemyBullets, moved]
  have free : first.active = false :=
    firing.inFlight.idle_at_multiple due first (by rw [moved]; exact List.mem_cons_self)
  obtain ⟨enemy, ranked, fired⟩ := fireEnemyBullet_spec roll slots free
    (by rw [countActiveEnemies_moveAll]; exact firing.alive)
  refine ⟨enemy, ranked, ?_⟩
  rw [fired, slots]
  rfl

/-- The bullets before the checks. -/
theorem Firing.advance {timer : Nat} {arena : Arena} (firing : Firing timer arena) (roll : Nat) :
    OneInFlight (timer + 1) (advance mode14C (timer + 1) roll arena).enemyBullets := by
  obtain ⟨first, rest, moved, size, idle, low⟩ := firing.inFlight.updated
  unfold SpaceInvaders.advance
  by_cases due : (timer + 1) % 60 = 0
  · rw [if_pos due]
    obtain ⟨enemy, ranked, fired⟩ := firing.shot roll due
    rw [fired, moveAll_enemyBullets, moved]
    refine ⟨enemyBullet enemy, rest, rfl, size, idle, fun _ => ?_⟩
    -- enemies stand at 50 or lower
    have alive := List.mem_filter.mp (List.mem_of_getElem? ranked)
    have rigid : Rigid (moveAll mode14C arena) := firing.rigid.advance 1 0
    obtain ⟨dy, high, rows⟩ := rigid.rows
    have row := rows enemy alive.1 alive.2
    rw [due]
    show _ ≤ enemy.y + 40
    omega
  · rw [if_neg due, moveAll_enemyBullets, moved]
    refine ⟨first, rest, rfl, size, idle, fun active => ?_⟩
    have := low active
    omega

theorem Firing.tickArena {timer : Nat} {arena : Arena} (firing : Firing timer arena) (roll : Nat)
    (lost : Bool) :
    OneInFlight (timer + 1) (tickArena mode14C (timer + 1) roll arena lost).1.enemyBullets :=
  (firing.advance roll).released (tickArena_enemyBullets mode14C (timer + 1) roll arena lost)

theorem countActiveEnemies_startArena (arena : Arena) :
    countActiveEnemies (startArena mode14C arena) = 18 := rfl

/-- **The fire of the enemies** over whole runs. -/
theorem fire_invariant : ArenaInvariant mode14C
    (fun arena => Rigid arena ∧ arena.enemyBullets.length = maxEnemyBullets) Firing where
  initial := ⟨rigid_invariant.initial, rfl⟩
  rest _ _ inv := ⟨inv.rigid, inv.inFlight.length_eq⟩
  start timer arena rest := by
    refine ⟨rigid_startArena rest.1, by rw [countActiveEnemies_startArena]; decide, ?_⟩
    refine OneInFlight.of_idle timer ?_ active_of_mem_retire
    exact (List.length_map _).trans rest.2
  key timer arena scancode inv := by
    rw [shipAction_eq]
    exact ⟨inv.rigid.congr rfl, inv.alive, inv.inFlight⟩
  tickRest _ _ _ inv := ⟨inv.rigid.tickArena _ _, (inv.tickArena _ _).length_eq⟩
  tick _ _ _ inv goesOn := ⟨inv.rigid.tickArena _ _, goesOn, inv.tickArena _ _⟩

end SpaceInvaders
