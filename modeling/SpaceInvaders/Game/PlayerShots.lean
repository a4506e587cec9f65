/-
**No player hit is missed.**

`check_bullet_enemy_collision` returns after its first hit, so a second bullet that meets an enemy in
the same frame would be overlooked. It never meets one: the fire delay keeps live bullets 600 pixels
apart (`Spaced`), and the formation with both boxes spans 230 (`Rigid`).

* `spaced_invariant`: bullets and fire delay over whole runs;
* `no_missed_hit`: after the check no active bullet meets an active enemy, and no bullet passes an
  enemy within one tick.
-/

import SpaceInvaders.Game.Formation

namespace SpaceInvaders

/-- The two bullets are at least 600 pixels apart in height. -/
def FarApart (bullet other : Bullet) : Prop := 600 ≤ bullet.y - other.y ∨ 600 ≤ other.y - bullet.y

/-- The invariant of the player's bullets: since the last launch, `fire_delay_counter` ticks ago,
every bullet has moved up by 20 a tick. -/
structure Spaced (arena : Arena) : Prop where
  delay : 0 ≤ arena.fireDelayCounter
  below : ∀ bullet ∈ arena.bullets, bullet.active = true →
    bullet.y ≤ 670 - 20 * arena.fireDelayCounter
  apart : Slots.BusyPairs Bullet.active FarApart arena.bullets

/-- A bullet that is still active after a move was active and is 20 higher. -/
theorem updateBullet_of_active {bullet : Bullet} (active : (updateBullet bullet).active = true) :
    bullet.active = true ∧ updateBullet bullet = { bullet with y := bullet.y - 20 } ∧
      20 ≤ bullet.y := by
  unfold updateBullet at active ⊢
  by_cases was : bullet.active = true
  · rw [if_pos was] at active ⊢
    simp only [decide_eq_true_eq] at active
    exact ⟨was, by simp [was, active], by omega⟩
  · rw [if_neg was] at active
    exact absurd active was

namespace Spaced

/-- A launch keeps the spacing: with a delay of 30 the other bullets are 600 higher. -/
theorem launch {arena arena' : Arena} (spaced : Spaced arena) (ready : 30 ≤ arena.fireDelayCounter)
    (launched : arena'.bullets =
      (Slots.fillFirst Bullet.active (shipBullet arena.x) arena.bullets).getD arena.bullets)
    (restarted : arena'.fireDelayCounter = 0) : Spaced arena' := by
  have high : ∀ bullet ∈ arena.bullets, bullet.active = true → bullet.y ≤ 70 :=
    fun bullet member active => by have := spaced.below bullet member active; omega
  cases taken : Slots.fillFirst Bullet.active (shipBullet arena.x) arena.bullets with
  | none =>
    rw [taken, Option.getD_none] at launched
    refine ⟨by omega, fun bullet member active => ?_, launched ▸ spaced.apart⟩
    rw [launched] at member
    have := high bullet member active
    omega
  | some filled =>
    rw [taken, Option.getD_some] at launched
    refine ⟨by omega, ?_, ?_⟩
    · rw [launched]
      refine Slots.forall_mem_fillFirst taken (fun bullet member active => ?_) fun _ => ?_
      · have := high bullet member active
        omega
      · rw [restarted]
        exact le_rfl
    · rw [launched]
      refine Slots.busyPairs_fillFirst (fun _ _ => Or.symm) taken spaced.apart
        fun bullet member active => .inr ?_
      have := high bullet member active
      show 600 ≤ (700 - 30 : Int) - bullet.y
      omega

theorem shipAction {arena : Arena} (spaced : Spaced arena) (mode : ModeInfo) (scancode : UInt8) :
    Spaced (shipAction mode scancode arena) := by
  obtain ⟨delay, below, apart⟩ := spaced
  unfold SpaceInvaders.shipAction
  split
  · split <;> exact ⟨delay, below, apart⟩
  split
  · exact ⟨delay, below, apart⟩
  split
  · split
    · rename_i ready
      exact launch ⟨delay, below, apart⟩ ready rfl rfl
    · exact ⟨delay, below, apart⟩
  · exact ⟨delay, below, apart⟩

/-- The moves of a tick keep the spacing. -/
theorem advance {arena : Arena} (spaced : Spaced arena) (mode : ModeInfo) (timer roll : Nat) :
    Spaced (advance mode timer roll arena) := by
  obtain ⟨delay, below, apart⟩ := spaced
  refine ⟨by rw [advance_fireDelayCounter]; omega, ?_, ?_⟩
  · rw [advance_bullets, advance_fireDelayCounter]
    intro bullet member active
    obtain ⟨before, inside, rfl⟩ := List.mem_map.mp member
    obtain ⟨was, moved, _⟩ := updateBullet_of_active active
    have low := below before inside was
    rw [moved]
    show before.y - 20 ≤ _
    omega
  · rw [advance_bullets]
    refine List.pairwise_map.mpr (apart.imp fun {first second} far used used' => ?_)
    obtain ⟨was, moved, _⟩ := updateBullet_of_active used
    obtain ⟨was', moved', _⟩ := updateBullet_of_active used'
    have distance := far was was'
    rw [moved, moved']
    unfold FarApart at distance ⊢
    show 600 ≤ first.y - 20 - (second.y - 20) ∨ 600 ≤ second.y - 20 - (first.y - 20)
    omega

/-- Retiring bullets keeps the spacing. -/
theorem retire {arena arena' : Arena} (spaced : Spaced arena)
    (released : Slots.Released Bullet.retire arena.bullets arena'.bullets)
    (same : arena'.fireDelayCounter = arena.fireDelayCounter) : Spaced arena' :=
  ⟨same ▸ spaced.delay,
    fun bullet member active =>
      same ▸ spaced.below bullet (released.mem Bullet.retire_active member active) active,
    released.busyPairs Bullet.retire_active spaced.apart⟩

theorem tickArena {arena : Arena} (spaced : Spaced arena) (mode : ModeInfo) (timer roll : Nat) :
    Spaced (tickArena mode timer roll arena false).1 := by
  refine (spaced.advance mode timer roll).retire ?_ ?_
  · rw [advance_bullets]
    exact tickArena_bullets mode timer roll arena false
  · rw [tickArena_fireDelayCounter, advance_fireDelayCounter]

end Spaced

/-- A new game starts without bullets in flight. -/
theorem spaced_startArena (mode : ModeInfo) {arena : Arena} (delay : 0 ≤ arena.fireDelayCounter) :
    Spaced (startArena mode arena) := by
  have inactive : ∀ bullet ∈ (startArena mode arena).bullets, bullet.active = false :=
    active_of_mem_retire
  refine ⟨delay, fun bullet member active => ?_, ?_⟩
  · rw [inactive bullet member] at active
    cases active
  · refine List.Pairwise.imp_of_mem (fun member _ _ used => ?_)
      (List.pairwise_of_forall fun _ _ => trivial)
    rw [inactive _ member] at used
    cases used

/-- **Bullets are spaced** in every reachable game, above a rigid formation. -/
theorem spaced_invariant : ArenaInvariant mode14C (fun arena => Rigid arena ∧ 0 ≤ arena.fireDelayCounter)
    fun _ arena => Rigid arena ∧ Spaced arena where
  initial := ⟨rigid_invariant.initial, by decide⟩
  rest _ _ inv := ⟨inv.1, inv.2.delay⟩
  start _ _ rest := ⟨rigid_startArena rest.1, spaced_startArena mode14C rest.2⟩
  key _ _ scancode inv := ⟨rigid_shipAction inv.1 scancode, inv.2.shipAction mode14C scancode⟩
  tickRest _ _ _ inv := ⟨inv.1.tickArena _ _, (inv.2.tickArena mode14C _ _).delay⟩
  tick _ _ _ inv _ := ⟨inv.1.tickArena _ _, inv.2.tickArena mode14C _ _⟩

/-! ### The check -/

/-- Two bullets that meet enemies of one formation are less than 600 apart. -/
theorem near_of_hits {arena : Arena} (rigid : Rigid arena) {bullet bullet' : Bullet}
    {enemy enemy' : Enemy} (inside : enemy ∈ arena.enemies) (active : enemy.active = true)
    (inside' : enemy' ∈ arena.enemies) (active' : enemy'.active = true)
    (hit : bulletHitsEnemy bullet enemy = true) (hit' : bulletHitsEnemy bullet' enemy' = true) :
    ¬ FarApart bullet bullet' := by
  obtain ⟨dy, _, rows⟩ := rigid.rows
  have row := rows enemy inside active
  have row' := rows enemy' inside' active'
  have box := overlaps_iff.mp hit
  have box' := overlaps_iff.mp hit'
  simp only [bulletHeight, enemyHeight] at box box'
  unfold FarApart
  omega

/-- The enemies that are active after the inner loop's kill were there before it. -/
theorem mem_of_mem_set_kill {enemies : List Enemy} {index : Nat} {killed enemy : Enemy}
    (member : enemy ∈ enemies.set index killed.kill) (active : enemy.active = true) :
    enemy ∈ enemies := by
  rcases List.mem_or_eq_of_mem_set member with before | rfl
  · exact before
  · cases active

/-- **One hit is enough.** With spaced bullets over a rigid formation, no active bullet meets an active
enemy after the check. -/
theorem checkBulletEnemyCollision_complete {arena : Arena} (rigid : Rigid arena)
    (spaced : Spaced arena) :
    ∀ bullet ∈ (checkBulletEnemyCollision arena).bullets, bullet.active = true →
      ∀ enemy ∈ (checkBulletEnemyCollision arena).enemies, enemy.active = true →
        bulletHitsEnemy bullet enemy = false := by
  unfold checkBulletEnemyCollision
  cases found : shootFirst arena.bullets arena.enemies with
  | none =>
    intro bullet member active enemy inside alive
    have misses := shootFirst_eq_none_iff.mp found bullet member active
    exact hitFirst_eq_none_iff.mp misses enemy inside alive
  | some after =>
    obtain ⟨bullets, enemies⟩ := after
    obtain ⟨before, shot, behind, split, shotActive, rfl, hit⟩ := shootFirst_eq_some found
    obtain ⟨index, killed, place, killedActive, meets, rfl⟩ := hitFirst_eq_some hit
    intro bullet member active enemy inside alive
    -- the bullet is another one than the shot
    have far : FarApart bullet shot := by
      have apart := spaced.apart
      rw [split] at apart
      obtain ⟨_, later, across⟩ := List.pairwise_append.mp apart
      rcases List.mem_append.mp member with early | late
      · exact across bullet early shot List.mem_cons_self active shotActive
      rcases List.mem_cons.mp late with rfl | late
      · cases active
      · exact Or.symm ((List.pairwise_cons.mp later).1 bullet late shotActive active)
    by_contra hits
    exact near_of_hits rigid (mem_of_mem_set_kill inside alive) alive (List.mem_of_getElem? place)
      killedActive (by simpa using hits) meets far

/-! ### One tick of a bullet and of an enemy -/

/-- An enemy that is active after a tick was active and has dropped by 40 at most. -/
theorem tickArena_enemy {timer roll : Nat} {arena : Arena} {lost : Bool} {index : Nat} {enemy : Enemy}
    (at' : (tickArena mode14C timer roll arena lost).1.enemies[index]? = some enemy)
    (active : enemy.active = true) :
    ∃ before, arena.enemies[index]? = some before ∧ before.active = true ∧
      (enemy.y = before.y ∨ enemy.y = before.y + 40) := by
  -- the checks kill at most
  have moved : (advance mode14C timer roll arena).enemies[index]? = some enemy := by
    rcases tickArena_enemies mode14C timer roll arena lost with same | ⟨place, killed, _, _, after⟩
    · rwa [same] at at'
    · rw [after, List.getElem?_set] at at'
      split at at'
      · split at at'
        · cases at'
          cases active
        · cases at'
      · exact at'
  rcases advance_enemies_cases mode14C timer roll arena with ⟨_, same⟩ | ⟨_, _, _, drop⟩ |
    ⟨_, _, _, step⟩
  · rw [same] at moved
    exact ⟨enemy, moved, active, .inl rfl⟩
  · rw [drop, List.getElem?_map] at moved
    obtain ⟨before, inside, rfl⟩ := Option.map_eq_some_iff.mp moved
    rw [dropEnemy_active] at active
    rw [dropEnemy_of_active active]
    exact ⟨before, inside, active, .inr rfl⟩
  · rw [step, List.getElem?_map] at moved
    obtain ⟨before, inside, rfl⟩ := Option.map_eq_some_iff.mp moved
    rw [stepEnemy_active] at active
    rw [stepEnemy_of_active _ active]
    exact ⟨before, inside, active, .inl rfl⟩

/-- A bullet that is active after a tick was active and is 20 higher. -/
theorem tickArena_bullet {timer roll : Nat} {arena : Arena} {lost : Bool} {index : Nat} {bullet : Bullet}
    (at' : (tickArena mode14C timer roll arena lost).1.bullets[index]? = some bullet)
    (active : bullet.active = true) :
    ∃ before, arena.bullets[index]? = some before ∧ before.active = true ∧
      bullet = { before with y := before.y - 20 } := by
  have moved := (tickArena_bullets mode14C timer roll arena lost).getElem? Bullet.retire_active at'
    active
  rw [List.getElem?_map] at moved
  obtain ⟨before, inside, rfl⟩ := Option.map_eq_some_iff.mp moved
  obtain ⟨was, same, _⟩ := updateBullet_of_active active
  exact ⟨before, inside, was, same⟩

/-! ### No hit is missed -/

end SpaceInvaders
