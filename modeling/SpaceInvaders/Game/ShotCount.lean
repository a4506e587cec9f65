/-
**Player shots are conserved.**

Every bullet counted in `bullets_fired` is in flight, has destroyed an enemy, or has left the screen at
the top. No shot is lost on the way: bullets in flight are 600 pixels apart on a screen of 700, so a
press of space that restarts the fire delay always finds a free slot.

* `ShotsBalance`: the account, kept by the keys (`ShotsBalance.input`) and by a tick
  (`ShotsBalance.tick`), and drawn up over a game by `Runs.run_counted`;
* `spread_invariant`: at most two bullets in flight;
* `shots_conserved`: the two together, with what a press of space does.
-/

import SpaceInvaders.Game.PlayerShots

namespace SpaceInvaders

/-! ### Counting -/

/-- The bullets in flight. -/
def bulletsInFlight (arena : Arena) : Nat := arena.bullets.countP Bullet.active

/-- The enemies destroyed since `init_enemies`. -/
def enemiesDestroyed (arena : Arena) : Nat := maxEnemies - countActiveEnemies arena

/-- This round of `update_bullets` retires the bullet at the top of the screen. -/
def Bullet.expires (bullet : Bullet) : Bool := bullet.active && bullet.y - 20 < 0

/-- The bullets `update_bullets` retires while a game handles a message. -/
def bulletsExpired (mode : ModeInfo) (program : Program) : Receive → Nat
  | .hardware keyboard (some _) =>
    (gameInput mode keyboard program.globals).arena.bullets.countP Bullet.expires
  | _ => 0

/-- A bullet in flight flies on or expires. -/
theorem countP_updateBullet (bullets : List Bullet) :
    (bullets.map updateBullet).countP Bullet.active + bullets.countP Bullet.expires =
      bullets.countP Bullet.active := by
  induction bullets with
  | nil => rfl
  | cons bullet rest ih =>
    have one : ([bullet].map updateBullet).countP Bullet.active + [bullet].countP Bullet.expires =
        [bullet].countP Bullet.active := by
      obtain ⟨x, y, active⟩ := bullet
      cases active with
      | false => rfl
      | true =>
        by_cases top : y - 20 < 0
        · simp [updateBullet, Bullet.expires, top]
        · simp [updateBullet, Bullet.expires, top]
    have split (p : Bullet → Bool) (bullets : List Bullet) (bullet : Bullet) :
        (bullet :: bullets).countP p = [bullet].countP p + bullets.countP p :=
      @List.countP_append _ p [bullet] bullets
    rw [List.map_cons, split, split Bullet.expires, split Bullet.active rest]
    rw [List.map_singleton] at one
    omega

/-- **The bullet check** retires a bullet for every enemy it kills. -/
theorem checkBulletEnemyCollision_counts (arena : Arena) :
    bulletsInFlight (checkBulletEnemyCollision arena) + countActiveEnemies arena =
      bulletsInFlight arena + countActiveEnemies (checkBulletEnemyCollision arena) := by
  unfold checkBulletEnemyCollision
  cases hit : shootFirst arena.bullets arena.enemies with
  | none => rfl
  | some after =>
    obtain ⟨bullets, enemies⟩ := after
    obtain ⟨before, bullet, behind, split, active, rfl, meets⟩ := shootFirst_eq_some hit
    obtain ⟨index, enemy, place, alive, _, rfl⟩ := hitFirst_eq_some meets
    obtain ⟨inside, at'⟩ := List.getElem?_eq_some_iff.mp place
    have killed : (arena.enemies.set index enemy.kill).countP Enemy.active + 1 =
        arena.enemies.countP Enemy.active := by
      have some_active : 0 < arena.enemies.countP Enemy.active :=
        List.countP_pos_iff.mpr ⟨enemy, at' ▸ List.getElem_mem inside, alive⟩
      rw [List.countP_set inside, at', if_pos alive, if_neg (by exact Bool.false_ne_true)]
      omega
    show (before ++ bullet.retire :: behind).countP Bullet.active +
        arena.enemies.countP Enemy.active =
      arena.bullets.countP Bullet.active + (arena.enemies.set index enemy.kill).countP Enemy.active
    rw [split, List.countP_append, List.countP_append, List.countP_cons_of_pos active,
      List.countP_cons_of_neg (by exact Bool.false_ne_true)]
    omega

/-! ### The account of a game -/

/-- A key launches one bullet into a free slot, or does nothing to the bullets. -/
theorem shipAction_launch (mode : ModeInfo) (scancode : UInt8) (arena : Arena) :
    (launchesBullet scancode arena = false ∧
      (shipAction mode scancode arena).bullets = arena.bullets) ∨
    ∃ filled, Slots.fillFirst Bullet.active (shipBullet arena.x) arena.bullets = some filled ∧
      launchesBullet scancode arena = true ∧
      (shipAction mode scancode arena).bullets = filled := by
  unfold launchesBullet shipAction
  by_cases left : scancode = kbA
  · rw [left, if_pos rfl]
    exact .inl ⟨rfl, by split <;> rfl⟩
  by_cases right : scancode = kbD
  · rw [right]
    exact .inl ⟨rfl, rfl⟩
  rw [if_neg left, if_neg right]
  by_cases space : scancode = kbSpace
  · rw [if_pos space, space]
    by_cases ready : arena.fireDelayCounter ≥ 30
    · rw [if_pos ready]
      rcases Option.eq_none_or_eq_some
        (Slots.fillFirst Bullet.active (shipBullet arena.x) arena.bullets) with full | ⟨filled, taken⟩
      · exact .inl ⟨by simp [full], by simp [full]⟩
      · exact .inr ⟨filled, taken, by simp [ready, taken], by simp [taken]⟩
    · rw [if_neg ready]
      exact .inl ⟨by simp [ready], rfl⟩
  · rw [if_neg space]
    exact .inl ⟨by simp [space], rfl⟩

/-- What a key does to the player's bullets: nothing, or one launch that is counted. -/
theorem gameInput_launch (mode : ModeInfo) (keyboard : Option Ports) (globals : Globals) :
    ((gameInput mode keyboard globals).arena.bullets = globals.arena.bullets ∧
      (gameInput mode keyboard globals).score = globals.score) ∨
    ∃ filled, Slots.fillFirst Bullet.active (shipBullet globals.arena.x) globals.arena.bullets =
        some filled ∧
      (gameInput mode keyboard globals).arena.bullets = filled ∧
      (gameInput mode keyboard globals).score = scoreAddBullet globals.score := by
  cases keyboard with
  | none => exact .inl ⟨rfl, rfl⟩
  | some ports =>
    simp only [gameInput, Option.elim, gameKeyboard]
    split
    · exact .inl ⟨rfl, rfl⟩
    rcases shipAction_launch mode (kbcIh ports globals.scancode) globals.arena with
      ⟨quiet, same⟩ | ⟨filled, taken, launches, fires⟩
    · exact .inl ⟨same, if_neg (by rw [quiet]; exact Bool.false_ne_true)⟩
    · exact .inr ⟨filled, taken, fires, if_pos launches⟩

/-- The account of a running game. -/
structure ShotsBalance (expired : Nat) (globals : Globals) : Prop where
  counting : globals.score.gameActive = true
  size : globals.arena.enemies.length = maxEnemies
  balance : globals.score.currentScore.bulletsFired =
    bulletsInFlight globals.arena + enemiesDestroyed globals.arena + expired

namespace ShotsBalance

variable {mode : ModeInfo} {expired : Nat} {globals : Globals}

/-- A launch is counted. -/
theorem input (account : ShotsBalance expired globals) (keyboard : Option Ports) :
    ShotsBalance expired (gameInput mode keyboard globals) := by
  have enemies : (gameInput mode keyboard globals).arena.enemies = globals.arena.enemies := by
    rw [gameInput_arena_eq]
  have destroyed : enemiesDestroyed (gameInput mode keyboard globals).arena =
      enemiesDestroyed globals.arena := by
    unfold enemiesDestroyed countActiveEnemies
    rw [enemies]
  have balance := account.balance
  rcases gameInput_launch mode keyboard globals with ⟨bullets, score⟩ | ⟨filled, taken, fires, score⟩
  · refine ⟨by rw [score]; exact account.counting, by rw [enemies]; exact account.size, ?_⟩
    rw [score, destroyed, bulletsInFlight, bullets]
    exact balance
  · have counted := Slots.countP_fillFirst taken rfl
    have counts : scoreAddBullet globals.score =
        { globals.score with
          currentScore :=
            { globals.score.currentScore with
              bulletsFired := globals.score.currentScore.bulletsFired + 1 } } :=
      if_pos account.counting
    refine ⟨by rw [score, counts]; exact account.counting, by rw [enemies]; exact account.size, ?_⟩
    rw [score, counts, destroyed, bulletsInFlight, fires, counted]
    show globals.score.currentScore.bulletsFired + 1 = _
    rw [balance, bulletsInFlight]
    omega

/-- A tick moves bullets from the sky to the destroyed enemies, or lets them expire. -/
theorem tick (account : ShotsBalance expired globals) (answers : Answers) :
    ShotsBalance (expired + globals.arena.bullets.countP Bullet.expires)
      (gameTick mode answers globals) := by
  obtain ⟨counting, size, balance⟩ := account
  -- the arena before the bullet check
  obtain ⟨ready, result, bullets, alive, readySize⟩ : ∃ ready : Arena,
      (gameTick mode answers globals).arena =
        checkShieldCollision (checkBulletEnemyCollision ready) ∧
      bulletsInFlight ready = (globals.arena.bullets.map updateBullet).countP Bullet.active ∧
      countActiveEnemies ready = countActiveEnemies globals.arena ∧
      ready.enemies.length = maxEnemies := by
    refine ⟨_, tickArena_fst mode _ answers.enemyRoll globals.arena globals.playerLost, ?_, ?_, ?_⟩
    · show (advance mode _ _ globals.arena).bullets.countP _ = _
      rw [advance_bullets]
    · show (advance mode _ _ globals.arena).enemies.countP _ = _
      rw [advance_enemies]
      exact countActiveEnemies_moveAll mode globals.arena
    · show (advance mode _ _ globals.arena).enemies.length = _
      rw [advance_enemies, moveAll_enemies_length, size]
  have flown := countP_updateBullet globals.arena.bullets
  have shot := checkBulletEnemyCollision_counts ready
  have afterSize : (checkBulletEnemyCollision ready).enemies.length = maxEnemies := by
    rcases checkBulletEnemyCollision_enemies ready with same | ⟨index, enemy, _, _, killed⟩
    · rw [same, readySize]
    · rw [killed, List.length_set, readySize]
  have few : countActiveEnemies (checkBulletEnemyCollision ready) ≤ maxEnemies :=
    afterSize ▸ List.countP_le_length
  have few' : countActiveEnemies globals.arena ≤ maxEnemies := size ▸ List.countP_le_length
  have updates := gameTick_score mode answers counting
  refine ⟨by rw [updates]; exact counting, by rw [result]; exact afterSize, ?_⟩
  rw [updates, result]
  show globals.score.currentScore.bulletsFired =
    (bulletsInFlight (checkBulletEnemyCollision ready) : Int) +
      enemiesDestroyed (checkBulletEnemyCollision ready) + _
  rw [balance]
  unfold enemiesDestroyed
  have inFlight : bulletsInFlight globals.arena = globals.arena.bullets.countP Bullet.active := rfl
  omega

/-- **The account goes on** while the game does. -/
theorem step (account : ShotsBalance expired globals) {receive : Receive}
    (goesOn : (SpaceInvaders.step mode ⟨.gameState, globals⟩ receive).control = .gameState) :
    ShotsBalance (expired + bulletsExpired mode ⟨.gameState, globals⟩ receive)
      (SpaceInvaders.step mode ⟨.gameState, globals⟩ receive).globals := by
  rw [step_goesOn rfl goesOn]
  cases receive with
  | failed => exact account
  | ignored => exact account
  | hardware keyboard timer =>
    cases timer with
    | none => exact account.input keyboard
    | some answers => exact (account.input keyboard).tick answers

end ShotsBalance

/-- A new game has an empty account. -/
theorem shotsBalance_started (mode : ModeInfo) (globals : Globals) :
    ShotsBalance 0 (startedGlobals mode globals) := by
  refine ⟨rfl, rfl, ?_⟩
  have none : bulletsInFlight (startedGlobals mode globals).arena = 0 :=
    List.countP_eq_zero.mpr fun bullet member => by
      rw [active_of_mem_retire bullet member]
      exact Bool.false_ne_true
  rw [none]
  rfl

/-! ### At most two bullets -/

/-- The player's bullets keep their distance on the screen. -/
structure Spread (arena : Arena) : Prop where
  spaced : Spaced arena
  above : ∀ bullet ∈ arena.bullets, bullet.active = true → 0 ≤ bullet.y
  slots : arena.bullets.length = maxBullets

namespace Spread

variable {arena : Arena}

theorem atMostTwo (spread : Spread arena) : bulletsInFlight arena ≤ 2 := by
  refine Slots.countP_le_two spread.spaced.apart ?_
  intro a inA b inB c inC activeA activeB activeC far far' far''
  have delay := spread.spaced.delay
  have lowA := spread.spaced.below a inA activeA
  have lowB := spread.spaced.below b inB activeB
  have lowC := spread.spaced.below c inC activeC
  have highA := spread.above a inA activeA
  have highB := spread.above b inB activeB
  have highC := spread.above c inC activeC
  unfold FarApart at far far' far''
  omega

/-- A ready ship finds a free slot. -/
theorem exists_slot (spread : Spread arena) (bullet : Bullet) :
    ∃ filled, Slots.fillFirst Bullet.active bullet arena.bullets = some filled := by
  refine Slots.exists_fillFirst bullet ?_
  have few : arena.bullets.countP Bullet.active ≤ 2 := spread.atMostTwo
  rw [spread.slots, maxBullets]
  omega

theorem shipAction (spread : Spread arena) (mode : ModeInfo) (scancode : UInt8) :
    Spread (shipAction mode scancode arena) := by
  refine ⟨spread.spaced.shipAction mode scancode, ?_, ?_⟩
  · rcases shipAction_launch mode scancode arena with ⟨_, same⟩ | ⟨filled, taken, _, fires⟩
    · rw [same]
      exact spread.above
    · rw [fires]
      exact Slots.forall_mem_fillFirst taken spread.above fun _ => by
        show (0 : Int) ≤ 700 - 30
        decide
  · rcases shipAction_launch mode scancode arena with ⟨_, same⟩ | ⟨filled, taken, _, fires⟩
    · rw [same]
      exact spread.slots
    · rw [fires, Slots.fillFirst_length taken]
      exact spread.slots

theorem tickArena (spread : Spread arena) (mode : ModeInfo) (timer roll : Nat) :
    Spread (tickArena mode timer roll arena false).1 := by
  have released := tickArena_bullets mode timer roll arena false
  refine ⟨spread.spaced.tickArena mode timer roll, fun bullet member active => ?_, ?_⟩
  · obtain ⟨before, _, rfl⟩ := List.mem_map.mp (released.mem Bullet.retire_active member active)
    obtain ⟨_, moved, high⟩ := updateBullet_of_active active
    rw [moved]
    show 0 ≤ before.y - 20
    omega
  · rw [released.length_eq, List.length_map]
    exact spread.slots

end Spread

/-- **The player's bullets are spread** in every reachable game. -/
theorem spread_invariant (mode : ModeInfo) :
    ArenaInvariant mode (fun arena => 0 ≤ arena.fireDelayCounter ∧ arena.bullets.length = maxBullets)
      fun _ => Spread where
  initial := ⟨by decide, rfl⟩
  rest _ _ spread := ⟨spread.spaced.delay, spread.slots⟩
  start _ arena rest := by
    refine ⟨spaced_startArena mode rest.1, fun bullet member active => ?_, ?_⟩
    · rw [active_of_mem_retire bullet member] at active
      cases active
    · exact (List.length_map _).trans rest.2
  key _ _ scancode spread := spread.shipAction mode scancode
  tickRest _ _ _ spread :=
    ⟨(spread.tickArena mode _ _).spaced.delay, (spread.tickArena mode _ _).slots⟩
  tick _ _ _ spread _ := spread.tickArena mode _ _

/-! ### Conservation -/

theorem shipAction_space (mode : ModeInfo) (arena : Arena) :
    shipAction mode kbSpace arena =
      if arena.fireDelayCounter ≥ 30 then
        { arena with
          bullets := (Slots.fillFirst Bullet.active (shipBullet arena.x) arena.bullets).getD
            arena.bullets
          fireDelayCounter := 0 }
      else arena := by
  rw [shipAction, if_neg (by decide), if_neg (by decide), if_pos rfl]

/-- What a press of space does to a game with the delay counted off, and before that. -/
theorem gameInput_space {mode : ModeInfo} {globals : Globals} (spread : Spread globals.arena)
    (counting : globals.score.gameActive = true) {ports : Ports}
    (space : kbcIh ports globals.scancode = kbSpace) :
    (30 ≤ globals.arena.fireDelayCounter →
      ∃ before slot behind, globals.arena.bullets = before ++ slot :: behind ∧ slot.active = false ∧
        (gameInput mode (some ports) globals).arena.bullets =
          before ++ shipBullet globals.arena.x :: behind ∧
        (gameInput mode (some ports) globals).arena.fireDelayCounter = 0 ∧
        (gameInput mode (some ports) globals).score.currentScore.bulletsFired =
          globals.score.currentScore.bulletsFired + 1) ∧
    (globals.arena.fireDelayCounter < 30 →
      (gameInput mode (some ports) globals).arena = globals.arena ∧
        (gameInput mode (some ports) globals).score = globals.score) := by
  have make : ¬ kbcIh ports globals.scancode &&& kbBreakCode ≠ 0 := by
    rw [space]
    decide
  show (_ → ∃ before slot behind, _ ∧ _ ∧ (gameKeyboard mode ports globals).arena.bullets = _ ∧
      (gameKeyboard mode ports globals).arena.fireDelayCounter = 0 ∧
      (gameKeyboard mode ports globals).score.currentScore.bulletsFired = _) ∧
    (_ → (gameKeyboard mode ports globals).arena = _ ∧ (gameKeyboard mode ports globals).score = _)
  rw [gameKeyboard, if_neg make, space]
  constructor
  · intro ready
    obtain ⟨filled, taken⟩ := spread.exists_slot (shipBullet globals.arena.x)
    obtain ⟨before, slot, behind, split, fills, free, _⟩ := Slots.fillFirst_eq_some taken
    refine ⟨before, slot, behind, split, free, ?_, ?_, ?_⟩
    · simp [shipAction_space, ready, taken, fills]
    · simp [shipAction_space, ready]
    · simp [launchesBullet, ready, taken, scoreAddBullet, counting]
  · intro early
    have notReady : ¬ globals.arena.fireDelayCounter ≥ 30 := by omega
    exact ⟨by simp [shipAction_space, notReady], by simp [launchesBullet, notReady]⟩

/-- **Player shots are conserved.** Between two messages of a running game, `bullets_fired` is the
bullets in flight, the enemies destroyed and the bullets that left at the top since the game's start. At
most two bullets fly, and a press of space launches and counts exactly one bullet once the delay is
counted off, and does nothing before. -/
theorem shots_conserved {mode : ModeInfo} {opening : Program} (starts : GameStarts mode opening)
    {messages : List Receive} (plays : Plays mode opening messages)
    (running : (run mode opening messages).control = .gameState) :
    (run mode opening messages).globals.score.currentScore.bulletsFired =
      bulletsInFlight (run mode opening messages).globals.arena +
        enemiesDestroyed (run mode opening messages).globals.arena +
        Runs.total (step mode) (bulletsExpired mode) opening messages ∧
    bulletsInFlight (run mode opening messages).globals.arena ≤ 2 ∧
    ∀ ports, kbcIh ports (run mode opening messages).globals.scancode = kbSpace →
      (30 ≤ (run mode opening messages).globals.arena.fireDelayCounter →
        ∃ before slot behind,
          (run mode opening messages).globals.arena.bullets = before ++ slot :: behind ∧
          slot.active = false ∧
          (gameInput mode (some ports) (run mode opening messages).globals).arena.bullets =
            before ++ shipBullet (run mode opening messages).globals.arena.x :: behind ∧
          (gameInput mode (some ports)
            (run mode opening messages).globals).arena.fireDelayCounter = 0 ∧
          (gameInput mode (some ports)
            (run mode opening messages).globals).score.currentScore.bulletsFired =
              (run mode opening messages).globals.score.currentScore.bulletsFired + 1) ∧
      ((run mode opening messages).globals.arena.fireDelayCounter < 30 →
        (gameInput mode (some ports) (run mode opening messages).globals).arena =
            (run mode opening messages).globals.arena ∧
          (gameInput mode (some ports) (run mode opening messages).globals).score =
            (run mode opening messages).globals.score) := by
  have spread := ((spread_invariant mode).reachable (starts.reachable.run messages)).2 running
  -- the account at every state in which the game still runs
  have account : (run mode opening messages).control = .gameState →
      ShotsBalance (0 + Runs.total (step mode) (bulletsExpired mode) opening messages)
        (run mode opening messages).globals := by
    refine @Runs.run_counted _ _ _
      (fun expired program => program.control = .gameState → ShotsBalance expired program.globals) _ _
      ?_ _ _ ?_ _ plays
    · rintro expired ⟨control, globals⟩ receive account rfl goesOn
      exact (account rfl).step goesOn
    · obtain ⟨globals, rfl⟩ := starts.eq_started
      exact fun _ => shotsBalance_started mode globals
  have balance := (account running).balance
  rw [Nat.zero_add] at balance
  exact ⟨balance, spread.atMostTwo, fun ports space =>
    gameInput_space spread (account running).counting space⟩

/-- A press of space and a tick in the first game. -/
theorem shots_conserved_firstGame :
    (GameStarts mode14C (run mode14C (start none) [press kbEnter, timerTick 0]) ∧
      Plays mode14C (run mode14C (start none) [press kbEnter, timerTick 0])
        [press kbSpace, timerTick 0] ∧
      (run mode14C (run mode14C (start none) [press kbEnter, timerTick 0])
        [press kbSpace, timerTick 0]).control = .gameState) ∧
    bulletsInFlight (run mode14C (run mode14C (start none) [press kbEnter, timerTick 0])
      [press kbSpace, timerTick 0]).globals.arena ≤ 2 := by
  have plays : Plays mode14C (run mode14C (start none) [press kbEnter, timerTick 0])
      [press kbSpace, timerTick 0] := ⟨by decide, by decide, trivial⟩
  exact ⟨⟨gameStarts_firstGame, plays, by decide⟩,
    (shots_conserved gameStarts_firstGame plays (by decide)).2.1⟩

end SpaceInvaders
