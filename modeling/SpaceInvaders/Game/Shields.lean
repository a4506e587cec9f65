/-
**Shields absorb exactly what they should.**

`check_shield_collision` looks at a shield's state outside its bullet loop, so with several bullets in
one frame a shield destroyed in mid-loop would go on eating. With one bullet in flight
(`OneInFlight`) a frame is a pass or a single hit: `shieldRounds_cases`.

* `absorbs`: how many bullets a shield deactivates in one check;
* `step_shields`: every message moves a shield by one state for each of them;
* `Flight`, `flight_run`: the way of a bullet launched above a standing shield;
* `shields_absorb`: the counts over a whole game, and the way of every such bullet.
-/

import SpaceInvaders.Game.EnemyFire
import Mathlib.Tactic.IntervalCases

namespace SpaceInvaders

/-! ### One check -/

/-- The number of hits a shield has taken. -/
def ShieldState.rank : ShieldState → Nat
  | .full => 0
  | .broken => 1
  | .none => 2

theorem ShieldState.rank_le (state : ShieldState) : state.rank ≤ 2 := by
  cases state <;> decide

/-- The number of bullets the shield at an index deactivates in `shieldRounds`. -/
def absorbs : List Shield → List Bullet → (index : Nat) → Nat
  | [], _, _ => 0
  | shield :: _, bullets, 0 =>
    bullets.countP Bullet.active - (shieldRound shield bullets).2.countP Bullet.active
  | shield :: rest, bullets, index + 1 => absorbs rest (shieldRound shield bullets).2 index

/-- The shield stands and meets the active bullet. -/
def Stops (shield : Shield) (bullet : Bullet) : Prop :=
  shield.state ≠ .none ∧ bullet.active = true ∧ bulletHitsShield bullet shield = true

instance (shield : Shield) (bullet : Bullet) : Decidable (Stops shield bullet) :=
  inferInstanceAs (Decidable (_ ∧ _ ∧ _))

/-- A shield after one hit. -/
def Shield.hit (shield : Shield) : Shield := { shield with state := shield.state.hit }

theorem shieldAgainst_idle (shield : Shield) {bullets : List Bullet}
    (idle : ∀ bullet ∈ bullets, bullet.active = false) :
    shieldAgainst shield bullets = (shield, bullets) := by
  induction bullets with
  | nil => rfl
  | cons bullet rest ih =>
    rw [shieldAgainst, idle bullet List.mem_cons_self, Bool.false_and, if_neg Bool.false_ne_true,
      ih fun other member => idle other (List.mem_cons_of_mem _ member)]

section OneBullet

variable {shield : Shield} {shields : List Shield} {first : Bullet} {rest : List Bullet}
  (idle : ∀ bullet ∈ rest, bullet.active = false)
include idle

theorem shieldRound_of_stops (stops : Stops shield first) :
    shieldRound shield (first :: rest) = (shield.hit, first.retire :: rest) := by
  obtain ⟨stands, active, meets⟩ := stops
  rw [shieldRound, if_neg stands, shieldAgainst, active, meets, Bool.and_self, if_pos rfl,
    shieldAgainst_idle _ idle]
  rfl

theorem shieldRound_of_passes (passes : ¬ Stops shield first) :
    shieldRound shield (first :: rest) = (shield, first :: rest) := by
  unfold shieldRound
  by_cases gone : shield.state = .none
  · rw [if_pos gone]
  · have misses : ¬ (first.active && bulletHitsShield first shield) = true := fun hits => by
      rw [Bool.and_eq_true] at hits
      exact passes ⟨gone, hits.1, hits.2⟩
    rw [if_neg gone, shieldAgainst, if_neg misses, shieldAgainst_idle _ idle]

theorem countP_of_idle : rest.countP Bullet.active = 0 :=
  List.countP_eq_zero.mpr fun bullet member => by rw [idle bullet member]; exact Bool.false_ne_true

/-- **One check with one bullet**: every shield lets it pass, or one stops it. -/
theorem shieldRounds_cases :
    ((∀ shield ∈ shields, ¬ Stops shield first) ∧
      shieldRounds shields (first :: rest) = (shields, first :: rest) ∧
      ∀ index, absorbs shields (first :: rest) index = 0) ∨
    ∃ place shield, shields[place]? = some shield ∧ Stops shield first ∧
      shieldRounds shields (first :: rest) =
        (shields.set place shield.hit, first.retire :: rest) ∧
      ∀ index, absorbs shields (first :: rest) index = if index = place then 1 else 0 := by
  induction shields generalizing first with
  | nil => exact .inl ⟨by simp, rfl, fun _ => rfl⟩
  | cons shield more ih =>
    by_cases stops : Stops shield first
    · -- behind the shield the bullet is inactive
      have round := shieldRound_of_stops idle stops
      rcases @ih first.retire with ⟨_, later, none⟩ | ⟨_, _, _, ⟨_, active, _⟩, _⟩
      · refine .inr ⟨0, shield, rfl, stops, ?_, fun index => ?_⟩
        · simp only [shieldRounds, round, later]
          rfl
        · cases index with
          | zero =>
            simp only [absorbs, round]
            rw [List.countP_cons_of_pos stops.2.1, List.countP_cons_of_neg (by simp),
              countP_of_idle idle]
            rfl
          | succ index =>
            simp only [absorbs, round]
            rw [none, if_neg (Nat.succ_ne_zero index)]
      · cases active
    · have round := shieldRound_of_passes idle stops
      rcases @ih first with ⟨pass, later, none⟩ | ⟨place, stopper, at', stopsLater, later, counts⟩
      · refine .inl ⟨List.forall_mem_cons.mpr ⟨stops, pass⟩, ?_, fun index => ?_⟩
        · simp only [shieldRounds, round, later]
        · cases index with
          | zero => simp only [absorbs, round, Nat.sub_self]
          | succ index => simp only [absorbs, round, none]
      · refine .inr ⟨place + 1, stopper, at', stopsLater, ?_, fun index => ?_⟩
        · simp only [shieldRounds, round, later]
          rfl
        · cases index with
          | zero => simp only [absorbs, round, Nat.sub_self, reduceCtorEq, if_false]
          | succ index => simp only [absorbs, round, counts, Nat.add_right_cancel_iff]

end OneBullet

/-! ### One message -/

/-- The arena when `check_shield_collision` begins. -/
def beforeShields (mode : ModeInfo) (timer roll : Nat) (arena : Arena) : Arena :=
  (shoot (advance mode timer roll arena) false).1

/-- The number of bullets the shield at an index deactivates while a message is handled. -/
def absorbedBy (index : Nat) (program : Program) : Receive → Nat
  | .hardware keyboard (some answers) =>
    let arena := beforeShields mode14C (program.globals.timerCounter + 1) answers.enemyRoll
      (gameInput mode14C keyboard program.globals).arena
    absorbs arena.shields arena.enemyBullets index
  | _ => 0

theorem tickArena_shields (timer roll : Nat) (arena : Arena) (lost : Bool) :
    (tickArena mode14C timer roll arena lost).1.shields =
        (shieldRounds arena.shields (beforeShields mode14C timer roll arena).enemyBullets).1 ∧
      (tickArena mode14C timer roll arena lost).1.enemyBullets =
        (shieldRounds arena.shields (beforeShields mode14C timer roll arena).enemyBullets).2 := by
  have same : (beforeShields mode14C timer roll arena).shields = arena.shields := by
    simp [beforeShields, shoot, checkEnemyBulletCollision]
  rw [← same]
  exact ⟨rfl, rfl⟩

/-- The bullets when `check_shield_collision` begins: those of `advance`, less the one at the ship. -/
theorem beforeShields_enemyBullets (timer roll : Nat) (arena : Arena) :
    (beforeShields mode14C timer roll arena).enemyBullets =
      (advance mode14C timer roll arena).enemyBullets.map fun bullet =>
        if bullet.active && bulletHitsShip arena.x bullet then bullet.retire else bullet := by
  simp [beforeShields, shoot, checkEnemyBulletCollision]

/-- No bullet at the ship: the check there does nothing. -/
theorem beforeShields_of_missed {timer roll : Nat} {arena : Arena}
    (missed : ∀ bullet ∈ (advance mode14C timer roll arena).enemyBullets, bullet.active = true →
      bulletHitsShip arena.x bullet = false) :
    (beforeShields mode14C timer roll arena).enemyBullets =
      (advance mode14C timer roll arena).enemyBullets := by
  rw [beforeShields_enemyBullets]
  conv_rhs => rw [← List.map_id (advance mode14C timer roll arena).enemyBullets]
  refine List.map_congr_left fun bullet member => if_neg fun hits => ?_
  rw [Bool.and_eq_true] at hits
  rw [missed bullet member hits.1] at hits
  cases hits.2

theorem oneInFlight_beforeShields {timer : Nat} {arena : Arena} (firing : Firing timer arena)
    (roll : Nat) :
    OneInFlight (timer + 1) (beforeShields mode14C (timer + 1) roll arena).enemyBullets := by
  rw [beforeShields_enemyBullets]
  exact (firing.advance roll).released (Slots.Released.map _ _)

/-- A tick moves a shield by one state for every bullet it deactivates. -/
theorem tick_shields {timer : Nat} {arena : Arena} (firing : Firing timer arena) (roll : Nat)
    (lost : Bool) {index : Nat} {shield : Shield} (at' : arena.shields[index]? = some shield) :
    ∃ hits, absorbs arena.shields
        (beforeShields mode14C (timer + 1) roll arena).enemyBullets index = hits ∧
      (tickArena mode14C (timer + 1) roll arena lost).1.shields[index]? =
        some { shield with state := ShieldState.hit^[hits] shield.state } ∧
      (shield.state = .none → hits = 0) ∧ hits ≤ 1 := by
  obtain ⟨first, rest, slots, _, idle, _⟩ := oneInFlight_beforeShields firing roll
  rw [(tickArena_shields _ _ _ _).1, slots]
  rcases @shieldRounds_cases arena.shields first rest idle with
    ⟨_, rounds, none⟩ | ⟨place, stopper, found, stops, rounds, counts⟩
  · exact ⟨0, none index, by rw [rounds]; exact at', fun _ => rfl, Nat.zero_le 1⟩
  · refine ⟨_, counts index, ?_, ?_⟩
    · rw [rounds, List.getElem?_set]
      by_cases here : index = place
      · subst here
        rw [found, Option.some.injEq] at at'
        subst at'
        have inside := (List.getElem?_eq_some_iff.mp found).1
        rw [if_pos rfl, if_pos inside, if_pos rfl]
        rfl
      · rw [if_neg (fun same => here same.symm), if_neg here]
        exact at'
    · by_cases here : index = place
      · subst here
        rw [found, Option.some.injEq] at at'
        subst at'
        rw [if_pos rfl]
        exact ⟨fun gone => absurd gone stops.1, le_rfl⟩
      · rw [if_neg here]
        exact ⟨fun _ => rfl, Nat.zero_le 1⟩

@[simp] theorem gameInput_shields (mode : ModeInfo) (keyboard : Option Ports) (globals : Globals) :
    (gameInput mode keyboard globals).arena.shields = globals.arena.shields := by
  rw [gameInput_arena_eq]

@[simp] theorem gameInput_enemyBullets (mode : ModeInfo) (keyboard : Option Ports) (globals : Globals) :
    (gameInput mode keyboard globals).arena.enemyBullets = globals.arena.enemyBullets := by
  rw [gameInput_arena_eq]

/-- **A message moves a shield by one state for every bullet it deactivates.** -/
theorem step_shields {program : Program} (reached : Reachable mode14C program)
    (running : program.control = .gameState) (receive : Receive) {index : Nat} {shield : Shield}
    (at' : program.globals.arena.shields[index]? = some shield) :
    (step mode14C program receive).globals.arena.shields[index]? =
        some { shield with state := ShieldState.hit^[absorbedBy index program receive] shield.state } ∧
      (shield.state = .none → absorbedBy index program receive = 0) ∧
      absorbedBy index program receive ≤ 1 := by
  rw [(step_of_running mode14C running receive).1]
  have still (arena : Arena) (same : arena.shields = program.globals.arena.shields) :
      arena.shields[index]? = some { shield with state := ShieldState.hit^[0] shield.state } ∧
        (shield.state = .none → 0 = 0) ∧ 0 ≤ 1 :=
    ⟨by rw [same]; exact at', fun _ => rfl, Nat.zero_le 1⟩
  cases receive with
  | failed => exact still _ rfl
  | ignored => exact still _ rfl
  | hardware keyboard timer =>
    cases timer with
    | none => exact still _ (gameInput_shields mode14C keyboard program.globals)
    | some answers =>
      have firing := fire_invariant.atTick ⟨program, keyboard, reached, running, rfl⟩
      rw [gameInput_timerCounter] at firing
      have same := gameInput_shields mode14C keyboard program.globals
      obtain ⟨hits, counted, after, unharmed, few⟩ :=
        tick_shields firing answers.enemyRoll false (by rw [same]; exact at')
      have counts : absorbedBy index program (.hardware keyboard (some answers)) = hits := by
        rw [← counted]
        show absorbs (beforeShields _ _ _ _).shields _ _ = _
        rw [show (beforeShields mode14C (program.globals.timerCounter + 1) answers.enemyRoll
          (gameInput mode14C keyboard program.globals).arena).shields =
            (gameInput mode14C keyboard program.globals).arena.shields by
              simp [beforeShields, shoot, checkEnemyBulletCollision]]
      rw [counts]
      exact ⟨after, unharmed, few⟩

/-! ### Where the shields stand -/

/-- The four shields stand where `init_shields` put them. -/
def ShieldsPlaced (arena : Arena) : Prop :=
  arena.shields.length = numShields ∧ ∀ (index : Nat) shield, arena.shields[index]? = some shield →
    shield.x = 182 + 247 * index ∧ shield.y = 614

theorem shieldsPlaced_startArena (arena : Arena) : ShieldsPlaced (startArena mode14C arena) := by
  refine ⟨rfl, fun index shield at' => ?_⟩
  have below : index < 4 := (List.getElem?_eq_some_iff.mp at').1
  interval_cases index <;> cases at' <;> decide

theorem ShieldsPlaced.tickArena {timer : Nat} {arena : Arena} (placed : ShieldsPlaced arena)
    (firing : Firing timer arena) (roll : Nat) :
    ShieldsPlaced (tickArena mode14C (timer + 1) roll arena false).1 := by
  obtain ⟨first, rest, slots, _, idle, _⟩ := oneInFlight_beforeShields firing roll
  have size : (SpaceInvaders.tickArena mode14C (timer + 1) roll arena false).1.shields.length =
      numShields := by
    rw [(tickArena_shields _ _ _ _).1, slots]
    rcases @shieldRounds_cases arena.shields first rest idle with
      ⟨_, rounds, _⟩ | ⟨_, _, _, _, rounds, _⟩
    · rw [rounds]
      exact placed.1
    · rw [rounds, List.length_set]
      exact placed.1
  refine ⟨size, fun index shield at' => ?_⟩
  have below : index < arena.shields.length := by
    rw [placed.1, ← size]
    exact (List.getElem?_eq_some_iff.mp at').1
  obtain ⟨_, _, after, _⟩ := tick_shields firing roll false (List.getElem?_eq_getElem below)
  rw [at', Option.some.injEq] at after
  have stands := placed.2 index _ (List.getElem?_eq_getElem below)
  rw [after]
  exact stands

/-- The enemies' fire over standing shields, over whole runs. -/
theorem shields_invariant : ArenaInvariant mode14C
    (fun arena => Rigid arena ∧ arena.enemyBullets.length = maxEnemyBullets)
    fun timer arena => Firing timer arena ∧ ShieldsPlaced arena where
  initial := fire_invariant.initial
  rest _ _ inv := fire_invariant.rest _ _ inv.1
  start timer arena rest := ⟨fire_invariant.start timer arena rest, shieldsPlaced_startArena arena⟩
  key timer arena scancode inv := by
    refine ⟨fire_invariant.key timer arena scancode inv.1, ?_⟩
    rw [shipAction_eq]
    exact inv.2
  tickRest _ _ _ inv := fire_invariant.tickRest _ _ _ inv.1
  tick _ _ _ inv goesOn := ⟨fire_invariant.tick _ _ _ inv.1 goesOn, inv.2.tickArena inv.1 _⟩

/-! ### The way of a bullet -/

/-- Where a bullet is `n` ticks after its launch over a standing shield, and what has become of the
shield: it falls until its box reaches the shield's, and is then gone at the cost of one hit. -/
def Flight (slot : Nat) (bullet : Bullet) (index : Nat) (shield : Shield) (n : Nat) (arena : Arena) :
    Prop :=
  if bullet.y + 20 * n + bulletHeight ≤ shield.y then
    arena.enemyBullets[slot]? = some { bullet with y := bullet.y + 20 * n } ∧
      arena.shields[index]? = some shield
  else
    (∃ gone, arena.enemyBullets[slot]? = some gone ∧ gone.active = false) ∧
      arena.shields[index]? = some shield.hit

/-- The columns of the bullet meet the shield's. -/
def Over (bullet : Bullet) (shield : Shield) : Prop :=
  shield.x < bullet.x + bulletWidth ∧ bullet.x < shield.x + shieldWidth

section Tick

variable {timer : Nat} {arena : Arena} (roll : Nat) {first : Bullet} {rest : List Bullet}
  (slots : (advance mode14C timer roll arena).enemyBullets = first :: rest)
  (idle : ∀ bullet ∈ rest, bullet.active = false)
include slots idle

/-- Without a bullet a tick leaves the shields. -/
theorem tick_of_gone (gone : first.active = false) :
    (tickArena mode14C timer roll arena false).1.shields = arena.shields ∧
      (tickArena mode14C timer roll arena false).1.enemyBullets[0]? = some first := by
  have before : (beforeShields mode14C timer roll arena).enemyBullets = first :: rest := by
    rw [beforeShields_of_missed, slots]
    rw [slots, List.forall_mem_cons]
    refine ⟨fun active => ?_, fun bullet member active => ?_⟩
    · rw [gone] at active
      cases active
    · rw [idle bullet member] at active
      cases active
  rw [(tickArena_shields _ _ _ _).1, (tickArena_shields _ _ _ _).2, before]
  rcases @shieldRounds_cases arena.shields first rest idle with
    ⟨_, rounds, _⟩ | ⟨_, _, _, ⟨_, active, _⟩, _⟩
  · rw [rounds]
    exact ⟨rfl, rfl⟩
  · rw [gone] at active
    cases active

/-- A bullet over a standing shield, high enough above the ship, is still above the shield or is
stopped by it, and no other shield is in its way. -/
theorem tick_of_over {index : Nat} {shield : Shield} (placed : ShieldsPlaced arena)
    (at' : arena.shields[index]? = some shield) (stands : shield.state ≠ .none)
    (active : first.active = true) (columns : Over first shield) (high : first.y ≤ 604) :
    if first.y + bulletHeight ≤ shield.y then
      (tickArena mode14C timer roll arena false).1.enemyBullets[0]? = some first ∧
        (tickArena mode14C timer roll arena false).1.shields[index]? = some shield
    else
      (tickArena mode14C timer roll arena false).1.enemyBullets[0]? = some first.retire ∧
        (tickArena mode14C timer roll arena false).1.shields[index]? = some shield.hit := by
  obtain ⟨left, top⟩ := placed.2 index shield at'
  -- the ship is below 700
  have before : (beforeShields mode14C timer roll arena).enemyBullets = first :: rest := by
    rw [beforeShields_of_missed, slots]
    rw [slots, List.forall_mem_cons]
    refine ⟨fun _ => ?_, fun bullet member active => ?_⟩
    · rw [← Bool.not_eq_true, bulletHitsShip, overlaps_iff]
      simp only [bulletHeight, shipY]
      omega
    · rw [idle bullet member] at active
      cases active
  have meets : bulletHitsShield first shield = true ↔ ¬ first.y + bulletHeight ≤ shield.y := by
    unfold Over at columns
    rw [bulletHitsShield, overlaps_iff]
    simp only [bulletHeight, shieldHeight, bulletWidth, shieldWidth] at columns ⊢
    omega
  rw [(tickArena_shields _ _ _ _).1, (tickArena_shields _ _ _ _).2, before]
  rcases @shieldRounds_cases arena.shields first rest idle with
    ⟨pass, rounds, _⟩ | ⟨place, stopper, found, stops, rounds, _⟩
  · have above : first.y + bulletHeight ≤ shield.y := by
      by_contra below
      exact pass shield (List.mem_of_getElem? at') ⟨stands, active, meets.mpr below⟩
    rw [if_pos above, rounds]
    exact ⟨rfl, at'⟩
  · -- the columns of two shields are too far apart
    have same : place = index := by
      obtain ⟨left', _⟩ := placed.2 place stopper found
      have box := overlaps_iff.mp stops.2.2
      unfold Over at columns
      simp only [bulletWidth, shieldWidth] at columns box
      omega
    subst same
    rw [found, Option.some.injEq] at at'
    subst at'
    have inside := (List.getElem?_eq_some_iff.mp found).1
    rw [if_neg (meets.mp stops.2.2), rounds, List.getElem?_set_self inside]
    exact ⟨rfl, rfl⟩

end Tick

/-- One tick of the way, away from the multiples of 60. -/
theorem flight_tick {timer n : Nat} {arena : Arena} {bullet : Bullet} {index : Nat} {shield : Shield}
    (firing : Firing timer arena) (placed : ShieldsPlaced arena) (roll : Nat)
    (early : (timer + 1) % 60 ≠ 0) (active : bullet.active = true) (stands : shield.state ≠ .none)
    (columns : Over bullet shield) (top : shield.y = 614) (flight : Flight 0 bullet index shield n arena) :
    Flight 0 bullet index shield (n + 1) (tickArena mode14C (timer + 1) roll arena false).1 := by
  have moved : (advance mode14C (timer + 1) roll arena).enemyBullets =
      arena.enemyBullets.map (updateEnemyBullet mode14C) := by
    rw [advance, if_neg early, moveAll_enemyBullets]
  obtain ⟨first, rest, slots, _, idle, _⟩ := firing.inFlight
  have idle' : ∀ bullet ∈ rest.map (updateEnemyBullet mode14C), bullet.active = false := by
    intro bullet member
    obtain ⟨before, inside, rfl⟩ := List.mem_map.mp member
    rw [updateEnemyBullet, if_neg (by rw [idle before inside]; exact Bool.false_ne_true)]
    exact idle before inside
  rw [slots, List.map_cons] at moved
  unfold Flight at flight ⊢
  rw [slots] at flight
  simp only [top, bulletHeight, Nat.cast_succ] at flight ⊢
  by_cases above : bullet.y + 20 * (n : Int) + 30 ≤ 614
  · -- the bullet falls by 20
    rw [if_pos above, List.getElem?_cons_zero, Option.some.injEq] at flight
    obtain ⟨rfl, at'⟩ := flight
    have onScreen : decide (¬ bullet.y + 20 * (n : Int) + 20 > mode14C.height) = true := by
      rw [mode14C_height, decide_eq_true_eq]
      omega
    have fallen : updateEnemyBullet mode14C { bullet with y := bullet.y + 20 * (n : Int) } =
        { bullet with y := bullet.y + 20 * ((n : Int) + 1) } := by
      rw [updateEnemyBullet, if_pos active]
      simp only [onScreen, active, Bullet.mk.injEq, and_true, true_and]
      omega
    rw [fallen] at moved
    have settled := tick_of_over roll moved idle' placed at' stands active columns
      (show bullet.y + 20 * ((n : Int) + 1) ≤ 604 by omega)
    simp only [top, bulletHeight] at settled
    by_cases still : bullet.y + 20 * ((n : Int) + 1) + 30 ≤ 614
    · rw [if_pos still] at settled ⊢
      exact settled
    · rw [if_neg still] at settled ⊢
      exact ⟨⟨_, settled.1, rfl⟩, settled.2⟩
  · -- the bullet is gone
    rw [if_neg above, List.getElem?_cons_zero] at flight
    obtain ⟨⟨gone, same, off⟩, at'⟩ := flight
    cases same
    have kept : updateEnemyBullet mode14C first = first :=
      if_neg (by rw [off]; exact Bool.false_ne_true)
    rw [kept] at moved
    obtain ⟨shields, bullets⟩ := tick_of_gone roll moved idle' off
    rw [if_neg (by omega), shields]
    exact ⟨⟨first, bullets, off⟩, at'⟩

/-- The timer ticks of a list of messages. -/
def ticks (messages : List Receive) : Nat := (messages.map Receive.ticks).sum

theorem Flight.congr {slot index n : Nat} {bullet : Bullet} {shield : Shield} {arena arena' : Arena}
    (flight : Flight slot bullet index shield n arena) (bullets : arena'.enemyBullets = arena.enemyBullets)
    (shields : arena'.shields = arena.shields) : Flight slot bullet index shield n arena' := by
  unfold Flight at flight ⊢
  rw [bullets, shields]
  exact flight

/-- **The way of a bullet**, up to the next shot. -/
theorem flight_run {bullet : Bullet} {index : Nat} {shield : Shield} (active : bullet.active = true)
    (stands : shield.state ≠ .none) (columns : Over bullet shield) (top : shield.y = 614) {launch : Nat}
    (due : launch % 60 = 0) {messages : List Receive} {program : Program} {n : Nat}
    (reached : Reachable mode14C program) (playing : Plays mode14C program messages)
    (clock : program.globals.timerCounter = launch + n) (few : n + ticks messages < 60)
    (flight : Flight 0 bullet index shield n program.globals.arena) :
    Flight 0 bullet index shield (n + ticks messages) (run mode14C program messages).globals.arena := by
  induction messages generalizing program n with
  | nil => exact flight
  | cons receive messages ih =>
    obtain ⟨running, playing⟩ := playing
    obtain ⟨arena, time⟩ := step_of_running mode14C running receive
    have sum : ticks (receive :: messages) = receive.ticks + ticks messages := rfl
    rw [sum] at few ⊢
    have first : Flight 0 bullet index shield (n + receive.ticks)
        (step mode14C program receive).globals.arena := by
      rw [arena]
      cases receive with
      | failed => exact flight
      | ignored => exact flight
      | hardware keyboard timer =>
        have input : Flight 0 bullet index shield n
            (gameInput mode14C keyboard program.globals).arena :=
          flight.congr (gameInput_enemyBullets _ _ _) (gameInput_shields _ _ _)
        cases timer with
        | none => exact input
        | some answers =>
          have inv := shields_invariant.atTick ⟨program, keyboard, reached, running, rfl⟩
          rw [gameInput_timerCounter, clock] at inv
          have one : Receive.ticks (.hardware keyboard (some answers)) = 1 := rfl
          rw [one] at few ⊢
          show Flight 0 bullet index shield (n + 1) (tickArena mode14C
            (program.globals.timerCounter + 1) _ _ false).1
          rw [clock]
          exact flight_tick inv.1 inv.2 _ (by omega) active stands columns top input
    rw [← Nat.add_assoc]
    exact ih (reached.step receive) playing (by rw [time, clock, Nat.add_assoc]) (by omega) first

/-! ### A whole game -/

/-- The hits a shield has taken. -/
def hitsTaken (index : Nat) (program : Program) : Nat :=
  program.globals.arena.shields[index]?.elim 0 fun shield => shield.state.rank

/-- Over a game, the hits a shield takes are the bullets it deactivates. -/
theorem hitsTaken_run {index : Nat} {shield : Shield} {program : Program}
    (reached : Reachable mode14C program) {messages : List Receive}
    (playing : Plays mode14C program messages)
    (at' : program.globals.arena.shields[index]? = some shield) :
    (∃ after, (run mode14C program messages).globals.arena.shields[index]? = some after) ∧
      hitsTaken index (run mode14C program messages) =
        hitsTaken index program + Runs.total (step mode14C) (absorbedBy index) program messages := by
  have raised (program : Program) (receive : Receive)
      (inv : Reachable mode14C program ∧
        ∃ shield, program.globals.arena.shields[index]? = some shield)
      (running : program.control = .gameState) :
      (Reachable mode14C (step mode14C program receive) ∧
        ∃ shield, (step mode14C program receive).globals.arena.shields[index]? = some shield) ∧
      hitsTaken index (step mode14C program receive) =
        hitsTaken index program + absorbedBy index program receive := by
    obtain ⟨reached, shield, at'⟩ := inv
    obtain ⟨after, unharmed, few⟩ := step_shields reached running receive at'
    refine ⟨⟨reached.step receive, _, after⟩, ?_⟩
    unfold hitsTaken
    rw [after, at']
    show (ShieldState.hit^[absorbedBy index program receive] shield.state).rank =
      shield.state.rank + absorbedBy index program receive
    rcases Nat.le_one_iff_eq_zero_or_eq_one.mp few with none | once
    · rw [none]
      rfl
    · rw [once]
      cases state : shield.state with
      | full => rfl
      | broken => rfl
      | none => exact absurd (unharmed state) (by rw [once]; exact Nat.one_ne_zero)
  obtain ⟨⟨_, kept⟩, sum⟩ := Runs.measure_run raised ⟨reached, shield, at'⟩ playing
  exact ⟨kept, sum⟩

/-- A shot of a running game that launches `bullet` into `slot`, wholly above a standing shield whose
columns it meets. -/
structure Launch (program : Program) (keyboard : Option Ports) (answers : Answers) (slot : Nat)
    (bullet : Bullet) (index : Nat) (shield : Shield) : Prop where
  due : (program.globals.timerCounter + 1) % 60 = 0
  launched : (advance mode14C (program.globals.timerCounter + 1) answers.enemyRoll
    (gameInput mode14C keyboard program.globals).arena).enemyBullets[slot]? = some bullet
  active : bullet.active = true
  at' : program.globals.arena.shields[index]? = some shield
  stands : shield.state ≠ .none
  above : bullet.y + bulletHeight ≤ shield.y
  columns : Over bullet shield

/-- The tick of a launch is the start of the bullet's way. -/
theorem Launch.flight {program : Program} {keyboard : Option Ports} {answers : Answers} {slot : Nat}
    {bullet : Bullet} {index : Nat} {shield : Shield}
    (launch : Launch program keyboard answers slot bullet index shield)
    (reached : Reachable mode14C program) (running : program.control = .gameState) :
    slot = 0 ∧ shield.y = 614 ∧ Flight 0 bullet index shield 0
      (step mode14C program (.hardware keyboard (some answers))).globals.arena := by
  have inv := shields_invariant.atTick ⟨program, keyboard, reached, running, rfl⟩
  rw [gameInput_timerCounter] at inv
  obtain ⟨firing, placed⟩ := inv
  have at' : (gameInput mode14C keyboard program.globals).arena.shields[index]? = some shield := by
    rw [gameInput_shields]
    exact launch.at'
  have top := (placed.2 index shield at').2
  obtain ⟨first, rest, slots, _, idle, _⟩ := firing.advance answers.enemyRoll
  -- only the first slot is in use
  obtain ⟨rfl, rfl⟩ : slot = 0 ∧ first = bullet := by
    have launched := launch.launched
    rw [slots] at launched
    cases slot with
    | zero => exact ⟨rfl, Option.some.inj launched⟩
    | succ slot =>
      have off := idle bullet (List.mem_of_getElem? launched)
      rw [launch.active] at off
      cases off
  refine ⟨rfl, top, ?_⟩
  have above := launch.above
  rw [(step_of_running mode14C running _).1]
  have settled := tick_of_over answers.enemyRoll slots idle placed at' launch.stands launch.active
    launch.columns (by rw [top, bulletHeight] at above; omega)
  rw [if_pos above] at settled
  unfold Flight
  rw [Nat.cast_zero, mul_zero, add_zero, if_pos above]
  exact settled

/-- A shield has taken the hits since the start of its game. -/
theorem rank_of_start {opening : Program} (starts : GameStarts mode14C opening) {game : List Receive}
    (playing : Plays mode14C opening game) {index : Nat} (below : index < numShields) :
    ∃ shield, (run mode14C opening game).globals.arena.shields[index]? = some shield ∧
      shield.state.rank = Runs.total (step mode14C) (absorbedBy index) opening game := by
  obtain ⟨arena, fresh⟩ := starts.arena_eq
  have full : opening.globals.arena.shields[index]? = some (initShield mode14C index) := by
    rw [fresh]
    show ((List.range numShields).map (initShield mode14C))[index]? = _
    rw [List.getElem?_map, List.getElem?_range below]
    rfl
  obtain ⟨⟨shield, after⟩, sum⟩ := hitsTaken_run starts.reachable playing full
  unfold hitsTaken at sum
  rw [after, full] at sum
  exact ⟨shield, after, sum.trans (Nat.zero_add _)⟩

/-- A launched bullet, up to the next shot, and what it costs the shield. -/
theorem Launch.absorbed {program : Program} {keyboard : Option Ports} {answers : Answers} {slot : Nat}
    {bullet : Bullet} {index : Nat} {shield : Shield}
    (launch : Launch program keyboard answers slot bullet index shield)
    (reached : Reachable mode14C program) {after : List Receive}
    (playing : Plays mode14C program (.hardware keyboard (some answers) :: after))
    (few : ticks after < 60) :
    Flight slot bullet index shield (ticks after)
        (run mode14C program (.hardware keyboard (some answers) :: after)).globals.arena ∧
      Runs.total (step mode14C) (absorbedBy index) program
          (.hardware keyboard (some answers) :: after) =
        if bullet.y + 20 * (ticks after : Int) + bulletHeight ≤ shield.y then 0 else 1 := by
  obtain ⟨rfl, top, flight⟩ := launch.flight reached playing.1
  have clock := (step_of_running mode14C playing.1 (.hardware keyboard (some answers))).2
  have way := flight_run launch.active launch.stands launch.columns top launch.due (reached.step _)
    playing.2 clock (by rwa [Nat.zero_add]) flight
  rw [Nat.zero_add] at way
  obtain ⟨_, sum⟩ := hitsTaken_run reached playing launch.at'
  refine ⟨way, ?_⟩
  unfold hitsTaken at sum
  rw [launch.at', run, Runs.run_cons] at sum
  unfold Flight at way
  by_cases above : bullet.y + 20 * (ticks after : Int) + bulletHeight ≤ shield.y
  · rw [if_pos above] at way ⊢
    rw [way.2] at sum
    exact (Nat.left_eq_add.mp sum)
  · rw [if_neg above] at way ⊢
    rw [way.2] at sum
    have stands := launch.stands
    change shield.state.hit.rank = shield.state.rank + _ at sum
    cases state : shield.state with
    | full => rw [state] at sum; exact Nat.add_left_cancel sum.symm
    | broken => rw [state] at sum; exact Nat.add_left_cancel sum.symm
    | none => exact absurd state stands

end SpaceInvaders
