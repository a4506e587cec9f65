/-
**Every edge contact costs exactly one drop.**

A call of `move_enemies` is a reversal, a drop or a step (`MoveKind`). The drop of an edge contact is
put off to the next call by `should_drop`, and the edge test comes first there, on whatever enemies are
left and with the new direction: it is `Turning.clear` that keeps the test from firing again, across
kills and across the start of another game.

* `Turning`: the invariant behind the last call;
* `edge_costs_one_drop`: the calls of a whole run, each with the one before it.
-/

import SpaceInvaders.Game.Formation

namespace SpaceInvaders

/-! ### The kinds of a call -/

/-- What a call of `move_enemies` can do. -/
inductive MoveKind
  | reversal
  | drop
  | step
deriving DecidableEq

/-- The kind of a call, by what it does to the formation: the direction negated and nothing moved, all
active enemies 40 pixels down, or all of them 20 pixels sideways. -/
def MoveKind.Effect (before after : Arena) : MoveKind → Prop
  | .reversal => after.enemyDirection = -before.enemyDirection ∧ after.enemies = before.enemies
  | .drop =>
    after.enemyDirection = before.enemyDirection ∧ after.enemies = before.enemies.map dropEnemy
  | .step =>
    after.enemyDirection = before.enemyDirection ∧
      after.enemies = before.enemies.map (stepEnemy before.enemyDirection)

/-- The branch a call takes. -/
def moveKind (mode : ModeInfo) (arena : Arena) : MoveKind :=
  if hitEdge mode arena then .reversal else if arena.shouldDrop then .drop else .step

theorem moveKind_eq_reversal {mode : ModeInfo} {arena : Arena} :
    moveKind mode arena = .reversal ↔ hitEdge mode arena = true := by
  unfold moveKind
  split
  · simp_all
  · split <;> simp_all

theorem moveKind_eq_drop {mode : ModeInfo} {arena : Arena} :
    moveKind mode arena = .drop ↔ hitEdge mode arena = false ∧ arena.shouldDrop = true := by
  unfold moveKind
  split
  · simp_all
  · split <;> simp_all

/-- The branch taken has its effect. -/
theorem moveKind_effect (mode : ModeInfo) (arena : Arena) :
    (moveKind mode arena).Effect arena (moveEnemies mode arena) := by
  rcases moveEnemies_cases mode arena with ⟨edge, moves⟩ | ⟨clear, drops, moves⟩ |
    ⟨clear, steps, moves⟩
  · rw [moveKind_eq_reversal.mpr edge, moves]
    exact ⟨by show arena.enemyDirection * -1 = _; omega, rfl⟩
  · rw [moveKind_eq_drop.mpr ⟨clear, drops⟩, moves]
    exact ⟨rfl, rfl⟩
  · have step : moveKind mode arena = .step := by
      rw [moveKind, if_neg (by rw [clear]; exact Bool.false_ne_true),
        if_neg (by rw [steps]; exact Bool.false_ne_true)]
    rw [step, moves]
    exact ⟨rfl, rfl⟩

/-- With an active enemy and a direction the three effects exclude each other. -/
theorem effect_unique {before after : Arena} {kind kind' : MoveKind}
    (direction : before.enemyDirection = 1 ∨ before.enemyDirection = -1)
    (alive : countActiveEnemies before ≠ 0) (effect : kind.Effect before after)
    (effect' : kind'.Effect before after) : kind = kind' := by
  obtain ⟨enemy, member, active⟩ : ∃ enemy ∈ before.enemies, enemy.active = true :=
    List.countP_pos_iff.mp (Nat.pos_of_ne_zero alive)
  obtain ⟨index, place⟩ := List.mem_iff_getElem?.mp member
  -- a drop and a step disagree about this enemy
  have differ : before.enemies.map dropEnemy ≠
      before.enemies.map (stepEnemy before.enemyDirection) := by
    intro same
    have here := congrArg (fun enemies : List Enemy => enemies[index]?) same
    simp only [List.getElem?_map, place, Option.map_some, Option.some.injEq,
      dropEnemy_of_active active, stepEnemy_of_active _ active, Enemy.mk.injEq] at here
    omega
  cases kind <;> cases kind' <;>
    simp only [MoveKind.Effect] at effect effect'
  case reversal.reversal => rfl
  case drop.drop => rfl
  case step.step => rfl
  case drop.step => exact absurd (effect.2.symm.trans effect'.2) differ
  case step.drop => exact absurd (effect'.2.symm.trans effect.2) differ
  all_goals omega

/-! ### The calls of a run -/

/-- The arena with which a tick reaches `move_enemies`, or its timer. -/
def beforeMove (mode : ModeInfo) (arena : Arena) : Arena :=
  { updateEnemyBullets mode (updateBullets
      { arena with fireDelayCounter := arena.fireDelayCounter + 1 }) with
    enemyMoveTimer := arena.enemyMoveTimer + 1 }

/-- The moves of a tick call `move_enemies` on `beforeMove` when its timer is due. -/
theorem moveAll_eq (mode : ModeInfo) (arena : Arena) :
    moveAll mode arena =
      if (beforeMove mode arena).enemyMoveTimer ≥ 30 then
        { moveEnemies mode (beforeMove mode arena) with enemyMoveTimer := 0 }
      else beforeMove mode arena := rfl

/-- The arena a message passes to `move_enemies`, if it calls it. -/
def moveCall (mode : ModeInfo) (program : Program) : Receive → Option Arena
  | .hardware keyboard (some _) =>
    if program.control = .gameState ∧
        (beforeMove mode (gameInput mode keyboard program.globals).arena).enemyMoveTimer ≥ 30 then
      some (beforeMove mode (gameInput mode keyboard program.globals).arena)
    else none
  | _ => none

/-- The arenas passed to `move_enemies` during a run, in their order. -/
def moveCalls (mode : ModeInfo) (program : Program) (messages : List Receive) : List Arena :=
  Runs.outputs (step mode) (moveCall mode) program messages

/-- What may follow the last call, if there was one: a drop exactly behind a reversal, and behind a drop
a step. -/
def Follows (last : Option MoveKind) (kind : MoveKind) : Prop :=
  (kind = .drop ↔ last = some .reversal) ∧ (last = some .drop → kind = .step)

/-! ### The invariant -/

/-- The formation behind its last move. -/
structure Turning (last : Option MoveKind) (arena : Arena) : Prop where
  rigid : Rigid arena
  pending : arena.shouldDrop = true ↔ last = some .reversal
  clear : last = some .reversal ∨ last = some .drop → hitEdge mode14C arena = false

/-- The edge test reads the active enemies and the direction. -/
theorem hitEdge_eq_false_iff {mode : ModeInfo} {arena : Arena} :
    hitEdge mode arena = false ↔
      ∀ enemy ∈ arena.enemies, enemy.active = true →
        atEdge mode arena.enemyDirection enemy = false := by
  unfold hitEdge
  rw [List.any_eq_false]
  simp

/-- No enemy at its starting place is at an edge. -/
theorem hitEdge_startArena {arena : Arena}
    (direction : arena.enemyDirection = 1 ∨ arena.enemyDirection = -1) :
    hitEdge mode14C (startArena mode14C arena) = false := by
  rw [hitEdge_eq_false_iff]
  show ∀ enemy ∈ (initEnemies Arena.initial).enemies,
    _ → atEdge mode14C arena.enemyDirection enemy = false
  rcases direction with right | left
  · rw [right]
    decide
  · rw [left]
    decide

/-- **A formation that has just turned is clear of the other edge**: it is 500 pixels wide at most. -/
theorem hitEdge_turned {arena : Arena} (rigid : Rigid arena) (edge : hitEdge mode14C arena = true) :
    hitEdge mode14C (moveEnemies mode14C arena) = false := by
  have turned : moveEnemies mode14C arena =
      { arena with enemyDirection := arena.enemyDirection * -1, shouldDrop := true } := if_pos edge
  obtain ⟨dx, dy, _, _, _, placed⟩ := rigid.placed
  obtain ⟨first, firstIn, meets⟩ := List.any_eq_true.mp edge
  obtain ⟨index, at'⟩ := List.mem_iff_getElem?.mp firstIn
  rw [Bool.and_eq_true] at meets
  have firstPlace := (placed index first at' meets.1).1
  rw [turned, hitEdge_eq_false_iff]
  intro other otherIn active
  obtain ⟨index', at''⟩ := List.mem_iff_getElem?.mp otherIn
  have otherPlace := (placed index' other at'' active).1
  have facing := meets.2
  simp only [atEdge, Bool.or_eq_true, Bool.and_eq_true, decide_eq_true_eq] at facing
  simp only [atEdge, Bool.or_eq_false_iff, Bool.and_eq_false_iff, decide_eq_false_iff_not]
  rw [enemyWidth, mode14C_width] at facing ⊢
  rcases rigid.direction with right | left
  · rw [right] at facing ⊢
    omega
  · rw [left] at facing ⊢
    omega

namespace Turning

variable {last : Option MoveKind} {arena arena' : Arena}

theorem congr (turning : Turning last arena) (same : arena'.march = arena.march) :
    Turning last arena' := by
  obtain ⟨rigid, pending, clear⟩ := turning
  refine ⟨rigid.congr same, ?_, fun behind => ?_⟩
  · have drop : arena'.shouldDrop = arena.shouldDrop := congrArg (fun march => march.2.2) same
    rw [drop]
    exact pending
  · have edge := clear behind
    simp only [Arena.march, Prod.mk.injEq] at same
    unfold hitEdge at edge ⊢
    rwa [same.1, same.2.1]

/-- A kill takes an enemy away from the edge test. -/
theorem kill (turning : Turning last arena) {index : Nat} {enemy : Enemy}
    (killed : arena'.enemies = arena.enemies.set index enemy.kill)
    (direction : arena'.enemyDirection = arena.enemyDirection)
    (drop : arena'.shouldDrop = arena.shouldDrop) : Turning last arena' := by
  obtain ⟨rigid, pending, clear⟩ := turning
  refine ⟨rigid.kill killed direction, by rw [drop]; exact pending, fun behind => ?_⟩
  have edge := hitEdge_eq_false_iff.mp (clear behind)
  rw [hitEdge_eq_false_iff, direction, killed]
  intro other member active
  rcases List.mem_or_eq_of_mem_set member with before | rfl
  · exact edge other before active
  · cases active

theorem startArena (turning : Turning last arena) : Turning last (startArena mode14C arena) :=
  ⟨rigid_startArena turning.rigid, turning.pending,
    fun _ => hitEdge_startArena turning.rigid.direction⟩

/-- **A call** takes a branch that may follow, and leaves the formation behind it. -/
theorem moveEnemies (turning : Turning last arena) :
    Follows last (moveKind mode14C arena) ∧
      Turning (some (moveKind mode14C arena)) (moveEnemies mode14C arena) := by
  obtain ⟨rigid, pending, clear⟩ := turning
  have moved := rigid.moveEnemies
  rcases moveEnemies_cases mode14C arena with ⟨edge, moves⟩ | ⟨calm, drops, moves⟩ |
    ⟨calm, steps, moves⟩
  · -- a reversal: the last call was a step, or there was none
    have notBehind : ¬ (last = some .reversal ∨ last = some .drop) := fun behind => by
      rw [clear behind] at edge
      cases edge
    have turned := hitEdge_turned rigid edge
    rw [moveKind_eq_reversal.mpr edge]
    rw [moves] at moved turned ⊢
    refine ⟨⟨?_, fun dropped => absurd (.inr dropped) notBehind⟩, moved, ?_, fun _ => turned⟩
    · exact iff_of_false (fun same => by cases same) fun reversed => notBehind (.inl reversed)
    · exact iff_of_true rfl rfl
  · -- a drop
    have reversed := pending.mp drops
    rw [moveKind_eq_drop.mpr ⟨calm, drops⟩]
    rw [moves] at moved ⊢
    refine ⟨⟨iff_of_true rfl reversed, fun dropped => ?_⟩, moved, ?_, fun _ => ?_⟩
    · rw [reversed] at dropped
      cases dropped
    · exact iff_of_false Bool.false_ne_true fun same => by cases same
    · -- the columns stand where they stood
      rw [hitEdge_eq_false_iff] at calm ⊢
      intro enemy member active
      obtain ⟨before, inside, rfl⟩ := List.mem_map.mp member
      rw [dropEnemy_active] at active
      rw [dropEnemy_of_active active]
      exact calm before inside active
  · -- a step
    have notReversed : last ≠ some .reversal := fun reversed => by
      rw [pending.mpr reversed] at steps
      cases steps
    have step : moveKind mode14C arena = .step := by
      rw [moveKind, if_neg (by rw [calm]; exact Bool.false_ne_true),
        if_neg (by rw [steps]; exact Bool.false_ne_true)]
    rw [step]
    rw [moves] at moved ⊢
    refine ⟨⟨iff_of_false (fun same => by cases same) notReversed, fun _ => rfl⟩, moved, ?_, ?_⟩
    · exact iff_of_false Bool.false_ne_true fun same => by cases same
    · rintro (same | same)
      · cases same
      · cases same

/-- What is left of a tick behind the moves: a shot, and the checks. -/
theorem tickArena {timer roll : Nat} (turning : Turning last (advance mode14C timer roll arena))
    (lost : Bool) : Turning last (tickArena mode14C timer roll arena lost).1 := by
  rw [tickArena_fst]
  have before : Turning last
      (checkEnemyBulletCollision (advance mode14C timer roll arena) false).1 := turning.congr rfl
  rcases checkBulletEnemyCollision_enemies (checkEnemyBulletCollision
    (advance mode14C timer roll arena) false).1 with same | ⟨index, enemy, _, _, killed⟩
  · rw [checkBulletEnemyCollision_eq, same]
    exact before.congr rfl
  · rw [checkBulletEnemyCollision_eq, killed]
    exact before.kill rfl rfl rfl

end Turning

/-! ### Whole runs -/

/-- A running game has an active enemy. -/
theorem alive_invariant (mode : ModeInfo) :
    ArenaInvariant mode (fun _ => True) fun _ arena => countActiveEnemies arena ≠ 0 where
  initial := trivial
  rest _ _ _ := trivial
  start _ arena _ := by
    show countActiveEnemies (initEnemies Arena.initial) ≠ 0
    decide
  key _ _ scancode alive := by
    rw [shipAction_eq]
    exact alive
  tickRest _ _ _ _ := trivial
  tick _ _ _ _ goesOn := goesOn

/-- The calls so far, and the formation they have left. -/
structure TurnsSoFar (log : List Arena) (program : Program) : Prop where
  reached : Reachable mode14C program
  turning : Turning (log.getLast?.map (moveKind mode14C)) program.globals.arena
  effects : ∀ arena ∈ log, ∀ kind : MoveKind,
    kind.Effect arena (moveEnemies mode14C arena) ↔ kind = moveKind mode14C arena
  linked : ∀ before arena after, log = before ++ arena :: after →
    Follows (before.getLast?.map (moveKind mode14C)) (moveKind mode14C arena)

namespace TurnsSoFar

variable {log : List Arena} {program : Program}

/-- A message without a call. -/
theorem quiet (turns : TurnsSoFar log program) {receive : Receive}
    (silent : moveCall mode14C program receive = none)
    (turning : Turning (log.getLast?.map (moveKind mode14C))
      (step mode14C program receive).globals.arena) :
    TurnsSoFar (log ++ (moveCall mode14C program receive).toList) (step mode14C program receive) := by
  rw [silent, Option.toList_none, List.append_nil]
  exact ⟨turns.reached.step receive, turning, turns.effects, turns.linked⟩

/-- A message with a call. -/
theorem call (turns : TurnsSoFar log program) {receive : Receive} {arena : Arena}
    (calls : moveCall mode14C program receive = some arena)
    (follows : Follows (log.getLast?.map (moveKind mode14C)) (moveKind mode14C arena))
    (direction : arena.enemyDirection = 1 ∨ arena.enemyDirection = -1)
    (alive : countActiveEnemies arena ≠ 0)
    (turning : Turning (some (moveKind mode14C arena)) (step mode14C program receive).globals.arena) :
    TurnsSoFar (log ++ (moveCall mode14C program receive).toList) (step mode14C program receive) := by
  rw [calls, Option.toList_some]
  refine ⟨turns.reached.step receive, ?_, fun other member kind => ?_, ?_⟩
  · rw [List.getLast?_concat]
    exact turning
  · rcases List.mem_append.mp member with before | last
    · exact turns.effects other before kind
    · rw [List.mem_singleton.mp last]
      constructor
      · exact fun effect => effect_unique direction alive effect (moveKind_effect mode14C arena)
      · rintro rfl
        exact moveKind_effect mode14C arena
  · intro before other after split
    rcases List.eq_nil_or_concat after with rfl | ⟨init, last, rfl⟩
    · obtain ⟨rfl, same⟩ := List.append_inj' split rfl
      cases same
      exact follows
    · rw [List.concat_eq_append, ← List.cons_append, ← List.append_assoc] at split
      exact turns.linked before other init (List.append_inj' split rfl).1

/-- **One message.** -/
theorem step (turns : TurnsSoFar log program) (receive : Receive) :
    TurnsSoFar (log ++ (moveCall mode14C program receive).toList)
      (step mode14C program receive) := by
  rcases step_arena mode14C program receive with ⟨idle, same | starts⟩ | ⟨running, after⟩
  · -- outside a game
    have silent : moveCall mode14C program receive = none := by
      unfold moveCall
      split
      · exact if_neg fun due => idle due.1
      · rfl
    exact turns.quiet silent (by rw [same]; exact turns.turning)
  · have silent : moveCall mode14C program receive = none := by
      unfold moveCall
      split
      · exact if_neg fun due => idle due.1
      · rfl
    exact turns.quiet silent (by rw [starts]; exact turns.turning.startArena)
  have pressed (keyboard : Option Ports) : Turning (log.getLast?.map (moveKind mode14C))
      (gameInput mode14C keyboard program.globals).arena := by
    rw [gameInput_arena_eq]
    exact turns.turning.congr rfl
  cases receive with
  | failed => exact turns.quiet rfl (by rw [after]; exact turns.turning)
  | ignored => exact turns.quiet rfl (by rw [after]; exact turns.turning)
  | hardware keyboard timer =>
    cases timer with
    | none => exact turns.quiet rfl (by rw [after]; exact pressed keyboard)
    | some answers =>
      have ready := pressed keyboard
      rcases advance_march mode14C (program.globals.timerCounter + 1) answers.enemyRoll
        (gameInput mode14C keyboard program.globals).arena with ⟨early, march, _⟩ | ⟨due, march, _⟩
      · have silent : moveCall mode14C program (.hardware keyboard (some answers)) = none :=
          if_neg fun due => absurd due.2 (not_le.mpr early)
        refine turns.quiet silent ?_
        rw [after]
        exact (ready.congr march).tickArena false
      · -- the call is made on the formation the last message left
        have calls : moveCall mode14C program (.hardware keyboard (some answers)) =
            some (beforeMove mode14C (gameInput mode14C keyboard program.globals).arena) :=
          if_pos ⟨running, due⟩
        have called : Turning (log.getLast?.map (moveKind mode14C))
            (beforeMove mode14C (gameInput mode14C keyboard program.globals).arena) :=
          ready.congr rfl
        obtain ⟨follows, moved⟩ := called.moveEnemies
        refine turns.call calls follows called.rigid.direction ?_ ?_
        · have alive := (alive_invariant mode14C).atTick
            ⟨program, keyboard, turns.reached, running, rfl⟩
          exact alive
        · have same := @moveEnemies_march mode14C (gameInput mode14C keyboard program.globals).arena
            (beforeMove mode14C (gameInput mode14C keyboard program.globals).arena) rfl
          rw [after]
          exact (moved.congr (march.trans same)).tickArena false

end TurnsSoFar

/-- **Every edge contact costs exactly one drop.** Every call of `move_enemies` in a run has exactly one
of the three effects; a drop is the call behind a reversal, every call behind a reversal is a drop, and
every call behind a drop is a step, whatever is killed or started in between. -/
theorem edge_costs_one_drop (csv : Option (List UInt8)) (messages : List Receive) :
    (∀ arena ∈ moveCalls mode14C (start csv) messages, ∀ kind : MoveKind,
      kind.Effect arena (moveEnemies mode14C arena) ↔ kind = moveKind mode14C arena) ∧
    ∀ before arena after, moveCalls mode14C (start csv) messages = before ++ arena :: after →
      Follows (before.getLast?.map (moveKind mode14C)) (moveKind mode14C arena) := by
  have turns : TurnsSoFar (moveCalls mode14C (start csv) messages)
      (run mode14C (start csv) messages) := by
    refine @Runs.run_recorded _ _ (SpaceInvaders.step mode14C) _ (moveCall mode14C) TurnsSoFar
      (fun _ _ => True) (fun log program receive turns _ => turns.step receive) [] (start csv) ?_
      messages (Runs.along_true messages)
    refine ⟨reachable_start mode14C csv, ?_, fun arena member => absurd member List.not_mem_nil, ?_⟩
    · have rigid := (rigid_invariant.reachable (reachable_start mode14C csv)).1
      refine ⟨rigid, ?_, ?_⟩
      · exact iff_of_false Bool.false_ne_true fun same => by cases same
      · rintro (same | same)
        · cases same
        · cases same
    · intro before arena after split
      exact absurd split.symm (List.append_ne_nil_of_right_ne_nil _ (List.cons_ne_nil _ _))
  exact ⟨turns.effects, turns.linked⟩

end SpaceInvaders
