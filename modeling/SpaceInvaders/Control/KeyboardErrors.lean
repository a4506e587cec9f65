/-
**What a failed keyboard read does.**

`kbc_ih` discards the result of `read_keyboard_output`, which has stored the data byte before its error
tests; the three loops then act on the scancode whatever happened. So a failed read replaces the last
key by the byte it took, and the key, new or stale, is handled once more.

`failed_read_harmless_iff`: the notification has no effect exactly when no other byte was taken and the
waiting loop ignores the last key (`Ignores`).
-/

import SpaceInvaders.Control.Escape

namespace SpaceInvaders

/-- A message that has no effect: the program waits where it waited, and the variables a key acts on
are as before. -/
structure Unaffected (before after : Program) : Prop where
  control : after.control = before.control
  scancode : after.globals.scancode = before.globals.scancode
  state : after.globals.menu.currentState = before.globals.menu.currentState
  option : after.globals.menu.currentOption = before.globals.menu.currentOption
  ship : after.globals.arena.x = before.globals.arena.x
  bullets : after.globals.arena.bullets = before.globals.arena.bullets
  fireDelay : after.globals.arena.fireDelayCounter = before.globals.arena.fireDelayCounter
  score : after.globals.score = before.globals.score

/-! ### Keys a loop ignores -/

/-- The menu neither moves nor chooses on the key. -/
def MenuIgnores (scancode : UInt8) (menu : Menu) : Prop :=
  match menu.currentState with
  | .main =>
    (scancode = kbUpArrow → menu.currentOption = .start) ∧
      (scancode = kbDownArrow → menu.currentOption = .quit ∨ menu.currentOption = .none) ∧
      (scancode = kbEnter → menu.currentOption = .none)
  | .gameOver => scancode ≠ kbEnter
  | _ => True

/-- The ship neither moves nor fires on the key: a break code, another key, or a ship at the margin
or still reloading. -/
def ShipIgnores (mode : ModeInfo) (scancode : UInt8) (arena : Arena) : Prop :=
  scancode &&& kbBreakCode ≠ 0 ∨
    (scancode = kbA → arena.x ≤ shipWidth) ∧
      (scancode = kbD → mode.width - shipWidth < u16 (arena.x + 30) ∧
        arena.x = u16 (mode.width - shipWidth)) ∧
      (scancode = kbSpace → arena.fireDelayCounter < 30)

/-- The loop the program waits in ignores the last key. -/
def Ignores (mode : ModeInfo) (program : Program) : Prop :=
  program.globals.scancode ≠ kbBreakEsc ∧
    match program.control with
    | .menuHandler => MenuIgnores program.globals.scancode program.globals.menu
    | .gameState => ShipIgnores mode program.globals.scancode program.globals.arena
    | .scoreState => program.globals.scancode ≠ kbEnter
    | .returned _ => True

theorem menuHandleInput_same_iff {scancode : UInt8} {menu : Menu} (other : scancode ≠ kbBreakEsc) :
    ((menuHandleInput scancode menu).currentState = menu.currentState ∧
      (menuHandleInput scancode menu).currentOption = menu.currentOption) ↔
      MenuIgnores scancode menu := by
  obtain ⟨state, option, selected⟩ := menu
  have arrows : kbDownArrow ≠ kbUpArrow ∧ kbEnter ≠ kbUpArrow ∧ kbEnter ≠ kbDownArrow := by decide
  cases state with
  | main =>
    simp only [menuHandleInput, MenuIgnores, if_true]
    by_cases up : scancode = kbUpArrow
    · subst up
      rw [if_pos rfl]
      cases option <;> simp [MenuOption.up, arrows.1.symm, arrows.2.1.symm]
    by_cases down : scancode = kbDownArrow
    · subst down
      rw [if_neg up, if_pos rfl]
      cases option <;> simp [MenuOption.down, up, arrows.2.2.symm]
    by_cases enter : scancode = kbEnter
    · subst enter
      rw [if_neg up, if_neg down, if_pos rfl]
      cases option <;> simp [MenuOption.target, up, down]
    · simp [up, down, enter]
  | gameOver =>
    simp only [menuHandleInput, MenuIgnores, reduceCtorEq, if_false, if_true]
    by_cases enter : scancode = kbEnter
    · rw [if_pos (.inl enter)]
      simp [enter]
    · rw [if_neg (by simp [enter, other])]
      simp [enter]
  | start => simp [menuHandleInput, MenuIgnores, other]
  | scores => simp [menuHandleInput, MenuIgnores, other]
  | quit => simp [menuHandleInput, MenuIgnores, other]
  | exit => simp [menuHandleInput, MenuIgnores, other]

theorem shipAction_same_iff {mode : ModeInfo} {scancode : UInt8} {arena : Arena} :
    ((shipAction mode scancode arena).x = arena.x ∧
      (shipAction mode scancode arena).bullets = arena.bullets ∧
      (shipAction mode scancode arena).fireDelayCounter = arena.fireDelayCounter) ↔
      (scancode = kbA → arena.x ≤ shipWidth) ∧
        (scancode = kbD → mode.width - shipWidth < u16 (arena.x + 30) ∧
          arena.x = u16 (mode.width - shipWidth)) ∧
        (scancode = kbSpace → arena.fireDelayCounter < 30) := by
  have keys : kbD ≠ kbA ∧ kbSpace ≠ kbA ∧ kbSpace ≠ kbD := by decide
  unfold shipAction
  by_cases left : scancode = kbA
  · subst left
    rw [if_pos rfl]
    by_cases free : arena.x > shipWidth
    · -- 30 to the left is another place, also around the wrap
      have moved : u16 (arena.x - 30) ≠ arena.x := by
        unfold u16
        omega
      rw [if_pos free]
      exact ⟨fun same => absurd same.1 moved, fun stays => absurd (stays.1 rfl) (not_le.mpr free)⟩
    · rw [if_neg free]
      exact ⟨fun _ => ⟨fun _ => not_lt.mp free, fun is => absurd is.symm keys.1,
        fun is => absurd is.symm keys.2.1⟩, fun _ => ⟨rfl, rfl, rfl⟩⟩
  by_cases right : scancode = kbD
  · subst right
    rw [if_neg left, if_pos rfl]
    have moved : u16 (arena.x + 30) ≠ arena.x := by
      unfold u16
      omega
    show ((if u16 (arena.x + 30) > mode.width - shipWidth then u16 (mode.width - shipWidth)
      else u16 (arena.x + 30)) = arena.x ∧ arena.bullets = arena.bullets ∧
        arena.fireDelayCounter = arena.fireDelayCounter) ↔ _
    by_cases beyond : u16 (arena.x + 30) > mode.width - shipWidth
    · rw [if_pos beyond]
      exact ⟨fun same => ⟨fun is => absurd is left, fun _ => ⟨beyond, same.1.symm⟩,
        fun is => absurd is.symm keys.2.2⟩, fun stays => ⟨(stays.2.1 rfl).2.symm, rfl, rfl⟩⟩
    · rw [if_neg beyond]
      exact ⟨fun same => absurd same.1 moved, fun stays => absurd (stays.2.1 rfl).1 beyond⟩
  by_cases fire : scancode = kbSpace
  · subst fire
    rw [if_neg left, if_neg right, if_pos rfl]
    by_cases ready : arena.fireDelayCounter ≥ 30
    · rw [if_pos ready]
      refine ⟨fun same => ?_, fun stays => absurd (stays.2.2 rfl) (not_lt.mpr ready)⟩
      have restarted : (0 : Int) = arena.fireDelayCounter := same.2.2
      omega
    · rw [if_neg ready]
      exact ⟨fun _ => ⟨fun is => absurd is left, fun is => absurd is right, fun _ => not_le.mp ready⟩,
        fun _ => ⟨rfl, rfl, rfl⟩⟩
  · rw [if_neg left, if_neg right, if_neg fire]
    exact ⟨fun _ => ⟨fun is => absurd is left, fun is => absurd is right, fun is => absurd is fire⟩,
      fun _ => ⟨rfl, rfl, rfl⟩⟩

/-! ### One notification -/

theorem kbcIh_same_iff (ports : Ports) (scancode : UInt8) :
    kbcIh ports scancode = scancode ↔
      receivedByte ports = none ∨ receivedByte ports = some scancode := by
  rw [kbcIh_eq]
  cases receivedByte ports with
  | none => simp
  | some byte => simp

theorem Unaffected.refl (program : Program) : Unaffected program program :=
  ⟨rfl, rfl, rfl, rfl, rfl, rfl, rfl, rfl⟩

/-- A game ignores the last key: its keyboard branch changes nothing. -/
theorem gameKeyboard_of_ignores {mode : ModeInfo} {ports : Ports} {globals : Globals}
    (same : kbcIh ports globals.scancode = globals.scancode)
    (ignores : ShipIgnores mode globals.scancode globals.arena) :
    gameKeyboard mode ports globals = globals := by
  simp only [gameKeyboard, same]
  rcases ignores with isBreak | stays
  · rw [if_pos isBreak]
  by_cases isBreak : globals.scancode &&& kbBreakCode ≠ 0
  · rw [if_pos isBreak]
  obtain ⟨left, right, fire⟩ := stays
  have still : shipAction mode globals.scancode globals.arena = globals.arena := by
    unfold shipAction
    by_cases isLeft : globals.scancode = kbA
    · rw [if_pos isLeft, if_neg (not_lt.mpr (left isLeft))]
    by_cases isRight : globals.scancode = kbD
    · obtain ⟨beyond, atMargin⟩ := right isRight
      have stop : (if u16 (globals.arena.x + 30) > mode.width - shipWidth then
          u16 (mode.width - shipWidth) else u16 (globals.arena.x + 30)) = globals.arena.x := by
        rw [if_pos beyond, ← atMargin]
      rw [if_neg isLeft, if_pos isRight]
      simp only [stop]
    by_cases isFire : globals.scancode = kbSpace
    · rw [if_neg isLeft, if_neg isRight, if_pos isFire, if_neg (not_le.mpr (fire isFire))]
    · rw [if_neg isLeft, if_neg isRight, if_neg isFire]
  have noLaunch : launchesBullet globals.scancode globals.arena = false := by
    unfold launchesBullet
    by_cases isFire : globals.scancode = kbSpace
    · rw [decide_eq_false (not_le.mpr (fire isFire)), Bool.and_false, Bool.false_and]
    · rw [decide_eq_false isFire, Bool.false_and, Bool.false_and]
  rw [if_neg isBreak, still, noLaunch]
  rfl

/-- A menu that ignores the key is unchanged, or notes a choice of nothing. -/
theorem menuHandleInput_of_ignores {scancode : UInt8} {menu : Menu} (other : scancode ≠ kbBreakEsc)
    (ignores : MenuIgnores scancode menu) :
    menuHandleInput scancode menu = menu ∨
      (menu.currentState = .main ∧
        menuHandleInput scancode menu = { menu with optionSelected := true }) := by
  obtain ⟨stays, kept⟩ := (menuHandleInput_same_iff other).mpr ignores
  obtain ⟨state, option, selected⟩ := menu
  cases state with
  | main =>
    simp only [menuHandleInput, if_true] at stays kept ⊢
    by_cases up : scancode = kbUpArrow
    · rw [if_pos up] at kept ⊢
      exact .inl (congrArg (Menu.mk .main · selected) kept)
    by_cases down : scancode = kbDownArrow
    · rw [if_neg up, if_pos down] at kept ⊢
      exact .inl (congrArg (Menu.mk .main · selected) kept)
    by_cases enter : scancode = kbEnter
    · rw [if_neg up, if_neg down, if_pos enter] at stays ⊢
      exact .inr ⟨trivial, congrArg (Menu.mk · option true) stays⟩
    · rw [if_neg up, if_neg down, if_neg enter]
      exact .inl rfl
  | gameOver =>
    have noEnter : scancode ≠ kbEnter := ignores
    exact .inl (by simp [menuHandleInput, noEnter, other])
  | start => exact .inl (by simp [menuHandleInput, other])
  | scores => exact .inl (by simp [menuHandleInput, other])
  | quit => exact .inl (by simp [menuHandleInput, other])
  | exit => exact .inl (by simp [menuHandleInput, other])

/-- With the last key kept and ignored, a keyboard bit makes no difference to a message. -/
theorem unaffected_of_ignores {mode : ModeInfo} {program : Program} {ports : Ports}
    (waits : ∀ code, program.control ≠ .returned code)
    (same : kbcIh ports program.globals.scancode = program.globals.scancode)
    (ignores : Ignores mode program) (timer : Option Answers) :
    Unaffected (step mode program (.hardware none timer))
      (step mode program (.hardware (some ports) timer)) := by
  obtain ⟨control, globals⟩ := program
  change kbcIh ports globals.scancode = globals.scancode at same
  obtain ⟨other, ignores⟩ := ignores
  change globals.scancode ≠ kbBreakEsc at other
  cases control with
  | menuHandler =>
    have pressed : menuKeyboard ports globals =
        { globals with menu := menuHandleInput globals.scancode globals.menu } := by
      simp only [menuKeyboard, same]
    show Unaffected (menuMessage mode none timer globals) (menuMessage mode (some ports) timer globals)
    simp only [menuMessage, Option.elim_some, Option.elim_none, pressed]
    rcases menuHandleInput_of_ignores other ignores with kept | ⟨main, noted⟩
    · rw [kept]
      exact Unaffected.refl _
    · rw [noted]
      cases timer with
      | none =>
        simp only [Option.elim_none, menuHandlerLoop, if_neg other]
        exact ⟨rfl, rfl, rfl, rfl, rfl, rfl, rfl, rfl⟩
      | some answers =>
        have tick (menu : Menu) (main : menu.currentState = .main) :
            menuTimer mode { globals with menu := menu } =
              ⟨.menuHandler,
                { globals with timerCounter := globals.timerCounter + 1, menu := menu }⟩ := by
          simp only [menuTimer]
          rw [main]
          simp [menuRender, main, menuHandlerLoop, other]
        show Unaffected (menuTimer mode { globals with menu := globals.menu })
          (menuTimer mode { globals with menu := { globals.menu with optionSelected := true } })
        rw [tick globals.menu main, tick { globals.menu with optionSelected := true } main]
        exact ⟨rfl, rfl, rfl, rfl, rfl, rfl, rfl, rfl⟩
  | gameState =>
    show Unaffected (gameMessage mode none timer globals) (gameMessage mode (some ports) timer globals)
    have still : gameInput mode (some ports) globals = gameInput mode none globals :=
      gameKeyboard_of_ignores same ignores
    unfold gameMessage
    rw [still]
    exact Unaffected.refl _
  | scoreState =>
    have noEnter : globals.scancode ≠ kbEnter := ignores
    show Unaffected (scoreMessage none globals) (scoreMessage (some ports) globals)
    simp only [scoreMessage, Option.elim_some, Option.elim_none, same]
    rw [if_neg (by simp [noEnter, other])]
    exact Unaffected.refl _
  | returned code => exact absurd rfl (waits code)

/-- Without a timer bit and a keyboard bit, a waiting program that ignores its last key goes on. -/
theorem step_nothing {mode : ModeInfo} {program : Program}
    (waits : ∀ code, program.control ≠ .returned code)
    (other : program.globals.scancode ≠ kbBreakEsc) :
    step mode program (.hardware none none) = program := by
  obtain ⟨control, globals⟩ := program
  cases control with
  | menuHandler => exact if_neg other
  | gameState => exact if_neg other
  | scoreState => exact if_neg other
  | returned code => exact absurd rfl (waits code)

/-- A key that the loop does not ignore has an effect. -/
theorem ignores_of_unaffected {mode : ModeInfo} {program : Program} {ports : Ports}
    (waits : ∀ code, program.control ≠ .returned code)
    (same : kbcIh ports program.globals.scancode = program.globals.scancode)
    (unaffected : Unaffected program (step mode program (.hardware (some ports) none))) :
    Ignores mode program := by
  have other : program.globals.scancode ≠ kbBreakEsc := by
    intro escape
    obtain ⟨code, returned⟩ := (step_exits mode (.hardware (some ports) none) waits).leaves
      (same.trans escape)
    exact waits code (unaffected.control.symm.trans returned)
  refine ⟨other, ?_⟩
  obtain ⟨control, globals⟩ := program
  change kbcIh ports globals.scancode = globals.scancode at same
  change globals.scancode ≠ kbBreakEsc at other
  cases control with
  | menuHandler =>
    have pressed : step mode ⟨.menuHandler, globals⟩ (.hardware (some ports) none) =
        ⟨.menuHandler, { globals with menu := menuHandleInput globals.scancode globals.menu }⟩ := by
      show menuHandlerLoop (menuKeyboard ports globals) = _
      simp only [menuKeyboard, same, menuHandlerLoop, if_neg other]
    rw [pressed] at unaffected
    exact (menuHandleInput_same_iff other).mp ⟨unaffected.state, unaffected.option⟩
  | gameState =>
    by_cases isBreak : globals.scancode &&& kbBreakCode ≠ 0
    · exact .inl isBreak
    have pressed : (step mode ⟨.gameState, globals⟩ (.hardware (some ports) none)).globals.arena =
        shipAction mode globals.scancode globals.arena := by
      show (gameStateLoop (gameKeyboard mode ports globals)).globals.arena = _
      simp only [gameKeyboard, same]
      rw [if_neg isBreak, gameStateLoop, if_neg other]
    have ship := unaffected.ship
    have bullets := unaffected.bullets
    have fireDelay := unaffected.fireDelay
    rw [pressed] at ship bullets fireDelay
    exact .inr (shipAction_same_iff.mp ⟨ship, bullets, fireDelay⟩)
  | scoreState =>
    intro enter
    have control := unaffected.control
    have left : (step mode ⟨.scoreState, globals⟩ (.hardware (some ports) none)).control =
        .menuHandler := by
      show (scoreMessage (some ports) globals).control = _
      simp only [scoreMessage, Option.elim_some, same]
      rw [if_pos (.inl enter), leaveScores, menuHandlerLoop, if_neg other]
    rw [left] at control
    cases control
  | returned code => exact absurd rfl (waits code)

/-- Handling the keyboard bit of a message has no effect: without a timer bit nothing changes, and with
one the message does what it would do alone. -/
def Harmless (mode : ModeInfo) (program : Program) (ports : Ports) : Prop :=
  Unaffected program (step mode program (.hardware (some ports) none)) ∧
    ∀ timer, Unaffected (step mode program (.hardware none timer))
      (step mode program (.hardware (some ports) timer))

/-- **When a failed read has no effect**: exactly when, should it fail, no byte other than the last key
was taken from the data port and the waiting loop ignores that key. -/
theorem failed_read_harmless_iff {mode : ModeInfo} {program : Program} {ports : Ports}
    (waits : ∀ code, program.control ≠ .returned code) :
    (ReadFails ports program.globals.scancode → Harmless mode program ports) ↔
    (ReadFails ports program.globals.scancode →
      (receivedByte ports = none ∨ receivedByte ports = some program.globals.scancode) ∧
        Ignores mode program) := by
  refine imp_congr_right fun _ => ?_
  rw [← kbcIh_same_iff]
  constructor
  · rintro ⟨unaffected, _⟩
    have kept := (step_exits mode (.hardware (some ports) none) waits).kept
    have same : kbcIh ports program.globals.scancode = program.globals.scancode :=
      kept.symm.trans unaffected.scancode
    exact ⟨same, ignores_of_unaffected waits same unaffected⟩
  · rintro ⟨same, ignores⟩
    have always := unaffected_of_ignores waits same ignores
    refine ⟨?_, always⟩
    have alone := always none
    rwa [step_nothing waits ignores.1] at alone

/-- A controller without a byte: every poll finds the output buffer empty. -/
def emptyBuffer : Ports := fun _ _ => some 0

/-- The first game, where no read takes a byte and Enter, the last key, is ignored. -/
theorem failed_read_harmless_firstGame :
    ReadFails emptyBuffer (run mode14C (start none) [press kbEnter, timerTick 0]).globals.scancode ∧
      Harmless mode14C (run mode14C (start none) [press kbEnter, timerTick 0]) emptyBuffer := by
  have running : (run mode14C (start none) [press kbEnter, timerTick 0]).control = .gameState := by
    decide
  have fails : ReadFails emptyBuffer
      (run mode14C (start none) [press kbEnter, timerTick 0]).globals.scancode := by
    decide
  refine ⟨fails, (failed_read_harmless_iff fun code => ?_).mpr (fun _ => ⟨.inl (by decide), ?_⟩) fails⟩
  · rw [running]
    exact fun same => by cases same
  · refine ⟨by decide, ?_⟩
    rw [running]
    exact .inr ⟨by decide, by decide, by decide⟩

/-- A controller that reports a parity error with its byte. -/
def parityError (byte : UInt8) : Ports := fun _ port =>
  some (if port = keyboardStatus then (bit 7 ||| bit 0).toUInt32 else byte.toUInt32)

/-- **A corrupted byte ends the game and the program**: a parity error on the code `0x81`. -/
theorem not_harmless_parityError :
    ReadFails (parityError kbBreakEsc)
        (run mode14C (start none) [press kbEnter, timerTick 0]).globals.scancode ∧
      ¬ Harmless mode14C (run mode14C (start none) [press kbEnter, timerTick 0])
        (parityError kbBreakEsc) := by
  refine ⟨by decide, fun harmless => ?_⟩
  have running : (run mode14C (start none) [press kbEnter, timerTick 0]).control = .gameState := by
    decide
  have kept := harmless.1.control
  rw [running] at kept
  exact absurd kept (by decide)

end SpaceInvaders
