/-
**The menu**: `menu.c`.
-/

import SpaceInvaders.Model.Keyboard

namespace SpaceInvaders

inductive MenuState
  | main
  | start
  | scores
  | gameOver
  | quit
  | exit
deriving DecidableEq

inductive MenuOption
  | start
  | scores
  | quit
  | none
deriving DecidableEq

/-- The static variables of `menu.c`. -/
structure Menu where
  currentState : MenuState
  currentOption : MenuOption
  optionSelected : Bool
deriving DecidableEq

/-- The function `menu_init`. -/
def menuInit : Menu := ⟨.main, .start, false⟩

/-- The assignment `current_option--`, behind its bound. -/
def MenuOption.up : MenuOption → MenuOption
  | .start => .start
  | .scores => .start
  | .quit => .scores
  | .none => .quit

/-- The assignment `current_option++`, behind its bound. -/
def MenuOption.down : MenuOption → MenuOption
  | .start => .scores
  | .scores => .quit
  | .quit => .quit
  | .none => .none

/-- The menu state an option leads to when it is chosen. -/
def MenuOption.target : MenuOption → Option MenuState
  | .start => some .start
  | .scores => some .scores
  | .quit => some .quit
  | .none => Option.none

/-- The function `menu_handle_input`. -/
def menuHandleInput (scancode : UInt8) (menu : Menu) : Menu :=
  if menu.currentState = .main then
    if scancode = kbUpArrow then { menu with currentOption := menu.currentOption.up }
    else if scancode = kbDownArrow then { menu with currentOption := menu.currentOption.down }
    else if scancode = kbEnter then
      { menu with
        optionSelected := true
        currentState := menu.currentOption.target.getD menu.currentState }
    else menu
  else if menu.currentState = .gameOver then
    if scancode = kbEnter ∨ scancode = kbBreakEsc then
      { menu with currentState := .main, optionSelected := false }
    else menu
  else if scancode = kbBreakEsc then { menu with currentState := .main, optionSelected := false }
  else menu

/-- The function `menu_render`, without its drawing, whose failures it ignores. -/
def menuRender (menu : Menu) : Menu :=
  if menu.currentState = .quit then { menu with currentState := .exit } else menu

/-- The function `menu_set_state`. -/
def menuSetState (state : MenuState) (menu : Menu) : Menu :=
  { menu with currentState := state, optionSelected := false }

/-- After the escape key's break code only the main menu, or a menu that was there, is left. -/
theorem menuHandleInput_esc (menu : Menu) :
    (menuHandleInput kbBreakEsc menu).currentState = .main := by
  unfold menuHandleInput
  by_cases main : menu.currentState = .main
  · rw [if_pos main, if_neg (by decide), if_neg (by decide), if_neg (by decide)]
    exact main
  · rw [if_neg main]
    by_cases ended : menu.currentState = .gameOver
    · rw [if_pos ended, if_pos (.inr rfl)]
    · rw [if_neg ended, if_pos rfl]

end SpaceInvaders
