/-
**The moving pixmap**: `video_test_move` of `lab5.c`.

The coordinates are `uint16_t` variables, kept here as integers between 0 and 65535; `u16` is the conversion
of the `int` that `xi += speed` computes. `frames` counts the handled timer interrupts, `drawn` keeps the
positions at which the pixmap was printed.
-/

import SpaceInvaders.Model.Graphics
import SpaceInvaders.Model.KeyboardTests

namespace SpaceInvaders

namespace Lab

/-- The arguments of `video_test_move` behind the pixmap. -/
structure MoveArgs where
  xi : UInt16
  yi : UInt16
  xf : UInt16
  yf : UInt16
  speed : Int16

/-- What the calls around the drawing return. -/
structure MoveCalls where
  setsUp : Bool
  finishes : Bool

/-- The variables of the test. -/
structure MoveTest where
  control : LoopControl
  scancode : UInt8
  xi : Int
  yi : Int
  frames : Nat
  drawn : List (Int × Int)

/-- The first two branches of `video_test_move`. -/
def MoveArgs.horizontal (args : MoveArgs) : Bool := args.xi < args.xf ∧ args.yi = args.yf
def MoveArgs.vertical (args : MoveArgs) : Bool := args.xi = args.xf ∧ args.yi < args.yf

/-- The test of the loop, and the calls behind it. -/
def moveLoop (calls : MoveCalls) (args : MoveArgs) (test : MoveTest) : MoveTest :=
  if test.scancode ≠ kbBreakEsc ∧ (test.xi < args.xf.toNat ∨ test.yi < args.yf.toNat) then
    { test with control := .looping }
  else { test with control := .returned (if calls.finishes then 0 else 1) }

/-- The two statements that move a coordinate. -/
def advance (speed limit coordinate : Int) : Int :=
  if u16 (coordinate + speed) > limit then limit else u16 (coordinate + speed)

/-- A timer interrupt moves the coordinate of the axis. -/
def movePosition (args : MoveArgs) (test : MoveTest) : MoveTest :=
  if args.horizontal then
    { test with xi := advance args.speed.toInt args.xf.toNat test.xi, frames := test.frames + 1 }
  else { test with yi := advance args.speed.toInt args.yf.toNat test.yi, frames := test.frames + 1 }

/-- The pixmap is printed at the new position, or the test returns. -/
def printMoved (mode : ModeInfo) (image : Xpm) (calls : MoveCalls) (args : MoveArgs)
    (test : MoveTest) : MoveTest :=
  if printXpm mode image test.xi test.yi ≠ 0 then { test with control := .returned 1 }
  else moveLoop calls args { test with drawn := test.drawn ++ [(test.xi, test.yi)] }

/-- A notification: the keyboard's bit first, and then the timer's. -/
def moveHardware (mode : ModeInfo) (image : Xpm) (calls : MoveCalls) (args : MoveArgs)
    (keyboard : Option Ports) (timer : Bool) (test : MoveTest) : MoveTest :=
  let test := match keyboard with
    | some ports => { test with scancode := kbcIh ports test.scancode }
    | none => test
  if timer then printMoved mode image calls args (movePosition args test)
  else moveLoop calls args test

/-- One round of the loop of `video_test_move`. -/
def moveStep (mode : ModeInfo) (image : Xpm) (calls : MoveCalls) (args : MoveArgs) (test : MoveTest)
    (receive : LabReceive) : MoveTest :=
  match test.control, receive with
  | .looping, .hardware keyboard timer => moveHardware mode image calls args keyboard timer test
  | .looping, _ => moveLoop calls args test
  | .returned _, _ => test

/-- The function `video_test_move` up to its loop. -/
def videoTestMove (mode : ModeInfo) (image : Xpm) (calls : MoveCalls) (args : MoveArgs) : MoveTest :=
  let test : MoveTest := ⟨.returned 1, 0, args.xi.toNat, args.yi.toNat, 0, []⟩
  if ¬ args.horizontal ∧ ¬ args.vertical then test
  else if ¬ calls.setsUp then test
  else if printXpm mode image test.xi test.yi ≠ 0 then test
  else moveLoop calls args { test with drawn := [(test.xi, test.yi)] }

end Lab

end SpaceInvaders
