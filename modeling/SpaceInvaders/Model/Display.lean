/-
**The two buffers of `graphic.c`, and what a message draws.**

Everything is drawn into `back_buf`; `swap_buffers` copies it to the video memory. What `xpm_load` returns
for an image is a parameter. The calls whose result a function tests go through `Painting.untilFailure`,
like the loops of `graphic.c`; where one of them fails the program returns before `swap_buffers`.
-/

import SpaceInvaders.Model.BackBuffer
import SpaceInvaders.Model.Program
import SpaceInvaders.Model.Text

namespace SpaceInvaders

/-- The buffers `back_buf` and `video_mem`. -/
structure Buffers where
  backBuf : Memory
  videoMem : Memory

namespace Display

variable (images : XpmMap → BackBuffer.XpmImage) (mode : VbeModeInfo)

/-- A call of `print_xpm`, with the conversion of its `int` arguments. -/
def printXpm (call : PrintXpm) : Memory → Int × Memory :=
  BackBuffer.printXpm mode (images call.xpm) (UInt16.ofInt call.x) (UInt16.ofInt call.y)

/-- Calls whose results nothing looks at. -/
def draw (calls : List PrintXpm) (buf : Memory) : Memory :=
  calls.foldl (fun buf call => (printXpm images mode call buf).2) buf

/-- Calls up to the first that fails. -/
def drawChecked (calls : List PrintXpm) : Memory → Int × Memory :=
  Painting.untilFailure (printXpm images mode) calls

/-- The function `clear_back_buf`. The rounds are enough for every mode in which its loop ends. -/
def clearBackBuf (color : UInt32) (buf : Memory) : Memory :=
  match Loops.run (BackBuffer.clearBackBufRound mode color) (BackBuffer.vramSize mode + 1)
    ⟨0, buf, []⟩ with
  | some last => last.buf
  | none => buf

/-- The function `swap_buffers`. -/
def swapBuffers (buffers : Buffers) : Buffers :=
  { buffers with
    videoMem := BackBuffer.memcpy 0 buffers.backBuf (BackBuffer.vramSize mode) buffers.videoMem }

/-! ### The branches -/

/-- The drawing of `menu_render`. -/
def menuRender (menu : Menu) (buffers : Buffers) : Buffers :=
  swapBuffers mode
    { buffers with
      backBuf := draw images mode (menuPicture mode.toModeInfo menu)
        (clearBackBuf mode 0 buffers.backBuf) }

/-- The drawing of the `MENU_START` branch, which no `swap_buffers` follows. -/
def startGame (x : Int) (buffers : Buffers) : Buffers :=
  { buffers with
    backBuf := (drawChecked images mode (shipCalls x) (clearBackBuf mode 0 buffers.backBuf)).2 }

/-- The drawing of a score screen on the cleared buffer, and whether its checked calls fail. -/
def scoresScreenOn (globals : Globals) (buf : Memory) : Int × Memory :=
  match scoresScreen globals with
  | .scoreboard =>
    (0, draw images mode (Text.drawScoreboardMenu mode.toModeInfo globals.score.table) buf)
  | .finalScore =>
    (0, draw images mode (Text.drawFinalScoreDisplay mode.toModeInfo globals.score.currentScore) buf)
  | .gameOver =>
    let title := drawChecked images mode [⟨.message4, 400, 200⟩] buf
    if title.1 ≠ 0 then (1, title.2)
    else
      let display := draw images mode
        (Text.drawFinalScoreDisplay mode.toModeInfo globals.score.currentScore) title.2
      drawChecked images mode [⟨.message1, 300, 500⟩] display

/-- The drawing of the `MENU_SCORES` branch. -/
def showScores (globals : Globals) (buffers : Buffers) : Buffers :=
  if globals.showScoresDrawn then buffers
  else
    let cleared := BackBuffer.vgDrawRectangle mode 0 0 mode.XResolution mode.YResolution 0
      buffers.backBuf
    if cleared.1 ≠ 0 then { buffers with backBuf := cleared.2 }
    else
      let screen := scoresScreenOn images mode globals cleared.2
      if screen.1 ≠ 0 then { buffers with backBuf := screen.2 }
      else swapBuffers mode { buffers with backBuf := screen.2 }

/-- The drawing of the timer branch of `menu_handler`. -/
def menuTimer (globals : Globals) (buffers : Buffers) : Buffers :=
  match globals.menu.currentState with
  | .start => startGame images mode globals.arena.x buffers
  | .scores => showScores images mode globals buffers
  | .exit => buffers
  | _ => menuRender images mode globals.menu buffers

/-- The drawing of the timer branch of `game_state`, with the variables behind its moves and checks. -/
def gameTimer (globals : Globals) (buffers : Buffers) : Buffers :=
  let checked := drawChecked images mode (checkedCalls globals.arena)
    (clearBackBuf mode 0 buffers.backBuf)
  if checked.1 ≠ 0 then { buffers with backBuf := checked.2 }
  else
    swapBuffers mode
      { buffers with
        backBuf := draw images mode
          (uncheckedCalls mode.toModeInfo globals.arena globals.score.currentScore) checked.2 }

/-- What a message does to the buffers. -/
def stepBuffers (program : Program) (receive : Receive) (buffers : Buffers) : Buffers :=
  match program.control, receive with
  | .menuHandler, .hardware keyboard (some _) =>
    menuTimer images mode (keyboard.elim program.globals fun ports => menuKeyboard ports program.globals)
      buffers
  | .gameState, .hardware keyboard (some answers) =>
    gameTimer images mode
      (gameTick mode.toModeInfo answers (gameInput mode.toModeInfo keyboard program.globals)) buffers
  | _, _ => buffers

/-- The program with its buffers. -/
def step (state : Program × Buffers) (receive : Receive) : Program × Buffers :=
  (SpaceInvaders.step mode.toModeInfo state.1 receive,
    stepBuffers images mode state.1 receive state.2)

end Display

end SpaceInvaders
