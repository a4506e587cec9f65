/-
**What is drawn, as calls of `print_xpm`**: the text functions of `score.c`, and the pictures that
`menu_render`, the score screens and a tick of the game put together from them.

A drawing function is the list of its calls, in their order. Coordinates are the `int` arguments, before
`print_xpm` truncates them to `uint16_t`. A text is its bytes before the terminator.
-/

import SpaceInvaders.Model.Menu
import SpaceInvaders.Model.Score
import SpaceInvaders.Model.GameState

namespace SpaceInvaders

/-- The images under `xpm/` that the program draws. -/
inductive XpmMap
  | letter (index : Fin 26)
  | number (index : Fin 10)
  | alien1
  | alien2
  | alien3
  | ship
  | bullet
  | enemyBullet
  | shield
  | breakShield
  | title
  | start1
  | start2
  | scores1
  | scores2
  | quit1
  | quit2
  | message1
  | message4
deriving DecidableEq

/-- Their sizes, from the headers under `xpm/`. -/
def XpmMap.size : XpmMap → Xpm
  | .letter _ => ⟨20, 35⟩
  | .number _ => ⟨20, 35⟩
  | .alien1 => .alien1
  | .alien2 => .alien2
  | .alien3 => .alien3
  | .ship => .ship
  | .bullet => .bullet
  | .enemyBullet => .enemyBullet
  | .shield => .shield
  | .breakShield => ⟨47, 34⟩
  | .title => ⟨400, 200⟩
  | .start1 => ⟨163, 51⟩
  | .start2 => ⟨163, 51⟩
  | .scores1 => ⟨193, 51⟩
  | .scores2 => ⟨193, 51⟩
  | .quit1 => ⟨145, 51⟩
  | .quit2 => ⟨145, 51⟩
  | .message1 => .message1
  | .message4 => .message4

/-- A call of `print_xpm`. -/
structure PrintXpm where
  xpm : XpmMap
  x : Int
  y : Int
deriving DecidableEq

namespace Text

def charHeight : Int := 25
def charSpacing : Int := 22

/-! ### Letters and digits -/

/-- The image `draw_letter` picks from `letters`: a capital or a small letter. -/
def letterXpm (letter : UInt8) : Option XpmMap :=
  if capital : 65 ≤ letter.toNat ∧ letter.toNat ≤ 90 then
    some (.letter ⟨letter.toNat - 65, by omega⟩)
  else if small : 97 ≤ letter.toNat ∧ letter.toNat ≤ 122 then
    some (.letter ⟨letter.toNat - 97, by omega⟩)
  else none

/-- The function `draw_letter`. -/
def drawLetter (letter : UInt8) (x y : Int) : List PrintXpm :=
  (letterXpm letter).toList.map fun xpm => ⟨xpm, x, y⟩

/-- The loop of `draw_text`. A blank, and a byte that is no letter, only moves on. -/
def drawText : List UInt8 → (x y : Int) → List PrintXpm
  | [], _, _ => []
  | char :: rest, x, y =>
    if char = 32 then drawText rest (x + charSpacing) y
    else drawLetter char x y ++ drawText rest (x + charSpacing) y

/-- The function `calculate_text_width`. -/
def calculateTextWidth (text : List UInt8) : Int := text.length * charSpacing

/-- The function `draw_text_centered`. -/
def drawTextCentered (text : List UInt8) (centerX y : Int) : List PrintXpm :=
  drawText text (centerX - (calculateTextWidth text).tdiv 2) y

/-- The image `draw_digit` picks from `numbers`. -/
def digitXpm (digit : Int) : Option XpmMap :=
  if range : 0 ≤ digit ∧ digit ≤ 9 then some (.number ⟨digit.toNat, by omega⟩) else none

/-- The function `draw_digit`. -/
def drawDigit (digit : Int) (x y : Int) : List PrintXpm :=
  (digitXpm digit).toList.map fun xpm => ⟨xpm, x, y⟩

/-- The loop of `draw_number` over the characters that `sprintf` has written. -/
def drawDigits : List UInt8 → (x y : Int) → List PrintXpm
  | [], _, _ => []
  | char :: rest, x, y =>
    drawDigit ((char.toNat : Int) - 48) x y ++ drawDigits rest (x + charSpacing) y

/-- The function `draw_number`, without its return value, which no caller reads. -/
def drawNumber (number : Int) (x y : Int) : List PrintXpm :=
  if number = 0 then drawDigit 0 x y else drawDigits (Decimal.integer number) x y

/-- The function `draw_label_and_number`. -/
def drawLabelAndNumber (label : List UInt8) (number x y : Int) : List PrintXpm :=
  drawText label x y ++ drawNumber number (x + calculateTextWidth label) y

/-- The function `draw_label_and_number_centered`. -/
def drawLabelAndNumberCentered (label : List UInt8) (number centerX y : Int) : List PrintXpm :=
  let numWidth := calculateTextWidth (Decimal.integer number)
  let labelWidth := calculateTextWidth label
  let startX := centerX - (labelWidth + numWidth).tdiv 2
  drawText label startX y ++ drawNumber number (startX + labelWidth) y

/-! ### The score displays -/

/-- The place of the shots in `draw_live_score`. -/
def shotsX (mode : ModeInfo) (shots : Int) : Int :=
  mode.width - (calculateTextWidth (bytes "SHOTS ") + calculateTextWidth (Decimal.integer shots)) - 20

/-- The function `draw_live_score`. -/
def drawLiveScore (mode : ModeInfo) (current : GameScore) : List PrintXpm :=
  let live := SpaceInvaders.drawLiveScore current
  drawLabelAndNumber (bytes "SCORE ") live.score 20 20 ++
    drawLabelAndNumberCentered (bytes "TIME ") live.time (mode.width.tdiv 2) 20 ++
    drawLabelAndNumber (bytes "SHOTS ") live.shots (shotsX mode live.shots) 20

/-- The variable `efficiency`. -/
def efficiency (current : GameScore) : Int :=
  let efficiency := (current.finalScore * 100).tdiv 10000
  if efficiency > 100 then 100 else efficiency

/-- The function `draw_final_score_display`. The name is assigned once, and never a pilot's. -/
def drawFinalScoreDisplay (mode : ModeInfo) (current : GameScore) : List PrintXpm :=
  let centerX := mode.width.tdiv 2
  let lineSpacing := charHeight + 15
  let startY := mode.height.tdiv 2 - lineSpacing * 3
  drawTextCentered (bytes "YOU WON") centerX startY ++
    drawTextCentered (bytes "PILOT") (centerX - 60) (startY + lineSpacing) ++
    drawTextCentered (bytes "UNKNOWN") (centerX + 60) (startY + lineSpacing) ++
    drawLabelAndNumberCentered (bytes "FINAL SCORE ") current.finalScore centerX
      (startY + lineSpacing * 2) ++
    drawLabelAndNumberCentered (bytes "TIME ") current.gameTimeSeconds centerX
      (startY + lineSpacing * 3) ++
    drawLabelAndNumberCentered (bytes "SHOTS FIRED ") current.bulletsFired centerX
      (startY + lineSpacing * 4) ++
    (if current.bulletsFired > 0 then
      drawLabelAndNumberCentered (bytes "EFFICIENCY ") (efficiency current) centerX
        (startY + lineSpacing * 5)
    else []) ++
    drawTextCentered (bytes "PRESS ENTER") centerX (startY + lineSpacing * 6)

/-- The text `rank_str` of a row. -/
def rankStr (i : Nat) : List UInt8 :=
  if i = 0 then bytes "1ST" else if i = 1 then bytes "2ND" else if i = 2 then bytes "3RD"
  else Decimal.integer (i + 1 : Nat) ++ bytes "TH"

/-- The row `draw_scoreboard_menu` draws at an index. -/
def scoreboardRow (titleY : Int) (i : Nat) (entry : HighScoreEntry) : List PrintXpm :=
  let rowY := titleY + (i + 1) * 40
  drawText (rankStr i) 80 rowY ++ drawText entry.name 200 rowY ++ drawNumber entry.score 400 rowY ++
    drawNumber entry.bulletsFired 550 rowY ++ drawNumber entry.gameTimeSeconds 700 rowY ++
    drawText (bytes "S") (700 + calculateTextWidth (bytes "999")) rowY

/-- The titles of the columns. -/
def scoreboardTitles (titleY : Int) : List PrintXpm :=
  drawText (bytes "RANK") 80 titleY ++ drawText (bytes "PILOT") 200 titleY ++
    drawText (bytes "SCORE") 400 titleY ++ drawText (bytes "SHOTS") 550 titleY ++
    drawText (bytes "TIME") 700 titleY

/-- The function `draw_scoreboard_menu`. -/
def drawScoreboardMenu (mode : ModeInfo) (table : ScoreTable) : List PrintXpm :=
  let centerX := mode.width.tdiv 2
  let titleY : Int := 80 + 50
  let displayCount := if table.highscoreCount < 8 then table.highscoreCount else 8
  drawTextCentered (bytes "HIGH SCORES") centerX 80 ++
    (if displayCount = 0 then
      drawTextCentered (bytes "NO HIGH SCORES YET") centerX (titleY + 40 * 2) ++
        drawTextCentered (bytes "PLAY A GAME TO SET YOUR FIRST SCORE") centerX (titleY + 40 * 3)
    else
      scoreboardTitles titleY ++ (List.range displayCount).flatMap fun i =>
        scoreboardRow titleY i (table.highscores.getD i ⟨[], 0, 0, 0⟩)) ++
    drawTextCentered (bytes "PRESS ESC TO RETURN TO MENU") centerX (mode.height - 80)

end Text

/-! ### The menu -/

/-- The three option images of `menu_render`: the current option has its highlighted one. -/
def optionXpms : MenuOption → List XpmMap
  | .start => [.start1, .scores2, .quit2]
  | .scores => [.start2, .scores1, .quit2]
  | .quit => [.start2, .scores2, .quit1]
  | .none => []

/-- The variables `title_x` and `title_y`, and `options_x` and `options_start_y`. -/
def titleX (mode : ModeInfo) : Int := u16 ((mode.width - 400).tdiv 2)
def titleY (mode : ModeInfo) : Int := u16 (mode.height.tdiv 4)
def optionsX (mode : ModeInfo) : Int := u16 ((mode.width - 145).tdiv 2)
def optionsStartY (mode : ModeInfo) : Int := u16 (titleY mode + 200 + 50)

/-- The space between two options, `option_spacing`. -/
def optionSpacing : Int := 51 + 20

/-- The drawing of `menu_render`. -/
def menuPicture (mode : ModeInfo) (menu : Menu) : List PrintXpm :=
  match menu.currentState with
  | .main =>
    ⟨.title, titleX mode, titleY mode⟩ ::
      (optionXpms menu.currentOption).mapIdx fun i xpm =>
        ⟨xpm, optionsX mode, optionsStartY mode + optionSpacing * i⟩
  | .gameOver =>
    Text.drawTextCentered (bytes "YOU LOST") (mode.width.tdiv 2) (mode.height.tdiv 2 - 50) ++
      Text.drawTextCentered (bytes "PRESS ENTER OR ESC TO CONTINUE") (mode.width.tdiv 2)
        (mode.height.tdiv 2 + 50)
  | _ => []

/-! ### A tick of the game -/

/-- The image `draw_enemy` picks by the enemy's type. -/
def enemyXpm (type : Int) : XpmMap :=
  if type = 0 then .alien1 else if type = 1 then .alien2 else if type = 2 then .alien3 else .alien1

/-- The image of a shield. -/
def ShieldState.xpm : ShieldState → Option XpmMap
  | .full => some .shield
  | .broken => some .breakShield
  | .none => Option.none

/-- The calls of `draw_ship`. -/
def shipCalls (x : Int) : List PrintXpm := [⟨.ship, x, 700⟩]

/-- The calls of `draw_all_enemies`, if none fails. -/
def enemyCalls (arena : Arena) : List PrintXpm :=
  (arena.enemies.filter Enemy.active).map fun enemy => ⟨enemyXpm enemy.type, enemy.x, enemy.y⟩

/-- The calls of `draw_all_bullets`, if none fails. -/
def bulletCalls (arena : Arena) : List PrintXpm :=
  (arena.bullets.filter Bullet.active).map fun bullet => ⟨.bullet, bullet.x, bullet.y⟩

/-- The calls of `draw_enemy_bullets`. -/
def enemyBulletCalls (arena : Arena) : List PrintXpm :=
  (arena.enemyBullets.filter Bullet.active).map fun bullet => ⟨.enemyBullet, bullet.x, bullet.y⟩

/-- The calls of `draw_shields`. -/
def shieldCalls (arena : Arena) : List PrintXpm :=
  arena.shields.filterMap fun shield => shield.state.xpm.map fun xpm => ⟨xpm, shield.x, shield.y⟩

/-- The calls of a tick whose failure ends the game. -/
def checkedCalls (arena : Arena) : List PrintXpm :=
  shipCalls arena.x ++ enemyCalls arena ++ bulletCalls arena

/-- The calls of a tick whose failure is ignored. -/
def uncheckedCalls (mode : ModeInfo) (arena : Arena) (current : GameScore) : List PrintXpm :=
  enemyBulletCalls arena ++ shieldCalls arena ++ Text.drawLiveScore mode current

/-- The picture of a tick. -/
def gamePicture (mode : ModeInfo) (arena : Arena) (current : GameScore) : List PrintXpm :=
  checkedCalls arena ++ uncheckedCalls mode arena current

end SpaceInvaders
