/-
**What the screen shows.**

The program draws bytes into a buffer, some calls fail half-way, some failures end it before
`swap_buffers`, and the buffer still holds what was drawn last time. The screen shows none of this: from
the first picture on it shows the last one that was completed, its images painted one over the other on
black, and nothing of any earlier one.

* `shownPicture`: the abstract display; it looks at the program only, not at the buffers;
* `step_shows`: one message refines it;
* `video_shows_last_picture`: so does every run, whatever the two buffers held before.
-/

import SpaceInvaders.Game.Outcome
import SpaceInvaders.Video.Layers

namespace SpaceInvaders

/-! ### The abstract display -/

/-- The picture of a score screen. -/
def scoresPicture (mode : ModeInfo) (globals : Globals) : List PrintXpm :=
  match scoresScreen globals with
  | .scoreboard => Text.drawScoreboardMenu mode globals.score.table
  | .finalScore => Text.drawFinalScoreDisplay mode globals.score.currentScore
  | .gameOver =>
    ⟨.message4, 400, 200⟩ ::
      (Text.drawFinalScoreDisplay mode globals.score.currentScore ++ [⟨.message1, 300, 500⟩])

/-- The picture that a timer notification in `menu_handler` completes. -/
def menuTimerPicture (mode : ModeInfo) (globals : Globals) : Option (List PrintXpm) :=
  match globals.menu.currentState with
  | .start => none
  | .scores =>
    if ¬ globals.showScoresDrawn ∧ drawsScores mode globals then some (scoresPicture mode globals)
    else none
  | .exit => none
  | _ => some (menuPicture mode globals.menu)

/-- The picture that a message completes. -/
def shownPicture (mode : ModeInfo) (program : Program) : Receive → Option (List PrintXpm)
  | .hardware keyboard (some answers) =>
    match program.control with
    | .menuHandler => menuTimerPicture mode (menuInput keyboard program.globals)
    | .gameState =>
      if drawsFrame mode (tickGlobals mode keyboard answers program.globals).arena then
        some (gamePicture mode (tickGlobals mode keyboard answers program.globals).arena
          (tickGlobals mode keyboard answers program.globals).score.currentScore)
      else none
    | _ => none
  | _ => none

/-- The pictures completed during a run, in their order. -/
def shownPictures (mode : ModeInfo) (program : Program) (messages : List Receive) :
    List (List PrintXpm) :=
  Runs.outputs (step mode) (shownPicture mode) program messages

namespace Display

open BackBuffer

/-- `xpm_load` returns images of the sizes that the headers state. -/
def Sized (images : XpmMap → XpmImage) : Prop :=
  ∀ xpm, (images xpm).width.toNat = xpm.size.width ∧ (images xpm).height.toNat = xpm.size.height

/-- 32 bits are enough for the frame and for the counter of `clear_back_buf`. -/
structure Addressable (mode : VbeModeInfo) : Prop where
  deep : 0 < bytesPerPixel mode
  small : frameSize mode < 2 ^ 32 - bytesPerPixel mode

theorem Addressable.reach {mode : VbeModeInfo} (addressable : Addressable mode) :
    frameSize mode ≤ 2 ^ 32 := by
  have small := addressable.small
  omega

theorem Addressable.vramSize_eq {mode : VbeModeInfo} (addressable : Addressable mode) :
    vramSize mode = frameSize mode := by
  have small := addressable.small
  exact Nat.mod_eq_of_lt (by omega)

variable (images : XpmMap → XpmImage) (mode : VbeModeInfo)

/-- The layer of a call. -/
def layer (call : PrintXpm) : Painter.Layer Pixel (List UInt8) :=
  imageLayer mode (images call.xpm) (UInt16.ofInt call.x) (UInt16.ofInt call.y)

/-- The calls painted one over the other on a black screen. -/
def picture (calls : List PrintXpm) : Pixel → List UInt8 :=
  Painter.paint (fun _ => colorBytes mode 0) (calls.map (layer images mode))

/-- A buffer shows the picture of the calls at every pixel of the screen. -/
def ShowsPicture (buf : Memory) (calls : List PrintXpm) : Prop :=
  Painter.Shows (readPixel mode) (OnMode mode) buf (picture images mode calls)

variable {images mode}

/-! ### Clearing -/

theorem normColor_zero (mode : VbeModeInfo) : normColor mode 0 = 0 := by
  unfold normColor
  split
  · rfl
  · exact UInt32.zero_and

/-- A cleared buffer shows no call. -/
theorem shows_clearBackBuf (addressable : Addressable mode) (buf : Memory) :
    ShowsPicture images mode (clearBackBuf mode 0 buf) [] := by
  obtain ⟨deep, small⟩ := addressable
  have size : vramSize mode = frameSize mode := Nat.mod_eq_of_lt (by omega)
  have pixels : mode.XResolution.toNat * mode.YResolution.toNat ≤ vramSize mode := by
    rw [size]
    exact Nat.le_mul_of_pos_right _ deep
  have start : (⟨0, buf, []⟩ : ClearBackBuf) = clearedTo mode 0 buf 0 := by
    rw [clearedTo, ClearBackBuf.mk.injEq]
    refine ⟨(Nat.zero_mul _).symm, ?_, rfl⟩
    funext address
    rw [if_neg (by omega)]
  have runs : Loops.run (clearBackBufRound mode 0) (vramSize mode + 1) ⟨0, buf, []⟩ =
      some (clearedTo mode 0 buf (mode.XResolution.toNat * mode.YResolution.toNat)) := by
    rw [start]
    refine Loops.run_stages (clearedTo mode 0 buf)
      (mode.XResolution.toNat * mode.YResolution.toNat)
      (fun count more => clearBackBufRound_clearedTo deep small 0 buf more) (if_neg ?_) (by omega)
    rw [size]
    exact Nat.lt_irrefl (frameSize mode)
  intro pixel onScreen
  show pixelBytes mode (clearBackBuf mode 0 buf) pixel.1 pixel.2 = colorBytes mode 0
  rw [clearBackBuf, runs]
  have inside := block_le onScreen
  refine List.map_congr_left fun k member => ?_
  have below := List.mem_range.mp member
  have address : pixelIndex mode pixel.1 pixel.2 + k < frameSize mode := by
    rw [(onScreen.reached (by omega)).pixelIndex_eq]
    omega
  refine (if_pos address).trans ?_
  rw [normColor_zero, (onScreen.reached (by omega)).pixelIndex_eq, Nat.mul_comm, Nat.mul_add_mod,
    Nat.mod_eq_of_lt below]

/-- A black rectangle over the whole screen is drawn, and shows no call. -/
theorem shows_blackScreen (addressable : Addressable mode) (buf : Memory) :
    (BackBuffer.vgDrawRectangle mode 0 0 mode.XResolution mode.YResolution 0 buf).1 = 0 ∧
      ShowsPicture images mode
        (BackBuffer.vgDrawRectangle mode 0 0 mode.XResolution mode.YResolution 0 buf).2 [] := by
  have origin : (0 : UInt16).toNat = 0 := rfl
  have fits : Fits mode 0 0 mode.XResolution.toNat mode.YResolution.toNat := by
    unfold Fits
    rw [origin]
    omega
  have drawn := drawShape_drawn addressable.reach 0 0 mode.XResolution.toNat mode.YResolution.toNat
    (fun _ _ => 0) buf
  rw [vgDrawRectangle_eq]
  have passed := (drawShape_eq_zero_iff mode 0 0 mode.XResolution.toNat mode.YResolution.toNat
    (fun _ _ => 0) buf).mpr fits
  refine ⟨passed, fun pixel onScreen => ?_⟩
  obtain ⟨column, row⟩ := accepts_iff.mp onScreen
  refine (drawn.success passed pixel.1 pixel.2 onScreen).trans (if_pos ?_)
  rw [UInt16.le_iff_toNat_le, UInt16.le_iff_toNat_le, origin]
  omega

/-! ### Drawing -/

/-- A call lays its layer over the buffer. -/
theorem lays_printXpm (addressable : Addressable mode) (call : PrintXpm) :
    Painter.Lays (readPixel mode) (OnMode mode) (fun buf => (printXpm images mode call buf).2)
      (layer images mode call) :=
  lays_imageLayer addressable.reach (images call.xpm) _ _

theorem shows_draw (addressable : Addressable mode) {buf : Memory} {drawn : List PrintXpm}
    (shows : ShowsPicture images mode buf drawn) (calls : List PrintXpm) :
    ShowsPicture images mode (draw images mode calls buf) (drawn ++ calls) := by
  rw [ShowsPicture, picture, List.map_append]
  exact Painter.Shows.drawAll (lays_printXpm addressable) shows calls

theorem shows_drawChecked (addressable : Addressable mode) {buf : Memory} {drawn : List PrintXpm}
    (shows : ShowsPicture images mode buf drawn) {calls : List PrintXpm}
    (passed : (drawChecked images mode calls buf).1 = 0) :
    ShowsPicture images mode (drawChecked images mode calls buf).2 (drawn ++ calls) := by
  rw [ShowsPicture, picture, List.map_append]
  exact Painter.Shows.untilFailure (lays_printXpm addressable) shows passed

/-- `swap_buffers` brings every pixel of the back buffer to the screen. -/
theorem shows_swapBuffers (addressable : Addressable mode) {buffers : Buffers}
    {calls : List PrintXpm} (shows : ShowsPicture images mode buffers.backBuf calls) :
    ShowsPicture images mode (swapBuffers mode buffers).videoMem calls := by
  intro pixel onScreen
  rw [← shows pixel onScreen]
  refine List.map_congr_left fun k member => ?_
  have below := List.mem_range.mp member
  have inside := block_le onScreen
  refine if_pos ⟨Nat.zero_le _, ?_⟩
  rw [addressable.vramSize_eq, (onScreen.reached addressable.reach).pixelIndex_eq]
  omega

/-! ### The status of a call -/

/-- The conversion of an `int` argument. -/
theorem ofInt_toNat (value : Int) : ((UInt16.ofInt value).toNat : Int) = u16 value := by
  have low := Int.emod_nonneg value (by decide : (2 : Int) ^ 16 ≠ 0)
  have high := Int.emod_lt_of_pos value (by decide : (0 : Int) < 2 ^ 16)
  rw [UInt16.ofInt, UInt16.toNat_ofNat_of_lt' (by show _ < 2 ^ 16; omega), Int.toNat_of_nonneg low]
  rfl

/-- A call that is on the screen covers the rectangle of its image. -/
theorem layer_of_fits (sized : Sized images)
    {call : PrintXpm} (left : 0 ≤ call.x) (right : call.x + call.xpm.size.width ≤ mode.width)
    (top : 0 ≤ call.y) (bottom : call.y ≤ mode.height) {pixel : Pixel} (onScreen : OnMode mode pixel) :
    layer images mode call pixel =
      if call.x ≤ pixel.1.toNat ∧ (pixel.1.toNat : Int) < call.x + call.xpm.size.width ∧
          call.y ≤ pixel.2.toNat ∧ (pixel.2.toNat : Int) < call.y + call.xpm.size.height then
        some (colorBytes mode ((images call.xpm).colour (pixel.1.toNat - call.x.toNat)
          (pixel.2.toNat - call.y.toNat)))
      else none := by
  obtain ⟨width, height⟩ := sized call.xpm
  have wide := mode.toModeInfo.width_bounds
  have high := mode.toModeInfo.height_bounds
  have x := ofInt_toNat call.x
  have y := ofInt_toNat call.y
  rw [u16_of_range left (by omega)] at x
  rw [u16_of_range top (by omega)] at y
  have column : (UInt16.ofInt call.x).toNat + (images call.xpm).width.toNat ≤
      mode.XResolution.toNat := by
    have whole : (mode.width : Int) = mode.XResolution.toNat := rfl
    omega
  rw [layer, imageLayer_of_column column onScreen]
  have same : (UInt16.ofInt call.x).toNat = call.x.toNat ∧ (UInt16.ofInt call.y).toNat = call.y.toNat := by
    omega
  rw [same.1, same.2, width, height]
  refine if_congr ?_ rfl rfl
  omega

/-- The status without buffers. -/
theorem printXpm_eq_zero_iff (mode : ModeInfo) (image : Xpm) (x y : Int) :
    SpaceInvaders.printXpm mode image x y = 0 ↔ PixelsOnScreen mode x y image.width image.height := by
  unfold SpaceInvaders.printXpm
  split
  · rename_i passed
    exact iff_of_true rfl passed
  · rename_i failed
    exact iff_of_false Int.one_ne_zero failed

/-- A call succeeds exactly when the model without buffers says so. -/
theorem printXpm_status (sized : Sized images) (call : PrintXpm) (buf : Memory) :
    (printXpm images mode call buf).1 = 0 ↔
      SpaceInvaders.printXpm mode.toModeInfo call.xpm.size call.x call.y = 0 := by
  have again (value : Int) : u16 (u16 value) = u16 value := Int.emod_emod_of_dvd value (dvd_refl _)
  obtain ⟨width, height⟩ := sized call.xpm
  rw [printXpm, (status_eq mode (UInt16.ofInt call.x) (UInt16.ofInt call.y) buf).2 (images call.xpm),
    width, height, ofInt_toNat, ofInt_toNat, printXpm_eq_zero_iff, printXpm_eq_zero_iff]
  unfold PixelsOnScreen
  rw [again, again]

theorem drawChecked_status (sized : Sized images) (calls : List PrintXpm) (buf : Memory) :
    (drawChecked images mode calls buf).1 = 0 ↔
      ∀ call ∈ calls, SpaceInvaders.printXpm mode.toModeInfo call.xpm.size call.x call.y = 0 :=
  Painting.untilFailure_status_iff (fun call buf => printXpm_status sized call buf) calls buf

theorem enemyXpm_size (type : Int) : (enemyXpm type).size = enemySprite type := by
  unfold enemyXpm enemySprite
  split
  · rfl
  split
  · rfl
  split <;> rfl

/-- **The checked calls of a tick succeed exactly when the game goes on to its unchecked ones.** -/
theorem drawsFrame_iff (mode : ModeInfo) (arena : Arena) :
    drawsFrame mode arena = true ↔
      ∀ call ∈ checkedCalls arena, SpaceInvaders.printXpm mode call.xpm.size call.x call.y = 0 := by
  have ship : drawShip mode arena.x = 0 ↔ SpaceInvaders.printXpm mode .ship arena.x 700 = 0 := by
    unfold drawShip
    split
    · rename_i failed
      exact iff_of_false Int.one_ne_zero failed
    · rename_i passed
      exact iff_of_true rfl (not_not.mp passed)
  have enemies : drawAllEnemies mode arena = 0 ↔ ∀ enemy ∈ arena.enemies, enemy.active = true →
      SpaceInvaders.printXpm mode (enemySprite enemy.type) enemy.x enemy.y = 0 := by
    have calls : drawAllEnemies mode arena = 0 ↔
        ∀ enemy ∈ arena.enemies, ¬ (enemy.active && drawEnemy mode enemy ≠ 0) = true := by
      unfold drawAllEnemies
      rw [← List.any_eq_false]
      split
      · rename_i some
        exact iff_of_false Int.one_ne_zero fun none => by rw [none] at some; cases some
      · rename_i none
        exact iff_of_true rfl (Bool.eq_false_iff.mpr none)
    rw [calls]
    refine forall₂_congr fun enemy _ => ?_
    cases active : enemy.active <;> simp [drawEnemy, active]
  have bullets : drawAllBullets mode arena = 0 ↔ ∀ bullet ∈ arena.bullets, bullet.active = true →
      SpaceInvaders.printXpm mode .bullet bullet.x bullet.y = 0 := by
    have calls : drawAllBullets mode arena = 0 ↔
        ∀ bullet ∈ arena.bullets, ¬ (bullet.active && drawBullet mode bullet ≠ 0) = true := by
      unfold drawAllBullets
      rw [← List.any_eq_false]
      split
      · rename_i some
        exact iff_of_false Int.one_ne_zero fun none => by rw [none] at some; cases some
      · rename_i none
        exact iff_of_true rfl (Bool.eq_false_iff.mpr none)
    rw [calls]
    refine forall₂_congr fun bullet _ => ?_
    cases active : bullet.active <;> simp [drawBullet, active]
  rw [drawsFrame, decide_eq_true_eq, ship, enemies, bullets]
  simp only [checkedCalls, shipCalls, enemyCalls, bulletCalls, List.forall_mem_append,
    List.forall_mem_map, List.mem_filter, and_imp, List.forall_mem_singleton, enemyXpm_size, and_assoc]
  rfl

/-! ### One message -/

/-- What the video memory shows: the picture, or nothing new. -/
def ShowsNext (images : XpmMap → XpmImage) (mode : VbeModeInfo) (shown : Option (List PrintXpm))
    (before after : Buffers) : Prop :=
  match shown with
  | some calls => ShowsPicture images mode after.videoMem calls
  | none => after.videoMem = before.videoMem

/-- A score screen on the cleared buffer. -/
theorem shows_scoresScreenOn (addressable : Addressable mode) (sized : Sized images)
    (globals : Globals) {buf : Memory} (shows : ShowsPicture images mode buf []) :
    ((scoresScreenOn images mode globals buf).1 = 0 ↔
      (scoresScreen globals).draws mode.toModeInfo = true) ∧
    ((scoresScreenOn images mode globals buf).1 = 0 →
      ShowsPicture images mode (scoresScreenOn images mode globals buf).2
        (scoresPicture mode.toModeInfo globals)) := by
  have whole (calls : List PrintXpm) : ShowsPicture images mode (draw images mode calls buf) calls := by
    have drawn := shows_draw addressable shows calls
    rwa [List.nil_append] at drawn
  unfold scoresScreenOn scoresPicture
  cases scoresScreen globals with
  | scoreboard =>
    dsimp only
    exact ⟨iff_of_true rfl rfl, fun _ => whole _⟩
  | finalScore =>
    dsimp only
    exact ⟨iff_of_true rfl rfl, fun _ => whole _⟩
  | gameOver =>
    have title := @drawChecked_status images mode sized [⟨.message4, 400, 200⟩] buf
    have message := fun buf => @drawChecked_status images mode sized [⟨.message1, 300, 500⟩] buf
    simp only [List.forall_mem_singleton] at title message
    simp only [ScoresScreen.draws, decide_eq_true_eq]
    by_cases passed : (drawChecked images mode [⟨.message4, 400, 200⟩] buf).1 = 0
    · rw [if_neg (not_not.mpr passed)]
      refine ⟨(message _).trans (and_iff_right (title.mp passed)).symm, fun drawn => ?_⟩
      have first := shows_drawChecked addressable shows passed
      have all := shows_drawChecked addressable (shows_draw addressable first _) drawn
      rwa [List.nil_append, List.singleton_append, List.cons_append] at all
    · rw [if_pos passed]
      exact ⟨iff_of_false Int.one_ne_zero fun both => passed (title.mpr both.1),
        fun passed => absurd passed Int.one_ne_zero⟩

theorem showScores_shows (addressable : Addressable mode) (sized : Sized images) (globals : Globals)
    (buffers : Buffers) :
    ShowsNext images mode
      (if ¬ globals.showScoresDrawn ∧ drawsScores mode.toModeInfo globals then
        some (scoresPicture mode.toModeInfo globals)
      else none)
      buffers (showScores images mode globals buffers) := by
  obtain ⟨black, shows⟩ := @shows_blackScreen images mode addressable buffers.backBuf
  obtain ⟨status, draws⟩ := shows_scoresScreenOn addressable sized globals shows
  unfold showScores
  cases drawn : globals.showScoresDrawn with
  | true => exact rfl
  | false =>
    rw [if_neg Bool.false_ne_true]
    simp only
    rw [if_neg (not_not.mpr black)]
    -- the rectangle succeeds in the model without buffers too
    have rectangle : SpaceInvaders.vgDrawRectangle mode.toModeInfo 0 0 mode.XResolution.toNat
        mode.YResolution.toNat = 0 := by
      have same := (status_eq mode 0 0 buffers.backBuf).1 mode.XResolution mode.YResolution 0
      rw [black] at same
      exact same.symm
    have same : drawsScores mode.toModeInfo globals = true ↔
        (scoresScreen globals).draws mode.toModeInfo = true := by
      simp [drawsScores, drawn, rectangle]
    by_cases passed : (scoresScreenOn images mode globals (BackBuffer.vgDrawRectangle mode 0 0
        mode.XResolution mode.YResolution 0 buffers.backBuf).2).1 = 0
    · rw [if_neg (not_not.mpr passed), if_pos ⟨Bool.false_ne_true, same.mpr (status.mp passed)⟩]
      exact shows_swapBuffers addressable (draws passed)
    · rw [if_pos passed, if_neg fun both => passed (status.mpr (same.mp both.2))]
      exact rfl

theorem menuTimer_shows (addressable : Addressable mode) (sized : Sized images) (globals : Globals)
    (buffers : Buffers) :
    ShowsNext images mode (menuTimerPicture mode.toModeInfo globals) buffers
      (menuTimer images mode globals buffers) := by
  have renders : ShowsPicture images mode (menuRender images mode globals.menu buffers).videoMem
      (menuPicture mode.toModeInfo globals.menu) :=
    shows_swapBuffers addressable (shows_draw addressable (shows_clearBackBuf addressable _) _)
  unfold menuTimer menuTimerPicture
  cases state : globals.menu.currentState with
  | start => exact rfl
  | scores => exact showScores_shows addressable sized globals buffers
  | exit => exact rfl
  | main => exact renders
  | gameOver => exact renders
  | quit => exact renders

theorem gameTimer_shows (addressable : Addressable mode) (sized : Sized images) (globals : Globals)
    (buffers : Buffers) :
    ShowsNext images mode
      (if drawsFrame mode.toModeInfo globals.arena then
        some (gamePicture mode.toModeInfo globals.arena globals.score.currentScore)
      else none)
      buffers (gameTimer images mode globals buffers) := by
  have status := (@drawChecked_status images mode sized (checkedCalls globals.arena)
    (clearBackBuf mode 0 buffers.backBuf)).trans (drawsFrame_iff mode.toModeInfo globals.arena).symm
  unfold gameTimer
  simp only
  by_cases passed : (drawChecked images mode (checkedCalls globals.arena)
      (clearBackBuf mode 0 buffers.backBuf)).1 = 0
  · rw [if_neg (not_not.mpr passed), if_pos (status.mp passed)]
    have checked := shows_drawChecked addressable
      (shows_clearBackBuf addressable buffers.backBuf) passed
    exact shows_swapBuffers addressable (shows_draw addressable checked _)
  · rw [if_pos passed, if_neg fun drawn => passed (status.mpr drawn)]
    exact rfl

/-- A tick of the game ends in its drawing. -/
theorem step_gameTimer (images : XpmMap → XpmImage) (mode : VbeModeInfo) (keyboard : Option Ports)
    (answers : Answers) (globals : Globals) (buffers : Buffers) :
    (step images mode (⟨.gameState, globals⟩, buffers) (.hardware keyboard (some answers))).2 =
      gameTimer images mode (tickGlobals mode.toModeInfo keyboard answers globals) buffers :=
  rfl

/-- A tick of the menu. -/
theorem step_menuTimer (images : XpmMap → XpmImage) (mode : VbeModeInfo) (keyboard : Option Ports)
    (answers : Answers) (globals : Globals) (buffers : Buffers) :
    (step images mode (⟨.menuHandler, globals⟩, buffers) (.hardware keyboard (some answers))).2 =
      menuTimer images mode (SpaceInvaders.menuInput keyboard globals) buffers :=
  rfl

/-- **One message**: the video memory shows the picture the message completes, or keeps what it had. -/
theorem step_shows (addressable : Addressable mode) (sized : Sized images) (program : Program)
    (receive : Receive) (buffers : Buffers) :
    ShowsNext images mode (shownPicture mode.toModeInfo program receive) buffers
      (stepBuffers images mode program receive buffers) := by
  obtain ⟨control, globals⟩ := program
  cases receive with
  | failed => cases control <;> exact rfl
  | ignored => cases control <;> exact rfl
  | hardware keyboard timer =>
    cases timer with
    | none => cases control <;> exact rfl
    | some answers =>
      cases control with
      | menuHandler =>
        exact menuTimer_shows addressable sized (SpaceInvaders.menuInput keyboard globals) buffers
      | gameState =>
        exact gameTimer_shows addressable sized
          (tickGlobals mode.toModeInfo keyboard answers globals) buffers
      | scoreState => exact rfl
      | returned code => exact rfl

/-! ### Whole runs -/

/-- The program does not look at its buffers. -/
theorem run_fst (images : XpmMap → XpmImage) (mode : VbeModeInfo) (state : Program × Buffers)
    (messages : List Receive) :
    (Runs.run (step images mode) state messages).1 = run mode.toModeInfo state.1 messages := by
  induction messages generalizing state with
  | nil => rfl
  | cons receive messages ih => exact ih (step images mode state receive)

/-- **The screen shows the last completed picture.** After any run of the program, with any images of the
right sizes and whatever the back buffer and the video memory held before, every pixel of the video memory
has the colour of the last image that the last completed picture paints on it, and is black where none
does; until a first picture is completed the video memory is as it was. -/
theorem video_shows_last_picture (addressable : Addressable mode) (sized : Sized images)
    (program : Program) (buffers : Buffers) (messages : List Receive) :
    match (shownPictures mode.toModeInfo program messages).getLast? with
    | some calls => ∀ pixel, OnMode mode pixel →
        readPixel mode (Runs.run (step images mode) (program, buffers) messages).2.videoMem pixel =
          picture images mode calls pixel
    | none => (Runs.run (step images mode) (program, buffers) messages).2.videoMem =
        buffers.videoMem := by
  suffices shows : ShowsNext images mode (shownPictures mode.toModeInfo program messages).getLast?
      buffers (Runs.run (step images mode) (program, buffers) messages).2 by
    unfold ShowsNext at shows
    split <;> rename_i last <;> rw [last] at shows <;> exact shows
  induction messages using List.reverseRecOn with
  | nil => exact rfl
  | append_singleton messages receive ih =>
    have same := run_fst images mode (program, buffers) messages
    rw [Runs.run_snoc, shownPictures, Runs.outputs_append]
    have next := step_shows addressable sized
      (Runs.run (step images mode) (program, buffers) messages).1 receive
      (Runs.run (step images mode) (program, buffers) messages).2
    rw [same] at next
    show ShowsNext images mode _ buffers (stepBuffers images mode
      (Runs.run (step images mode) (program, buffers) messages).1 receive
      (Runs.run (step images mode) (program, buffers) messages).2)
    rw [same]
    revert next
    show ShowsNext images mode (shownPicture mode.toModeInfo
      (Runs.run (SpaceInvaders.step mode.toModeInfo) program messages) receive) _ _ → ShowsNext images mode
        (_ ++ ((shownPicture mode.toModeInfo
          (Runs.run (SpaceInvaders.step mode.toModeInfo) program messages) receive).toList ++ [])).getLast? _ _
    rw [List.append_nil]
    cases shownPicture mode.toModeInfo
      (Runs.run (SpaceInvaders.step mode.toModeInfo) program messages) receive with
    | some calls =>
      intro next
      rw [Option.toList_some, List.getLast?_concat]
      exact next
    | none =>
      intro next
      rw [Option.toList_none, List.append_nil]
      change ShowsNext images mode (Runs.outputs _ _ _ _).getLast? _ _ at ih
      unfold ShowsNext at ih next ⊢
      rw [next]
      exact ih

/-- The direct colour mode 0x14C, with 32 bits for a pixel. -/
def mode14CInfo : VbeModeInfo := ⟨mode14C, 32, 6, 8, 16, 8, 8, 8, 0⟩

/-- Images of the right sizes, white all over. -/
def whiteImages (xpm : XpmMap) : XpmImage where
  width := UInt16.ofNat xpm.size.width
  height := UInt16.ofNat xpm.size.height
  colors := List.replicate _ 0xFFFFFF
  sized := List.length_replicate

theorem addressable_mode14CInfo : Addressable mode14CInfo := ⟨by decide, by decide⟩

theorem sized_whiteImages : Sized whiteImages := by
  intro xpm
  cases xpm <;> exact ⟨rfl, rfl⟩

/-- After a tick, the key for "down" and a second tick the screen shows the second menu, here at a pixel
of its title. -/
theorem video_shows_last_picture_secondMenu :
    readPixel mode14CInfo
      (Runs.run (step whiteImages mode14CInfo) (start none, ⟨fun _ => 1, fun _ => 2⟩)
        [timerTick 0, press kbDownArrow, timerTick 0]).2.videoMem (400, 300) =
      picture whiteImages mode14CInfo (menuPicture mode14C ⟨.main, .scores, false⟩) (400, 300) := by
  have shows := video_shows_last_picture addressable_mode14CInfo sized_whiteImages (start none)
    ⟨fun _ => 1, fun _ => 2⟩ [timerTick 0, press kbDownArrow, timerTick 0]
  have pictures : shownPictures mode14CInfo.toModeInfo (start none)
      [timerTick 0, press kbDownArrow, timerTick 0] =
        [menuPicture mode14C menuInit, menuPicture mode14C ⟨.main, .scores, false⟩] := by decide
  rw [pictures] at shows
  exact shows (400, 300) ⟨by decide, by decide⟩

end Display

end SpaceInvaders
