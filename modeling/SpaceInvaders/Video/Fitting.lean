/-
**Everything that is drawn lies on the screen**, but for one place of one sprite.

`print_xpm` stops half-way at the first pixel beyond the screen, and most of its callers ignore its status;
a picture that does not fit would be shown in part, and nothing would tell. In every reachable state, with
any score file, all the calls of every picture fit, except that an enemy bullet comes to one last place where
three of its seventeen rows are below the screen.

* `counters_small`: the counters of `current_score`, in games and between them;
* `fits_of_onScreen`: a writing whose cells are on the screen;
* `falling_invariant`: where the enemies' bullets can be;
* `pictures_fit`: the calls of every picture that the program completes.
-/

import SpaceInvaders.Game.Shields
import SpaceInvaders.Video.ResultScreen

namespace SpaceInvaders

open Text Display

/-- `print_xpm` draws the whole image. -/
def PrintXpm.Fits (mode : ModeInfo) (call : PrintXpm) : Prop :=
  SpaceInvaders.printXpm mode call.xpm.size call.x call.y = 0

instance (mode : ModeInfo) (call : PrintXpm) : Decidable (call.Fits mode) :=
  inferInstanceAs (Decidable (_ = _))

/-! ### The counters in every state -/

/-- Counters that fit into their places on the screens. -/
structure GameScore.Small (current : GameScore) : Prop where
  shots : 0 ≤ current.bulletsFired ∧ current.bulletsFired ≤ 1117
  time : 0 ≤ current.gameTimeSeconds ∧ current.gameTimeSeconds ≤ 558
  final : 0 ≤ current.finalScore ∧ current.finalScore ≤ 10000

/-- Outside games the counters are kept, or cleared. -/
theorem outside_small (mode : ModeInfo) :
    Outside mode fun globals => globals.score.currentScore.Small := by
  have cleared : GameScore.Small ⟨0, 0, 0⟩ := ⟨by decide, by decide, by decide⟩
  exact ⟨fun _ _ _ small => small, fun _ small => small, fun _ _ => cleared, fun _ _ => cleared,
    fun _ small => small, fun _ _ => cleared⟩

/-- A key changes the shots only. -/
theorem gameInput_counters (keyboard : Option Ports) (globals : Globals) :
    (gameInput mode14C keyboard globals).score.currentScore.gameTimeSeconds =
        globals.score.currentScore.gameTimeSeconds ∧
      (gameInput mode14C keyboard globals).score.currentScore.finalScore =
        globals.score.currentScore.finalScore := by
  rcases gameInput_score mode14C keyboard globals with same | counted
  · rw [same]
    exact ⟨rfl, rfl⟩
  · rw [counted]
    unfold scoreAddBullet
    split <;> exact ⟨rfl, rfl⟩

/-- A running game has a clock. -/
theorem clock_of_reachable {mode : ModeInfo} {program : Program} (reached : Reachable mode program)
    (running : program.control = .gameState) : ∃ ticks, Clock ticks program.globals := by
  obtain ⟨csv, messages, rfl⟩ := reached
  obtain ⟨prior, game, rfl, starts, plays⟩ := running_game running
  rw [run_append] at running ⊢
  exact ⟨_, clock_run starts plays running⟩

/-- The counters behind the keys of a message, and behind its tick. -/
theorem ticked_small {program : Program} (reached : Reachable mode14C program)
    (running : program.control = .gameState) (small : program.globals.score.currentScore.Small)
    (keyboard : Option Ports) (answers : Answers) :
    (gameInput mode14C keyboard program.globals).score.currentScore.Small ∧
      (tickGlobals mode14C keyboard answers program.globals).score.currentScore.Small := by
  obtain ⟨fired, shots, low, high⟩ := ticked_counters reached running keyboard answers rfl
  obtain ⟨ticks, clock⟩ := clock_of_reachable reached running
  have pressed := (@Clock.input mode14C _ _ clock keyboard).1
  have same := (@Clock.tick mode14C _ _ pressed answers).2
  have updates := gameTick_score mode14C answers pressed.counting
  obtain ⟨time, final⟩ := gameInput_counters keyboard program.globals
  have kept : (tickGlobals mode14C keyboard answers program.globals).score.currentScore.finalScore =
      program.globals.score.currentScore.finalScore := by
    rw [tickGlobals, updates]
    exact final
  refine ⟨⟨?_, by rw [time]; exact small.time, by rw [final]; exact small.final⟩,
    ⟨fired, shots⟩, ⟨low, high⟩, by rw [kept]; exact small.final⟩
  rw [← same]
  exact ⟨fired, shots⟩

/-- The counters behind a tick with its outcome. -/
theorem small_finishTick {ticked : Globals} (counting : ticked.score.gameActive = true)
    (small : ticked.score.currentScore.Small) (answers : Answers) :
    (finishTick mode14C answers ticked).globals.score.currentScore.Small := by
  have ends : (scoreCalculateFinal ticked.score).currentScore.Small := by
    obtain ⟨⟨fired, time⟩, _⟩ := scoreCalculateFinal_keeps ticked.score
    have final := scoreCalculateFinalReturn_eq counting
    obtain ⟨low, high⟩ := scoreOf_bounds small.shots.1 small.time.1
    rw [← final] at low high
    exact ⟨by rw [fired]; exact small.shots, by rw [time]; exact small.time,
      le_trans (by decide) low, high⟩
  cases outcome : tickOutcome mode14C ticked with
  | undrawn =>
    rw [finishTick_eq, outcome]
    exact small
  | lost =>
    rw [finishTick_finalScore (.inl outcome)]
    exact ends
  | won =>
    rw [finishTick_finalScore (.inr outcome)]
    exact ends
  | goesOn =>
    rw [finishTick_eq, outcome]
    exact (outside_small mode14C).gameStateLoop small

/-- **The counters are small** in every reachable state. -/
theorem counters_small {program : Program} (reached : Reachable mode14C program) :
    program.globals.score.currentScore.Small := by
  suffices both : Reachable mode14C program ∧ program.globals.score.currentScore.Small from both.2
  refine @Reachable.induction mode14C
    (fun program => Reachable mode14C program ∧ program.globals.score.currentScore.Small)
    (fun csv => ⟨reachable_start mode14C csv, ?_⟩) (fun program receive holds => ?_) program reached
  · rw [start, menuHandlerLoop_globals]
    exact ⟨⟨le_rfl, Int.natCast_nonneg 1117⟩, ⟨le_rfl, Int.natCast_nonneg 558⟩, le_rfl,
      Int.natCast_nonneg 10000⟩
  obtain ⟨reached, small⟩ := holds
  refine ⟨reached.step receive, ?_⟩
  by_cases running : program.control = .gameState
  · have moved := ticked_small reached running small
    obtain ⟨ticks, clock⟩ := clock_of_reachable reached running
    have loops {globals : Globals} (small : globals.score.currentScore.Small) :
        (gameStateLoop globals).globals.score.currentScore.Small :=
      (outside_small mode14C).gameStateLoop small
    obtain ⟨control, globals⟩ := program
    cases running
    cases receive with
    | failed => exact loops small
    | ignored => exact loops small
    | hardware keyboard timer =>
      cases timer with
      | none => exact loops (moved keyboard ⟨0, 0, .success⟩).1
      | some answers =>
        have ticked := (@Clock.ticked mode14C _ _ clock keyboard answers).1
        rw [step_tick rfl]
        exact small_finishTick ticked.counting (moved keyboard answers).2 answers
  · exact (outside_small mode14C).step running small receive

/-! ### The texts -/

/-- The calls of a writing whose cells are on the screen. -/
theorem fits_of_onScreen {mode : ModeInfo} {writing : Writing} (inside : writing.OnScreen mode)
    {call : PrintXpm} (drawn : call ∈ writing.calls) : call.Fits mode := by
  obtain ⟨⟨i, char, here, glyph, x⟩, y⟩ := Writing.mem_calls.mp drawn
  have within := (List.getElem?_eq_some_iff.mp here).1
  have spacing : charSpacing = 22 := rfl
  have size := Writing.glyph_size glyph
  obtain ⟨left, right, top, bottom⟩ := inside
  rw [Writing.right_eq] at right
  rw [spacing] at x
  refine printXpm_of_fits mode _ (by omega) (by omega) ?_ ?_
  · rw [size]
    show call.x + 20 ≤ mode.width
    omega
  · rw [size]
    show call.y + 35 ≤ mode.height
    omega

theorem fits_of_writings {mode : ModeInfo} {writings : List Writing}
    (inside : ∀ writing ∈ writings, writing.OnScreen mode) {call : PrintXpm}
    (drawn : call ∈ writings.flatMap Writing.calls) : call.Fits mode := by
  obtain ⟨writing, member, here⟩ := List.mem_flatMap.mp drawn
  exact fits_of_onScreen (inside writing member) here

/-- A line of texts. -/
theorem onScreen_of_inLine {y left : Int} {writings : List Writing}
    (line : Writing.InLine y left 1152 writings) (start : 0 ≤ left) (top : 0 ≤ y) (bottom : y + 35 ≤ 864) :
    ∀ writing ∈ writings, writing.OnScreen mode14C :=
  (Writing.Block.of_line line start le_rfl top bottom).onScreen le_rfl le_rfl

/-- The screen of the menu, in all its states. -/
theorem menuPicture_fits (menu : Menu) : ∀ call ∈ menuPicture mode14C menu, call.Fits mode14C := by
  have main : ∀ option, ∀ call ∈ menuPicture mode14C ⟨.main, option, false⟩, call.Fits mode14C := by
    intro option
    cases option <;> decide +kernel
  have gameOver : ∀ call ∈ menuPicture mode14C ⟨.gameOver, .none, false⟩, call.Fits mode14C := by
    decide +kernel
  obtain ⟨state, option, _⟩ := menu
  cases state with
  | main => exact main option
  | gameOver => exact gameOver
  | start => exact fun call drawn => nomatch drawn
  | scores => exact fun call drawn => nomatch drawn
  | quit => exact fun call drawn => nomatch drawn
  | exit => exact fun call drawn => nomatch drawn

/-- The screen of a result. -/
theorem finalScore_fits {current : GameScore} (small : current.Small) :
    ∀ call ∈ drawFinalScoreDisplay mode14C current, call.Fits mode14C := by
  have number {label : List UInt8} {value y : Int} (short : label.length ≤ 12) (nonneg : 0 ≤ value)
      (bound : value < 10 ^ 5) (top : 0 ≤ y) (bottom : y + 35 ≤ 864) :
      ∀ writing ∈ labelled label value (centeredX label value 576) y, writing.OnScreen mode14C := by
    have digits := Decimal.integer_length_of_nonneg (by decide : 0 < 5) nonneg bound
    exact onScreen_of_inLine (labelledCentered_inLine (by omega) y) le_rfl top bottom
  obtain ⟨shots, time, final⟩ := small
  intro call drawn
  rw [drawFinalScoreDisplay_eq] at drawn
  rcases List.mem_append.mp drawn with title | written
  · have titles : ∀ call ∈ resultTitle, call.Fits mode14C := by decide +kernel
    exact titles call title
  · refine fits_of_writings (fun writing member => ?_) written
    simp only [resultWritings, List.mem_cons, List.mem_append, List.not_mem_nil, or_false] at member
    rcases member with rfl | (((member | member) | member) | member) | rfl
    · exact onScreen_of_inLine (by decide : Writing.InLine 352 0 1152 [_]) le_rfl (by decide) (by decide) _
        (List.mem_singleton_self _)
    · exact number (by decide) final.1 (by omega) (by decide) (by decide) writing member
    · exact number (by decide) time.1 (by omega) (by decide) (by decide) writing member
    · exact number (by decide) shots.1 (by omega) (by decide) (by decide) writing member
    · split at member
      · have bounds : 0 ≤ efficiency current ∧ efficiency current ≤ 100 := by
          unfold efficiency
          rw [Int.tdiv_eq_ediv_of_nonneg (by omega)]
          simp only
          split <;> omega
        exact number (by decide) bounds.1 (by omega) (by decide) (by decide) writing member
      · cases member
    · exact onScreen_of_inLine (by decide : Writing.InLine 552 0 1152 [_]) le_rfl (by decide) (by decide) _
        (List.mem_singleton_self _)

/-- An entry whose fields fit on the screen, if not into their columns. -/
structure FitsScreen (entry : HighScoreEntry) : Prop where
  name : entry.name.length ≤ 19
  score : (Decimal.integer entry.score).length ≤ 11
  shots : (Decimal.integer entry.bulletsFired).length ≤ 11
  time : (Decimal.integer entry.gameTimeSeconds).length ≤ 11

theorem integer_toInt32_length (value : Int) : (Decimal.integer (toInt32 value)).length ≤ 11 := by
  have low : -2 ^ 31 ≤ toInt32 value := Int.le_bmod (by decide)
  have high : toInt32 value < 2 ^ 31 := Int.bmod_lt (by decide)
  exact Decimal.integer_length_le (by decide : 0 < 10) (by omega)

/-- What is read from a file fits on the screen, whatever the file is. -/
theorem loaded_fitsScreen {csv : Option (List UInt8)} {entry : HighScoreEntry}
    (member : entry ∈ (loadHighscoresFromCsv csv .empty).entries) : FitsScreen entry := by
  have stored := List.mem_of_mem_take ((entries_load csv .empty).perm.mem_iff.mp member)
  cases csv with
  | none => cases stored
  | some file =>
    obtain ⟨line, _, scanned⟩ := List.mem_filterMap.mp stored
    obtain ⟨_, _, _, _, _, ⟨_, short, _⟩, ⟨_, _, score⟩, ⟨_, _, fired⟩, ⟨_, _, time⟩, _⟩ :=
      scanRow_iff.mp scanned
    exact ⟨short, score ▸ integer_toInt32_length _, fired ▸ integer_toInt32_length _,
      time ▸ integer_toInt32_length _⟩

theorem WinSized.fitsScreen {entry : HighScoreEntry} (sized : WinSized entry) : FitsScreen entry := by
  obtain ⟨name, score, shots, time⟩ := sized.fitsRow
  exact ⟨by omega, by omega, by omega, by omega⟩

/-- The scoreboard, with any names and numbers that a file can bring. -/
theorem scoreboard_fits {table : ScoreTable} (fits : ∀ entry ∈ table.entries, FitsScreen entry) :
    ∀ call ∈ drawScoreboardMenu mode14C table, call.Fits mode14C := by
  have line (text : List UInt8) {y : Int} (narrow : 22 * text.length ≤ 1152) (top : 0 ≤ y)
      (bottom : y + 35 ≤ 864) : (centered text 576 y).OnScreen mode14C :=
    onScreen_of_inLine (centered_inLine narrow y) le_rfl top bottom _ (List.mem_singleton_self _)
  intro call drawn
  rw [drawScoreboardMenu_eq] at drawn
  refine fits_of_writings (fun writing member => ?_) drawn
  rcases List.mem_cons.mp member with rfl | later
  · exact line _ (by decide) (by decide) (by decide)
  rcases List.mem_append.mp later with middle | foot
  · unfold tableWritings at middle
    split at middle
    · rcases List.mem_pair.mp middle with rfl | rfl
      · exact line _ (by decide) (by decide) (by decide)
      · exact line _ (by decide) (by decide) (by decide)
    rcases List.mem_append.mp middle with title | row
    · exact onScreen_of_inLine (by decide : Writing.InLine 130 80 1152 titleWritings) (by decide)
        (by decide) (by decide) writing title
    · obtain ⟨i, inside, field⟩ := List.mem_flatMap.mp row
      have low := List.mem_range.mp inside
      have rank : ∀ i < 8, (rankStr i).length ≤ 3 := by decide +kernel
      have short := rank i (by omega)
      have shown : table.highscores.getD i ⟨[], 0, 0, 0⟩ ∈ table.entries := by
        have within := table.within_length
        rw [List.mem_iff_getElem?]
        refine ⟨i, ?_⟩
        rw [ScoreTable.entries, List.getElem?_take_of_lt (by omega), List.getD_eq_getElem?_getD,
          List.getElem?_eq_getElem (by omega), Option.getD_some]
      obtain ⟨name, score, shots, time⟩ := fits _ shown
      generalize table.highscores.getD i ⟨[], 0, 0, 0⟩ = entry at name score shots time field
      have cell (digits : Bool) (text : List UInt8) {x : Int} (left : 0 ≤ x)
          (right : x + 22 * text.length ≤ 1152) :
          (⟨digits, text, x, 130 + (i + 1) * 40⟩ : Writing).OnScreen mode14C := by
        refine ⟨left, ?_, ?_, ?_⟩
        · rw [Writing.right_eq]
          exact right
        · show (0 : Int) ≤ 130 + (i + 1) * 40
          omega
        · show (130 : Int) + (i + 1) * 40 + 35 ≤ 864
          omega
      simp only [rowWritings, List.mem_cons, List.not_mem_nil, or_false] at field
      rcases field with rfl | rfl | rfl | rfl | rfl | rfl
      · exact cell _ _ (by decide) (by omega)
      · exact cell _ _ (by decide) (by omega)
      · exact cell _ _ (by decide) (by omega)
      · exact cell _ _ (by decide) (by omega)
      · exact cell _ _ (by decide) (by omega)
      · exact cell _ _ (by decide) (by decide)
  · rw [List.mem_singleton.mp foot]
    exact line _ (by decide) (by decide) (by decide)

/-! ### The enemies' bullets -/

/-- An active enemy stands on every fortieth row. -/
theorem Rigid.row_grid {arena : Arena} (rigid : Rigid arena) :
    ∀ enemy ∈ arena.enemies, enemy.active = true → 50 ≤ enemy.y ∧ (40 : Int) ∣ enemy.y - 50 := by
  obtain ⟨dx, dy, _, step, low, placed⟩ := rigid.placed
  intro enemy member active
  obtain ⟨index, inside⟩ := List.mem_iff_getElem?.mp member
  have place := (placed index enemy inside active).2
  omega

/-- The enemies' bullets in flight: between the side margins, and on every twentieth row. -/
def Falling (arena : Arena) : Prop :=
  ∀ bullet ∈ arena.enemyBullets, bullet.active = true →
    40 ≤ bullet.x ∧ bullet.x ≤ 1120 ∧ 90 ≤ bullet.y ∧ (20 : Int) ∣ bullet.y - 90

/-- A tick before its checks: a bullet falls on, to the lower border at most, or comes from an enemy. -/
theorem Falling.advance {timer : Nat} {arena : Arena} (falling : Falling arena) (firing : Firing timer arena)
    (roll : Nat) :
    ∀ bullet ∈ (advance mode14C (timer + 1) roll arena).enemyBullets, bullet.active = true →
      (40 ≤ bullet.x ∧ bullet.x ≤ 1120 ∧ 90 ≤ bullet.y ∧ (20 : Int) ∣ bullet.y - 90) ∧
      (bullet.y ≤ 864 ∨ ∃ enemy ∈ (advance mode14C (timer + 1) roll arena).enemies,
        enemy.active = true ∧ bullet.y = enemy.y + 40) := by
  have moves : ∀ bullet ∈ (moveAll mode14C arena).enemyBullets, bullet.active = true →
      (40 ≤ bullet.x ∧ bullet.x ≤ 1120 ∧ 90 ≤ bullet.y ∧ (20 : Int) ∣ bullet.y - 90) ∧
        bullet.y ≤ 864 := by
    rw [moveAll_enemyBullets]
    intro bullet member active
    obtain ⟨before, inside, rfl⟩ := List.mem_map.mp member
    obtain ⟨was, same, onScreen⟩ := updateEnemyBullet_of_active active
    obtain ⟨left, right, top, grid⟩ := falling before inside was
    rw [same]
    refine ⟨⟨left, right, ?_, ?_⟩, onScreen⟩
    · show 90 ≤ before.y + 20
      omega
    · show (20 : Int) ∣ before.y + 20 - 90
      omega
  rw [advance_enemies]
  unfold SpaceInvaders.advance
  split
  · rename_i due
    obtain ⟨shooter, chosen, fired⟩ := firing.shot roll due
    obtain ⟨inside, alive⟩ := List.mem_filter.mp (List.mem_of_getElem? chosen)
    have rigid : Rigid (moveAll mode14C arena) := firing.rigid.advance 1 0
    obtain ⟨low, grid⟩ := rigid.row_grid shooter inside alive
    have margins := rigid.margins shooter inside alive
    rw [fired]
    intro bullet member active
    rcases List.mem_or_eq_of_mem_set member with before | rfl
    · exact (moves bullet before active).imp_right .inl
    · refine ⟨⟨?_, ?_, ?_, ?_⟩, .inr ⟨shooter, inside, alive, rfl⟩⟩
      · show 40 ≤ shooter.x + 20
        omega
      · show shooter.x + 20 ≤ 1120
        omega
      · show 90 ≤ shooter.y + 40
        omega
      · show (20 : Int) ∣ shooter.y + 40 - 90
        omega
  · exact fun bullet member active => (moves bullet member active).imp_right .inl

/-- **Where the enemies' bullets are**, in every reachable game. -/
theorem falling_invariant : ArenaInvariant mode14C
    (fun arena => Rigid arena ∧ arena.enemyBullets.length = maxEnemyBullets)
    fun timer arena => Firing timer arena ∧ Falling arena where
  initial := fire_invariant.initial
  rest _ _ inv := fire_invariant.rest _ _ inv.1
  start timer arena rest := by
    refine ⟨fire_invariant.start timer arena rest, fun bullet member active => ?_⟩
    rw [active_of_mem_retire bullet member] at active
    cases active
  key timer arena scancode inv := by
    refine ⟨fire_invariant.key timer arena scancode inv.1, ?_⟩
    rw [shipAction_eq]
    exact inv.2
  tickRest _ _ _ inv := fire_invariant.tickRest _ _ _ inv.1
  tick timer roll arena inv goesOn := by
    refine ⟨fire_invariant.tick _ _ _ inv.1 goesOn, fun bullet member active => ?_⟩
    have released := tickArena_enemyBullets mode14C (timer + 1) roll arena false
    exact (inv.2.advance inv.1 roll bullet (released.mem Bullet.retire_active member active) active).1

/-- **The last row of an enemy bullet** in a frame that is drawn. -/
theorem falling_drawn {timer roll : Nat} {arena : Arena} (falling : Falling arena)
    (firing : Firing timer arena) (onField : OnField arena)
    (above : AboveBottom (tickArena mode14C (timer + 1) roll arena false).1) :
    ∀ bullet ∈ (tickArena mode14C (timer + 1) roll arena false).1.enemyBullets, bullet.active = true →
      40 ≤ bullet.x ∧ bullet.x ≤ 1120 ∧ 90 ≤ bullet.y ∧ bullet.y ≤ 850 ∧ (20 : Int) ∣ bullet.y - 90 := by
  intro bullet member active
  have released := tickArena_enemyBullets mode14C (timer + 1) roll arena false
  obtain ⟨⟨left, right, top, grid⟩, from'⟩ :=
    falling.advance firing roll bullet (released.mem Bullet.retire_active member active) active
  refine ⟨left, right, top, ?_, grid⟩
  rcases from' with low | ⟨shooter, inside, alive, start⟩
  · omega
  have row := ((firing.rigid.advance (timer + 1) roll).row_grid shooter inside alive).2
  by_cases high : shooter.y < 700
  · omega
  -- no bullet of the ship comes down to it, so it is drawn itself
  have survives : shooter ∈ (tickArena mode14C (timer + 1) roll arena false).1.enemies := by
    rw [tickArena_fst]
    refine mem_checkBulletEnemyCollision inside fun shot shotMember shotActive => ?_
    have flying : shot ∈ (SpaceInvaders.advance mode14C (timer + 1) roll arena).bullets := shotMember
    rw [advance_bullets] at flying
    obtain ⟨before, was, rfl⟩ := List.mem_map.mp flying
    obtain ⟨used, moved, _⟩ := updateBullet_of_active shotActive
    have place := onField.bullets before was used
    rw [moved, ← Bool.not_eq_true]
    intro hits
    have box := overlaps_iff.mp hits
    simp only [bulletHeight] at box
    omega
  have drawn := above shooter survives alive
  omega

/-! ### The pictures -/

/-- The last row of an enemy bullet is too low. -/
theorem not_fits_last {call : PrintXpm} (sprite : call.xpm = .enemyBullet) (row : call.y = 850) :
    ¬ call.Fits mode14C := by
  unfold PrintXpm.Fits
  rw [printXpm_eq_zero_iff, pixelsOnScreen_iff, sprite, row]
  rintro (none | none | ⟨_, low⟩)
  · cases none
  · cases none
  · exact absurd low (by decide)

/-- A score screen. -/
theorem scoresPicture_fits {globals : Globals} (small : globals.score.currentScore.Small)
    (table : ∀ entry ∈ globals.score.table.entries, FitsScreen entry) :
    ∀ call ∈ scoresPicture mode14C globals, call.Fits mode14C := by
  unfold scoresPicture
  cases scoresScreen globals with
  | scoreboard => exact scoreboard_fits table
  | finalScore => exact finalScore_fits small
  | gameOver =>
    have message4 : PrintXpm.Fits mode14C ⟨.message4, 400, 200⟩ := by decide +kernel
    have message1 : PrintXpm.Fits mode14C ⟨.message1, 300, 500⟩ := by decide +kernel
    intro call drawn
    rcases List.mem_cons.mp drawn with rfl | later
    · exact message4
    rcases List.mem_append.mp later with display | last
    · exact finalScore_fits small call display
    · rw [List.mem_singleton.mp last]
      exact message1

/-- The picture of a tick. -/
theorem gamePicture_fits {timer roll : Nat} {arena : Arena} (field : Falling arena) (firing : Firing timer arena)
    (onField : OnField arena) (shields : ShieldsPlaced arena) (before : AboveBottom arena)
    (drawn : drawsFrame mode14C (tickArena mode14C (timer + 1) roll arena false).1 = true)
    {current : GameScore} (small : current.Small) :
    ∀ call ∈ gamePicture mode14C (tickArena mode14C (timer + 1) roll arena false).1 current,
      ¬ (call.xpm = .enemyBullet ∧ call.y = 850) → call.Fits mode14C := by
  have above := above_of_drawn false before drawn
  intro call painted other
  rcases List.mem_append.mp painted with checked | unchecked
  · exact (drawsFrame_iff mode14C _).mp drawn call checked
  rcases List.mem_append.mp unchecked with sprites | score
  · rcases List.mem_append.mp sprites with falls | stands
    · obtain ⟨bullet, member, rfl⟩ := List.mem_map.mp falls
      obtain ⟨inside, active⟩ := List.mem_filter.mp member
      obtain ⟨left, right, top, bottom, grid⟩ := falling_drawn field firing onField above bullet inside active
      have higher : bullet.y ≠ 850 := fun last => other ⟨rfl, last⟩
      refine printXpm_of_fits mode14C _ (by show 0 ≤ bullet.x; omega) (by show 0 ≤ bullet.y; omega) ?_ ?_
      · show bullet.x + 5 ≤ 1152
        omega
      · show bullet.y + 17 ≤ 864
        omega
    · obtain ⟨shield, member, xpm⟩ := List.mem_filterMap.mp stands
      obtain ⟨index, at'⟩ := List.mem_iff_getElem?.mp member
      have placed := shields.tickArena firing roll
      have below : index < numShields := placed.1 ▸ (List.getElem?_eq_some_iff.mp at').1
      rw [numShields] at below
      obtain ⟨column, row⟩ := placed.2 index shield at'
      obtain ⟨sprite, picked, rfl⟩ := Option.map_eq_some_iff.mp xpm
      have size : sprite.size = ⟨47, 34⟩ := by
        revert picked
        cases shield.state <;> rintro ⟨⟩ <;> rfl
      refine printXpm_of_fits mode14C _ (by show 0 ≤ shield.x; omega) (by show 0 ≤ shield.y; omega) ?_ ?_
      · rw [size]
        show shield.x + 47 ≤ 1152
        omega
      · rw [size]
        show shield.y + 34 ≤ 864
        omega
  · rw [drawLiveScore_eq] at score
    exact fits_of_writings (liveWritings_beside small.shots.1 small.shots.2 small.time.1 small.time.2).1
      score

/-- **Everything that is drawn lies on the screen**, in every picture that a message to a reachable state
completes, with one exception: an enemy bullet in row 850, which is always cut off. -/
theorem pictures_fit {program : Program} (reached : Reachable mode14C program) {receive : Receive}
    {calls : List PrintXpm} (shown : shownPicture mode14C program receive = some calls) :
    ∀ call ∈ calls, (call.Fits mode14C ↔ ¬ (call.xpm = .enemyBullet ∧ call.y = 850)) := by
  suffices fits : ∀ call ∈ calls, ¬ (call.xpm = .enemyBullet ∧ call.y = 850) → call.Fits mode14C from
    fun call drawn => ⟨fun inside last => not_fits_last last.1 last.2 inside, fits call drawn⟩
  have small := counters_small reached
  cases receive with
  | failed => cases shown
  | ignored => cases shown
  | hardware keyboard timer =>
    cases timer with
    | none => cases shown
    | some answers =>
      cases waits : program.control with
      | scoreState =>
        rw [shownPicture, waits] at shown
        cases shown
      | returned code =>
        rw [shownPicture, waits] at shown
        cases shown
      | menuHandler =>
        rw [shownPicture, waits] at shown
        have kept : (menuInput keyboard program.globals).score = program.globals.score := by
          cases keyboard <;> rfl
        have table : ∀ entry ∈ program.globals.score.table.entries, FitsScreen entry := by
          obtain ⟨csv, messages, rfl⟩ := reached
          exact fun entry member => (mem_table member).elim loaded_fitsScreen WinSized.fitsScreen
        intro call drawn _
        simp only [menuTimerPicture] at shown
        split at shown
        · cases shown
        · split at shown
          · cases shown
            exact scoresPicture_fits (by rw [kept]; exact small) (by rw [kept]; exact table) call drawn
          · cases shown
        · cases shown
        · cases shown
          exact menuPicture_fits _ call drawn
      | gameState =>
        rw [shownPicture, waits] at shown
        simp only at shown
        split at shown
        · rename_i drawn
          cases shown
          have begins : AtTick mode14C (gameInput mode14C keyboard program.globals) :=
            ⟨program, keyboard, reached, waits, rfl⟩
          obtain ⟨firing, falling⟩ := falling_invariant.atTick begins
          have above : AboveBottom (gameInput mode14C keyboard program.globals).arena := by
            rw [gameInput_arena_eq]
            exact above_running reached waits
          exact gamePicture_fits falling firing (field_invariant.atTick begins).2
            (shields_invariant.atTick begins).2 above drawn
            (ticked_small reached waits small keyboard answers).2
        · cases shown

/-- The first shot of the first game, on the way to the lower border. -/
def firstShot : List Receive := [press kbEnter, timerTick 0] ++ List.replicate 96 (timerTick 0)

/-- It is drawn in row 850, and cut off. -/
theorem pictures_fit_firstShot :
    (shownPicture mode14C (run mode14C (start none) firstShot) (timerTick 0)).map
        (fun calls => decide (⟨.enemyBullet, 140, 850⟩ ∈ calls)) = some true ∧
      ¬ PrintXpm.Fits mode14C ⟨.enemyBullet, 140, 850⟩ := by
  have drawn : (shownPicture mode14C (run mode14C (start none) firstShot) (timerTick 0)).map
      (fun calls => decide (⟨.enemyBullet, 140, 850⟩ ∈ calls)) = some true := by
    decide +kernel
  refine ⟨drawn, fun fits => ?_⟩
  obtain ⟨calls, shown, member⟩ := Option.map_eq_some_iff.mp drawn
  have reached := (reachable_start mode14C none).run firstShot
  exact ((pictures_fit reached shown _ (of_decide_eq_true member)).mp fits) ⟨rfl, rfl⟩

end SpaceInvaders
