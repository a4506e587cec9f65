/-
**When `kbc_command_handler` ends in time.**

The loop counts its tries on one answer only, NACK, and for one command only. A mouse that answers anything
else than ACK, NACK or ERROR, and any command other than the two the handler knows, goes round without
counting.

* `mouseRound_traffic`, `reaches`: one round, and the rounds before the first that stops the loop;
* `handler_meets_iff`: the controllers on which the handler meets its contract;
* `not_handlerMeets_answering`: a mouse that answers 0.
-/

import SpaceInvaders.Model.MouseController

namespace SpaceInvaders

/-! ### What the calls send and read -/

/-- The writes to the command register. -/
def commandsSent (traffic : Traffic) : Nat := traffic.sent.countP fun write => write.1 = cmdReg

/-- Nothing was written and no reply was read in between. -/
def Quiet (before after : Traffic) : Prop :=
  after.sent = before.sent ∧ after.replies = before.replies

theorem Quiet.commandsSent_eq {before after : Traffic} (quiet : Quiet before after) :
    commandsSent after = commandsSent before := by
  rw [commandsSent, quiet.1, commandsSent]

/-- The loop of tries comes to its body, or gives up. -/
theorem whenFree_cases {α : Type} (controller : Controller) (body : Traffic → Option α × Traffic)
    (tries : Nat) (traffic : Traffic) :
    ∃ after, Quiet traffic after ∧
      (whenFree controller body tries traffic = (none, after) ∨
        whenFree controller body tries traffic = body after) := by
  induction tries generalizing traffic with
  | zero => exact ⟨traffic, ⟨rfl, rfl⟩, .inl rfl⟩
  | succ tries ih =>
    have quiet : Quiet traffic (kbcCheckInBuf controller traffic).2 := by
      unfold kbcCheckInBuf kbcReadStatus
      cases controller.status traffic.statusReads <;> exact ⟨rfl, rfl⟩
    unfold whenFree
    cases check : kbcCheckInBuf controller traffic with
    | mk free after =>
      rw [check] at quiet
      cases free with
      | true => exact ⟨after, quiet, .inr rfl⟩
      | false =>
        obtain ⟨last, later, ends⟩ := ih after
        exact ⟨last, ⟨later.1.trans quiet.1, later.2.trans quiet.2⟩, ends⟩

/-- **The function `kbc_write_command`** sends the command, or nothing. -/
theorem kbcWriteCommand_cases (controller : Controller) (cmd : UInt32) (traffic : Traffic) :
    ∃ after, after.replies = traffic.replies ∧
      ((kbcWriteCommand controller cmd traffic = (none, after) ∧
          commandsSent after = commandsSent traffic) ∨
        (kbcWriteCommand controller cmd traffic = (some (), after) ∧
          commandsSent after = commandsSent traffic + 1)) := by
  obtain ⟨free, quiet, gaveUp | ran⟩ :=
    whenFree_cases controller (writeTo controller cmdReg cmd) 3 traffic
  · exact ⟨free, quiet.2, .inl ⟨gaveUp, quiet.commandsSent_eq⟩⟩
  · rw [← quiet.commandsSent_eq, ← quiet.2]
    unfold kbcWriteCommand
    rw [ran]
    unfold writeTo sysOutb
    by_cases accepts : controller.accepts free.writes = true
    · rw [if_pos accepts]
      exact ⟨{ free with writes := free.writes + 1, sent := free.sent ++ [(cmdReg, cmd)] }, rfl,
        .inr ⟨rfl, List.countP_append.trans rfl⟩⟩
    · rw [if_neg accepts]
      exact ⟨{ free with writes := free.writes + 1 }, rfl, .inl ⟨rfl, rfl⟩⟩

/-- A byte to the mouse, or an argument, is no command. -/
theorem commandsSent_sysOutb_args (controller : Controller) (value : UInt32) (traffic : Traffic) :
    commandsSent (sysOutb controller cmdArgsReg value traffic).2 = commandsSent traffic ∧
      (sysOutb controller cmdArgsReg value traffic).2.replies = traffic.replies := by
  unfold sysOutb
  split
  · exact ⟨List.countP_append.trans rfl, rfl⟩
  · exact ⟨rfl, rfl⟩

theorem readAnswer_cases (controller : Controller) (traffic : Traffic) :
    ∃ after, commandsSent after = commandsSent traffic ∧
      ((readAnswer controller traffic = (none, after) ∧ after.replies = traffic.replies) ∨
        ∃ ans, readAnswer controller traffic = (some ans, after) ∧
          after.replies = traffic.replies ++ [ans]) := by
  unfold readAnswer
  cases controller.output traffic.outputReads with
  | none => exact ⟨{ traffic with outputReads := traffic.outputReads + 1 }, rfl, .inl ⟨rfl, rfl⟩⟩
  | some output =>
    exact ⟨{ traffic with
      outputReads := traffic.outputReads + 1
      replies := traffic.replies ++ [output.toUInt8] }, rfl, .inr ⟨output.toUInt8, rfl, rfl⟩⟩

/-- **The function `mouse_write_command`** reads one answer, or none. -/
theorem mouseWriteCommand_cases (controller : Controller) (cmd : UInt32) (traffic : Traffic) :
    ∃ after, commandsSent after = commandsSent traffic ∧
      ((mouseWriteCommand controller cmd traffic = (none, after) ∧ after.replies = traffic.replies) ∨
        ∃ ans, mouseWriteCommand controller cmd traffic = (some ans, after) ∧
          after.replies = traffic.replies ++ [ans]) := by
  obtain ⟨free, quiet, gaveUp | ran⟩ := whenFree_cases controller (mouseSend controller cmd) 3 traffic
  · exact ⟨free, quiet.commandsSent_eq, .inl ⟨gaveUp, quiet.2⟩⟩
  · rw [← quiet.commandsSent_eq, ← quiet.2]
    obtain ⟨sent, replies⟩ := commandsSent_sysOutb_args controller cmd free
    unfold mouseWriteCommand
    rw [ran]
    unfold mouseSend
    cases out : sysOutb controller cmdArgsReg cmd free with
    | mk accepted written =>
      rw [out] at sent replies
      cases accepted with
      | false => exact ⟨written, sent, .inl ⟨rfl, replies⟩⟩
      | true =>
        obtain ⟨after, same, read⟩ := readAnswer_cases controller written
        rw [← replies]
        exact ⟨after, same.trans sent, read⟩

/-- The function `kbc_write_argument` sends no command. -/
theorem commandsSent_kbcWriteArgument (controller : Controller) (arg : UInt32) (traffic : Traffic) :
    commandsSent (kbcWriteArgument controller arg traffic).2 = commandsSent traffic := by
  obtain ⟨free, quiet, gaveUp | ran⟩ :=
    whenFree_cases controller (writeTo controller cmdArgsReg arg) 3 traffic
  · unfold kbcWriteArgument
    rw [gaveUp]
    exact quiet.commandsSent_eq
  · have sent := (commandsSent_sysOutb_args controller arg free).1
    rw [← quiet.commandsSent_eq, ← sent]
    unfold kbcWriteArgument
    rw [ran]
    unfold writeTo
    cases sysOutb controller cmdArgsReg arg free with
    | mk accepted written => cases accepted <;> rfl

/-! ### Rounds with the mouse -/

/-- How the two calls of a round for `WRITE_B_MOUSE` go. -/
inductive Round
  | unsent
  | unanswered
  | answered (ans : UInt8)
deriving DecidableEq

/-- The round ends the loop, whatever the tries. -/
def Round.stops : Round → Bool
  | .answered ans => ans = ack ∨ ans = mouseError
  | _ => true

/-- One round's calls. -/
def mouseRound (controller : Controller) (arg : UInt32) (traffic : Traffic) : Round × Traffic :=
  match kbcWriteCommand controller writeBMouse traffic with
  | (none, traffic) => (.unsent, traffic)
  | (some (), traffic) =>
    match mouseWriteCommand controller arg traffic with
    | (none, traffic) => (.unanswered, traffic)
    | (some ans, traffic) => (.answered ans, traffic)

/-- The traffic before the `n`-th round, when the rounds are made one after the other. -/
def beforeRound (controller : Controller) (arg : UInt32) : Nat → Traffic
  | 0 => .none
  | n + 1 => (mouseRound controller arg (beforeRound controller arg n)).2

/-- How the `n`-th of these rounds goes. -/
def mouseRounds (controller : Controller) (arg : UInt32) (n : Nat) : Round :=
  (mouseRound controller arg (beforeRound controller arg n)).1

/-- **What a round sends and reads.** -/
theorem mouseRound_traffic (controller : Controller) (arg : UInt32) (traffic : Traffic) :
    ∃ after,
      (mouseRound controller arg traffic = (.unsent, after) ∧
        commandsSent after = commandsSent traffic ∧ after.replies = traffic.replies) ∨
      (mouseRound controller arg traffic = (.unanswered, after) ∧
        commandsSent after = commandsSent traffic + 1 ∧ after.replies = traffic.replies) ∨
      ∃ ans, mouseRound controller arg traffic = (.answered ans, after) ∧
        commandsSent after = commandsSent traffic + 1 ∧ after.replies = traffic.replies ++ [ans] := by
  obtain ⟨written, quiet, ⟨unsent, same⟩ | ⟨sends, one⟩⟩ :=
    kbcWriteCommand_cases controller writeBMouse traffic
  · exact ⟨written, .inl ⟨by rw [mouseRound, unsent], same, quiet⟩⟩
  · obtain ⟨after, kept, ⟨unanswered, same⟩ | ⟨ans, answered, read⟩⟩ :=
      mouseWriteCommand_cases controller arg written
    · exact ⟨after, .inr (.inl ⟨by rw [mouseRound, sends]; simp only [unanswered],
        kept.trans one, same.trans quiet⟩)⟩
    · exact ⟨after, .inr (.inr ⟨ans, by rw [mouseRound, sends]; simp only [answered],
        kept.trans one, by rw [read, quiet]⟩)⟩

/-- What the loop does with a round. -/
def handleRound (tries : Nat) : Round × Traffic → (Nat × Traffic) ⊕ (Int × Traffic)
  | (.unsent, traffic) => .inr (1, traffic)
  | (.unanswered, traffic) => .inr (1, traffic)
  | (.answered ans, traffic) => handleAnswer ans tries traffic

theorem commandRound_mouse (controller : Controller) (arg : UInt32) (tries : Nat)
    (traffic : Traffic) :
    commandRound controller writeBMouse arg (tries, traffic) =
      handleRound tries (mouseRound controller arg traffic) := by
  rw [commandRound, mouseRound]
  rcases kbcWriteCommand controller writeBMouse traffic with ⟨_ | ⟨⟩, written⟩
  · rfl
  · simp only [if_true]
    rcases mouseWriteCommand controller arg written with ⟨_ | ans, after⟩ <;> rfl

/-- A round that does not stop the loop, while there are tries left: only a NACK counts. -/
theorem handleRound_goesOn {round : Round} {tries : Nat} (after : Traffic)
    (stays : round.stops = false)
    (few : tries + (if round = .answered nack then 1 else 0) < 3) :
    handleRound tries (round, after) =
      .inl (tries + if round = .answered nack then 1 else 0, after) := by
  cases round with
  | unsent => cases stays
  | unanswered => cases stays
  | answered ans =>
    simp only [Round.stops, decide_eq_false_iff_not, not_or] at stays
    simp only [Round.answered.injEq] at few ⊢
    rw [handleRound, handleAnswer, if_neg stays.1]
    by_cases again : ans = nack
    · simp only [if_pos again] at few ⊢
      exact if_pos few
    · simp only [if_neg again, if_neg stays.2] at few ⊢
      exact if_pos few

/-- A round that stops the loop. -/
theorem handleRound_stops {round : Round} (tries : Nat) (after : Traffic)
    (stops : round.stops = true) :
    handleRound tries (round, after) = .inr (if round = .answered ack then 0 else 1, after) := by
  cases round with
  | unsent => rfl
  | unanswered => rfl
  | answered ans =>
    simp only [Round.stops, decide_eq_true_eq] at stops
    obtain rfl | rfl := stops <;> rfl

/-- The rounds before the `n`-th all go on. -/
def AllGoOn (rounds : Nat → Round) (n : Nat) : Prop := ∀ m < n, (rounds m).stops = false

/-- How many of the first `n` rounds are answered with NACK. -/
def nacks (rounds : Nat → Round) (n : Nat) : Nat :=
  (List.range n).countP fun m => rounds m = .answered nack

theorem nacks_succ (rounds : Nat → Round) (n : Nat) :
    nacks rounds (n + 1) = nacks rounds n + if rounds n = .answered nack then 1 else 0 := by
  unfold nacks
  rw [List.range_succ, List.countP_append, List.countP_singleton]
  simp only [decide_eq_true_eq]

theorem nacks_le (rounds : Nat → Round) (n : Nat) : nacks rounds n ≤ n :=
  List.countP_le_length.trans (Nat.le_of_eq List.length_range)

/-- All were NACKs only if they are as many. -/
theorem nacks_lt {rounds : Nat → Round} {n : Nat}
    (other : ¬ ∀ m < n, rounds m = .answered nack) : nacks rounds n < n := by
  refine lt_of_le_of_ne (nacks_le rounds n) fun all => other fun m early => ?_
  have every := List.countP_eq_length.mp (all.trans List.length_range.symm) m (List.mem_range.mpr early)
  exact decide_eq_true_eq.mp every

variable {controller : Controller} {arg : UInt32}

/-- **The rounds before the first that stops** bring the loop to it, with their NACKs as the tries. -/
theorem reaches {n : Nat} (goOn : AllGoOn (mouseRounds controller arg) n)
    (few : nacks (mouseRounds controller arg) n < 3) (result : Int × Traffic) :
    Loops.Returns (commandRound controller writeBMouse arg) (0, .none) result ↔
      Loops.Returns (commandRound controller writeBMouse arg)
        (nacks (mouseRounds controller arg) n, beforeRound controller arg n) result := by
  induction n with
  | zero => exact Iff.rfl
  | succ n ih =>
    have counted := nacks_succ (mouseRounds controller arg) n
    have before : nacks (mouseRounds controller arg) n < 3 := by omega
    rw [ih (fun m early => goOn m (Nat.lt_succ_of_lt early)) before]
    refine Loops.returns_goesOn ?_
    rw [commandRound_mouse, counted]
    exact handleRound_goesOn _ (goOn n (Nat.lt_succ_self n)) (counted ▸ few)

/-- The replies read are the answers of the first `n` rounds. -/
def AnswersOf (rounds : Nat → Round) (n : Nat) (replies : List UInt8) : Prop :=
  replies.map Round.answered = (List.range n).map rounds

theorem AnswersOf.length {rounds : Nat → Round} {n : Nat} {replies : List UInt8}
    (same : AnswersOf rounds n replies) : replies.length = n := by
  have lengths := congrArg List.length same
  rwa [List.length_map, List.length_map, List.length_range] at lengths

/-- One more answer. -/
theorem AnswersOf.snoc {rounds : Nat → Round} {n : Nat} {replies : List UInt8} {ans : UInt8}
    (same : AnswersOf rounds n replies) (last : rounds n = .answered ans) :
    AnswersOf rounds (n + 1) (replies ++ [ans]) := by
  unfold AnswersOf
  rw [List.map_append, same, List.range_succ, List.map_append, List.map_singleton,
    List.map_singleton, last]

/-- The reply at an index. -/
theorem AnswersOf.getElem? {rounds : Nat → Round} {n : Nat} {replies : List UInt8}
    (same : AnswersOf rounds n replies) (m : Nat) (ans : UInt8) :
    replies[m]? = some ans ↔ m < n ∧ rounds m = .answered ans := by
  have shown := congrArg (·[m]?) same
  simp only [List.getElem?_map] at shown
  by_cases early : m < n
  · rw [List.getElem?_range early] at shown
    constructor
    · intro read
      rw [read] at shown
      exact ⟨early, (Option.some.inj shown).symm⟩
    · rintro ⟨-, answered⟩
      rw [Option.map_some, answered, Option.map_eq_some_iff] at shown
      obtain ⟨other, read, equal⟩ := shown
      exact read.trans (congrArg some (Round.answered.inj equal))
  · rw [List.getElem?_eq_none (by rw [same.length]; omega)]
    exact ⟨nofun, fun read => absurd read.1 early⟩

/-- One of the replies is ACK, and every earlier one asked for a retry. -/
def AckedInTime (replies : List UInt8) : Prop :=
  ∃ index : Nat, replies[index]? = some ack ∧ ∀ m : Nat, m < index → replies[m]? = some nack

theorem AnswersOf.ackedInTime_iff {rounds : Nat → Round} {n : Nat} {replies : List UInt8}
    (same : AnswersOf rounds n replies) :
    AckedInTime replies ↔
      ∃ index < n, rounds index = .answered ack ∧ ∀ m < index, rounds m = .answered nack := by
  constructor
  · rintro ⟨index, acked, asked⟩
    obtain ⟨early, answered⟩ := (same.getElem? index ack).mp acked
    exact ⟨index, early, answered, fun m before => ((same.getElem? m nack).mp (asked m before)).2⟩
  · rintro ⟨index, early, acked, asked⟩
    exact ⟨index, (same.getElem? index ack).mpr ⟨early, acked⟩,
      fun m before => (same.getElem? m nack).mpr ⟨before.trans early, asked m before⟩⟩

/-- **Rounds that all go on**: a command and a reply each. -/
theorem beforeRound_traffic {n : Nat} (goOn : AllGoOn (mouseRounds controller arg) n) :
    commandsSent (beforeRound controller arg n) = n ∧
      AnswersOf (mouseRounds controller arg) n (beforeRound controller arg n).replies := by
  induction n with
  | zero => exact ⟨rfl, rfl⟩
  | succ n ih =>
    obtain ⟨sent, same⟩ := ih fun m early => goOn m (Nat.lt_succ_of_lt early)
    have stays := goOn n (Nat.lt_succ_self n)
    rw [beforeRound]
    obtain ⟨after, ⟨round, -⟩ | ⟨round, -⟩ | ⟨ans, round, one, read⟩⟩ :=
      mouseRound_traffic controller arg (beforeRound controller arg n)
    · rw [mouseRounds, round] at stays
      cases stays
    · rw [mouseRounds, round] at stays
      cases stays
    · rw [round]
      refine ⟨by rw [one, sent], ?_⟩
      rw [read]
      exact same.snoc (by rw [mouseRounds, round])

/-- The round after them. -/
theorem lastRound_traffic {n : Nat} (goOn : AllGoOn (mouseRounds controller arg) n) :
    commandsSent (beforeRound controller arg (n + 1)) ≤ n + 1 ∧
      ∃ read ≤ n + 1, (∀ ans, mouseRounds controller arg n = .answered ans → read = n + 1) ∧
        AnswersOf (mouseRounds controller arg) read (beforeRound controller arg (n + 1)).replies := by
  obtain ⟨sent, same⟩ := beforeRound_traffic goOn
  rw [beforeRound]
  obtain ⟨after, ⟨round, none, kept⟩ | ⟨round, one, kept⟩ | ⟨ans, round, one, read⟩⟩ :=
    mouseRound_traffic controller arg (beforeRound controller arg n)
  · refine ⟨by rw [round, none]; omega, n, Nat.le_succ n, fun ans answered => ?_, ?_⟩
    · rw [mouseRounds, round] at answered
      cases answered
    · rw [round, kept]
      exact same
  · refine ⟨by rw [round, one, sent], n, Nat.le_succ n, fun ans answered => ?_, ?_⟩
    · rw [mouseRounds, round] at answered
      cases answered
    · rw [round, kept]
      exact same
  · refine ⟨by rw [round, one, sent], n + 1, le_rfl, fun _ _ => rfl, ?_⟩
    rw [round, read]
    exact same.snoc (by rw [mouseRounds, round])

/-! ### The contract -/

/-- **The contract of `kbc_command_handler`**: it returns, sends the command at most three times, and for
`WRITE_B_MOUSE` returns 0 if and only if one of at most three replies is ACK, after retries only. -/
def HandlerMeets (controller : Controller) (cmd arg : UInt32) : Prop :=
  ∃ fuel code traffic, kbcCommandHandler controller cmd arg fuel = some (code, traffic) ∧
    commandsSent traffic ≤ 3 ∧
    (cmd = writeBMouse →
      traffic.replies.length ≤ 3 ∧ (code = 0 ↔ AckedInTime traffic.replies))

/-- The contract of a call whose return is known. -/
theorem handlerMeets_of_returns {cmd : UInt32} {code : Int} {traffic : Traffic}
    (returns : Loops.Returns (commandRound controller cmd arg) (0, .none) (code, traffic)) :
    HandlerMeets controller cmd arg ↔
      commandsSent traffic ≤ 3 ∧
        (cmd = writeBMouse →
          traffic.replies.length ≤ 3 ∧ (code = 0 ↔ AckedInTime traffic.replies)) := by
  constructor
  · rintro ⟨fuel, code', traffic', ran, meets⟩
    obtain ⟨rfl, rfl⟩ := Prod.mk.inj (Loops.Returns.unique returns ⟨fuel, ran⟩)
    exact meets
  · intro meets
    obtain ⟨fuel, ran⟩ := returns
    exact ⟨fuel, code, traffic, ran, meets⟩

/-- **One round sends one command**, or none where the controller does not take it. -/
theorem commandRound_sends (controller : Controller) (cmd arg : UInt32) (tries : Nat)
    (traffic : Traffic) :
    ∃ after, commandsSent after = commandsSent traffic +
        (if (kbcWriteCommand controller cmd traffic).1.isSome then 1 else 0) ∧
      ((∃ next, commandRound controller cmd arg (tries, traffic) = .inl (next, after)) ∨
        ∃ code, commandRound controller cmd arg (tries, traffic) = .inr (code, after)) := by
  obtain ⟨written, -, ⟨unsent, same⟩ | ⟨sends, one⟩⟩ :=
    kbcWriteCommand_cases controller cmd traffic
  · exact ⟨written, by rw [unsent, same]; rfl, .inr ⟨1, by rw [commandRound, unsent]⟩⟩
  · rw [sends, Option.isSome_some, if_pos rfl, ← one, commandRound, sends]
    simp only
    split
    · obtain ⟨after, kept, ⟨unanswered, -⟩ | ⟨ans, answered, -⟩⟩ :=
        mouseWriteCommand_cases controller arg written
      · exact ⟨after, kept, .inr ⟨1, by rw [unanswered]⟩⟩
      · rw [answered]
        unfold handleAnswer whileTries
        refine ⟨after, kept, ?_⟩
        simp only
        split_ifs
        all_goals first | exact .inl ⟨_, rfl⟩ | exact .inr ⟨_, rfl⟩
    · split
      · refine ⟨(kbcWriteArgument controller arg written).2,
          commandsSent_kbcWriteArgument controller arg written, .inr ?_⟩
        rcases kbcWriteArgument controller arg written with ⟨_ | ⟨⟩, after⟩
        · exact ⟨1, rfl⟩
        · exact ⟨0, rfl⟩
      · unfold whileTries
        refine ⟨written, rfl, ?_⟩
        split_ifs
        · exact .inl ⟨tries, rfl⟩
        · exact .inr ⟨1, rfl⟩

/-- What was sent stays sent. -/
theorem commandsSent_le {cmd : UInt32} {tries : Nat} {traffic : Traffic} {result : Int × Traffic}
    (returns : Loops.Returns (commandRound controller cmd arg) (tries, traffic) result) :
    commandsSent traffic ≤ commandsSent result.2 := by
  refine returns.post (P := fun state => commandsSent traffic ≤ commandsSent state.2)
    (Q := fun result => commandsSent traffic ≤ commandsSent result.2)
    (fun state next holds goesOn => ?_) (fun state result holds ends => ?_) le_rfl
  · obtain ⟨after, sent, ⟨tries', goes⟩ | ⟨code, ends⟩⟩ :=
      commandRound_sends controller cmd arg state.1 state.2
    · cases Sum.inl.inj (goes.symm.trans goesOn)
      exact holds.trans (by rw [sent]; omega)
    · cases ends.symm.trans goesOn
  · obtain ⟨after, sent, ⟨tries', goes⟩ | ⟨code, same⟩⟩ :=
      commandRound_sends controller cmd arg state.1 state.2
    · cases goes.symm.trans ends
    · cases Sum.inr.inj (same.symm.trans ends)
      exact holds.trans (by rw [sent]; omega)

/-- A command sent once more than what was sent. -/
theorem commandsSent_lt {cmd : UInt32} {tries : Nat} {traffic : Traffic} {result : Int × Traffic}
    (sends : (kbcWriteCommand controller cmd traffic).1.isSome = true)
    (returns : Loops.Returns (commandRound controller cmd arg) (tries, traffic) result) :
    commandsSent traffic < commandsSent result.2 := by
  obtain ⟨after, sent, ⟨next, goes⟩ | ⟨code, ends⟩⟩ :=
    commandRound_sends controller cmd arg tries traffic
  · have kept := commandsSent_le ((Loops.returns_goesOn goes).mp returns)
    rw [sent, if_pos sends] at kept
    exact kept
  · rw [(Loops.returns_done ends).mp returns, sent, if_pos sends]
    exact Nat.lt_succ_self _

/-- A fourth command breaks the contract. -/
theorem not_handlerMeets_of_fourth {cmd : UInt32} {tries : Nat} {traffic : Traffic}
    (reached : ∀ result, Loops.Returns (commandRound controller cmd arg) (0, .none) result ↔
      Loops.Returns (commandRound controller cmd arg) (tries, traffic) result)
    (three : commandsSent traffic = 3)
    (sends : (kbcWriteCommand controller cmd traffic).1.isSome = true) :
    ¬ HandlerMeets controller cmd arg := by
  rintro ⟨fuel, code, last, ran, few, -⟩
  have more := commandsSent_lt sends ((reached _).mp ⟨fuel, ran⟩)
  simp only at more
  omega

/-! ### For the mouse -/

/-- The mouse's rounds let the handler meet its contract: one of the first three stops the loop, an ACK
after NACKs only; or the three are NACKs; or the controller does not take the fourth command. -/
def MouseAnswers (rounds : Nat → Round) : Prop :=
  (∃ n < 3, AllGoOn rounds n ∧ (rounds n).stops = true ∧
    (rounds n = .answered ack → ∀ m < n, rounds m = .answered nack)) ∨
  (AllGoOn rounds 3 ∧ ((∀ m < 3, rounds m = .answered nack) ∨ rounds 3 = .unsent))

theorem AllGoOn.not_acked {rounds : Nat → Round} {n m : Nat} (goOn : AllGoOn rounds n)
    (early : m < n) : rounds m ≠ .answered ack := by
  intro acked
  have stays := goOn m early
  rw [acked] at stays
  cases stays

/-- Rounds that all go on have no ACK among their replies. -/
theorem AllGoOn.not_ackedInTime {rounds : Nat → Round} {n : Nat} {replies : List UInt8}
    (goOn : AllGoOn rounds n) (same : AnswersOf rounds n replies) : ¬ AckedInTime replies := by
  rw [same.ackedInTime_iff]
  rintro ⟨index, early, acked, -⟩
  exact goOn.not_acked early acked

/-- The round that stops the loop returns. -/
theorem returns_stops {n : Nat} (goOn : AllGoOn (mouseRounds controller arg) n)
    (few : nacks (mouseRounds controller arg) n < 3)
    (stops : (mouseRounds controller arg n).stops = true) :
    Loops.Returns (commandRound controller writeBMouse arg) (0, .none)
      (if mouseRounds controller arg n = .answered ack then 0 else 1,
        beforeRound controller arg (n + 1)) := by
  rw [reaches goOn few]
  refine (Loops.returns_done ?_).mpr rfl
  rw [commandRound_mouse]
  exact handleRound_stops _ _ stops

/-- **A stop in the first three rounds.** -/
theorem handlerMeets_of_stop {n : Nat} (early : n < 3)
    (goOn : AllGoOn (mouseRounds controller arg) n)
    (stops : (mouseRounds controller arg n).stops = true) :
    HandlerMeets controller writeBMouse arg ↔
      (mouseRounds controller arg n = .answered ack →
        ∀ m < n, mouseRounds controller arg m = .answered nack) := by
  have few := (nacks_le (mouseRounds controller arg) n).trans_lt early
  obtain ⟨sent, read, most, last, same⟩ := lastRound_traffic goOn
  have inTime : AckedInTime (beforeRound controller arg (n + 1)).replies ↔
      mouseRounds controller arg n = .answered ack ∧
        ∀ m < n, mouseRounds controller arg m = .answered nack := by
    rw [same.ackedInTime_iff]
    constructor
    · rintro ⟨index, before, acked, asked⟩
      obtain rfl : index = n := by
        by_contra other
        exact goOn.not_acked (by omega) acked
      exact ⟨acked, asked⟩
    · rintro ⟨acked, asked⟩
      exact ⟨n, by rw [last ack acked]; omega, acked, asked⟩
  have code : (if mouseRounds controller arg n = .answered ack then (0 : Int) else 1) = 0 ↔
      mouseRounds controller arg n = .answered ack := by
    split_ifs with acked <;> simp [acked]
  rw [handlerMeets_of_returns (returns_stops goOn few stops), inTime, code, same.length]
  constructor
  · intro meets acked
    exact (((meets.2 rfl).2).mp acked).2
  · intro retried
    exact ⟨by omega, fun _ => ⟨by omega, fun acked => ⟨acked, retried acked⟩, And.left⟩⟩

/-- **Three NACKs** are the last try. -/
theorem handlerMeets_of_nacks
    (asked : ∀ m < 3, mouseRounds controller arg m = .answered nack) :
    HandlerMeets controller writeBMouse arg := by
  have goOn : AllGoOn (mouseRounds controller arg) 3 := fun m early => by rw [asked m early]; rfl
  obtain ⟨sent, same⟩ := beforeRound_traffic goOn
  have two : nacks (mouseRounds controller arg) 2 = 2 := by
    rw [nacks_succ, nacks_succ, asked 0 (by omega), asked 1 (by omega)]
    rfl
  have returns : Loops.Returns (commandRound controller writeBMouse arg) (0, .none)
      (1, beforeRound controller arg 3) := by
    rw [reaches (fun m early => goOn m (by omega)) (two.trans_lt (by omega)), two]
    refine (Loops.returns_done ?_).mpr rfl
    rw [commandRound_mouse]
    show handleRound 2 (mouseRounds controller arg 2, beforeRound controller arg 3) = _
    rw [asked 2 (by omega)]
    rfl
  rw [handlerMeets_of_returns returns, sent, same.length]
  exact ⟨le_rfl, fun _ => ⟨le_rfl, nofun, fun acked => absurd acked (goOn.not_ackedInTime same)⟩⟩

/-- A round is not sent only if the controller does not take the command. -/
theorem mouseRounds_unsent_iff (n : Nat) :
    mouseRounds controller arg n = .unsent ↔
      ¬ (kbcWriteCommand controller writeBMouse (beforeRound controller arg n)).1.isSome = true := by
  rw [mouseRounds, mouseRound]
  rcases kbcWriteCommand controller writeBMouse (beforeRound controller arg n) with ⟨_ | ⟨⟩, written⟩
  · exact ⟨fun _ => nofun, fun _ => rfl⟩
  · simp only
    rcases mouseWriteCommand controller arg written with ⟨_ | ans, after⟩
    · exact ⟨nofun, fun unsent => absurd rfl unsent⟩
    · exact ⟨nofun, fun unsent => absurd rfl unsent⟩

/-- **Three rounds that go on, not all with NACK.** -/
theorem handlerMeets_of_goOn (goOn : AllGoOn (mouseRounds controller arg) 3)
    (other : ¬ ∀ m < 3, mouseRounds controller arg m = .answered nack) :
    HandlerMeets controller writeBMouse arg ↔ mouseRounds controller arg 3 = .unsent := by
  obtain ⟨sent, same⟩ := beforeRound_traffic goOn
  have few := nacks_lt other
  constructor
  · intro meets
    by_contra sends
    rw [mouseRounds_unsent_iff, not_not] at sends
    exact not_handlerMeets_of_fourth (reaches goOn few) sent sends meets
  · intro unsent
    have returns := returns_stops goOn few (by rw [unsent]; rfl)
    rw [unsent, if_neg nofun] at returns
    obtain ⟨after, ⟨round, none, kept⟩ | ⟨round, -⟩ | ⟨ans, round, -⟩⟩ :=
      mouseRound_traffic controller arg (beforeRound controller arg 3)
    · rw [handlerMeets_of_returns returns, beforeRound, round, none, kept, sent, same.length]
      exact ⟨le_rfl, fun _ => ⟨le_rfl, nofun, fun acked => absurd acked (goOn.not_ackedInTime same)⟩⟩
    · rw [mouseRounds, round] at unsent
      cases unsent
    · rw [mouseRounds, round] at unsent
      cases unsent

/-- The contract for `WRITE_B_MOUSE`. -/
theorem handlerMeets_mouse_iff :
    HandlerMeets controller writeBMouse arg ↔ MouseAnswers (mouseRounds controller arg) := by
  by_cases stop : ∃ n < 3, (mouseRounds controller arg n).stops = true
  · obtain ⟨n, ⟨early, stops⟩, first⟩ := Nat.findX stop
    have goOn : AllGoOn (mouseRounds controller arg) n := fun m before =>
      Bool.not_eq_true _ ▸ fun stops => first m before ⟨before.trans early, stops⟩
    rw [handlerMeets_of_stop early goOn stops]
    constructor
    · intro retried
      exact .inl ⟨n, early, goOn, stops, retried⟩
    · rintro (⟨n', early', goOn', stops', retried⟩ | ⟨goOn', -⟩)
      · obtain rfl : n' = n := by
          by_contra other
          rcases lt_or_gt_of_ne other with before | after
          · rw [goOn n' before] at stops'
            cases stops'
          · rw [goOn' n after] at stops
            cases stops
        exact retried
      · rw [goOn' n early] at stops
        cases stops
  · have goOn : AllGoOn (mouseRounds controller arg) 3 := fun m early =>
      Bool.not_eq_true _ ▸ fun stops => stop ⟨m, early, stops⟩
    by_cases asked : ∀ m < 3, mouseRounds controller arg m = .answered nack
    · exact iff_of_true (handlerMeets_of_nacks asked) (.inr ⟨goOn, .inl asked⟩)
    · rw [handlerMeets_of_goOn goOn asked]
      constructor
      · intro unsent
        exact .inr ⟨goOn, .inr unsent⟩
      · rintro (⟨n, early, -, stops, -⟩ | ⟨-, asked' | unsent⟩)
        · exact absurd ⟨n, early, stops⟩ stop
        · exact absurd asked' asked
        · exact unsent

/-! ### For the other commands -/

/-- The traffic before the `n`-th command, when the commands are sent one after the other. -/
def beforeSend (controller : Controller) (cmd : UInt32) : Nat → Traffic
  | 0 => .none
  | n + 1 => (kbcWriteCommand controller cmd (beforeSend controller cmd n)).2

/-- The controller takes the `n`-th of these commands. -/
def sends (controller : Controller) (cmd : UInt32) (n : Nat) : Bool :=
  (kbcWriteCommand controller cmd (beforeSend controller cmd n)).1.isSome

theorem commandRound_other {cmd : UInt32} (mouse : cmd ≠ writeBMouse) (byte : cmd ≠ writeCmdB)
    (traffic : Traffic) :
    commandRound controller cmd arg (0, traffic) =
      if (kbcWriteCommand controller cmd traffic).1.isSome then
        .inl (0, (kbcWriteCommand controller cmd traffic).2)
      else .inr (1, (kbcWriteCommand controller cmd traffic).2) := by
  rw [commandRound]
  rcases kbcWriteCommand controller cmd traffic with ⟨_ | ⟨⟩, written⟩
  · rfl
  · simp only [if_neg mouse, if_neg byte]
    rfl

/-- As long as the controller takes the command, it is sent again. -/
theorem reaches_send {cmd : UInt32} (arg : UInt32) (mouse : cmd ≠ writeBMouse)
    (byte : cmd ≠ writeCmdB) {n : Nat} (taken : ∀ m < n, sends controller cmd m = true) :
    commandsSent (beforeSend controller cmd n) = n ∧
      ∀ result, Loops.Returns (commandRound controller cmd arg) (0, .none) result ↔
        Loops.Returns (commandRound controller cmd arg) (0, beforeSend controller cmd n) result := by
  induction n with
  | zero => exact ⟨rfl, fun _ => Iff.rfl⟩
  | succ n ih =>
    obtain ⟨sent, reached⟩ := ih fun m early => taken m (Nat.lt_succ_of_lt early)
    have last : (kbcWriteCommand controller cmd (beforeSend controller cmd n)).1.isSome = true :=
      taken n (Nat.lt_succ_self n)
    constructor
    · obtain ⟨written, -, ⟨unsent, -⟩ | ⟨sends, one⟩⟩ :=
        kbcWriteCommand_cases controller cmd (beforeSend controller cmd n)
      · rw [unsent] at last
        cases last
      · rw [beforeSend, sends, one, sent]
    · intro result
      rw [reached]
      refine Loops.returns_goesOn ?_
      rw [commandRound_other mouse byte, if_pos last, beforeSend]

/-- **The contract for a command the handler does not know**: only a refusal ends it. -/
theorem handlerMeets_other_iff {cmd : UInt32} (mouse : cmd ≠ writeBMouse)
    (byte : cmd ≠ writeCmdB) :
    HandlerMeets controller cmd arg ↔ ∃ n < 4, sends controller cmd n = false := by
  by_cases refused : ∃ n < 4, sends controller cmd n = false
  · refine iff_of_true ?_ refused
    obtain ⟨n, ⟨early, refuses⟩, first⟩ := Nat.findX refused
    have taken : ∀ m < n, sends controller cmd m = true := fun m before =>
      Bool.not_eq_false _ ▸ fun refuses => first m before ⟨before.trans early, refuses⟩
    obtain ⟨sent, reached⟩ := reaches_send arg mouse byte taken
    have returns : Loops.Returns (commandRound controller cmd arg) (0, .none)
        (1, beforeSend controller cmd (n + 1)) := by
      rw [reached]
      refine (Loops.returns_done ?_).mpr rfl
      rw [commandRound_other mouse byte]
      exact if_neg (Bool.not_eq_true _ ▸ refuses)
    rw [handlerMeets_of_returns returns]
    refine ⟨?_, fun same => absurd same mouse⟩
    obtain ⟨written, -, ⟨unsent, same⟩ | ⟨taken, -⟩⟩ :=
      kbcWriteCommand_cases controller cmd (beforeSend controller cmd n)
    · rw [beforeSend, unsent, same, sent]
      omega
    · unfold sends at refuses
      rw [taken] at refuses
      cases refuses
  · refine iff_of_false ?_ refused
    have taken : ∀ m < 4, sends controller cmd m = true := fun m early =>
      Bool.not_eq_false _ ▸ fun refuses => refused ⟨m, early, refuses⟩
    obtain ⟨sent, reached⟩ :=
      reaches_send arg mouse byte (n := 3) fun m early => taken m (by omega)
    exact not_handlerMeets_of_fourth reached sent (taken 3 (by omega))

/-- The first round for `WRITE_CMD_B` returns. -/
theorem commandRound_byte_ne (state next : Nat × Traffic) :
    commandRound controller writeCmdB arg state ≠ .inl next := by
  obtain ⟨tries, traffic⟩ := state
  rw [commandRound]
  rcases kbcWriteCommand controller writeCmdB traffic with ⟨_ | ⟨⟩, written⟩
  · exact nofun
  · simp only
    rw [if_neg (by decide), if_pos trivial]
    rcases kbcWriteArgument controller arg written with ⟨_ | ⟨⟩, after⟩
    · exact nofun
    · exact nofun

/-- **The contract for `WRITE_CMD_B`** always holds. -/
theorem handlerMeets_byte : HandlerMeets controller writeCmdB arg := by
  obtain ⟨after, sent, ⟨next, goes⟩ | ⟨code, ends⟩⟩ :=
    commandRound_sends controller writeCmdB arg 0 .none
  · exact absurd goes (commandRound_byte_ne _ _)
  · rw [handlerMeets_of_returns ((Loops.returns_done ends).mpr rfl), sent]
    refine ⟨?_, nofun⟩
    split_ifs
    · exact (by decide : commandsSent .none + 1 ≤ 3)
    · exact (by decide : commandsSent .none + 0 ≤ 3)

/-! ### The handler -/

/-- **When `kbc_command_handler` meets its contract**: for `WRITE_CMD_B` always, for `WRITE_B_MOUSE` as
the mouse answers, for any other command if one of the first four sends is refused. -/
theorem handler_meets_iff (controller : Controller) (cmd arg : UInt32) :
    HandlerMeets controller cmd arg ↔
      cmd = writeCmdB ∨ (cmd = writeBMouse ∧ MouseAnswers (mouseRounds controller arg)) ∨
        (cmd ≠ writeCmdB ∧ cmd ≠ writeBMouse ∧ ∃ n < 4, sends controller cmd n = false) := by
  by_cases byte : cmd = writeCmdB
  · subst byte
    exact iff_of_true handlerMeets_byte (.inl rfl)
  · by_cases mouse : cmd = writeBMouse
    · subst mouse
      rw [handlerMeets_mouse_iff]
      constructor
      · exact fun answers => .inr (.inl ⟨rfl, answers⟩)
      · rintro (same | ⟨-, answers⟩ | ⟨-, other, -⟩)
        · exact absurd same byte
        · exact answers
        · exact absurd rfl other
    · rw [handlerMeets_other_iff mouse byte]
      constructor
      · exact fun refused => .inr (.inr ⟨byte, mouse, refused⟩)
      · rintro (same | ⟨same, -⟩ | ⟨-, -, refused⟩)
        · exact absurd same byte
        · exact absurd same mouse
        · exact refused

/-- A mouse that answers 0 keeps the handler in its loop. -/
theorem not_handlerMeets_answering :
    ¬ HandlerMeets (.answering 0) writeBMouse mouseEnableReport := by
  rintro ⟨fuel, code, traffic, ran, -⟩
  refine Loops.never_returns (P := fun state => state.1 = 0) (fun state start => ?_) rfl ⟨fuel, ran⟩
  obtain ⟨tries, before⟩ := state
  cases start
  exact ⟨_, rfl, rfl⟩

end SpaceInvaders
