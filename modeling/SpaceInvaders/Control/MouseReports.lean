/-
**What the mouse means and what the test prints.**

A mouse reports its buttons, two displacements of nine bits and two overflow flags in three bytes. `Report`
is such a report, before it is put into bytes.

* `parse_bytes`: parsing gives back what was put into the bytes; `exists_report`: every packet that the test
  can print is a report;
* `frames_of_reports`: in a stream of reports the receiver finds each report, from the first one on;
* `reports_printed`: a run of the test prints the reports, complete and in their order, until it has `cnt`.
-/

import SpaceInvaders.Control.Packets

namespace SpaceInvaders

open Framing

/-! ### Reports -/

/-- A displacement of nine bits, sign included. -/
structure Displacement where
  distance : Int
  low : -256 ≤ distance
  high : distance < 256

/-- Its low byte. -/
def Displacement.byte (displacement : Displacement) : UInt8 :=
  UInt8.ofNat (displacement.distance % 256).toNat

/-- Its sign. -/
def Displacement.negative (displacement : Displacement) : Bool := decide (displacement.distance < 0)

/-- What the mouse has to say. -/
structure Report where
  lb : Bool
  rb : Bool
  mb : Bool
  dx : Displacement
  dy : Displacement
  xOv : Bool
  yOv : Bool

/-- A bit of the first byte. -/
def flag (set : Bool) (mask : UInt8) : UInt8 := if set then mask else 0

/-- The first byte of a report, whose bit 3 is always set. -/
def firstByte (lb rb mb xSign ySign xOv yOv : Bool) : UInt8 :=
  flag lb pkLb ||| flag rb pkRb ||| flag mb pkMb ||| pkBit3 ||| flag xSign pkXsign |||
    flag ySign pkYsign ||| flag xOv pkXovf ||| flag yOv pkYovf

/-- The three bytes of a report. -/
def Report.bytes (report : Report) : List UInt8 :=
  [firstByte report.lb report.rb report.mb report.dx.negative report.dy.negative report.xOv report.yOv,
    report.dx.byte, report.dy.byte]

/-- The packet that should be printed for a report. -/
def Report.packet (report : Report) : Packet where
  bytes := report.bytes
  rb := report.rb
  mb := report.mb
  lb := report.lb
  deltaX := Int16.ofInt report.dx.distance
  deltaY := Int16.ofInt report.dy.distance
  xOv := report.xOv
  yOv := report.yOv

/-! ### Parsing -/

/-- A displacement of 16 bits from a byte and a sign. -/
theorem movement_toInt (sign : Bool) (byte : UInt8) :
    (movement sign byte).toInt = (byte.toNat : Int) - if sign then 256 else 0 := by
  have small := byte.toNat_lt
  have signed (word : UInt16) : word.toInt16.toInt = (word.toNat : Int).bmod (2 ^ 16) := by
    rw [← Int16.toInt_toBitVec, UInt16.toBitVec_toInt16, BitVec.toInt_eq_toNat_bmod]
    rfl
  unfold movement
  cases sign with
  | false =>
    rw [if_neg Bool.false_ne_true, signed, if_neg Bool.false_ne_true, UInt8.toNat_toUInt16, Int.sub_zero]
    exact Int.bmod_eq_of_le (by omega) (by omega)
  | true =>
    have extended : byte.toNat ||| 0xFF00 = byte.toNat + 0xFF00 := by
      have apart := Nat.shiftLeft_add_eq_or_of_lt (i := 8) small 0xFF
      rw [Nat.or_comm, Nat.add_comm]
      exact apart.symm
    rw [if_pos rfl, signed, if_pos rfl, UInt16.toNat_or, UInt8.toNat_toUInt16]
    show ((byte.toNat ||| 0xFF00 : Nat) : Int).bmod (2 ^ 16) = _
    rw [extended, Int.bmod_def]
    omega

/-- A displacement is read back from its byte and its sign. -/
theorem movement_displacement (displacement : Displacement) :
    movement displacement.negative displacement.byte = Int16.ofInt displacement.distance := by
  obtain ⟨distance, low, high⟩ := displacement
  have byte : ((Displacement.byte ⟨distance, low, high⟩).toNat : Int) = distance % 256 := by
    show (((distance % 256).toNat % 2 ^ 8 : Nat) : Int) = _
    omega
  have word : (Int16.ofInt distance).toInt = distance := by
    rw [Int16.toInt_ofInt]
    exact Int.bmod_eq_of_le (by show -(65536 / 2 : Int) ≤ _; omega) (by show _ < (65536 + 1 : Int) / 2; omega)
  refine Int16.toInt_inj.mp ?_
  rw [movement_toInt, byte, word]
  by_cases negative : distance < 0
  · rw [if_pos (by exact decide_eq_true negative)]
    omega
  · rw [if_neg (by simpa [Displacement.negative] using negative)]
    omega

/-- The bits of a first byte are read back from it. -/
theorem firstByte_bits (lb rb mb xSign ySign xOv yOv : Bool) :
    let first := firstByte lb rb mb xSign ySign xOv yOv
    decide (first &&& pkLb ≠ 0) = lb ∧ decide (first &&& pkRb ≠ 0) = rb ∧
      decide (first &&& pkMb ≠ 0) = mb ∧ decide (first &&& pkBit3 ≠ 0) = true ∧
      decide (first &&& pkXsign ≠ 0) = xSign ∧ decide (first &&& pkYsign ≠ 0) = ySign ∧
      decide (first &&& pkXovf ≠ 0) = xOv ∧ decide (first &&& pkYovf ≠ 0) = yOv := by
  revert lb rb mb xSign ySign xOv yOv
  decide

/-- **Parsing gives back what was put into the bytes.** -/
theorem parse_bytes (report : Report) : mouseParsePacket report.bytes 3 = report.packet := by
  obtain ⟨lb, rb, mb, dx, dy, xOv, yOv⟩ := report
  obtain ⟨left, right, middle, _, xSign, ySign, xOver, yOver⟩ :=
    firstByte_bits lb rb mb dx.negative dy.negative xOv yOv
  unfold mouseParsePacket Report.packet
  simp only [Report.bytes, List.getD_cons_zero, List.getD_cons_succ, left, right, middle, xSign, ySign,
    xOver, yOver, movement_displacement]
  rfl

/-- A first byte is made of its bits. -/
theorem firstByte_of_bits {first : UInt8} (starts : pkStarts first) :
    firstByte (first &&& pkLb ≠ 0) (first &&& pkRb ≠ 0) (first &&& pkMb ≠ 0) (first &&& pkXsign ≠ 0)
      (first &&& pkYsign ≠ 0) (first &&& pkXovf ≠ 0) (first &&& pkYovf ≠ 0) = first := by
  have all : ∀ n < 256, pkStarts (UInt8.ofNat n) → firstByte (UInt8.ofNat n &&& pkLb ≠ 0)
      (UInt8.ofNat n &&& pkRb ≠ 0) (UInt8.ofNat n &&& pkMb ≠ 0) (UInt8.ofNat n &&& pkXsign ≠ 0)
      (UInt8.ofNat n &&& pkYsign ≠ 0) (UInt8.ofNat n &&& pkXovf ≠ 0)
      (UInt8.ofNat n &&& pkYovf ≠ 0) = UInt8.ofNat n := by
    decide +kernel
  have here := all first.toNat first.toNat_lt
  rw [UInt8.ofNat_toNat] at here
  exact here starts

/-- Every displacement byte, with either sign, is that of a displacement. -/
theorem exists_displacement (sign : Bool) (byte : UInt8) :
    ∃ displacement : Displacement, displacement.negative = sign ∧ displacement.byte = byte := by
  have small := byte.toNat_lt
  cases sign with
  | false =>
    refine ⟨⟨byte.toNat, by omega, by omega⟩, decide_eq_false (by dsimp only; omega), ?_⟩
    rw [← UInt8.toNat_inj]
    show ((byte.toNat : Int) % 256).toNat % 2 ^ 8 = byte.toNat
    omega
  | true =>
    refine ⟨⟨byte.toNat - 256, by omega, by omega⟩, decide_eq_true (by dsimp only; omega), ?_⟩
    rw [← UInt8.toNat_inj]
    show (((byte.toNat : Int) - 256) % 256).toNat % 2 ^ 8 = byte.toNat
    omega

/-- **Every packet is a report**: three bytes of which the first has bit 3 are the bytes of one. -/
theorem exists_report {first x y : UInt8} (starts : pkStarts first) :
    ∃ report : Report, report.bytes = [first, x, y] := by
  obtain ⟨dx, xSign, xByte⟩ := exists_displacement (first &&& pkXsign ≠ 0) x
  obtain ⟨dy, ySign, yByte⟩ := exists_displacement (first &&& pkYsign ≠ 0) y
  refine ⟨⟨first &&& pkLb ≠ 0, first &&& pkRb ≠ 0, first &&& pkMb ≠ 0, dx, dy,
    first &&& pkXovf ≠ 0, first &&& pkYovf ≠ 0⟩, ?_⟩
  rw [Report.bytes, xSign, ySign, xByte, yByte, firstByte_of_bits starts]

/-! ### Streams -/

theorem Report.starts (report : Report) : ∃ first x y, report.bytes = [first, x, y] ∧ pkStarts first := by
  obtain ⟨lb, rb, mb, dx, dy, xOv, yOv⟩ := report
  exact ⟨_, _, _, rfl, (firstByte_bits lb rb mb dx.negative dy.negative xOv yOv).2.2.2.1⟩

/-- The bytes of a report are a frame. -/
theorem Report.frame (report : Report) : Frame pkStarts pkComplete report.bytes := by
  obtain ⟨first, x, y, bytes, starts⟩ := report.starts
  rw [bytes]
  refine ⟨by simp, fun other rest same => ?_, rfl, fun beginning within _ done => ?_⟩
  · obtain ⟨rfl, -⟩ := List.cons.inj same
    exact starts
  · exact within.eq_of_length (of_decide_eq_true done)

/-- Every frame is the bytes of a report. -/
theorem exists_report_of_frame {symbols : List UInt8} (frame : Frame pkStarts pkComplete symbols) :
    ∃ report : Report, report.bytes = symbols := by
  obtain ⟨first, x, y, rfl⟩ := List.length_eq_three.mp (of_decide_eq_true frame.completed)
  exact exists_report (frame.begins first [x, y] rfl)

/-- Less than three bytes of a report are the beginning of one. -/
theorem Report.beginning (report : Report) {n : Nat} (short : n < 3) :
    Beginning pkStarts pkComplete (report.bytes.take n) := by
  obtain ⟨first, x, y, bytes, starts⟩ := report.starts
  rw [bytes]
  refine ⟨fun other rest same => ?_, fun beginning within _ done => ?_⟩
  · cases n with
    | zero => cases same
    | succ n =>
      obtain ⟨rfl, -⟩ := List.cons.inj same
      exact starts
  · have length := within.length_le
    rw [List.length_take, of_decide_eq_true done] at length
    omega

/-- The first bytes of a stream of reports are whole reports, and the beginning of one. -/
theorem take_reports {reports : List Report} {n : Nat} (enough : n ≤ 3 * reports.length) :
    ∃ pending, (reports.flatMap Report.bytes).take n =
        (reports.take (n / 3)).flatMap Report.bytes ++ pending ∧
      Beginning pkStarts pkComplete pending := by
  induction reports generalizing n with
  | nil =>
    obtain rfl : n = 0 := Nat.le_zero.mp enough
    exact ⟨[], rfl, beginning_nil⟩
  | cons report reports ih =>
    have three : report.bytes.length = 3 := rfl
    by_cases short : n < 3
    · refine ⟨report.bytes.take n, ?_, report.beginning short⟩
      rw [List.flatMap_cons, List.take_append_of_le_length (by omega), Nat.div_eq_of_lt short]
      rfl
    · obtain ⟨rest, rfl⟩ := Nat.exists_eq_add_of_le (Nat.le_of_not_lt short)
      rw [List.length_cons] at enough
      obtain ⟨pending, taken, beginning⟩ := @ih rest (by omega)
      refine ⟨pending, ?_, beginning⟩
      have count : (3 + rest) / 3 = rest / 3 + 1 := by omega
      rw [List.flatMap_cons, count, List.take_succ_cons, List.flatMap_cons, List.append_assoc, ← taken]
      exact three ▸ List.take_length_add_append rest

/-- **In a stream of reports the receiver finds the reports**, behind bytes without bit 3. -/
theorem frames_of_reports {noise : List UInt8} (quiet : ∀ byte ∈ noise, ¬ pkStarts byte)
    {reports : List Report} {n : Nat} (enough : n ≤ noise.length + 3 * reports.length) :
    (cut pkStarts pkComplete ((noise ++ reports.flatMap Report.bytes).take n)).1 =
      (reports.take ((n - noise.length) / 3)).map Report.bytes := by
  have blocks (reports : List Report) : (reports.flatMap Report.bytes).foldl (push pkStarts pkComplete)
      ([], []) = (reports.map Report.bytes, []) := by
    have each := @foldl_blocks _ pkStarts pkComplete [] (reports.map fun report => ([], report.bytes))
      (fun block member => by
        obtain ⟨report, _, rfl⟩ := List.mem_map.mp member
        exact ⟨fun _ none => (nomatch none), report.frame⟩)
    rw [List.flatMap_map, List.map_map] at each
    exact each
  rw [List.take_append]
  obtain ⟨pending, taken, beginning⟩ := take_reports (show n - noise.length ≤ 3 * reports.length by omega)
  rw [taken, cut, List.foldl_append, foldl_skipped [] fun byte member =>
    quiet byte (List.mem_of_mem_take member), List.foldl_append, blocks, foldl_beginning _ beginning]

/-! ### Runs -/

/-- The controller has the bytes of the stream ready without errors, one at each interrupt. -/
def Sends (controller : Controller) (stream : List UInt8) : Prop :=
  ∀ n < stream.length, ∃ status output, controller.status n = some status ∧
    (status.toUInt8 &&& kbcOutb ≠ 0 ∧ status.toUInt8 &&& (kbcPare ||| kbcTimeo) = 0) ∧
    controller.output n = some output ∧ stream[n]? = some output.toUInt8

/-- The test has read so many bytes of the stream. -/
structure HasRead (stream : List UInt8) (count : Nat) (traffic : Traffic) : Prop where
  status : traffic.statusReads = count
  output : traffic.outputReads = count
  replies : traffic.replies = stream.take count

/-- One more byte. -/
theorem mouseRead_sends {controller : Controller} {stream : List UInt8} (sends : Sends controller stream)
    {count : Nat} (more : count < stream.length) {traffic : Traffic}
    (before : HasRead stream count traffic) :
    (mouseRead controller traffic).1.isSome ∧
      HasRead stream (count + 1) (mouseRead controller traffic).2 := by
  obtain ⟨status, output, answers, ready, sent, byte⟩ := sends count more
  obtain ⟨statusReads, outputReads, replies⟩ := before
  have checked : kbcCheckOutBuf controller traffic =
      (true, { traffic with statusReads := traffic.statusReads + 1 }) := by
    unfold kbcCheckOutBuf kbcReadStatus
    rw [statusReads, answers]
    exact Prod.ext (decide_eq_true ready) rfl
  unfold mouseRead kbcReadBuffer
  rw [checked]
  simp only [outputReads, sent]
  refine ⟨rfl, by rw [statusReads], rfl, ?_⟩
  rw [replies, List.take_add_one, byte]
  rfl

/-- The number of mouse interrupts in a sequence of messages. -/
def interrupts (receives : List MouseReceive) : Nat :=
  (receives.map fun receive => match receive with
    | .interrupt => 1
    | _ => 0).sum

theorem packetLoop_keeps (calls : MouseCalls) (cnt : UInt32) (test : MouseTest) :
    (packetLoop calls cnt test).traffic = test.traffic := by
  unfold packetLoop
  split <;> rfl

/-- What is known of the test behind so many interrupts. -/
def ReadSoFar (calls : MouseCalls) (cnt : UInt32) (stream : List UInt8) (count : Nat)
    (test : MouseTest) : Prop :=
  Assembled calls cnt test ∧ ∃ read ≤ count, (test.control = .looping → read = count) ∧
    HasRead stream read test.traffic

/-- One message. -/
theorem ReadSoFar.step {controller : Controller} {calls : MouseCalls} {cnt : UInt32}
    {stream : List UInt8} (sends : Sends controller stream) {count : Nat} {test : MouseTest}
    (soFar : ReadSoFar calls cnt stream count test) (receive : MouseReceive)
    (enough : count + interrupts [receive] ≤ stream.length) :
    ReadSoFar calls cnt stream (count + interrupts [receive])
      (packetStep controller calls cnt test receive) := by
  obtain ⟨assembled, read, atMost, looping, hasRead⟩ := soFar
  cases place : test.control with
  | returned code =>
    have same : packetStep controller calls cnt test receive = test := by
      unfold packetStep
      rw [place]
    rw [same]
    exact ⟨assembled, read, by omega, fun again => (nomatch place.symm.trans again), hasRead⟩
  | looping =>
    obtain rfl := looping place
    cases receive with
    | failed =>
      refine ⟨assembled.step fun _ same => (nomatch same), read, Nat.le_refl _, fun _ => rfl, ?_⟩
      unfold packetStep
      rw [place]
      exact (packetLoop_keeps calls cnt test).symm ▸ hasRead
    | ignored =>
      refine ⟨assembled.step fun _ same => (nomatch same), read, Nat.le_refl _, fun _ => rfl, ?_⟩
      unfold packetStep
      rw [place]
      exact (packetLoop_keeps calls cnt test).symm ▸ hasRead
    | interrupt =>
      obtain ⟨some, next⟩ := mouseRead_sends sends (show read < stream.length from enough) hasRead
      refine ⟨assembled.step fun _ _ => .inl some, read + 1, Nat.le_refl _, fun _ => rfl, ?_⟩
      unfold packetStep
      rw [place]
      simp only [packetLoop_keeps, handleByte_traffic]
      exact next

/-- Whatever the test has printed are the packets of some reports. -/
theorem Assembled.exists_reports {calls : MouseCalls} {cnt : UInt32} {test : MouseTest}
    (assembled : Assembled calls cnt test) :
    ∃ reports : List Report, test.printed = reports.map Report.packet := by
  obtain ⟨⟨pending, blocks, idle, _, frames, each, _⟩, parsed⟩ := assembled.assembles
  have all : ∀ packet ∈ test.printed, ∃ report : Report, report.packet = packet := by
    intro packet member
    have framed : packet.bytes ∈ blocks.map Prod.snd := frames ▸ List.mem_map_of_mem member
    obtain ⟨block, inBlocks, bytes⟩ := List.mem_map.mp framed
    obtain ⟨report, same⟩ := exists_report_of_frame (each block inBlocks).2
    refine ⟨report, ?_⟩
    rw [← parse_bytes, same, bytes]
    exact (parsed packet member).symm
  clear frames parsed
  generalize test.printed = packets at all ⊢
  induction packets with
  | nil => exact ⟨[], rfl⟩
  | cons packet packets ih =>
    obtain ⟨report, rfl⟩ := all packet List.mem_cons_self
    obtain ⟨reports, rfl⟩ := ih fun other member => all other (List.mem_cons_of_mem _ member)
    exact ⟨report :: reports, rfl⟩

/-- A sequence of messages that brings no more interrupts than the stream has bytes. -/
theorem readSoFar_run {controller : Controller} (calls : MouseCalls) (cnt : UInt32) {stream : List UInt8}
    (sends : Sends controller stream) {receives : List MouseReceive}
    (enough : interrupts receives ≤ stream.length) :
    ReadSoFar calls cnt stream (interrupts receives)
      (Runs.run (packetStep controller calls cnt) (mouseTestPacket calls cnt) receives) := by
  induction receives using List.reverseRecOn with
  | nil =>
    refine ⟨.initial calls cnt, 0, Nat.le_refl _, fun _ => rfl, ?_⟩
    show HasRead stream 0 (mouseTestPacket calls cnt).traffic
    have untouched : (mouseTestPacket calls cnt).traffic = .none := by
      unfold mouseTestPacket
      split
      · rfl
      split
      · rfl
      · exact packetLoop_keeps calls cnt _
    rw [untouched]
    exact ⟨rfl, rfl, rfl⟩
  | append_singleton receives receive ih =>
    have count : interrupts (receives ++ [receive]) = interrupts receives + interrupts [receive] := by
      unfold interrupts
      rw [List.map_append, List.sum_append]
    rw [count] at enough ⊢
    rw [Runs.run_snoc]
    exact (ih (by omega)).step sends receive enough

/-- **The test prints what the mouse reports.** Let the mouse send any reports, behind bytes without bit 3,
with one interrupt for each byte: after any messages the packets printed are the reports whose three bytes
have come, in their order and with the buttons, displacements and flags that the mouse meant, as far as
`cnt` goes. -/
theorem reports_printed {controller : Controller} {calls : MouseCalls} (enables : calls.enables = true)
    (subscribes : calls.subscribes = true) (cnt : UInt32) {noise : List UInt8}
    (quiet : ∀ byte ∈ noise, ¬ pkStarts byte) {reports : List Report}
    (sends : Sends controller (noise ++ reports.flatMap Report.bytes)) {receives : List MouseReceive}
    (enough : interrupts receives ≤ noise.length + 3 * reports.length) :
    (Runs.run (packetStep controller calls cnt) (mouseTestPacket calls cnt) receives).printed =
      (reports.map Report.packet).take (min cnt.toNat ((interrupts receives - noise.length) / 3)) := by
  have length : (reports.flatMap Report.bytes).length = 3 * reports.length := by
    rw [List.length_flatMap]
    show (reports.map fun _ => 3).sum = _
    rw [List.map_const', List.sum_replicate_nat, Nat.mul_comm]
  obtain ⟨assembled, read, atMost, looping, hasRead⟩ := readSoFar_run calls cnt sends
    (by rw [List.length_append, length]; exact enough)
  generalize Runs.run (packetStep controller calls cnt) (mouseTestPacket calls cnt) receives = test at *
  have frames : test.printed.map Packet.bytes =
      (reports.take ((read - noise.length) / 3)).map Report.bytes := by
    rw [← frames_of_reports quiet (by omega), ← hasRead.replies, assembled.framed]
    rfl
  have printed : test.printed = (reports.map Report.packet).take ((read - noise.length) / 3) := by
    calc test.printed = (test.printed.map Packet.bytes).map (mouseParsePacket · 3) := by
          rw [List.map_map]
          refine (List.map_id _).symm.trans (List.map_congr_left fun packet member => ?_)
          exact assembled.buffered.parsed packet member
      _ = (reports.map Report.packet).take ((read - noise.length) / 3) := by
          rw [frames, List.map_map, ← List.map_take]
          exact List.map_congr_left fun report _ => parse_bytes report
  have counted : test.packetCount = (read - noise.length) / 3 := by
    rw [← assembled.buffered.counted, printed, List.length_take, List.length_map]
    omega
  rw [printed, ← counted]
  congr 1
  cases place : test.control with
  | looping =>
    have := assembled.looping place
    rw [counted, looping place] at this ⊢
    omega
  | returned code =>
    have := assembled.returned code place enables subscribes
    omega

/-- A mouse that sends these bytes. -/
def sendingMouse (stream : List UInt8) : Controller :=
  ⟨fun _ => some 1, fun n => some (stream.getD n 0).toUInt32, fun _ => true⟩

theorem sends_sendingMouse (stream : List UInt8) : Sends (sendingMouse stream) stream := by
  intro n below
  refine ⟨1, (stream.getD n 0).toUInt32, rfl, by decide, rfl, ?_⟩
  rw [UInt8.toUInt8_toUInt32, List.getD_eq_getElem?_getD, List.getElem?_eq_getElem below]
  rfl

/-- Dragging to the left and up, behind a lost byte: the first of two reports. -/
theorem reports_printed_drag :
    (Runs.run (packetStep (sendingMouse [0x00, 0x19, 0xFD, 0x05, 0x08, 0x00, 0x00]) .allRight 1)
        (mouseTestPacket .allRight 1)
        [.interrupt, .interrupt, .ignored, .interrupt, .interrupt, .interrupt]).printed =
      [⟨[0x19, 0xFD, 0x05], false, false, true, -3, 5, false, false⟩] := by
  have quiet : ∀ byte ∈ [(0x00 : UInt8)], ¬ pkStarts byte := by
    intro byte mem
    rw [List.mem_singleton.mp mem]
    decide
  have sends : Sends (sendingMouse [0x00, 0x19, 0xFD, 0x05, 0x08, 0x00, 0x00])
      ([0x00] ++ [(⟨true, false, false, ⟨-3, by decide, by decide⟩, ⟨5, by decide, by decide⟩, false,
        false⟩ : Report), ⟨false, false, false, ⟨0, by decide, by decide⟩, ⟨0, by decide, by decide⟩,
        false, false⟩].flatMap Report.bytes) := sends_sendingMouse _
  refine (reports_printed rfl rfl 1 quiet sends ?_).trans ?_
  · decide
  · rfl

end SpaceInvaders
