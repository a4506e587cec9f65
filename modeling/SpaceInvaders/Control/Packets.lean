/-
**The packets of the mouse test come from fresh bytes.**

`Assembles received printed` says that the printed packets are the frames of the received bytes: triples
of consecutive bytes, one behind the other, that begin with a byte whose bit 3 is set.

* `handleByte_push`: a byte is handled as the framing receiver handles it;
* `packets_assembled`: the printed packets are assembled from the bytes read, in every run in which a
  failed read never stands for a byte (`ReadsFresh`);
* `not_assembles_failedReads`: with two failed reads behind one byte, the old value of `data` is taken
  three times.
-/

import SpaceInvaders.Lib.Framing
import SpaceInvaders.Model.MousePacket

namespace SpaceInvaders

open Framing

/-! ### What the test is for -/

/-- The synchronisation bit of a first byte. -/
def pkStarts (byte : UInt8) : Bool := byte &&& pkBit3 ≠ 0

/-- The size of a packet. -/
def pkComplete (bytes : List UInt8) : Bool := bytes.length = 3

/-- The printed packets are the frames of the received bytes, each parsed. -/
def Assembles (received : List UInt8) (printed : List Packet) : Prop :=
  (∃ pending, Framed pkStarts pkComplete received (printed.map Packet.bytes) pending) ∧
  ∀ packet ∈ printed, packet = mouseParsePacket packet.bytes 3

/-- No byte is used twice, so there are three for each packet. -/
theorem Assembles.length_le {received : List UInt8} {printed : List Packet}
    (assembles : Assembles received printed) :
    ((printed.map Packet.bytes).flatten).length ≤ received.length := by
  obtain ⟨⟨pending, framed⟩, -⟩ := assembles
  have within := framed.flatten_sublist.length_le
  rw [List.length_append] at within
  omega

/-- An interrupt in the loop reads a byte, or comes between two packets while `data` could not start
one. -/
def ReadsFresh (controller : Controller) (test : MouseTest) (receive : MouseReceive) : Prop :=
  test.control = .looping → receive = .interrupt →
    (mouseRead controller test.traffic).1.isSome ∨ (test.size = 0 ∧ ¬ pkStarts test.data)

/-! ### One byte -/

theorem kbcCheckOutBuf_replies (controller : Controller) (traffic : Traffic) :
    (kbcCheckOutBuf controller traffic).2.replies = traffic.replies := by
  unfold kbcCheckOutBuf kbcReadStatus
  cases controller.status traffic.statusReads <;> rfl

theorem kbcReadBuffer_replies (controller : Controller) (traffic : Traffic) :
    (kbcReadBuffer controller traffic).2.replies =
      traffic.replies ++ (kbcReadBuffer controller traffic).1.toList := by
  unfold kbcReadBuffer
  cases controller.output traffic.outputReads with
  | none => exact (List.append_nil _).symm
  | some output => rfl

/-- The bytes read are kept. -/
theorem mouseRead_replies (controller : Controller) (traffic : Traffic) :
    (mouseRead controller traffic).2.replies =
      traffic.replies ++ (mouseRead controller traffic).1.toList := by
  have checked := kbcCheckOutBuf_replies controller traffic
  unfold mouseRead
  rcases same : kbcCheckOutBuf controller traffic with ⟨_ | _, after⟩
  · rw [same] at checked
    exact checked.trans (List.append_nil _).symm
  · rw [same] at checked
    rw [← checked]
    exact kbcReadBuffer_replies controller after

theorem afterMouseIh_none (controller : Controller) (test : MouseTest)
    (failed : (mouseRead controller test.traffic).1 = none) :
    (afterMouseIh controller test).data = test.data ∧
      (afterMouseIh controller test).traffic.replies = test.traffic.replies := by
  have replies := mouseRead_replies controller test.traffic
  rw [failed, Option.toList_none, List.append_nil] at replies
  refine ⟨?_, replies⟩
  show (mouseRead controller test.traffic).1.getD test.data = test.data
  rw [failed, Option.getD_none]

theorem afterMouseIh_some (controller : Controller) (test : MouseTest) {byte : UInt8}
    (read : (mouseRead controller test.traffic).1 = some byte) :
    (afterMouseIh controller test).data = byte ∧
      (afterMouseIh controller test).traffic.replies = test.traffic.replies ++ [byte] := by
  have replies := mouseRead_replies controller test.traffic
  rw [read, Option.toList_some] at replies
  refine ⟨?_, replies⟩
  show (mouseRead controller test.traffic).1.getD test.data = byte
  rw [read, Option.getD_some]

/-- The buffer of the test between two bytes, and its count. -/
structure Buffered (test : MouseTest) : Prop where
  three : test.bytes.length = 3
  room : test.size ≤ 2
  synced : test.size ≠ 0 → test.syncState
  counted : test.printed.length = test.packetCount
  parsed : ∀ packet ∈ test.printed, packet = mouseParsePacket packet.bytes 3

/-- The packets printed so far and the bytes of the next one. -/
def MouseTest.framing (test : MouseTest) : List (List UInt8) × List UInt8 :=
  (test.printed.map Packet.bytes, test.bytes.take test.size)

theorem take_succ_set (bytes : List UInt8) (byte : UInt8) {size : Nat} (room : size < bytes.length) :
    (bytes.set size byte).take (size + 1) = bytes.take size ++ [byte] := by
  have stored : size < (bytes.set size byte).length := by rwa [List.length_set]
  rw [List.take_succ_eq_append_getElem stored, List.take_set_of_le (le_refl size),
    List.getElem_set_self]

/-- A full buffer is parsed as it is. -/
theorem mouseParsePacket_bytes {bytes : List UInt8} (three : bytes.length = 3) :
    (mouseParsePacket bytes 3).bytes = bytes :=
  List.take_of_length_le (Nat.le_of_eq three)

/-- A packet more, and an empty buffer. -/
theorem Buffered.complete {test : MouseTest} (buffered : Buffered test) {bytes : List UInt8}
    (three : bytes.length = 3) :
    Buffered { test with
      bytes := bytes
      size := 0
      packetCount := test.packetCount + 1
      printed := test.printed ++ [mouseParsePacket bytes 3] } := by
  refine ⟨three, Nat.zero_le 2, fun nonzero => absurd rfl nonzero, ?_, fun packet member => ?_⟩
  · show (test.printed ++ [_]).length = test.packetCount + 1
    rw [List.length_append, buffered.counted, List.length_singleton]
  · rcases List.mem_append.mp member with member | member
    · exact buffered.parsed packet member
    · rw [List.mem_singleton.mp member, mouseParsePacket_bytes three]

/-- A byte that starts a packet or continues one is put behind the bytes before it. -/
theorem storeByte_push {test : MouseTest} (buffered : Buffered test) (synced : test.syncState)
    (kept : test.bytes.take test.size = [] → pkStarts test.data) :
    (storeByte test).framing = push pkStarts pkComplete test.framing test.data ∧
      Buffered (storeByte test) := by
  have room : test.size < test.bytes.length := by
    have := buffered.room
    rw [buffered.three]
    omega
  have stored := take_succ_set test.bytes test.data room
  have length : (test.bytes.take test.size ++ [test.data]).length = test.size + 1 := by
    rw [← stored, List.length_take, List.length_set]
    omega
  unfold storeByte
  by_cases full : test.size + 1 = 3
  · have done : pkComplete (test.bytes.take test.size ++ [test.data]) :=
      decide_eq_true (length.trans full)
    have three : (test.bytes.set test.size test.data).length = 3 := by
      rw [List.length_set, buffered.three]
    have whole : (mouseParsePacket (test.bytes.set test.size test.data) 3).bytes =
        test.bytes.take test.size ++ [test.data] := by
      rw [← stored, full]
      rfl
    have before : test.framing = (test.printed.map Packet.bytes, test.bytes.take test.size) := rfl
    rw [if_pos full, full, before, push_complete _ kept done]
    refine ⟨?_, buffered.complete three⟩
    show ((test.printed ++ [_]).map Packet.bytes, _) = _
    rw [List.map_append, List.map_singleton, whole]
    rfl
  · have short : ¬ pkComplete (test.bytes.take test.size ++ [test.data]) := by
      intro done
      exact full (length.symm.trans (of_decide_eq_true done))
    have before : test.framing = (test.printed.map Packet.bytes, test.bytes.take test.size) := rfl
    rw [if_neg full, before, push_keep _ kept short, ← stored]
    refine ⟨rfl, ?_, ?_, fun _ => synced, buffered.counted, buffered.parsed⟩
    · rw [← buffered.three]
      exact List.length_set
    · have := buffered.room
      show test.size + 1 ≤ 2
      omega

/-- **A byte is handled as the framing receiver handles it.** -/
theorem handleByte_push {test : MouseTest} (buffered : Buffered test) :
    (handleByte test).framing = push pkStarts pkComplete test.framing test.data ∧
      Buffered (handleByte test) := by
  unfold handleByte
  by_cases between : test.size = 0
  · rw [if_pos between]
    have empty : test.bytes.take test.size = [] := by rw [between, List.take_zero]
    by_cases clear : test.data &&& pkBit3 = 0
    · have idle : ¬ pkStarts test.data := by
        intro starts
        exact of_decide_eq_true starts clear
      have before : test.framing = (test.printed.map Packet.bytes, []) := by
        rw [← empty]
        rfl
      rw [if_pos clear, before, push_skip _ idle]
      exact ⟨before, buffered.three, buffered.room, fun nonzero => absurd between nonzero,
        buffered.counted, buffered.parsed⟩
    · rw [if_neg clear]
      have started : Buffered { test with syncState := true } :=
        ⟨buffered.three, buffered.room, fun _ => rfl, buffered.counted, buffered.parsed⟩
      exact storeByte_push started rfl fun _ => decide_eq_true clear
  · have synced := buffered.synced between
    rw [if_neg between, if_neg (not_not.mpr synced)]
    refine storeByte_push buffered synced fun empty => ?_
    have length := congrArg List.length empty
    rw [List.length_take, buffered.three, List.length_nil] at length
    omega

/-- A failed read between two packets changes nothing that the packets depend on. -/
theorem handleByte_stale {test : MouseTest} (between : test.size = 0) (idle : ¬ pkStarts test.data) :
    handleByte test = { test with syncState := false } := by
  have clear : test.data &&& pkBit3 = 0 := by
    by_contra set
    exact idle (decide_eq_true set)
  rw [handleByte, if_pos between, if_pos clear]

/-! ### Runs -/

/-- The state of the test: the packets are the frames of the bytes read, fewer than `cnt` in its loop and
`cnt` behind it. -/
structure Assembled (calls : MouseCalls) (cnt : UInt32) (test : MouseTest) : Prop where
  buffered : Buffered test
  framed : cut pkStarts pkComplete test.traffic.replies = test.framing
  looping : test.control = .looping → test.packetCount < cnt.toNat
  returned : ∀ code, test.control = .returned code → calls.enables → calls.subscribes →
    test.packetCount = cnt.toNat

/-- The loop's test, from a state that has printed at most `cnt` packets. -/
theorem Assembled.packetLoop {cnt : UInt32} {test : MouseTest} (calls : MouseCalls)
    (buffered : Buffered test)
    (framed : cut pkStarts pkComplete test.traffic.replies = test.framing)
    (atMost : test.packetCount ≤ cnt.toNat) : Assembled calls cnt (packetLoop calls cnt test) := by
  unfold SpaceInvaders.packetLoop
  by_cases more : test.packetCount < cnt.toNat
  · rw [if_pos more]
    exact ⟨⟨buffered.three, buffered.room, buffered.synced, buffered.counted, buffered.parsed⟩, framed,
      fun _ => more, fun code same => nomatch same⟩
  · rw [if_neg more]
    exact ⟨⟨buffered.three, buffered.room, buffered.synced, buffered.counted, buffered.parsed⟩, framed,
      fun same => (nomatch same), fun _ _ _ _ => Nat.le_antisymm atMost (Nat.le_of_not_lt more)⟩

/-- One byte completes at most one packet. -/
theorem handleByte_packetCount (test : MouseTest) :
    (handleByte test).packetCount ≤ test.packetCount + 1 := by
  unfold handleByte storeByte
  dsimp only
  split_ifs <;> simp

/-- The handled byte leaves the traffic alone. -/
theorem handleByte_traffic (test : MouseTest) : (handleByte test).traffic = test.traffic := by
  unfold handleByte storeByte
  dsimp only
  split_ifs <;> rfl

/-- One round of the loop. -/
theorem Assembled.step {controller : Controller} {calls : MouseCalls} {cnt : UInt32}
    {test : MouseTest} {receive : MouseReceive} (assembled : Assembled calls cnt test)
    (fresh : ReadsFresh controller test receive) :
    Assembled calls cnt (packetStep controller calls cnt test receive) := by
  cases place : test.control with
  | returned code =>
    have same : packetStep controller calls cnt test receive = test := by
      unfold packetStep
      rw [place]
    rwa [same]
  | looping =>
    have before := assembled.looping place
    unfold packetStep
    rw [place]
    cases receive with
    | failed =>
      exact .packetLoop calls assembled.buffered assembled.framed (Nat.le_of_lt before)
    | ignored =>
      exact .packetLoop calls assembled.buffered assembled.framed (Nat.le_of_lt before)
    | interrupt =>
      have buffered : Buffered (afterMouseIh controller test) :=
        ⟨assembled.buffered.three, assembled.buffered.room, assembled.buffered.synced,
          assembled.buffered.counted, assembled.buffered.parsed⟩
      have atMost : (handleByte (afterMouseIh controller test)).packetCount ≤ cnt.toNat :=
        (handleByte_packetCount _).trans before
      obtain ⟨pushed, stored⟩ := handleByte_push buffered
      refine .packetLoop calls stored ?_ atMost
      rw [handleByte_traffic]
      cases read : (mouseRead controller test.traffic).1 with
      | some byte =>
        obtain ⟨data, replies⟩ := afterMouseIh_some controller test read
        rw [replies, cut_snoc, assembled.framed, pushed, data]
        rfl
      | none =>
        -- a failed read: by `fresh` the old byte starts no packet, and is dropped
        obtain ⟨data, replies⟩ := afterMouseIh_none controller test read
        obtain ⟨between, idle⟩ : test.size = 0 ∧ ¬ pkStarts test.data := by
          rcases fresh place rfl with isSome | stale
          · rw [read] at isSome
            cases isSome
          · exact stale
        have between' : (afterMouseIh controller test).size = 0 := between
        rw [← data] at idle
        rw [replies, assembled.framed, handleByte_stale between' idle]
        rfl

theorem Assembled.initial (calls : MouseCalls) (cnt : UInt32) :
    Assembled calls cnt (mouseTestPacket calls cnt) := by
  have none_printed : ∀ packet ∈ MouseTest.initial.printed, packet = mouseParsePacket packet.bytes 3 :=
    fun packet member => absurd member List.not_mem_nil
  have buffered : Buffered .initial :=
    ⟨rfl, Nat.zero_le 2, fun nonzero => absurd rfl nonzero, rfl, none_printed⟩
  unfold mouseTestPacket
  by_cases enabled : calls.enables
  · rw [if_neg (not_not.mpr enabled)]
    by_cases subscribed : calls.subscribes
    · rw [if_neg (not_not.mpr subscribed)]
      exact .packetLoop calls buffered rfl (Nat.zero_le _)
    · rw [if_pos subscribed]
      exact ⟨⟨rfl, Nat.zero_le 2, fun nonzero => absurd rfl nonzero, rfl, none_printed⟩, rfl,
        fun same => (nomatch same), fun _ _ _ done => absurd done subscribed⟩
  · rw [if_pos enabled]
    exact ⟨⟨rfl, Nat.zero_le 2, fun nonzero => absurd rfl nonzero, rfl, none_printed⟩, rfl,
      fun same => (nomatch same), fun _ _ done => absurd done enabled⟩

/-- What the invariant says of the bytes read and of the packets. -/
theorem Assembled.assembles {calls : MouseCalls} {cnt : UInt32} {test : MouseTest}
    (assembled : Assembled calls cnt test) :
    Assembles test.traffic.replies test.printed :=
  ⟨⟨test.bytes.take test.size, framed_iff_cut.mpr assembled.framed⟩, assembled.buffered.parsed⟩

/-- **The printed packets are assembled from the bytes read, the buffer's index stays below three, and
the loop, once begun, is left with `cnt` packets**, as long as no failed read stands for a byte. -/
theorem packets_assembled (controller : Controller) (calls : MouseCalls) (cnt : UInt32)
    (receives : List MouseReceive)
    (fresh : Runs.Along (packetStep controller calls cnt) (ReadsFresh controller)
      (mouseTestPacket calls cnt) receives) :
    let test := Runs.run (packetStep controller calls cnt) (mouseTestPacket calls cnt) receives
    Assembles test.traffic.replies test.printed ∧
    Runs.Along (packetStep controller calls cnt) (fun test _ => test.size ≤ 2)
      (mouseTestPacket calls cnt) receives ∧
    (test.control = .looping → test.printed.length < cnt.toNat) ∧
    ∀ code, test.control = .returned code → calls.enables → calls.subscribes →
      test.printed.length = cnt.toNat := by
  have start := Assembled.initial calls cnt
  have last := Runs.run_kept (fun _ _ assembled fresh => Assembled.step assembled fresh) start fresh
  have room := Runs.Along.of_inductive (P := fun test _ => test.size ≤ 2)
    (fun _ _ assembled fresh => ⟨Assembled.step assembled fresh, assembled.buffered.room⟩) start fresh
  refine ⟨last.assembles, room, fun going => ?_, fun code done enabled subscribed => ?_⟩
  · exact lt_of_eq_of_lt last.buffered.counted (last.looping going)
  · exact last.buffered.counted.trans (last.returned code done enabled subscribed)

/-! ### A failed read that stands for a byte -/

/-- The mouse sends one byte; behind it the output buffer is empty. -/
def oneByteMouse : Controller :=
  ⟨fun read => some (if read = 0 then 1 else 0), fun _ => some 0x08, fun _ => true⟩

/-- The mouse always has the byte 8. -/
def readyMouse : Controller :=
  ⟨fun _ => some 1, fun _ => some 0x08, fun _ => true⟩

/-- The calls around the loop, all successful. -/
def MouseCalls.allRight : MouseCalls := ⟨true, true, true, true⟩

/-- With one byte read and two failed reads, a packet is printed that takes the byte three times. -/
theorem not_assembles_failedReads :
    ¬ (let test := Runs.run (packetStep oneByteMouse .allRight 1) (mouseTestPacket .allRight 1)
        [.interrupt, .interrupt, .interrupt]
      Assembles test.traffic.replies test.printed) := by
  intro assembles
  have within := assembles.length_le
  revert within
  decide

/-- Three bytes that are read give their packet. -/
theorem packets_assembled_answering :
    let test := Runs.run (packetStep readyMouse .allRight 1) (mouseTestPacket .allRight 1)
      [.interrupt, .ignored, .interrupt, .interrupt]
    test.control = .returned 0 ∧ test.printed.map Packet.bytes = [[8, 8, 8]] ∧
    Assembles test.traffic.replies test.printed := by
  refine ⟨by decide, by decide, (packets_assembled readyMouse .allRight 1 _ ?_).1⟩
  refine ⟨?_, ?_, ?_, ?_, trivial⟩
  all_goals exact fun _ _ => .inl rfl

end SpaceInvaders
