import Tg2Sip.Proofs.Fifo

/-! The ring buffer of a controller, which both sides use in frames of 10 ms. It has place for
99 frames and for all but one sample of another. -/

namespace Tg2Sip.Voip.TgCallsController
open Lib RingBuffer

variable {α : Type}

inductive FrameCall (α : Type) where
  | push (frame : Nat → α)
  | pop

def FrameCall.isPush : FrameCall α → Bool
  | .push _ => true
  | .pop => false

/-- A frame is pushed and popped in one call. -/
def FrameCall.call : FrameCall α → RingBuffer.Call α
  | .push frame => .push frame frameSamples
  | .pop => .pop frameSamples

def bufferCall [Zero α] (ring : RingBuffer α) (next : FrameCall α) :
    RingBuffer α × Option (List α) := ring.call next.call

def block (frame : Nat → α) : List α := (List.range frameSamples.toNat).map frame

def silence [Zero α] : List α := List.replicate frameSamples.toNat 0

/-- A buffer of frames. -/
def frameCall [Zero α] (waiting : List (List α)) : FrameCall α → List (List α) × Option (List α)
  | .push frame => (waiting ++ [block frame], none)
  | .pop =>
    match waiting with
    | [] => ([], some silence)
    | first :: rest => (rest, some first)

/-- What is popped in a history are whole frames in the order in which they were pushed, of which some
may be dropped, and silence. -/
inductive Whole [Zero α] : List (List α) → List (FrameCall α × Option (List α)) → Prop where
  | nil (waiting : List (List α)) : Whole waiting []
  | kept {waiting : List (List α)} {rest : List (FrameCall α × Option (List α))} (frame : Nat → α)
      (later : Whole (waiting ++ [block frame]) rest) : Whole waiting ((.push frame, none) :: rest)
  | dropped {waiting : List (List α)} {rest : List (FrameCall α × Option (List α))} (frame : Nat → α)
      (later : Whole waiting rest) : Whole waiting ((.push frame, none) :: rest)
  | frame {waiting : List (List α)} {rest : List (FrameCall α × Option (List α))} (first : List α)
      (later : Whole waiting rest) : Whole (first :: waiting) ((.pop, some first) :: rest)
  | silence {waiting : List (List α)} {rest : List (FrameCall α × Option (List α))}
      (later : Whole waiting rest) : Whole waiting ((.pop, some silence) :: rest)

/-- A frame is not pushed while 99 are waiting. -/
def Room (waiting : List (List α)) (call : FrameCall α) : Prop := call.isPush = true → waiting.length < 99

theorem frameCall_whole [Zero α] (waiting : List (List α)) (calls : List (FrameCall α)) :
    Whole waiting (calls.zip (perform frameCall waiting calls).2) := by
  induction calls generalizing waiting with
  | nil => exact .nil waiting
  | cons call rest ih =>
    cases call with
    | push frame => exact .kept frame (ih _)
    | pop =>
      cases waiting with
      | nil => exact .silence (ih _)
      | cons first waiting => exact .frame first (ih _)

/-- What is popped is silence, or a frame that waited or was pushed. -/
theorem Whole.popped [Zero α] {waiting : List (List α)} {history : List (FrameCall α × Option (List α))}
    (whole : Whole waiting history) {first : List α} (member : (.pop, some first) ∈ history) :
    first = TgCallsController.silence ∨ first ∈ waiting ∨
      ∃ frame, (.push frame, none) ∈ history ∧ first = block frame := by
  induction whole with
  | nil => cases member
  | @kept waiting rest frame later ih =>
    rcases List.mem_cons.mp member with same | member
    · cases same
    · rcases ih member with silent | held | ⟨other, pushed, same⟩
      · exact .inl silent
      · rcases List.mem_append.mp held with old | new
        · exact .inr (.inl old)
        · exact .inr (.inr ⟨frame, .head _, List.mem_singleton.mp new⟩)
      · exact .inr (.inr ⟨other, .tail _ pushed, same⟩)
  | @dropped waiting rest frame later ih =>
    rcases List.mem_cons.mp member with same | member
    · cases same
    · exact (ih member).imp_right (Or.imp_right fun ⟨other, pushed, same⟩ => ⟨other, .tail _ pushed, same⟩)
  | @frame waiting rest first later ih =>
    rcases List.mem_cons.mp member with same | member
    · cases same
      exact .inr (.inl (.head _))
    · exact (ih member).imp_right (Or.imp (.tail _) fun ⟨other, pushed, same⟩ => ⟨other, .tail _ pushed, same⟩)
  | @silence waiting rest later ih =>
    rcases List.mem_cons.mp member with same | member
    · cases same
      exact .inl rfl
    · exact (ih member).imp_right (Or.imp_right fun ⟨other, pushed, same⟩ => ⟨other, .tail _ pushed, same⟩)

/-- A queue of samples that are whole frames. -/
structure Framed (queue : Fifo α) (waiting : List (List α)) : Prop where
  bound : queue.bound = 47999
  samples : queue.samples = waiting.flatten
  frames : ∀ frame ∈ waiting, frame.length = 480
  few : waiting.length ≤ 99

theorem Framed.length {queue : Fifo α} {waiting : List (List α)} (framed : Framed queue waiting) :
    queue.samples.length = 480 * waiting.length := by
  rw [framed.samples, List.length_flatten, List.map_congr_left framed.frames, List.map_const', List.sum_replicate_nat,
    Nat.mul_comm]

theorem Framed.call [Zero α] {queue : Fifo α} {waiting : List (List α)} (framed : Framed queue waiting)
    (next : FrameCall α) (room : Room waiting next) :
    (queue.call next.call).2 = (frameCall waiting next).2 ∧
      Framed (queue.call next.call).1 (frameCall waiting next).1 := by
  have length := framed.length
  cases next with
  | push frame =>
    have few := room rfl
    have whole : ((List.range frameSamples.toNat).map frame).take (queue.bound - queue.samples.length) =
        block frame := by
      refine List.take_of_length_le ?_
      rw [List.length_map, List.length_range, length, framed.bound, show frameSamples.toNat = 480 from rfl]
      omega
    refine ⟨rfl, framed.bound, ?_, ?_, ?_⟩
    · simp only [FrameCall.call, Fifo.call, Fifo.push, frameCall]
      rw [whole, framed.samples, List.flatten_append, List.flatten_singleton]
    · intro other member
      rcases List.mem_append.mp member with old | new
      · exact framed.frames other old
      · rw [List.mem_singleton.mp new, block, List.length_map, List.length_range]
        rfl
    · simp only [frameCall, List.length_append, List.length_singleton]
      omega
  | pop =>
    cases waiting with
    | nil =>
      have empty : queue.samples = [] := framed.samples
      refine ⟨?_, framed.bound, ?_, framed.frames, framed.few⟩
      · simp only [FrameCall.call, Fifo.call, Fifo.pop, frameCall, silence, empty]
        simp
      · simp only [FrameCall.call, Fifo.call, Fifo.pop, frameCall, empty, List.drop_nil, List.flatten_nil]
    | cons first rest =>
      have frame := framed.frames first (.head _)
      have count : frameSamples.toNat = first.length := frame.symm
      have samples : queue.samples = first ++ rest.flatten := by rw [framed.samples, List.flatten_cons]
      refine ⟨?_, framed.bound, ?_, fun other member => framed.frames other (.tail _ member), ?_⟩
      · simp only [FrameCall.call, Fifo.call, Fifo.pop, frameCall, samples, count]
        simp
      · simp only [FrameCall.call, Fifo.call, Fifo.pop, frameCall, samples, count, List.drop_left]
      · have few := framed.few
        simp only [List.length_cons] at few
        simp only [frameCall]
        omega

/-- The buffer of a controller stands for a queue of frames. -/
def Buffers (ring : RingBuffer α) (waiting : List (List α)) : Prop := ∃ queue, ring.Refines queue ∧ Framed queue waiting

theorem Buffers.call [Zero α] {ring : RingBuffer α} {waiting : List (List α)} {next : FrameCall α}
    (buffers : Buffers ring waiting) (room : Room waiting next) :
    (bufferCall ring next).2 = (frameCall waiting next).2 ∧
      Buffers (bufferCall ring next).1 (frameCall waiting next).1 := by
  obtain ⟨queue, refines, framed⟩ := buffers
  obtain ⟨returned, refined, _⟩ := refines.call next.call
  obtain ⟨expected, frames⟩ := framed.call next room
  exact ⟨returned.trans expected, _, refined, frames⟩

theorem buffers_new [Zero α] : Buffers (RingBuffer.new ringBufferCapacity : RingBuffer α) [] :=
  ⟨⟨47999, []⟩, ⟨holds_new (by decide) (by decide), rfl⟩, rfl, rfl, (fun frame member => by cases member),
    Nat.zero_le _⟩

theorem buffer_simulates [Zero α] : Simulates bufferCall frameCall Room (Buffers (α := α)) := fun _ _ _ => Buffers.call

/-- One more frame fits as a whole exactly when fewer than 99 are waiting. -/
theorem Buffers.push_whole_iff [Zero α] {ring : RingBuffer α} {waiting : List (List α)}
    (buffers : Buffers ring waiting) (frame : Nat → α) :
    480 ∣ (ring.push frame frameSamples).queued.length ↔ waiting.length < 99 := by
  obtain ⟨queue, refines, framed⟩ := buffers
  obtain ⟨_, pushed, _⟩ := refines.call (.push frame frameSamples)
  have length := framed.length
  have few := framed.few
  have samples : (ring.push frame frameSamples).queued =
      queue.samples ++ ((List.range frameSamples.toNat).map frame).take (queue.bound - queue.samples.length) :=
        pushed.holds.queued
  rw [samples, List.length_append, List.length_take, List.length_map, List.length_range, framed.bound, length,
    show frameSamples.toNat = 480 from rfl]
  omega

/-- As long as no frame is pushed while 99 are waiting, what is popped is whole frames and silence, and the first
push that meets 99 waiting frames leaves a part of a frame in the buffer. -/
theorem frames_stay_whole [Zero α] (calls : List (FrameCall α)) (admitted : Admitted frameCall Room [] calls)
    (frame : Nat → α) :
    let (ring, returned) := perform bufferCall (RingBuffer.new ringBufferCapacity) calls
    Whole [] (calls.zip returned) ∧
      (480 ∣ (ring.push frame frameSamples).queued.length ↔ (perform frameCall [] calls).1.length < 99) := by
  obtain ⟨returned, buffers⟩ := buffer_simulates.perform buffers_new admitted
  have whole := frameCall_whole [] calls
  rw [← returned] at whole
  exact ⟨whole, buffers.push_whole_iff frame⟩

/-- Two frames wait together, a third is pushed between the pops, and the last pop finds nothing. -/
private def severalFrames : List (FrameCall Int) :=
  [.push (fun i => (i : Int)), .push (fun i => 1000 + (i : Int)), .pop, .push (fun _ => 7), .pop, .pop, .pop]

theorem first_frame_is_whole : (perform bufferCall (RingBuffer.new ringBufferCapacity) severalFrames).2.filterMap id =
      [(List.range 480).map (fun i => (i : Int)), (List.range 480).map (fun i => 1000 + (i : Int)),
        List.replicate 480 7, List.replicate 480 0] ∧
    Whole [] (severalFrames.zip (perform bufferCall (RingBuffer.new ringBufferCapacity) severalFrames).2) := by
  have admitted : Admitted frameCall Room [] severalFrames := by
    simp [severalFrames, Admitted, Room, FrameCall.isPush, frameCall]
  obtain ⟨returned, _⟩ := buffer_simulates.perform buffers_new admitted
  exact ⟨by rw [returned]; decide +kernel, (frames_stay_whole _ admitted fun _ => 0).1⟩

section Overflow

private def queueCall (queue : Fifo Int) (next : FrameCall Int) : Fifo Int × Option (List Int) := queue.call next.call

private def loud : FrameCall Int := .push fun _ => 1

private theorem loud_pushed (length : Nat) : (queueCall ⟨47999, List.replicate length 1⟩ loud).1 =
    ⟨47999, List.replicate (length + min 480 (47999 - length)) 1⟩ := by
  simp only [queueCall, loud, FrameCall.call, Fifo.call, Fifo.push, List.map_const', List.length_range,
    List.take_replicate,
    List.length_replicate, List.replicate_append_replicate, show frameSamples.toNat = 480 from rfl]
  rw [Nat.min_comm]

private theorem loud_popped (length : Nat) : queueCall ⟨47999, List.replicate length 1⟩ .pop =
    (⟨47999, List.replicate (length - 480) 1⟩,
      some (List.replicate (min 480 length) 1 ++ List.replicate (480 - length) 0)) := by
  simp only [queueCall, FrameCall.call, Fifo.call, Fifo.pop, List.take_replicate, List.drop_replicate,
    List.length_replicate, show frameSamples.toNat = 480 from rfl]

private theorem pushes (count length : Nat) (inside : length ≤ 47999) :
    (perform queueCall ⟨47999, List.replicate length 1⟩ (List.replicate count loud)).1 =
      ⟨47999, List.replicate (min (length + 480 * count) 47999) 1⟩ := by
  induction count generalizing length with
  | zero => simp only [List.replicate_zero, perform, Nat.mul_zero, Nat.add_zero, Nat.min_eq_left inside]
  | succ count ih =>
    simp only [List.replicate_succ, perform, loud_pushed]
    rw [ih _ (by omega)]
    congr 2
    omega

private theorem pops (count length : Nat) :
    (perform queueCall ⟨47999, List.replicate length 1⟩ (List.replicate count .pop)).1 =
    ⟨47999, List.replicate (length - 480 * count) 1⟩ := by
  induction count generalizing length with
  | zero => rfl
  | succ count ih =>
    rw [List.replicate_succ]
    simp only [perform, loud_popped, ih]
    rw [Nat.sub_sub, Nat.mul_succ, Nat.add_comm]

/-- Of the 100th frame that is pushed without a pop, all but the last sample are kept. -/
theorem overflow_splits_frame : ¬ ∀ calls : List (FrameCall Int),
    Whole [] (calls.zip (perform bufferCall (RingBuffer.new ringBufferCapacity) calls).2) := by
  intro always
  let calls := List.replicate 100 loud ++ List.replicate 99 .pop
  have simulates : Simulates bufferCall queueCall (fun _ _ => True) (Refines (α := Int)) :=
    fun ring queue next refines _ => ⟨(refines.call next.call).1, (refines.call next.call).2.1⟩
  have started : (RingBuffer.new ringBufferCapacity).Refines ⟨47999, ([] : List Int)⟩ :=
    ⟨holds_new (by decide) (by decide), rfl⟩
  have state : (perform queueCall ⟨47999, []⟩ calls).1 = ⟨47999, List.replicate 479 1⟩ := by
    have filled := pushes 100 0 (by omega)
    rw [List.replicate_zero] at filled
    rw [perform_append, filled, pops, show min (0 + 480 * 100) 47999 - 480 * 99 = 479 by omega]
  obtain ⟨_, refines⟩ := simulates.perform started (admitted_always _ calls)
  rw [state] at refines
  have last := last_performed bufferCall (RingBuffer.new ringBufferCapacity) calls .pop
  have whole := always (calls ++ [.pop])
  generalize (perform bufferCall (RingBuffer.new ringBufferCapacity) calls).1 = ring at refines last
  have returned : (bufferCall ring .pop).2 = some (List.replicate 479 1 ++ List.replicate 1 0) :=
    (refines.call FrameCall.pop.call).1.trans (congrArg Prod.snd (loud_popped 479))
  rw [returned] at last
  rcases whole.popped last with silent | held | ⟨frame, pushed, same⟩
  · have heard : (1 : Int) ∈ (silence : List Int) :=
      silent ▸ List.mem_append_left _ (List.mem_replicate.mpr ⟨by omega, rfl⟩)
    cases List.eq_of_mem_replicate heard
  · cases held
  · -- Only loud frames were pushed, and no sample of theirs is silent.
    have called := (List.of_mem_zip pushed).1
    simp only [calls, List.mem_append, List.mem_replicate, List.mem_singleton, reduceCtorEq, and_false,
      or_false] at called
    have loudly : frame = fun _ => 1 := FrameCall.push.inj called.2
    have quiet : (0 : Int) ∈ block frame := same ▸ List.mem_append_right _ (List.mem_replicate.mpr ⟨by omega, rfl⟩)
    obtain ⟨_, _, heard⟩ := List.mem_map.mp quiet
    rw [loudly] at heard
    cases heard

end Overflow

end Tg2Sip.Voip.TgCallsController
