import Mathlib.Logic.Function.Basic
import Mathlib.Algebra.Ring.Int.Defs

/-! `voip::RingBuffer`, first as two functions that nothing interrupts, then as a producer and
a consumer whose single accesses to the shared indices and slots interleave. `size_t` is
`UInt64`, and a pointer to samples is a function. -/

namespace Tg2Sip.Voip

structure RingBuffer (α : Type) where
  capacity : UInt64
  buffer : Nat → α
  head : UInt64 := 0
  tail : UInt64 := 0

namespace RingBuffer
variable {α : Type}

def new [Zero α] (capacity : UInt64) : RingBuffer α := { capacity, buffer := fun _ => 0 }

/-- The subscript of the slot some samples after an index. -/
def slot (ring : RingBuffer α) (index : UInt64) (i : Nat) : Nat := ((index + UInt64.ofNat i) % ring.capacity).toNat

/-- `(head - tail + capacity_) % capacity_` -/
def occupied (ring : RingBuffer α) (head tail : UInt64) : UInt64 := (head - tail + ring.capacity) % ring.capacity

/-- How many samples `push` takes once it has loaded the indices. -/
def accepts (ring : RingBuffer α) (head tail samples : UInt64) : UInt64 :=
  let available := ring.capacity - 1 - ring.occupied head tail
  if samples > available then available else samples

/-- How many samples `pop` copies once it has loaded the indices. -/
def copies (ring : RingBuffer α) (head tail samples : UInt64) : UInt64 :=
  let available := ring.occupied head tail
  if samples < available then samples else available

def write (ring : RingBuffer α) (head : UInt64) (data : Nat → α) (i : Nat) : RingBuffer α :=
  { ring with buffer := Function.update ring.buffer (ring.slot head i) (data i) }

def storeHead (ring : RingBuffer α) (head samples : UInt64) : RingBuffer α :=
  { ring with head := (head + samples) % ring.capacity }

def storeTail (ring : RingBuffer α) (tail copied : UInt64) : RingBuffer α :=
  { ring with tail := (tail + copied) % ring.capacity }

def push (ring : RingBuffer α) (data : Nat → α) (samples : UInt64) : RingBuffer α :=
  let samples := ring.accepts ring.head ring.tail samples
  if samples = 0 then ring
  else
    ((List.range samples.toNat).foldl (fun written i => written.write ring.head data i) ring).storeHead
      ring.head samples

/-- The samples that `pop` writes to its argument, and the buffer afterwards. -/
def pop [Zero α] (ring : RingBuffer α) (samples : UInt64) : List α × RingBuffer α :=
  let copied := ring.copies ring.head ring.tail samples
  ((List.range copied.toNat).map (fun i => ring.buffer (ring.slot ring.tail i)) ++
    List.replicate (samples.toNat - copied.toNat) 0, ring.storeTail ring.tail copied)

/-- A call by either thread. -/
inductive Call (α : Type) where
  | push (data : Nat → α) (samples : UInt64)
  | pop (samples : UInt64)

/-- The buffer after a call, and what the call returns. -/
def call [Zero α] (ring : RingBuffer α) : Call α → RingBuffer α × Option (List α)
  | .push data samples => (ring.push data samples, none)
  | .pop samples => ((ring.pop samples).2, some (ring.pop samples).1)

/-- Where the producer is in `push`, with its local variables. -/
inductive Producer (α : Type) where
  | idle
  | loadTail (data : Nat → α) (samples head : UInt64)
  | writing (data : Nat → α) (samples head : UInt64) (i : Nat)

/-- Where the consumer is in `pop`. -/
inductive Consumer where
  | idle
  | loadTail (samples head : UInt64)
  | reading (copied tail : UInt64) (i : Nat)

/-- What leaves the one side and reaches the other. -/
inductive Sample (α : Type) where
  | accepted (samples : List α)
  | delivered (sample : α)

structure Threads (α : Type) where
  ring : RingBuffer α
  producer : Producer α := .idle
  consumer : Consumer := .idle

inductive Access (α : Type) where
  /-- A call of `push` loads `head_`. -/
  | push (data : Nat → α) (samples : UInt64)
  | produce
  /-- A call of `pop` loads `head_`. -/
  | pop (samples : UInt64)
  | consume

/-- One access to what the threads share. The padding of `pop` goes to memory of its own. -/
def Threads.step (threads : Threads α) : Access α → Option (Threads α × List (Sample α))
  | .push data samples =>
    match threads.producer with
    | .idle => some ({ threads with producer := .loadTail data samples threads.ring.head }, [])
    | _ => none
  | .produce =>
    match threads.producer with
    | .idle => none
    | .loadTail data samples head =>
      let samples := threads.ring.accepts head threads.ring.tail samples
      if samples = 0 then some ({ threads with producer := .idle }, [])
      else some ({ threads with producer := .writing data samples head 0 }, [])
    | .writing data samples head i =>
      if i < samples.toNat then
        some ({ threads with ring := threads.ring.write head data i
                             producer := .writing data samples head (i + 1) }, [])
      else
        some ({ threads with ring := threads.ring.storeHead head samples, producer := .idle },
          [.accepted ((List.range samples.toNat).map data)])
  | .pop samples =>
    match threads.consumer with
    | .idle => some ({ threads with consumer := .loadTail samples threads.ring.head }, [])
    | _ => none
  | .consume =>
    match threads.consumer with
    | .idle => none
    | .loadTail samples head =>
      some ({ threads with consumer := .reading (threads.ring.copies head threads.ring.tail samples) threads.ring.tail 0 }, [])
    | .reading copied tail i =>
      if i < copied.toNat then
        some ({ threads with consumer := .reading copied tail (i + 1) },
          [.delivered (threads.ring.buffer (threads.ring.slot tail i))])
      else some ({ threads with ring := threads.ring.storeTail tail copied, consumer := .idle }, [])

end RingBuffer

namespace TgCallsController

/-- One second of one channel. -/
def ringBufferCapacity : UInt64 := 48000

def sampleRate : UInt64 := 48000

/-- 10 ms -/
def frameSamples : UInt64 := sampleRate / 100

end TgCallsController
end Tg2Sip.Voip
