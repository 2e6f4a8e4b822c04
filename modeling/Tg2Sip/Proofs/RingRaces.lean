import Tg2Sip.Lib.Run
import Tg2Sip.Proofs.Fifo

/-! The ring buffer under a producer and a consumer that interleave. Positions count all samples
that were ever accepted and taken. The side that waits sees an older position of the
other, which only makes the buffer look fuller to the producer and emptier to the consumer. -/

namespace Tg2Sip.Voip.RingBuffer
open Lib

variable {α : Type}

/-- What the pushes accepted. -/
def accepted (past : List (Sample α)) : List α := past.flatMap fun
  | .accepted samples => samples
  | .delivered _ => []

/-- What the pops delivered, without the padding. -/
def delivered (past : List (Sample α)) : List α := past.flatMap fun
  | .accepted _ => []
  | .delivered sample => [sample]

def Consumer.progress : Consumer → Nat
  | .reading _ _ i => i
  | _ => 0

/-- The producer has room for what it writes, behind the samples that were accepted. -/
def Producer.Keeps (ring : RingBuffer α) (count taken : Nat) : Producer α → Prop
  | .idle => True
  | .loadTail _ _ head => head = ring.head
  | .writing data samples head i =>
    head = ring.head ∧ i ≤ samples.toNat ∧ count + samples.toNat < taken + ring.capacity.toNat ∧
      ∀ j < i, ring.buffer ((count + j) % ring.capacity.toNat) = data j

/-- The consumer reads only what was accepted. -/
def Consumer.Keeps (ring : RingBuffer α) (count taken : Nat) : Consumer → Prop
  | .idle => True
  | .loadTail _ head => ∃ seen, head.toNat = seen % ring.capacity.toNat ∧ taken ≤ seen ∧ seen ≤ count
  | .reading copied tail i => tail = ring.tail ∧ i ≤ copied.toNat ∧ taken + copied.toNat ≤ count

/-- The positions of both sides, and the samples between them. -/
structure Safe (capacity : UInt64) (past : List (Sample α)) (threads : Threads α) (taken : Nat) : Prop where
  capacity : threads.ring.capacity = capacity
  head : threads.ring.head.toNat = (accepted past).length % threads.ring.capacity.toNat
  tail : threads.ring.tail.toNat = taken % threads.ring.capacity.toNat
  order : taken ≤ (accepted past).length
  room : (accepted past).length < taken + threads.ring.capacity.toNat
  cells : ∀ k, taken ≤ k → k < (accepted past).length →
    (accepted past)[k]? = some (threads.ring.buffer (k % threads.ring.capacity.toNat))
  delivered : delivered past = (accepted past).take (taken + threads.consumer.progress)
  producer : threads.producer.Keeps threads.ring (accepted past).length taken
  consumer : threads.consumer.Keeps threads.ring (accepted past).length taken

/-- The consumer is about to read a slot that an unfinished push writes. -/
def Threads.Clash (threads : Threads α) : Prop :=
  ∃ copied tail i data samples head written j, threads.consumer = .reading copied tail i ∧ i < copied.toNat ∧
    threads.producer = .writing data samples head written ∧ j < samples.toNat ∧
      threads.ring.slot tail i = threads.ring.slot head j

variable {capacity : UInt64} {past : List (Sample α)} {threads : Threads α} {taken : Nat}

theorem Safe.progress_le (safe : Safe capacity past threads taken) :
    taken + threads.consumer.progress ≤ (accepted past).length := by
  have reads := safe.consumer
  have order := safe.order
  cases held : threads.consumer with
  | idle | loadTail => simpa [Consumer.progress] using order
  | reading copied tail i =>
    rw [held] at reads
    obtain ⟨_, bounded, inside⟩ := reads
    simp only [Consumer.progress]
    omega

section Positions
variable (positive : 0 < capacity.toNat) (small : capacity.toNat ≤ 2 ^ 63)
include positive small

theorem Safe.headSlot (safe : Safe capacity past threads taken) {j : Nat} (near : j < capacity.toNat) :
    threads.ring.slot threads.ring.head j = ((accepted past).length + j) % capacity.toNat := by
  have same := safe.capacity
  have head := safe.head
  rw [same] at head
  rw [slot_toNat (by rw [same]; exact small) (by rw [head, same]; exact Nat.mod_lt _ positive)
    (by rw [same]; exact near), head, same, Nat.mod_add_mod]

theorem Safe.tailSlot (safe : Safe capacity past threads taken) {i : Nat} (near : i < capacity.toNat) :
    threads.ring.slot threads.ring.tail i = (taken + i) % capacity.toNat := by
  have same := safe.capacity
  have tail := safe.tail
  rw [same] at tail
  rw [slot_toNat (by rw [same]; exact small) (by rw [tail, same]; exact Nat.mod_lt _ positive)
    (by rw [same]; exact near), tail, same, Nat.mod_add_mod]

/-- The occupancy that is computed from an older position of the head. -/
theorem Safe.occupied (safe : Safe capacity past threads taken) {head : UInt64} {seen : Nat}
    (position : head.toNat = seen % capacity.toNat) (after : taken ≤ seen) (near : seen < taken + capacity.toNat) :
    (threads.ring.occupied head threads.ring.tail).toNat = seen - taken := by
  have same := safe.capacity
  have tail := safe.tail
  refine occupied_length (by rw [same]; exact small) (by rw [tail, same]; exact Nat.mod_lt _ positive)
    (by rw [same]; omega) ?_
  rw [tail, same, position, Nat.mod_add_mod, Nat.add_sub_cancel' after]

theorem Safe.noClash (safe : Safe capacity past threads taken) : ¬ threads.Clash := by
  rintro ⟨copied, tail, i, data, samples, head, written, j, reading, unread, writing, unwritten, same⟩
  have reads := safe.consumer
  have writes := safe.producer
  rw [reading] at reads
  rw [writing] at writes
  obtain ⟨rfl, _, inside⟩ := reads
  obtain ⟨rfl, _, room, _⟩ := writes
  have full := safe.room
  rw [safe.capacity] at room full
  rw [safe.tailSlot positive small (by omega), safe.headSlot positive small (by omega)] at same
  exact Cyclic.apart (by omega) (by omega) same

end Positions

section Steps
variable {data : Nat → α} {samples head tail copied : UInt64} {i : Nat}

@[simp] theorem delivered_append (past seen : List (Sample α)) :
    delivered (past ++ seen) = delivered past ++ delivered seen :=
  List.flatMap_append

theorem Safe.writes (positive : 0 < capacity.toNat) (small : capacity.toNat ≤ 2 ^ 63)
    (safe : Safe capacity past threads taken) (writing : threads.producer = .writing data samples head i)
    (more : i < samples.toNat) :
    Safe capacity past { threads with ring := threads.ring.write head data i
                                      producer := .writing data samples head (i + 1) } taken := by
  have writes := safe.producer
  rw [writing] at writes
  obtain ⟨rfl, _, room, written⟩ := writes
  rw [safe.capacity] at room
  have order := safe.order
  have slot := safe.headSlot positive small (show i < capacity.toNat by omega)
  refine ⟨safe.capacity, safe.head, safe.tail, safe.order, safe.room, fun k after before => ?_, safe.delivered, ?_,
    safe.consumer⟩
  · -- The slot is behind the samples that were accepted, and less than a round ahead of those not yet taken.
    simp only [write, slot, safe.capacity]
    rw [Function.update_of_ne (Cyclic.apart (by omega) (by omega))]
    simpa only [safe.capacity] using safe.cells k after before
  · refine ⟨rfl, more, by simpa only [write, safe.capacity] using room, fun j before => ?_⟩
    simp only [write, slot, safe.capacity]
    rcases Nat.lt_succ_iff_lt_or_eq.mp before with earlier | rfl
    · rw [Function.update_of_ne (Cyclic.apart (by omega) (by omega))]
      simpa only [safe.capacity] using written j earlier
    · exact Function.update_self _ _ _

theorem Safe.stores (positive : 0 < capacity.toNat) (small : capacity.toNat ≤ 2 ^ 63)
    (safe : Safe capacity past threads taken) (writing : threads.producer = .writing data samples head i)
    (done : ¬ i < samples.toNat) :
    Safe capacity (past ++ [.accepted ((List.range samples.toNat).map data)])
      { threads with ring := threads.ring.storeHead head samples, producer := .idle } taken := by
  have writes := safe.producer
  rw [writing] at writes
  obtain ⟨rfl, bounded, room, written⟩ := writes
  have all : i = samples.toNat := by omega
  subst all
  have progress := safe.progress_le
  have order := safe.order
  have inside : threads.ring.head.toNat < threads.ring.capacity.toNat := by
    rw [safe.head, safe.capacity]; exact Nat.mod_lt _ positive
  have advanced := advance_toNat samples (by rw [safe.capacity]; exact small) inside (by omega)
  have grown : accepted (past ++ [.accepted ((List.range samples.toNat).map data)]) =
      accepted past ++ (List.range samples.toNat).map data := by simp [accepted]
  refine ⟨safe.capacity, ?_, safe.tail, ?_, ?_, fun k after before => ?_, ?_, trivial, ?_⟩
  · simp only [storeHead, grown, advanced, safe.head, Nat.mod_add_mod, List.length_append, List.length_map,
      List.length_range]
  · simp only [grown, List.length_append]
    omega
  · simp only [grown, storeHead, List.length_append, List.length_map, List.length_range]
    exact room
  · rw [grown] at before ⊢
    simp only [List.length_append, List.length_map, List.length_range] at before
    by_cases old : k < (accepted past).length
    · rw [List.getElem?_append_left old]
      exact safe.cells k after old
    · obtain ⟨j, rfl⟩ := Nat.exists_eq_add_of_le (Nat.le_of_not_lt old)
      rw [List.getElem?_append_right (by omega), Nat.add_sub_cancel_left, List.getElem?_map,
        List.getElem?_range (by omega), Option.map_some]
      exact congrArg some (written j (by omega)).symm
  · rw [grown, List.take_append_of_le_length progress]
    simpa [RingBuffer.delivered] using safe.delivered
  · have reads := safe.consumer
    rw [grown]
    simp only [List.length_append]
    cases held : threads.consumer with
    | idle => trivial
    | loadTail count position =>
      rw [held] at reads
      obtain ⟨seen, same, after, before⟩ := reads
      exact ⟨seen, same, after, by omega⟩
    | reading copied tail read =>
      rw [held] at reads
      obtain ⟨same, bounded, inside⟩ := reads
      exact ⟨same, bounded, by omega⟩

theorem Safe.reads (positive : 0 < capacity.toNat) (small : capacity.toNat ≤ 2 ^ 63)
    (safe : Safe capacity past threads taken) (reading : threads.consumer = .reading copied tail i)
    (more : i < copied.toNat) :
    Safe capacity (past ++ [.delivered (threads.ring.buffer (threads.ring.slot tail i))])
      { threads with consumer := .reading copied tail (i + 1) } taken := by
  have reads := safe.consumer
  rw [reading] at reads
  obtain ⟨rfl, bounded, inside⟩ := reads
  have full := safe.room
  rw [safe.capacity] at full
  have same : accepted (past ++ [.delivered (threads.ring.buffer (threads.ring.slot threads.ring.tail i))]) =
      accepted past := by
    simp [accepted]
  refine ⟨safe.capacity, by rw [same]; exact safe.head, safe.tail, by rw [same]; exact safe.order,
    by rw [same]; exact safe.room,
    by rw [same]; exact safe.cells, ?_, by rw [same]; exact safe.producer, ⟨rfl, more, by rw [same]; exact inside⟩⟩
  have cell := safe.cells (taken + i) (by omega) (by omega)
  have before := safe.delivered
  rw [reading] at before
  rw [same, delivered_append, before, safe.tailSlot positive small (by omega)]
  simp only [Consumer.progress]
  rw [← Nat.add_assoc, List.take_add_one, cell, safe.capacity]
  rfl

theorem Safe.takes (positive : 0 < capacity.toNat) (small : capacity.toNat ≤ 2 ^ 63)
    (safe : Safe capacity past threads taken) (reading : threads.consumer = .reading copied tail i)
    (done : ¬ i < copied.toNat) :
    Safe capacity past { threads with ring := threads.ring.storeTail tail copied, consumer := .idle }
    (taken + copied.toNat) := by
  have reads := safe.consumer
  rw [reading] at reads
  obtain ⟨rfl, bounded, inside⟩ := reads
  have all : i = copied.toNat := by omega
  subst all
  have full := safe.room
  have below : threads.ring.tail.toNat < threads.ring.capacity.toNat := by
    rw [safe.tail, safe.capacity]; exact Nat.mod_lt _ positive
  have advanced := advance_toNat copied (by rw [safe.capacity]; exact small) below (by omega)
  refine ⟨safe.capacity, safe.head, ?_, inside, ?_, fun k after before => safe.cells k (by omega) before,
    ?_, ?_, trivial⟩
  · simp only [storeTail, advanced, safe.tail, Nat.mod_add_mod]
  · simp only [storeTail]
    omega
  · have before := safe.delivered
    rw [reading] at before
    exact before
  · have writes := safe.producer
    cases held : threads.producer with
    | idle => trivial
    | loadTail => rw [held] at writes; exact writes
    | writing data samples head written =>
      rw [held] at writes
      obtain ⟨same, bounded, room, cells⟩ := writes
      exact ⟨same, bounded, by simp only [storeTail]; omega, cells⟩

theorem Safe.step (positive : 0 < capacity.toNat) (small : capacity.toNat ≤ 2 ^ 63) {seen : List (Sample α)}
    {after : Threads α} {access : Access α} (safe : Safe capacity past threads taken)
    (step : threads.step access = some (after, seen)) :
    ∃ later, Safe capacity (past ++ seen) after later := by
  have order := safe.order
  have room := safe.room
  have quiet : seen = [] → past ++ seen = past := by rintro rfl; exact List.append_nil past
  cases access with
  | push data samples =>
    simp only [Threads.step] at step
    split at step <;> cases step
    rw [quiet rfl]
    exact ⟨taken, { safe with producer := rfl }⟩
  | produce =>
    simp only [Threads.step] at step
    split at step
    next => cases step
    next data samples head loading =>
      have writes := safe.producer
      rw [loading] at writes
      cases writes
      have occupied :=
        safe.occupied positive small (by rw [safe.head, safe.capacity]) order (by rw [← safe.capacity]; exact room)
      have takes := accepts_toNat samples (by rw [safe.capacity]; exact positive) occupied (by omega)
      have behind : (accepted past).length + (threads.ring.accepts threads.ring.head threads.ring.tail samples).toNat <
          taken + threads.ring.capacity.toNat := by omega
      split at step <;> cases step <;> rw [quiet rfl]
      next none => exact ⟨taken, { safe with producer := trivial }⟩
      next some => exact ⟨taken, { safe with producer := ⟨rfl, Nat.zero_le _, behind, fun j before => absurd before (Nat.not_lt_zero j)⟩ }⟩
    next data samples head i writing =>
      split at step <;> cases step
      next more => rw [quiet rfl]; exact ⟨taken, safe.writes positive small writing more⟩
      next done => exact ⟨taken, safe.stores positive small writing done⟩
  | pop samples =>
    simp only [Threads.step] at step
    split at step <;> cases step
    next idle =>
      rw [quiet rfl]
      have before := safe.delivered
      rw [idle] at before
      exact ⟨taken, { safe with delivered := before, consumer := ⟨_, safe.head, order, Nat.le_refl _⟩ }⟩
  | consume =>
    simp only [Threads.step] at step
    split at step
    next => cases step
    next samples head loading =>
      cases step
      rw [quiet rfl]
      have reads := safe.consumer
      have before := safe.delivered
      rw [loading] at reads before
      obtain ⟨seen, position, after, old⟩ := reads
      have occupied :=
        safe.occupied positive small (by rw [position, safe.capacity]) after (by rw [← safe.capacity]; omega)
      have copied := copies_toNat samples occupied
      exact ⟨taken, { safe with delivered := before, consumer := ⟨rfl, Nat.zero_le _, by omega⟩ }⟩
    next copied tail i reading =>
      split at step <;> cases step
      next more => exact ⟨taken, safe.reads positive small reading more⟩
      next done => rw [quiet rfl]; exact ⟨_, safe.takes positive small reading done⟩

end Steps

section Alone

/-- One access of either thread. -/
def Threads.Moves (before : Threads α) (seen : List (Sample α)) (after : Threads α) : Prop :=
  ∃ access, before.step access = some (after, seen)

private theorem writes_alone (ring : RingBuffer α) (consumer : Consumer) (data : Nat → α)
    (samples head : UInt64) (count : Nat) (inside : count ≤ samples.toNat) :
    Run Threads.Moves ⟨ring, .writing data samples head 0, consumer⟩ []
      ⟨(List.range count).foldl (fun written i => written.write head data i) ring, .writing data samples head count,
        consumer⟩ := by
  induction count with
  | zero => exact .refl
  | succ count ih =>
    refine .tail (ih (by omega)) ⟨.produce, ?_⟩
    simp only [Threads.step, if_pos (show count < samples.toNat by omega), List.range_succ, List.foldl_append,
      List.foldl_cons, List.foldl_nil]

/-- A `push` that nothing interrupts is the function `push`. -/
theorem push_alone (idle : threads.producer = .idle) (data : Nat → α) (samples : UInt64) :
    ∃ seen, Run Threads.Moves threads seen { threads with ring := threads.ring.push data samples } ∧
      accepted seen = (List.range
          (threads.ring.accepts threads.ring.head threads.ring.tail samples).toNat).map data := by
  obtain ⟨ring, producer, consumer⟩ := threads
  cases idle
  have called : Run Threads.Moves ⟨ring, .idle, consumer⟩ [] ⟨ring, .loadTail data samples ring.head, consumer⟩ :=
    .single ⟨.push data samples, rfl⟩
  unfold RingBuffer.push
  dsimp only
  generalize count : ring.accepts ring.head ring.tail samples = taken
  split
  next full =>
    have returned : Run Threads.Moves ⟨ring, .loadTail data samples ring.head, consumer⟩ [] ⟨ring, .idle, consumer⟩ :=
      .single ⟨.produce, by simp only [Threads.step, count, full, if_true]⟩
    exact ⟨_, called.trans returned, by rw [full]; rfl⟩
  next room =>
    have loaded : Run Threads.Moves ⟨ring, .loadTail data samples ring.head, consumer⟩ []
        ⟨ring, .writing data taken ring.head 0, consumer⟩ :=
      .single ⟨.produce, by simp only [Threads.step, count, room, if_false]⟩
    have written := writes_alone ring consumer data taken ring.head _ (Nat.le_refl _)
    generalize (List.range taken.toNat).foldl _ ring = final at *
    have stored : Run Threads.Moves ⟨final, .writing data taken ring.head taken.toNat, consumer⟩
        [.accepted ((List.range taken.toNat).map data)] ⟨final.storeHead ring.head taken, .idle, consumer⟩ :=
      .single ⟨.produce, by simp only [Threads.step, Nat.lt_irrefl, if_false]⟩
    exact ⟨_, ((called.trans loaded).trans written).trans stored, by simp [accepted]⟩

private theorem reads_alone (ring : RingBuffer α) (producer : Producer α) (copied tail : UInt64) (count : Nat)
    (inside : count ≤ copied.toNat) : Run Threads.Moves ⟨ring, producer, .reading copied tail 0⟩
      ((List.range count).map fun i => .delivered (ring.buffer (ring.slot tail i)))
        ⟨ring, producer, .reading copied tail count⟩ := by
  induction count with
  | zero => exact .refl
  | succ count ih =>
    rw [List.range_succ, List.map_append, List.map_singleton]
    refine .tail (ih (by omega)) ⟨.consume, ?_⟩
    simp only [Threads.step, if_pos (show count < copied.toNat by omega)]

/-- A `pop` that nothing interrupts is the function `pop`, and delivers what `pop` returns before the padding. -/
theorem pop_alone [Zero α] (idle : threads.consumer = .idle) (samples : UInt64) :
    ∃ seen, Run Threads.Moves threads seen { threads with ring := (threads.ring.pop samples).2 } ∧
      (threads.ring.pop samples).1 = delivered seen ++ List.replicate (samples.toNat - (delivered seen).length) 0 := by
  obtain ⟨ring, producer, consumer⟩ := threads
  cases idle
  have called : Run Threads.Moves ⟨ring, producer, .idle⟩ [] ⟨ring, producer, .loadTail samples ring.head⟩ :=
    .single ⟨.pop samples, rfl⟩
  have loaded : Run Threads.Moves ⟨ring, producer, .loadTail samples ring.head⟩ []
      ⟨ring, producer, .reading (ring.copies ring.head ring.tail samples) ring.tail 0⟩ := .single ⟨.consume, rfl⟩
  have read := reads_alone ring producer (ring.copies ring.head ring.tail samples) ring.tail _ (Nat.le_refl _)
  have stored : Run Threads.Moves ⟨ring, producer, .reading (ring.copies ring.head ring.tail samples) ring.tail
      (ring.copies ring.head ring.tail samples).toNat⟩ [] ⟨(ring.pop samples).2, producer, .idle⟩ :=
    .single ⟨.consume, by simp only [Threads.step, Nat.lt_irrefl, if_false, RingBuffer.pop]⟩
  exact ⟨_, ((called.trans loaded).trans read).trans stored,
    by simp [RingBuffer.pop, delivered, List.flatMap_map, ← List.map_eq_flatMap]⟩

end Alone

theorem Safe.initial [Zero α] (positive : 0 < capacity.toNat) :
    Safe capacity ([] : List (Sample α)) { ring := new capacity } 0 := by
  refine ⟨rfl, (Nat.zero_mod _).symm, (Nat.zero_mod _).symm, Nat.le_refl _, ?_, fun k after before => ?_, rfl,
    trivial, trivial⟩
  · simpa [accepted, new] using positive
  · cases before

/-- Along every run, no slot is read while it is written, the indices stay in range, what was delivered is a
prefix of what was accepted, and the rest of it is still in its slots. -/
theorem threads_never_clash [Zero α] (positive : 0 < capacity.toNat) (small : capacity.toNat ≤ 2 ^ 63)
    (run : Run Threads.Moves { ring := new capacity } past threads) :
    ¬ threads.Clash ∧ threads.ring.head < capacity ∧ threads.ring.tail < capacity ∧ delivered past <+: accepted past ∧
      ∀ k, (delivered past).length ≤ k → k < (accepted past).length →
        (accepted past)[k]? = some (threads.ring.buffer (k % capacity.toNat)) := by
  obtain ⟨taken, safe⟩ :=
    run.invariant (fun past threads => ∃ taken, Safe capacity past threads taken) ⟨0, .initial positive⟩
    fun _ _ _ _ ⟨_, safe⟩ ⟨_, step⟩ => safe.step positive small step
  have inside : ∀ position, position % threads.ring.capacity.toNat < capacity.toNat := fun position => by
    rw [safe.capacity]
    exact Nat.mod_lt _ positive
  refine ⟨safe.noClash positive small, UInt64.lt_iff_toNat_lt.mpr (by rw [safe.head]; exact inside _),
    UInt64.lt_iff_toNat_lt.mpr (by rw [safe.tail]; exact inside _),
      by rw [safe.delivered]; exact List.take_prefix _ _, ?_⟩
  intro k later before
  rw [safe.delivered, List.length_take, Nat.min_eq_left safe.progress_le] at later
  rw [← safe.capacity]
  exact safe.cells k (by omega) before

/-- A sample is read while the next one is written. -/
theorem interleaved_threads_stay_apart :
    ∃ past threads, Run Threads.Moves { ring := (new 4 : RingBuffer Int) } past threads ∧
    delivered past = [1, 2, 3] ∧ delivered past <+: accepted past := by
  have ran : (execute Threads.step (fun _ _ _ => true)
      [.push (fun i => (i : Int) + 1) 5, .produce, .produce, .produce, .produce, .produce, .pop 3, .consume,
        .push (fun i => (i : Int) + 7) 1, .consume, .produce, .consume, .consume, .consume]
      { ring := (new 4 : RingBuffer Int) }).any (fun result => decide (delivered result.2 = [1, 2, 3])) = true := by
    decide +kernel
  obtain ⟨threads, past, reached, found⟩ := execute_any ran
  have run := reached.mono fun _ _ _ ⟨access, _, step⟩ => (⟨access, step⟩ : Threads.Moves _ _ _)
  exact ⟨past, threads, run, of_decide_eq_true found, (threads_never_clash (by decide) (by decide) run).2.2.2.1⟩

end Tg2Sip.Voip.RingBuffer
