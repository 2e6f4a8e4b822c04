import Tg2Sip.AudioBridge
import Tg2Sip.Lib.History
import Tg2Sip.Proofs.RingRaces

/-! What goes in at one end of a ring buffer comes out at the other in blocks of 10 ms, while both threads take their
steps in any order. A push stores as much as there is room for when it looks, and a pop hands out what waited when it
was called and fills up with silence. -/

namespace Tg2Sip.Voip
open Lib TdApi RingBuffer TgCallsController

theorem length_toBytes (samples : List Int16) : (toBytes samples).length = 2 * samples.length := by
  induction samples with
  | nil => rfl
  | cons sample samples ih =>
    rw [toBytes, List.flatMap_cons, List.length_append, ← toBytes, ih, List.length_cons]
    simp only [sampleBytes, List.length_cons, List.length_nil]
    omega

/-- Samples that are copied to bytes and taken for samples again are the same. -/
theorem toSamples_toBytes (samples : List Int16) : toSamples (toBytes samples) = samples := by
  induction samples with
  | nil => rfl
  | cons sample samples ih =>
    have bound := sample.toUInt16.toNat_lt
    have low : (UInt8.ofNat (sample.toUInt16.toNat % 256)).toNat = sample.toUInt16.toNat % 256 :=
      UInt8.toNat_ofNat_of_lt' (Nat.mod_lt _ (by decide))
    have high : (UInt8.ofNat (sample.toUInt16.toNat / 256)).toNat = sample.toUInt16.toNat / 256 :=
      UInt8.toNat_ofNat_of_lt' (Nat.div_lt_of_lt_mul bound)
    have whole : UInt16.ofNat (sample.toUInt16.toNat % 256 + 256 * (sample.toUInt16.toNat / 256)) =
        sample.toUInt16 := by
      rw [Nat.mod_add_div, UInt16.ofNat_toNat]
    change (UInt16.ofNat (_ + 256 * _)).toInt16 :: toSamples (toBytes samples) = _
    rw [low, high, whole, ih]
    rfl

namespace Pipe
variable {α : Type}

def passed (past : List (PipeObs α)) : List (Sample α) := past.filterMap fun
  | .sample sample => some sample
  | _ => none

def kept (past : List (PipeObs α)) : List (List α) := past.filterMap fun
  | .kept samples => some samples
  | _ => none

def blocks (past : List (PipeObs α)) : List (List α) := past.filterMap fun
  | .block samples => some samples
  | _ => none

/-- The samples that were stored and that no pop has copied. -/
def waiting (past : List (PipeObs α)) : List α := (accepted (passed past)).drop (delivered (passed past)).length

def lends (count : Nat) : PipeObs α → Nat
  | .sample (.delivered _) => count + 1
  | .asked | .block _ => 0
  | _ => count

/-- What the pop that is running has copied. It gives the room back when it returns. -/
def lent (past : List (PipeObs α)) : Nat := past.foldl lends 0

def room (past : List (PipeObs α)) : Nat := ringBufferCapacity.toNat - 1 - (waiting past).length - lent past

/-- Where a push begins or ends. -/
def bounds : PipeObs α → Bool
  | .offered _ | .kept _ => true
  | _ => false

/-- Where a pop begins or ends. -/
def turns : PipeObs α → Bool
  | .asked | .block _ => true
  | _ => false

section Histories
variable (past seen : List (PipeObs α))

@[simp] theorem passed_append : passed (past ++ seen) = passed past ++ passed seen := List.filterMap_append
@[simp] theorem kept_append : kept (past ++ seen) = kept past ++ kept seen := List.filterMap_append
@[simp] theorem blocks_append : blocks (past ++ seen) = blocks past ++ blocks seen := List.filterMap_append

@[simp] theorem accepted_append (shown more : List (Sample α)) :
    accepted (shown ++ more) = accepted shown ++ accepted more :=
  List.flatMap_append

@[simp] theorem passed_asked : passed (.asked :: seen) = passed seen := rfl
@[simp] theorem passed_offered (samples : List α) : passed (.offered samples :: seen) = passed seen := rfl

theorem lent_append : lent (past ++ seen) = seen.foldl lends (lent past) := List.foldl_append

end Histories

theorem accepts_le (ring : RingBuffer α) (head tail samples : UInt64) :
    (ring.accepts head tail samples).toNat ≤ samples.toNat := by
  simp only [RingBuffer.accepts]
  split
  next more => exact Nat.le_of_lt (UInt64.lt_iff_toNat_lt.mp more)
  next => exact Nat.le_refl _

theorem copies_le (ring : RingBuffer α) (head tail samples : UInt64) :
    (ring.copies head tail samples).toNat ≤ samples.toNat := by
  simp only [RingBuffer.copies]
  split
  next => exact Nat.le_refl _
  next more => exact Nat.le_of_not_lt fun less => more (UInt64.lt_iff_toNat_lt.mpr less)

variable [Zero α]

private theorem firsts_eq {samples : List α} {count : Nat} (inside : count ≤ samples.length) :
    (List.range count).map (fun i => samples.getD i 0) = samples.take count := by
  apply List.ext_getElem
  · simp [inside]
  · intro i short long
    have here : i < count := by simpa using short
    simp [List.getElem?_eq_getElem (show i < samples.length by omega)]

/-- The ways a step can go: four of them are a push's, the others a pop's. -/
inductive Moves (pipe : Pipe α) : PipeAccess α → List (PipeObs α) → Pipe α → Prop where
  | offered (samples : List α) (idle : pipe.threads.producer = .idle) : Moves pipe (.push samples) [.offered samples]
      { pipe with threads.producer := .loadTail (fun i => samples.getD i 0) (UInt64.ofNat samples.length) pipe.threads.ring.head }
  | refused (data : Nat → α) (samples head : UInt64) (loading : pipe.threads.producer = .loadTail data samples head)
      (full : pipe.threads.ring.accepts head pipe.threads.ring.tail samples = 0) :
      Moves pipe .produce [.kept []] { pipe with threads.producer := .idle }
  | looked (data : Nat → α) (samples head : UInt64) (loading : pipe.threads.producer = .loadTail data samples head) :
      Moves pipe .produce []
        { pipe with threads.producer := .writing data (pipe.threads.ring.accepts head pipe.threads.ring.tail samples) head 0 }
  | wrote (data : Nat → α) (samples head : UInt64) (i : Nat)
      (writing : pipe.threads.producer = .writing data samples head i) :
      Moves pipe .produce [] { pipe with threads.ring := pipe.threads.ring.write head data i
                                         threads.producer := .writing data samples head (i + 1) }
  | stored (data : Nat → α) (samples head : UInt64) (i : Nat)
      (writing : pipe.threads.producer = .writing data samples head i) :
      Moves pipe .produce
        [.sample (.accepted ((List.range samples.toNat).map data)), .kept ((List.range samples.toNat).map data)]
        { pipe with threads.ring := pipe.threads.ring.storeHead head samples, threads.producer := .idle }
  | asked (idle : pipe.threads.consumer = .idle) :
      Moves pipe .pop [.asked] { pipe with threads.consumer := .loadTail frameSamples pipe.threads.ring.head }
  | counted (samples head : UInt64) (loading : pipe.threads.consumer = .loadTail samples head) :
      Moves pipe .consume []
        { pipe with threads.consumer :=
            .reading (pipe.threads.ring.copies head pipe.threads.ring.tail samples) pipe.threads.ring.tail 0 }
  | copied (copied tail : UInt64) (i : Nat) (reading : pipe.threads.consumer = .reading copied tail i)
      (more : i < copied.toNat) (sample : α) :
      Moves pipe .consume [.sample (.delivered sample)]
        { pipe with threads.consumer := .reading copied tail (i + 1), scratch := pipe.scratch ++ [sample] }
  | returned (copied tail : UInt64) (i : Nat) (reading : pipe.threads.consumer = .reading copied tail i)
      (done : ¬ i < copied.toNat) :
      Moves pipe .consume [.block (pad pipe.scratch)]
        { threads := { pipe.threads with ring := pipe.threads.ring.storeTail tail copied, consumer := .idle } }

variable {pipe after : Pipe α} {next : PipeAccess α} {seen past : List (PipeObs α)}

/-- A step is one of the threads'. -/
theorem step_threads (step : pipe.step next = some (after, seen)) :
    pipe.threads.step (access next) = some (after.threads, passed seen) := by
  obtain ⟨⟨threads, shown⟩, moved, same⟩ := Option.map_eq_some_iff.mp step
  have samples : passed (shown.map PipeObs.sample) = shown := by simp [passed, List.filterMap_map]
  cases next with
  | push given =>
    cases same
    simp only [access, Threads.step] at moved ⊢
    split at moved <;> cases moved
    rfl
  | pop =>
    cases same
    simp only [access, Threads.step] at moved ⊢
    split at moved <;> cases moved
    rfl
  | produce =>
    dsimp only at same
    split at same <;> cases same
    · rw [passed_append, samples]
      exact moved.trans (by simp [passed])
    · rw [samples]
      exact moved
  | consume =>
    dsimp only at same
    split at same <;> cases same
    · rw [passed_append, samples]
      exact moved.trans (by simp [passed])
    · rw [samples]
      exact moved

theorem step_moves (step : pipe.step next = some (after, seen)) : pipe.Moves next seen after := by
  obtain ⟨⟨threads, shown⟩, moved, same⟩ := Option.map_eq_some_iff.mp step
  cases next with
  | push samples =>
    simp only [access, Threads.step] at moved
    split at moved <;> cases moved
    next idle => cases same; exact .offered samples idle
  | produce =>
    simp only [access, Threads.step] at moved
    split at moved
    next => cases moved
    next data samples head loading =>
      split at moved <;> cases moved <;> cases same
      next full => exact .refused data samples head loading full
      next => exact .looked data samples head loading
    next data samples head i writing =>
      split at moved <;> cases moved <;> cases same
      next => exact .wrote data samples head i writing
      next =>
        have whole : stored [Sample.accepted ((List.range samples.toNat).map data)] =
            (List.range samples.toNat).map data := by
          simp [stored]
        simp only [whole]
        exact .stored data samples head i writing
  | pop =>
    simp only [access, Threads.step] at moved
    split at moved <;> cases moved
    next idle => cases same; exact .asked idle
  | consume =>
    simp only [access, Threads.step] at moved
    split at moved
    next => cases moved
    next samples head loading =>
      cases moved
      cases same
      simpa [Pipe.copied] using Moves.counted samples head loading
    next copied tail i reading =>
      split at moved <;> cases moved <;> cases same
      next more => exact .copied copied tail i reading more _
      next done => simpa [Pipe.copied] using Moves.returned copied tail i reading done

/-- A push has stored the first samples of what it was given, as many as there was room for when it looked. -/
def Pushed (earlier : List (PipeObs α)) : PipeObs α → Prop
  | .kept taken => ∃ before samples first second, earlier = before ++ .offered samples :: (first ++ second) ∧
      (∀ obs ∈ first ++ second, bounds obs = false) ∧
        taken = samples.take (min (samples.length % 2 ^ 64) (room (before ++ .offered samples :: first)))
  | _ => True

/-- A pop has handed out a block of what waited when it was called, with silence behind it if that was not enough. -/
def Popped (earlier : List (PipeObs α)) : PipeObs α → Prop
  | .block block => ∃ before during, earlier = before ++ .asked :: during ∧ (∀ obs ∈ during, turns obs = false) ∧
      delivered (passed during) = (waiting before).take frameSamples.toNat ∧
        block = pad ((waiting before).take frameSamples.toNat)
  | _ => True

omit [Zero α] in
theorem Pushed.grow {obs : PipeObs α} (pushed : Pushed past obs) (aside : ∀ obs ∈ seen, bounds obs = false) :
    Pushed (past ++ seen) obs := by
  cases obs with
  | kept taken =>
    obtain ⟨before, samples, first, second, split, quiet, same⟩ := pushed
    refine ⟨before, samples, first, second ++ seen, by simp [split], ?_, same⟩
    rw [← List.append_assoc]
    exact List.forall_mem_append.mpr ⟨quiet, aside⟩
  | _ => trivial

/-- Where `push` is. What it stores is decided once it has loaded both indices. -/
def Pushing (past : List (PipeObs α)) : Producer α → Prop
  | .idle => True
  | .loadTail data samples _ => ∃ before last during, past = before ++ .offered last :: during ∧
      (∀ obs ∈ during, bounds obs = false) ∧ data = (fun i => last.getD i 0) ∧ samples = UInt64.ofNat last.length
  | .writing data samples _ _ => ∃ before last first second, past = before ++ .offered last :: (first ++ second) ∧
      (∀ obs ∈ first ++ second, bounds obs = false) ∧ data = (fun i => last.getD i 0) ∧
        samples.toNat = min (last.length % 2 ^ 64) (room (before ++ .offered last :: first))

/-- Where `pop` is: what waited when it was called, and what it has copied of that. -/
def Popping (past : List (PipeObs α)) (scratch : List α) : Consumer → Prop
  | .idle => scratch = []
  | .loadTail samples head =>
    scratch = [] ∧ samples = frameSamples ∧ ∃ before during, past = before ++ .asked :: during ∧
      (∀ obs ∈ during, turns obs = false) ∧ delivered (passed during) = [] ∧
        (delivered (passed before)).length ≤ (accepted (passed before)).length ∧
          head.toNat = (accepted (passed before)).length % ringBufferCapacity.toNat
  | .reading copied _ i => scratch.length = i ∧ i ≤ copied.toNat ∧ ∃ before during, past = before ++ .asked :: during ∧
      (∀ obs ∈ during, turns obs = false) ∧ delivered (passed during) = scratch ∧
        copied.toNat = min frameSamples.toNat (waiting before).length

theorem Pushing.grow {producer : Producer α} (pushing : Pushing past producer)
    (aside : ∀ obs ∈ seen, bounds obs = false) :
    Pushing (past ++ seen) producer := by
  cases producer with
  | idle => trivial
  | loadTail data samples head =>
    obtain ⟨before, last, during, split, quiet, same, count⟩ := pushing
    refine ⟨before, last, during ++ seen, by simp [split], ?_, same, count⟩
    exact List.forall_mem_append.mpr ⟨quiet, aside⟩
  | writing data samples head i =>
    obtain ⟨before, last, first, second, split, quiet, same, count⟩ := pushing
    refine ⟨before, last, first, second ++ seen, by simp [split], ?_, same, count⟩
    rw [← List.append_assoc]
    exact List.forall_mem_append.mpr ⟨quiet, aside⟩

omit [Zero α] in
theorem Popping.grow {scratch : List α} {consumer : Consumer} (popping : Popping past scratch consumer)
    (aside : ∀ obs ∈ seen, turns obs = false) (none : delivered (passed seen) = []) :
    Popping (past ++ seen) scratch consumer := by
  cases consumer with
  | idle => exact popping
  | loadTail samples head =>
    obtain ⟨clear, count, before, during, split, quiet, idle, behind, position⟩ := popping
    refine ⟨clear, count, before, during ++ seen, by simp [split], ?_, by simp [idle, none], behind, position⟩
    exact List.forall_mem_append.mpr ⟨quiet, aside⟩
  | reading copied tail i =>
    obtain ⟨same, inside, before, during, split, quiet, held, count⟩ := popping
    refine ⟨same, inside, before, during ++ seen, by simp [split], ?_, by simp [held, none], count⟩
    exact List.forall_mem_append.mpr ⟨quiet, aside⟩

/-- What a ring buffer has passed on, from its first step. -/
structure Flows (past : List (PipeObs α)) (pipe : Pipe α) : Prop where
  safe : ∃ taken, Safe ringBufferCapacity (passed past) pipe.threads taken
  lent : lent past = pipe.threads.consumer.progress
  stored : accepted (passed past) = (kept past).flatten
  pushing : Pushing past pipe.threads.producer
  popping : Popping past pipe.scratch pipe.threads.consumer
  pushed : Throughout Pushed past
  popped : Throughout Popped past

theorem Flows.initial : Flows ([] : List (PipeObs α)) new where
  safe := ⟨0, .initial (by decide)⟩
  lent := rfl
  stored := rfl
  pushing := trivial
  popping := rfl
  pushed := .nil
  popped := .nil

/-- What was taken out for good, and what the running pop has copied. -/
theorem Flows.count (flows : Flows past pipe) {taken : Nat}
    (safe : Safe ringBufferCapacity (passed past) pipe.threads taken) :
    (delivered (passed past)).length = taken + Pipe.lent past := by
  rw [safe.delivered, List.length_take, Nat.min_eq_left safe.progress_le, flows.lent]

/-- A push that looks finds the room that there is. -/
theorem Flows.looks (flows : Flows past pipe) {data : Nat → α} {samples head : UInt64}
    (loading : pipe.threads.producer = .loadTail data samples head) :
    (pipe.threads.ring.accepts head pipe.threads.ring.tail samples).toNat = min samples.toNat (room past) := by
  obtain ⟨taken, safe⟩ := flows.safe
  have count := flows.count safe
  have progress := safe.progress_le
  have order := safe.order
  have full := safe.room
  have position := safe.head
  have writes := safe.producer
  rw [loading] at writes
  cases writes
  rw [safe.capacity] at full position
  have occupied := safe.occupied (by decide) (by decide) position order full
  have stores := accepts_toNat samples (by rw [safe.capacity]; decide) occupied (by rw [safe.capacity]; omega)
  rw [stores, safe.capacity, room, waiting, List.length_drop, count]
  rw [← flows.lent] at progress
  omega

/-- A push that finds no room has stored all that there was room for. -/
theorem Flows.refuses (flows : Flows past pipe) {data : Nat → α} {samples head : UInt64}
    (loading : pipe.threads.producer = .loadTail data samples head)
    (full : pipe.threads.ring.accepts head pipe.threads.ring.tail samples = 0) : Pushed past (.kept []) := by
  have none := flows.looks loading
  have pushing := flows.pushing
  rw [full] at none
  rw [loading] at pushing
  obtain ⟨before, last, during, split, quiet, rfl, rfl⟩ := pushing
  refine ⟨before, last, during, [], by simp [split], by simpa using quiet, ?_⟩
  rw [← split, ← UInt64.toNat_ofNat', ← none]
  rfl

/-- A push that finds room decides what it stores. -/
theorem Flows.decides (flows : Flows past pipe) {data : Nat → α} {samples head : UInt64}
    (loading : pipe.threads.producer = .loadTail data samples head) :
    Pushing past (.writing data (pipe.threads.ring.accepts head pipe.threads.ring.tail samples) head 0) := by
  have some := flows.looks loading
  have pushing := flows.pushing
  rw [loading] at pushing
  obtain ⟨before, last, during, split, quiet, rfl, rfl⟩ := pushing
  refine ⟨before, last, during, [], by simp [split], by simpa using quiet, rfl, ?_⟩
  rw [some, UInt64.toNat_ofNat', ← split]

/-- A push that has written all stores that. -/
theorem Flows.keeps (flows : Flows past pipe) {data : Nat → α} {samples head : UInt64} {i : Nat}
    (writing : pipe.threads.producer = .writing data samples head i) :
    Pushed past (.kept ((List.range samples.toNat).map data)) := by
  have pushing := flows.pushing
  rw [writing] at pushing
  obtain ⟨before, last, first, second, split, quiet, rfl, count⟩ := pushing
  have inside : samples.toNat ≤ last.length := by
    have less := Nat.mod_le last.length (2 ^ 64)
    omega
  exact ⟨before, last, first, second, split, quiet, by rw [firsts_eq inside, count]⟩

/-- A pop that counts finds what waited when it was called. -/
theorem Flows.counts (flows : Flows past pipe) {samples head : UInt64}
    (loading : pipe.threads.consumer = .loadTail samples head) :
    Popping past pipe.scratch
      (.reading (pipe.threads.ring.copies head pipe.threads.ring.tail samples) pipe.threads.ring.tail 0) := by
  obtain ⟨taken, safe⟩ := flows.safe
  have count := flows.count safe
  have popping := flows.popping
  have lent := flows.lent
  rw [loading] at popping lent
  obtain ⟨clear, rfl, before, during, split, quiet, idle, behind, position⟩ := popping
  have same : delivered (passed past) = delivered (passed before) := by
    rw [split, passed_append, passed_asked, delivered_append, idle, List.append_nil]
  have grown : (accepted (passed before)).length ≤ (accepted (passed past)).length := by
    rw [split, passed_append, accepted_append, List.length_append]
    exact Nat.le_add_right _ _
  have full := safe.room
  rw [safe.capacity] at full
  have none : (Consumer.loadTail frameSamples head).progress = 0 := rfl
  rw [same, lent, none, Nat.add_zero] at count
  rw [count] at behind
  have occupied := safe.occupied (by decide) (by decide) position behind (by omega)
  refine ⟨by simp [clear], Nat.zero_le _, before, during, split, quiet, by rw [idle, clear], ?_⟩
  rw [copies_toNat frameSamples occupied, waiting, List.length_drop, count]

/-- A pop that returns has copied all that it counted. -/
theorem Flows.returns (flows : Flows past pipe) {copied tail : UInt64} {i : Nat}
    (reading : pipe.threads.consumer = .reading copied tail i) (done : ¬ i < copied.toNat) :
    Popped past (.block (pad pipe.scratch)) := by
  obtain ⟨taken, safe⟩ := flows.safe
  have count := flows.count safe
  have popping := flows.popping
  have lent := flows.lent
  have delivers := safe.delivered
  rw [reading] at popping lent delivers
  obtain ⟨same, inside, before, during, split, quiet, held, total⟩ := popping
  have all : i = min frameSamples.toNat (waiting before).length := by omega
  have parts : delivered (passed past) = delivered (passed before) ++ pipe.scratch := by
    rw [split, passed_append, passed_asked, delivered_append, held]
  have begun : (delivered (passed before)).length = taken := by
    rw [parts, List.length_append, same, lent] at count
    exact Nat.add_right_cancel count
  have rest : pipe.scratch = (waiting before).take i := by
    have inside : i = 0 ∨ taken + i ≤ (accepted (passed before)).length := by
      rw [waiting, List.length_drop, begun] at all
      omega
    have whole : accepted (passed past) = accepted (passed before) ++ accepted (passed during) := by
      rw [split, passed_append, passed_asked, accepted_append]
    have copied : pipe.scratch = ((accepted (passed past)).take (taken + i)).drop taken := by
      rw [← show taken + Consumer.progress (.reading copied tail i) = taken + i from rfl, ← delivers, parts, ← begun,
        List.drop_left]
    obtain rfl | short := inside
    · exact List.length_eq_zero_iff.mp same
    · rw [copied, whole, List.take_append_of_le_length short, List.drop_take, waiting, begun, Nat.add_sub_cancel_left]
  have handed : pipe.scratch = (waiting before).take frameSamples.toNat := by
    rw [rest, all, ← List.take_eq_take_min]
  exact ⟨before, during, split, quiet, by rw [held, handed], by rw [handed]⟩

/-- What one step of a thread does to the flow. -/
theorem Flows.step (flows : Flows past pipe) (step : pipe.step next = some (after, seen)) :
    Flows (past ++ seen) after := by
  have safe : ∃ taken, Safe ringBufferCapacity (passed (past ++ seen)) after.threads taken := by
    obtain ⟨taken, safe⟩ := flows.safe
    rw [passed_append]
    exact safe.step (by decide) (by decide) (step_threads step)
  have lent := flows.lent
  have stored := flows.stored
  have pushing := flows.pushing
  have popping := flows.popping
  cases step_moves step with
  | offered samples idle =>
    exact
      { safe
        lent := by simpa [lent_append, lends] using lent
        stored := by simpa [passed, kept] using stored
        pushing := ⟨past, samples, [], rfl, by simp, rfl, rfl⟩
        popping := popping.grow (by simp [turns]) rfl
        pushed := flows.pushed.concat trivial
        popped := flows.popped.concat trivial }
  | refused data samples head loading full =>
    exact
      { safe
        lent := by simpa [lent_append, lends] using lent
        stored := by simpa [passed, kept] using stored
        pushing := trivial
        popping := popping.grow (by simp [turns]) rfl
        pushed := flows.pushed.concat (flows.refuses loading full)
        popped := flows.popped.concat trivial }
  | looked data samples head loading =>
    have decides := flows.decides loading
    rw [List.append_nil] at safe ⊢
    exact { flows with safe, pushing := decides }
  | wrote data samples head i writing =>
    rw [List.append_nil] at safe ⊢
    rw [writing] at pushing
    exact { flows with safe, pushing }
  | stored data samples head i writing =>
    have keeps : Pushed (past ++ [.sample (.accepted ((List.range samples.toNat).map data))])
        (.kept ((List.range samples.toNat).map data)) := (flows.keeps writing).grow (by simp [bounds])
    have pushed : Throughout Pushed (past ++ [.sample (.accepted ((List.range samples.toNat).map data))]) :=
      flows.pushed.concat trivial
    have popped : Throughout Popped (past ++ [.sample (.accepted ((List.range samples.toNat).map data))]) :=
      flows.popped.concat trivial
    exact
      { safe
        lent := by simpa [lent_append, lends] using lent
        stored := by
          rw [passed_append, accepted_append, kept_append, List.flatten_append, stored]
          simp [passed, kept, accepted]
        pushing := trivial
        popping := popping.grow (by simp [turns]) (by simp [passed, delivered])
        pushed := by
          rw [List.append_cons]
          exact pushed.concat keeps
        popped := by
          rw [List.append_cons]
          exact popped.concat trivial }
  | asked idle =>
    obtain ⟨taken, held⟩ := flows.safe
    rw [idle] at popping lent
    exact
      { safe
        lent := by simp [lent_append, lends, Consumer.progress]
        stored := by simpa [passed, kept] using stored
        pushing := pushing.grow (by simp [bounds])
        popping := ⟨popping, rfl, past, [], rfl, by simp, rfl, by
          rw [held.delivered, List.length_take]
          exact Nat.min_le_right .., by rw [← held.capacity]; exact held.head⟩
        pushed := flows.pushed.concat trivial
        popped := flows.popped.concat trivial }
  | counted samples head loading =>
    have counts := flows.counts loading
    rw [List.append_nil] at safe ⊢
    rw [loading] at lent
    exact { flows with safe, popping := counts, lent }
  | copied copied tail i reading more sample =>
    rw [reading] at popping lent
    obtain ⟨same, inside, before, during, split, quiet, held, count⟩ := popping
    exact
      { safe
        lent := by simpa [lent_append, lends, Consumer.progress] using lent
        stored := by simpa [passed, kept, accepted] using stored
        pushing := pushing.grow (by simp [bounds])
        popping := ⟨by simp [same], more, before, during ++ [.sample (.delivered sample)], by simp [split],
          List.forall_mem_append.mpr ⟨quiet, by simp [turns]⟩, by simp [passed, delivered, ← held], count⟩
        pushed := flows.pushed.concat trivial
        popped := flows.popped.concat trivial }
  | returned copied tail i reading done =>
    exact
      { safe
        lent := by simp [lent_append, lends, Consumer.progress]
        stored := by simpa [passed, kept] using stored
        pushing := pushing.grow (by simp [bounds])
        popping := rfl
        pushed := flows.pushed.concat trivial
        popped := flows.popped.concat (flows.returns reading done) }

/-- What the two ends of a ring buffer say of each other: every push, every pop, and the samples between them. -/
structure Carries (past : List (PipeObs α)) : Prop where
  pushed : Throughout Pushed past
  popped : Throughout Popped past
  stored : accepted (passed past) = (kept past).flatten
  ordered : delivered (passed past) <+: (kept past).flatten

theorem Flows.carries (flows : Flows past pipe) : Carries past where
  pushed := flows.pushed
  popped := flows.popped
  stored := flows.stored
  ordered := by
    obtain ⟨taken, safe⟩ := flows.safe
    rw [safe.delivered, flows.stored]
    exact List.take_prefix ..

theorem length_pad {samples : List α} (short : samples.length ≤ 480) : (pad samples).length = 480 := by
  have block : frameSamples.toNat = 480 := rfl
  rw [pad, List.length_append, List.length_replicate]
  omega

theorem Carries.block_length (carries : Carries past) {block : List α} (handed : block ∈ blocks past) :
    block.length = 480 := by
  obtain ⟨obs, member, same⟩ := List.mem_filterMap.mp handed
  cases obs <;> cases same
  obtain ⟨earlier, later, split⟩ := List.append_of_mem member
  obtain ⟨before, during, _, _, _, rfl⟩ := carries.popped earlier _ later split
  exact length_pad (List.length_take_le _ _)

end Pipe
end Tg2Sip.Voip
