import Tg2Sip.Proofs.Dialing

/-! How long an error object of TDLib blocks all dials. The number in the message becomes an `int`, and the
sum with the setting is an `unsigned int`: the first may not be representable, and the second wraps. -/

namespace Tg2Sip.Actions
open TdApi Lib

/-- The settings with the two waiting times that were read from the file. -/
def configured (settings : Settings) (extraWaitTime peerFloodTime : Int64) : Settings :=
  { settings with extraWaitTime := Settings.narrow extraWaitTime, peerFloodTime := Settings.narrow peerFloodTime }

/-- When dials are allowed again, computed without limits. -/
def deadline (settings : Settings) (now : Time) (error : Error) (blockUntil : Time) : Time :=
  match Text.searchDigitsAfter delayPattern error.message.toList with
  | some digits => now + nanoseconds (Text.decimal digits + settings.extraWaitTime.toNat)
  | none =>
    if Text.contains floodPattern error.message.toList = true then now + nanoseconds settings.peerFloodTime.toNat
    else blockUntil

/-- `parse_error` returns with that deadline, which is not before the moment the server asked for. -/
def BacksOff (settings : Settings) (env : Env) (error : Error) (deps : Deps) : Prop :=
  parseError settings env error deps =
    .ok { deps with blockUntil := deadline settings env.nowFailed error deps.blockUntil } ∧
    ∀ digits, Text.searchDigitsAfter delayPattern error.message.toList = some digits →
      env.nowFailed + nanoseconds (Text.decimal digits) ≤ deadline settings env.nowFailed error deps.blockUntil

/-- The number fits an `int`, and the sum fits an `unsigned int`. -/
def Countable (settings : Settings) (digits : List Char) : Prop :=
  Text.decimal digits < 2 ^ 31 ∧ Text.decimal digits + settings.extraWaitTime.toNat < 2 ^ 32

theorem searchDigitsAfter_ne_nil {literal text digits : List Char}
    (found : Text.searchDigitsAfter literal text = some digits) :
    digits ≠ [] := by
  obtain ⟨suffix, _, matched⟩ := List.exists_of_findSome?_eq_some found
  split at matched
  next =>
    split at matched
    next => cases matched
    next => cases matched; assumption
  next => cases matched

theorem stoi_ok_iff {digits : List Char} {seconds : Nat} (nonempty : digits ≠ []) :
    Text.stoi digits = .ok seconds ↔ seconds = Text.decimal digits ∧ Text.decimal digits < 2 ^ 31 := by
  unfold Text.stoi Text.parseBounded
  rw [if_neg nonempty]
  split
  next fits => simp; omega
  next large => simp; omega

/-- The sum is exact unless it wraps. -/
theorem unsigned_sum_iff (seconds : Nat) (extra : UInt32) :
    (UInt32.ofNat seconds + extra).toNat = seconds + extra.toNat ↔ seconds + extra.toNat < 2 ^ 32 := by
  have same : (UInt32.ofNat seconds + extra).toNat = (seconds + extra.toNat) % 2 ^ 32 := by simp
  constructor
  · intro sum
    rw [← sum, same]
    exact Nat.mod_lt _ (by decide)
  · intro small
    rw [same, Nat.mod_eq_of_lt small]

section
variable {settings : Settings} {env : Env} {error : Error} {deps : Deps} {digits : List Char}

theorem BacksOff.countable (digits : List Char) (backs : BacksOff settings env error deps)
    (found : Text.searchDigitsAfter delayPattern error.message.toList = some digits) : Countable settings digits := by
  have ran := backs.1
  simp only [parseError, deadline, found] at ran
  obtain ⟨seconds, read, same⟩ := bind_ok_iff.mp ran
  obtain ⟨rfl, fits⟩ := (stoi_ok_iff (searchDigitsAfter_ne_nil found)).mp read
  refine ⟨fits, (unsigned_sum_iff _ _).mp ?_⟩
  have stored := congrArg (fun deps => deps.blockUntil) (Except.ok.inj same)
  exact Nat.eq_of_mul_eq_mul_right (by decide) (Nat.add_left_cancel stored)

theorem Countable.backsOff (found : Text.searchDigitsAfter delayPattern error.message.toList = some digits)
    (countable : Countable settings digits) : BacksOff settings env error deps := by
  obtain ⟨fits, small⟩ := countable
  constructor
  · simp only [parseError, deadline, found]
    apply bind_ok_iff.mpr
    refine ⟨Text.decimal digits, (stoi_ok_iff (searchDigitsAfter_ne_nil found)).mpr ⟨rfl, fits⟩, ?_⟩
    rw [(unsigned_sum_iff _ _).mpr small]
    rfl
  · intro other same
    cases found.symm.trans same
    simp only [deadline, found]
    apply Nat.add_le_add_left
    exact Nat.mul_le_mul_right _ (Nat.le_add_right _ _)

theorem backsOff_uncounted (missed : Text.searchDigitsAfter delayPattern error.message.toList = none) :
    BacksOff settings env error deps := by
  refine ⟨?_, by simp [missed]⟩
  simp only [parseError, deadline, missed]
  split <;> rfl

end

/-- The back-off is exact for every message but those whose number is not countable: an `int` that is too large
is thrown as `std::out_of_range`, which nothing catches, and a sum that wraps ends the block too early. -/
theorem back_off_exact_iff (settings : Settings) (extraWaitTime peerFloodTime : Int64) (env : Env)
    (error : Error) (deps : Deps) :
    BacksOff (configured settings extraWaitTime peerFloodTime) env error deps ↔
      ∀ digits, Text.searchDigitsAfter delayPattern error.message.toList = some digits →
        Countable (configured settings extraWaitTime peerFloodTime) digits := by
  constructor
  · intro backs digits found
    exact backs.countable digits found
  · intro countable
    cases searched : Text.searchDigitsAfter delayPattern error.message.toList with
    | none => exact backsOff_uncounted searched
    | some digits => exact (countable digits searched).backsOff searched

/-- With the longest extra time that can be configured, a server that asks for ten seconds is asked again after nine. -/
example : ¬ Countable (configured { callbackUri := "" } 4294967295 86400) "10".toList ∧
    (UInt32.ofNat 10 + Settings.narrow 4294967295).toNat = 9 := by
  unfold Countable
  decide

/-- No `int` is as large as the number in the message. -/
theorem back_off_is_lost :
    ¬ ∀ (settings : Settings) (extraWaitTime peerFloodTime : Int64) (env : Env) (error : Error) (deps : Deps),
    BacksOff (configured settings extraWaitTime peerFloodTime) env error deps := by
  intro always
  have backs := always { callbackUri := "" } 30 86400 (Env.success 42 7 0)
    ⟨429, "Too Many Requests: retry after 2147483648"⟩ { ctx := { id := 1 } }
  have large := backs.countable "2147483648".toList (by decide +kernel)
  exact absurd large.1 (by decide +kernel)

end Tg2Sip.Actions
