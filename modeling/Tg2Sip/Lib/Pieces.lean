import Mathlib.Data.List.Basic

/-! Texts that are read in pieces. A piece ends after a given symbol, or when it is as long as a piece can be. -/

namespace Tg2Sip.Lib

universe u
variable {α : Type u} [DecidableEq α] (stop : α) (limit : Nat)

/-- The pieces of a text, when `room` more symbols still fit the first of them. -/
def pieces : Nat → List α → List (List α)
  | _, [] => []
  | room, symbol :: text =>
    if symbol = stop ∨ room ≤ 1 then [symbol] :: pieces limit text
    else
      match pieces (room - 1) text with
      | [] => [[symbol]]
      | piece :: rest => (symbol :: piece) :: rest

/-- How many symbols still fit the piece that the end of a text is in. -/
def roomAfter : Nat → List α → Nat
  | room, [] => room
  | room, symbol :: text => if symbol = stop ∨ room ≤ 1 then roomAfter limit text else roomAfter (room - 1) text

variable {stop limit} {text rest line : List α} {room : Nat}

theorem pieces_nonempty (present : text ≠ []) : pieces stop limit room text ≠ [] := by
  cases text with
  | nil => exact absurd rfl present
  | cons symbol text =>
    rw [pieces]
    split
    · simp
    · split <;> simp

theorem head_pieces {piece : List α} (first : (pieces stop limit room text).head? = some piece) : piece <+: text := by
  induction text generalizing room piece with
  | nil => cases first
  | cons symbol text ih =>
    rw [pieces] at first
    split at first
    next => cases first; exact ⟨text, rfl⟩
    next =>
      split at first
      next => cases first; exact ⟨text, rfl⟩
      next piece rest later =>
        cases first
        exact List.cons_prefix_cons.mpr ⟨rfl, ih (by rw [later]; rfl)⟩

/-- A text that ends where a piece does is read on its own, whatever follows. -/
theorem pieces_append (fits : room ≤ limit) (closed : roomAfter stop limit room text = limit) (rest : List α) :
    pieces stop limit room (text ++ rest) = pieces stop limit room text ++ pieces stop limit limit rest := by
  induction text generalizing room with
  | nil => simp only [← closed, roomAfter, pieces, List.nil_append]
  | cons symbol text ih =>
    rw [roomAfter] at closed
    rw [List.cons_append, pieces, pieces]
    split
    next ends => rw [ih (Nat.le_refl _) (by simpa [ends] using closed), List.cons_append]
    next inside =>
      rw [if_neg inside] at closed
      have more : text ≠ [] := by
        intro none
        rw [none, roomAfter] at closed
        omega
      have some : pieces stop limit (room - 1) text ≠ [] := pieces_nonempty more
      obtain ⟨piece, others, parts⟩ := List.exists_cons_of_ne_nil some
      rw [ih (by omega) closed, parts]
      simp only [List.cons_append]

/-- The end of a line that fits. -/
theorem pieces_line (whole : stop ∉ line) (fits : line.length < room) (rest : List α) :
    pieces stop limit room (line ++ stop :: rest) = (line ++ [stop]) :: pieces stop limit limit rest := by
  induction line generalizing room with
  | nil => simp [pieces]
  | cons symbol line ih =>
    obtain ⟨other, whole⟩ := not_or.mp (mt List.mem_cons.mpr whole)
    rw [List.length_cons] at fits
    rw [List.cons_append, pieces, if_neg (by rw [not_or]; exact ⟨Ne.symm other, by omega⟩), ih whole (by omega)]
    rfl

/-- A line that is too long is cut. -/
theorem pieces_full (whole : stop ∉ line) (present : line ≠ []) (full : line.length = room) (rest : List α) :
    pieces stop limit room (line ++ rest) = line :: pieces stop limit limit rest := by
  induction line generalizing room with
  | nil => exact absurd rfl present
  | cons symbol line ih =>
    obtain ⟨other, whole⟩ := not_or.mp (mt List.mem_cons.mpr whole)
    rw [List.length_cons] at full
    rw [List.cons_append, pieces]
    cases line with
    | nil => rw [if_pos (.inr (by rw [List.length_nil] at full; omega)), List.nil_append]
    | cons second line =>
      rw [List.length_cons] at full
      rw [if_neg (by rw [not_or]; exact ⟨Ne.symm other, by omega⟩),
        ih whole (by simp) (by rw [List.length_cons]; omega)]

/-- The end of the text ends its last piece. -/
theorem pieces_last (whole : stop ∉ line) (present : line ≠ []) (fits : line.length ≤ room) :
    pieces stop limit room line = [line] := by
  induction line generalizing room with
  | nil => exact absurd rfl present
  | cons symbol line ih =>
    obtain ⟨other, whole⟩ := not_or.mp (mt List.mem_cons.mpr whole)
    rw [List.length_cons] at fits
    rw [pieces]
    cases line with
    | nil => split <;> rfl
    | cons second line =>
      rw [List.length_cons] at fits
      rw [if_neg (by rw [not_or]; exact ⟨Ne.symm other, by omega⟩),
        ih whole (by simp) (by rw [List.length_cons]; omega)]

/-- The end of a line ends a piece. -/
theorem roomAfter_stop (fits : room ≤ limit) (text : List α) : roomAfter stop limit room (text ++ [stop]) = limit := by
  induction text generalizing room with
  | nil => simp [roomAfter]
  | cons symbol text ih =>
    rw [List.cons_append, roomAfter]
    split
    · exact ih (Nat.le_refl _)
    · exact ih (by omega)

/-- A piece is not empty and not too long, and the end of a line is the end of the piece. -/
structure IsPiece (stop : α) (room : Nat) (piece : List α) : Prop where
  present : piece ≠ []
  fits : piece.length ≤ room
  inside : stop ∉ piece.dropLast

omit [DecidableEq α] in
theorem IsPiece.single {symbol : α} (positive : 0 < room) : IsPiece stop room [symbol] :=
  ⟨by simp, by rw [List.length_singleton]; omega, by simp⟩

private theorem pieces_shape (positive : 0 < room) (fits : room ≤ limit) {first : List α} {others : List (List α)}
    (parts : pieces stop limit room text = first :: others) :
    IsPiece stop room first ∧ ∀ piece ∈ others, IsPiece stop limit piece := by
  induction text generalizing room first others with
  | nil => cases parts
  | cons symbol text ih =>
    rw [pieces] at parts
    split at parts
    next ends =>
      cases parts
      refine ⟨.single positive, ?_⟩
      cases later : pieces stop limit limit text with
      | nil => simp
      | cons head tail =>
        obtain ⟨found, rest⟩ := ih (by omega) (Nat.le_refl _) later
        exact List.forall_mem_cons.mpr ⟨found, rest⟩
    next goesOn =>
      obtain ⟨other, more⟩ := not_or.mp goesOn
      split at parts
      next => cases parts; exact ⟨.single positive, by simp⟩
      next piece rest later =>
        cases parts
        obtain ⟨found, others⟩ := ih (by omega) (by omega) later
        have length := found.fits
        refine ⟨⟨by simp, by rw [List.length_cons]; omega, ?_⟩, others⟩
        rw [List.dropLast_cons_of_ne_nil found.present, List.mem_cons, not_or]
        exact ⟨Ne.symm other, found.inside⟩

theorem mem_pieces (positive : 0 < limit) {piece : List α} (member : piece ∈ pieces stop limit limit text) :
    IsPiece stop limit piece := by
  obtain ⟨first, others, parts⟩ := List.exists_cons_of_ne_nil (List.ne_nil_of_mem member)
  obtain ⟨found, later⟩ := pieces_shape positive (Nat.le_refl _) parts
  rw [parts] at member
  exact List.forall_mem_cons.mpr ⟨found, later⟩ piece member

end Tg2Sip.Lib
