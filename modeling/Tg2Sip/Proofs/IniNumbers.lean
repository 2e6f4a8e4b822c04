import Mathlib.Data.Nat.Digits.Defs
import Tg2Sip.Proofs.IniLines

/-! The numbers of a configuration file: what `strtol` makes of any text, in each notation that base 0 stands for. -/

namespace Tg2Sip.Ini

/-- The digits that a text begins with, and what is behind the last of them. -/
structure Digits (base : Nat) (digits rest : Text) : Prop where
  small : ∀ digit ∈ digits, digitValue digit < base
  ends : ∀ char ∈ rest.head?, base ≤ digitValue char

/-- What digits are worth, the last of them least. -/
def worth (base : Nat) (digits : Text) : Nat := Nat.ofDigits base (digits.map digitValue).reverse

/-- Behind a `0`: the mark of the hexadecimal notation with a digit of it. -/
def Hexadecimal (text : Text) : Prop :=
  ∃ mark digit rest, text = mark :: digit :: rest ∧ (mark = 'x' ∨ mark = 'X') ∧ digitValue digit < 16

/-- The number that a text begins with. A `0` at the beginning is octal, and a mark is one only with a digit behind
it. -/
inductive Numeral : Text → Nat → Prop where
  | decimal {digits rest : Text} : digits ≠ [] → digits.head? ≠ some '0' → Digits 10 digits rest →
      Numeral (digits ++ rest) (worth 10 digits)
  | octal {digits rest : Text} : Digits 8 digits rest → ¬ Hexadecimal (digits ++ rest) →
      Numeral ('0' :: (digits ++ rest)) (worth 8 digits)
  | hexadecimal {mark : Char} {digits rest : Text} : mark = 'x' ∨ mark = 'X' → digits ≠ [] → Digits 16 digits rest →
      Numeral ('0' :: mark :: (digits ++ rest)) (worth 16 digits)

inductive Sign where
  | none | plus | minus
  deriving DecidableEq, Repr

namespace Sign

def text : Sign → Text
  | none => []
  | plus => ['+']
  | minus => ['-']

def apply : Sign → Nat → Int
  | minus, number => -number
  | _, number => number

end Sign

/-- A value that begins with a number, after blanks and with or without a sign. -/
def Denotes (value : Text) (sign : Sign) (number : Nat) : Prop :=
  ∃ blanks text, value = blanks ++ (sign.text ++ text) ∧ Blank blanks ∧ Numeral text number

/-- A number that no `long` holds is the nearest one. -/
def saturate (number : Int) : Int := max longMin (min longMax number)

theorem numeral_worth (base : Nat) (digits : Text) : numeral base digits = worth base digits := by
  induction digits using List.reverseRecOn with
  | nil => rfl
  | append_singleton digits digit ih =>
    have last : numeral base (digits ++ [digit]) = base * numeral base digits + digitValue digit := by
      rw [numeral, List.foldl_append]
      rfl
    rw [last, ih, worth, worth, List.map_append, List.reverse_append]
    exact (Nat.add_comm _ _).trans Nat.ofDigits_cons.symm

/-- A `0` at the beginning adds nothing. -/
theorem numeral_zero (digits : Text) : numeral 8 ('0' :: digits) = numeral 8 digits := rfl

theorem takeWhile_zero (text : Text) :
    ('0' :: text).takeWhile (digitValue · < 8) = '0' :: text.takeWhile (digitValue · < 8) :=
  List.takeWhile_cons_of_pos (by decide)

theorem takeWhile_digits {base : Nat} {digits rest : Text} (cut : Digits base digits rest) :
    (digits ++ rest).takeWhile (digitValue · < base) = digits := by
  rw [List.takeWhile_append_of_pos (by simpa using cut.small)]
  cases rest with
  | nil => simp
  | cons char rest => rw [List.takeWhile_cons_of_neg (by simpa using cut.ends char rfl), List.append_nil]

theorem digits_takeWhile (base : Nat) (text : Text) :
    Digits base (text.takeWhile (digitValue · < base)) (text.dropWhile (digitValue · < base)) := by
  refine ⟨fun digit member => by simpa using List.mem_takeWhile_imp member, fun char first => ?_⟩
  have stopped := List.head?_dropWhile_not (fun digit => decide (digitValue digit < base)) text
  rw [Option.mem_def.mp first] at stopped
  simpa using stopped

theorem detectBase_marked {mark digit : Char} {rest : Text} (marked : mark = 'x' ∨ mark = 'X')
    (small : digitValue digit < 16) :
    detectBase ('0' :: mark :: digit :: rest) = (16, digit :: rest) := if_pos ⟨marked, small⟩

theorem detectBase_octal {text : Text} (plain : ¬ Hexadecimal text) : detectBase ('0' :: text) = (8, '0' :: text) := by
  obtain rfl | ⟨mark, rfl⟩ | ⟨mark, digit, rest, rfl⟩ : text = [] ∨ (∃ mark, text = [mark]) ∨
      ∃ mark digit rest, text = mark :: digit :: rest := by
    cases text with
    | nil => exact .inl rfl
    | cons mark text => cases text <;> simp
  · rfl
  · rfl
  · exact if_neg fun marked => plain ⟨mark, digit, rest, rfl, marked⟩

theorem detectBase_decimal {text : Text} (plain : text.head? ≠ some '0') : detectBase text = (10, text) := by
  unfold detectBase
  split
  · exact absurd rfl plain
  · exact absurd rfl plain
  · rfl

/-- The digits of the base that is chosen are the number. -/
theorem numeral_iff {text : Text} {number : Nat} : Numeral text number ↔
    let (base, start) := detectBase text
    let digits := start.takeWhile (digitValue · < base)
    digits ≠ [] ∧ number = numeral base digits := by
  constructor
  · intro written
    cases written with
    | @decimal digits rest present first cut =>
      rw [detectBase_decimal (by rwa [List.head?_append_of_ne_nil _ present])]
      simp only [takeWhile_digits cut]
      exact ⟨present, (numeral_worth 10 digits).symm⟩
    | @octal digits rest cut plain =>
      simp only [detectBase_octal plain, takeWhile_zero, takeWhile_digits cut]
      exact ⟨List.cons_ne_nil _ _, by rw [numeral_zero, numeral_worth]⟩
    | @hexadecimal mark digits rest marked present cut =>
      obtain ⟨first, others, rfl⟩ := List.exists_cons_of_ne_nil present
      rw [List.cons_append, detectBase_marked marked (cut.small first (.head _)), ← List.cons_append]
      simp only [takeWhile_digits cut]
      exact ⟨present, (numeral_worth 16 _).symm⟩
  · by_cases zero : text.head? = some '0'
    · obtain ⟨rest, rfl⟩ := List.head?_eq_some_iff.mp zero
      by_cases marked : Hexadecimal rest
      · obtain ⟨mark, digit, rest, rfl, marks, small⟩ := marked
        rw [detectBase_marked marks small]
        intro ⟨present, same⟩
        have written := Numeral.hexadecimal marks present (digits_takeWhile 16 (digit :: rest))
        rw [List.takeWhile_append_dropWhile, ← numeral_worth, ← same] at written
        exact written
      · simp only [detectBase_octal marked, takeWhile_zero, numeral_zero]
        intro ⟨_, same⟩
        have written := Numeral.octal (digits_takeWhile 8 rest) (by rwa [List.takeWhile_append_dropWhile])
        rw [List.takeWhile_append_dropWhile, ← numeral_worth, ← same] at written
        exact written
    · rw [detectBase_decimal zero]
      intro ⟨present, same⟩
      have kept : (text.takeWhile (digitValue · < 10)).head? = text.head? := by
        cases text with
        | nil => rfl
        | cons first rest =>
          by_cases small : digitValue first < 10
          · rw [List.takeWhile_cons_of_pos (by simpa using small)]; rfl
          · rw [List.takeWhile_cons_of_neg (by simpa using small)] at present; exact absurd rfl present
      have written := Numeral.decimal present (by rwa [kept]) (digits_takeWhile 10 text)
      rw [List.takeWhile_append_dropWhile, ← numeral_worth, ← same] at written
      exact written

theorem digit_solid {char : Char} (digit : char.isDigit = true) : isspace char = false ∧ char ≠ '-' ∧ char ≠ '+' := by
  refine ⟨?_, by rintro rfl; exact absurd digit (by decide), by rintro rfl; exact absurd digit (by decide)⟩
  have above : 48 ≤ char.val.toNat := by
    simp only [Char.isDigit, Bool.and_eq_true, decide_eq_true_eq, ge_iff_le] at digit
    exact UInt32.le_iff_toNat_le.mp digit.1
  rw [isspace, Bool.or_eq_false_iff, Bool.and_eq_false_iff]
  refine ⟨by rw [beq_eq_false_iff_ne]; rintro rfl; exact absurd digit (by decide),
    .inr (decide_eq_false fun below => ?_)⟩
  have small : char.val.toNat ≤ 13 := UInt32.le_iff_toNat_le.mp below
  omega

/-- A number begins with a decimal digit, also in the other notations. -/
theorem numeral_head {text : Text} {number : Nat} (written : Numeral text number) :
    ∃ first rest, text = first :: rest ∧ first.isDigit = true := by
  cases written with
  | decimal present _ cut =>
    obtain ⟨first, others, rfl⟩ := List.exists_cons_of_ne_nil present
    refine ⟨first, _, rfl, ?_⟩
    have small := cut.small first (.head _)
    unfold digitValue at small
    split at small
    next digit => exact digit
    next => split at small <;> (try split at small) <;> omega
  | octal | hexadecimal => exact ⟨'0', _, rfl, by decide⟩

/-- What is left of a text behind its blanks and its sign. -/
private theorem signed_split (text : Text) :
    ∃ blanks sign unsigned, text = blanks ++ (Sign.text sign ++ unsigned) ∧ Blank blanks ∧
    (sign = .none → ∀ char ∈ unsigned.head?, isspace char = false ∧ char ≠ '-' ∧ char ≠ '+') := by
  have blank : Blank (text.takeWhile isspace) := fun char member => List.mem_takeWhile_imp member
  have parts : text = text.takeWhile isspace ++ lskip text := List.takeWhile_append_dropWhile.symm
  by_cases minus : (lskip text).head? = some '-'
  · obtain ⟨rest, same⟩ := List.head?_eq_some_iff.mp minus
    exact ⟨_, .minus, rest, parts.trans (by rw [same]; rfl), blank, by simp⟩
  by_cases plus : (lskip text).head? = some '+'
  · obtain ⟨rest, same⟩ := List.head?_eq_some_iff.mp plus
    exact ⟨_, .plus, rest, parts.trans (by rw [same]; rfl), blank, by simp⟩
  refine ⟨_, .none, lskip text, parts, blank, fun _ char first => ⟨lskip_first text char first, ?_, ?_⟩⟩
  · rintro rfl
    exact minus first
  · rintro rfl
    exact plus first

private theorem strtol_signed {blanks unsigned : Text} {sign : Sign} (blank : Blank blanks)
    (plain : sign = .none → ∀ char ∈ unsigned.head?, isspace char = false ∧ char ≠ '-' ∧ char ≠ '+') :
    strtol (blanks ++ (sign.text ++ unsigned)) =
      let (base, start) := detectBase unsigned
      let digits := start.takeWhile (digitValue · < base)
      if digits = [] then none else some (saturate (sign.apply (numeral base digits))) := by
  have started : ∀ char ∈ (sign.text ++ unsigned).head?, isspace char = false := by
    cases sign with
    | none => exact fun char first => (plain rfl char first).1
    | plus | minus => rintro char ⟨⟩; decide
  rw [strtol, lskip_blank blank, lskip_solid started]
  cases sign with
  | none =>
    have negative : unsigned.head? ≠ some '-' := fun first => (plain rfl _ first).2.1 rfl
    have positive : unsigned.head? ≠ some '+' := fun first => (plain rfl _ first).2.2 rfl
    simp [Sign.text, negative, positive, saturate, Sign.apply]
  | plus => simp [Sign.text, saturate, Sign.apply]
  | minus => simp [Sign.text, saturate, Sign.apply]

/-- `strtol` finds a number exactly where the text begins with one, and returns it as far as a `long` can hold it. -/
theorem strtol_iff {text : Text} {value : Int} :
    strtol text = some value ↔ ∃ sign number, Denotes text sign number ∧ value = saturate (sign.apply number) := by
  constructor
  · intro found
    obtain ⟨blanks, sign, unsigned, same, blank, plain⟩ := signed_split text
    rw [same, strtol_signed blank plain] at found
    dsimp only at found
    split at found
    next => cases found
    next present =>
      cases found
      exact ⟨sign, _, ⟨blanks, unsigned, same, blank, numeral_iff.mpr ⟨present, rfl⟩⟩, rfl⟩
  · rintro ⟨sign, number, ⟨blanks, unsigned, same, blank, written⟩, rfl⟩
    obtain ⟨first, rest, head, digit⟩ := numeral_head written
    obtain ⟨present, value⟩ := numeral_iff.mp written
    have plain : ∀ char ∈ unsigned.head?, isspace char = false ∧ char ≠ '-' ∧ char ≠ '+' := by
      rw [head]
      rintro char ⟨⟩
      exact digit_solid digit
    rw [same, strtol_signed blank fun _ => plain, value]
    exact if_neg present

end Tg2Sip.Ini
