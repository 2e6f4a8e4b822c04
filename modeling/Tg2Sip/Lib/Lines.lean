import Mathlib.Data.List.Basic
import Mathlib.Data.List.Infix
import Mathlib.Algebra.Order.BigOperators.Group.List
import Mathlib.Algebra.Order.Group.Nat

/-! Texts of lines, each of them a name and a value, over any alphabet. A line ends with two symbols, and two
more stand after its name. What was written can be read back as long as no value ends a line. -/

namespace Tg2Sip.Lib

universe u
variable {α : Type u}

/-- The symbols that a format gives a meaning. -/
structure LineFormat (α : Type u) where
  cr : α
  lf : α
  colon : α
  blank : α
  ends : cr ≠ lf
  inside : colon ≠ cr ∧ blank ≠ cr

namespace LineFormat
variable [DecidableEq α] (format : LineFormat α)

/-- What stands between the ends of lines. -/
def lines : List α → List (List α)
  | [] => [[]]
  | [symbol] => [[symbol]]
  | first :: second :: rest =>
    if first = format.cr ∧ second = format.lf then [] :: lines rest
    else (lines (second :: rest)).modifyHead (first :: ·)

/-- The name and the value of a line. -/
def cut : List α → Option (List α × List α)
  | first :: second :: rest =>
    if first = format.colon ∧ second = format.blank then some ([], rest)
    else (cut (second :: rest)).map fun (name, value) => (first :: name, value)
  | _ => none

def line (name value : List α) : List α := name ++ format.colon :: format.blank :: value

def write (headers : List (List α × List α)) : List α :=
  headers.flatMap fun header => format.line header.1 header.2 ++ [format.cr, format.lf]

/-- Nothing comes after the end of the last line. -/
def read (text : List α) : Option (List (List α × List α)) := (format.lines text).dropLast.mapM format.cut

/-- A text that ends a line. -/
def Breaks (text : List α) : Prop := [format.cr, format.lf] <:+: text

variable {format} {text rest name value : List α}

omit [DecidableEq α] in
theorem Breaks.mem (breaks : format.Breaks text) : format.cr ∈ text := breaks.subset (.head _)

theorem lines_pos (format : LineFormat α) (text : List α) : 0 < (format.lines text).length := by
  fun_induction lines format text with
  | case1 => simp
  | case2 => simp
  | case3 => simp
  | case4 first second rest inside ih => simpa using ih

theorem lines_cons {symbol : α} (plain : symbol = format.cr → text.head? ≠ some format.lf) :
    format.lines (symbol :: text) = (format.lines text).modifyHead (symbol :: ·) := by
  cases text with
  | nil => rfl
  | cons second rest =>
    rw [lines, if_neg]
    intro ⟨first, next⟩
    exact plain first (by rw [next]; rfl)

/-- A prefix without the first of the two symbols stays with the first line. -/
theorem lines_prefix (clean : format.cr ∉ name) (text : List α) :
    format.lines (name ++ text) = (format.lines text).modifyHead (name ++ ·) := by
  induction name with
  | nil => cases held : format.lines text <;> simp [held]
  | cons symbol name ih =>
    obtain ⟨other, clean⟩ := not_or.mp (mt List.mem_cons.mpr clean)
    rw [List.cons_append, lines_cons (fun same => absurd same.symm other), ih clean, List.modifyHead_modifyHead]
    rfl

/-- The end of a line divides a text. -/
theorem lines_end (text rest : List α) :
    format.lines (text ++ format.cr :: format.lf :: rest) = format.lines text ++ format.lines rest := by
  fun_induction lines format text with
  | case1 => simp [lines]
  | case2 symbol =>
    rw [List.cons_append, List.nil_append, lines_cons (fun _ => by simpa using format.ends), lines, if_pos ⟨rfl, rfl⟩]
    rfl
  | case3 first second text ends ih =>
    rw [List.cons_append, List.cons_append, lines, if_pos ends, ih]
    rfl
  | case4 first second text inside ih =>
    rw [List.cons_append, List.cons_append, lines, if_neg inside, ← List.cons_append, ih]
    obtain ⟨head, tail, same⟩ := List.exists_cons_of_length_pos (format.lines_pos (second :: text))
    rw [same]
    rfl

/-- A text that ends no line is one. -/
theorem lines_whole (whole : ¬ format.Breaks text) : format.lines text = [text] := by
  fun_induction lines format text with
  | case1 => rfl
  | case2 => rfl
  | case3 first second rest ends ih => exact absurd ⟨[], rest, by simp [ends]⟩ whole
  | case4 first second rest inside ih =>
    rw [ih fun breaks => whole (breaks.trans (List.suffix_cons _ _).isInfix)]
    rfl

theorem lines_broken (broken : format.Breaks text) : 1 < (format.lines text).length := by
  obtain ⟨before, after, same⟩ := broken
  have parts : format.lines text = format.lines before ++ format.lines after := by
    rw [← same, List.append_assoc]
    exact lines_end before after
  have first := format.lines_pos before
  have second := format.lines_pos after
  rw [parts, List.length_append]
  omega

theorem lines_write (headers : List (List α × List α)) (clean : ∀ header ∈ headers, format.cr ∉ header.1) :
    format.lines (format.write headers) =
      headers.flatMap (fun header => (format.lines header.2).modifyHead (format.line header.1 ·)) ++ [[]] := by
  induction headers with
  | nil => rfl
  | cons header headers ih =>
    obtain ⟨first, rest⟩ := List.forall_mem_cons.mp clean
    have prefixed : format.cr ∉ header.1 ++ [format.colon, format.blank] := by
      simp [first, Ne.symm format.inside.1, Ne.symm format.inside.2]
    have same : format.line header.1 header.2 = (header.1 ++ [format.colon, format.blank]) ++ header.2 := by simp [line]
    rw [write, List.flatMap_cons, List.append_assoc, List.cons_append, List.cons_append, List.nil_append,
      lines_end, same, lines_prefix prefixed, List.flatMap_cons, List.append_assoc, ← ih rest]
    simp [line, write]

/-- A name without the first of the two symbols after it can be cut off. -/
theorem cut_line (clean : format.colon ∉ name) (value : List α) :
    format.cut (format.line name value) = some (name, value) := by
  induction name with
  | nil => simp [line, cut]
  | cons symbol name ih =>
    obtain ⟨other, clean⟩ := not_or.mp (mt List.mem_cons.mpr clean)
    have rest := ih clean
    have next : format.line (symbol :: name) value = symbol :: format.line name value := rfl
    rw [next]
    cases held : format.line name value with
    | nil => rw [held] at rest; cases rest
    | cons second after =>
      rw [cut, if_neg (fun same => other same.1.symm), ← held, rest]
      rfl

omit [DecidableEq α] in
private theorem mapM_length {β : Type u} {part : List α → Option β} {texts : List (List α)} {parts : List β}
    (all : texts.mapM part = some parts) : parts.length = texts.length := by
  induction texts generalizing parts with
  | nil => cases all; rfl
  | cons text texts ih =>
    rw [List.mapM_cons] at all
    obtain ⟨first, _, rest⟩ := Option.bind_eq_some_iff.mp all
    obtain ⟨others, found, same⟩ := Option.bind_eq_some_iff.mp rest
    cases same
    rw [List.length_cons, List.length_cons, ih found]

/-- What was written can be read back if and only if no value ends a line. -/
theorem read_write_iff {headers : List (List α × List α)}
    (clean : ∀ header ∈ headers, format.cr ∉ header.1 ∧ format.colon ∉ header.1) :
    format.read (format.write headers) = some headers ↔ ∀ header ∈ headers, ¬ format.Breaks header.2 := by
  unfold read
  rw [lines_write headers fun header member => (clean header member).1, List.dropLast_concat]
  constructor
  · intro back header member broken
    -- A value that ends a line makes more lines than there are headers.
    have lengths := mapM_length back
    rw [List.length_flatMap] at lengths
    have more : (headers.map fun _ => 1).sum <
        (headers.map fun header => ((format.lines header.2).modifyHead (format.line header.1 ·)).length).sum := by
      apply List.sum_lt_sum
      · intro other _
        rw [List.length_modifyHead]
        exact format.lines_pos other.2
      · refine ⟨header, member, ?_⟩
        rw [List.length_modifyHead]
        exact lines_broken broken
    simp only [List.map_const', List.sum_replicate_nat, Nat.mul_one] at more
    omega
  · intro whole
    induction headers with
    | nil => rfl
    | cons header headers ih =>
      obtain ⟨first, rest⟩ := List.forall_mem_cons.mp whole
      obtain ⟨named, names⟩ := List.forall_mem_cons.mp clean
      rw [List.flatMap_cons, lines_whole first, List.modifyHead_cons, List.singleton_append, List.mapM_cons,
        cut_line named.2, ih names rest]
      rfl

end LineFormat
end Tg2Sip.Lib
