import Tg2Sip.Proofs.Documents

/-! What the parser of configuration files makes of any text at all, also of one that nobody would write. -/

namespace Tg2Sip.Ini
open Lib

/-- Two handlers that take the same arguments alike, for users that are related. -/
def Respects {σ τ : Type} (related : σ → τ → Prop) (handler : Handler σ) (other : Handler τ) : Prop :=
  ∀ first second sect name value, related first second →
    related (handler first sect name value).1 (other second sect name value).1 ∧
      (handler first sect name value).2 = (other second sect name value).2

theorem Respects.refl {σ : Type} (handler : Handler σ) : Respects Eq handler handler := by
  intro first second sect name value same
  rw [same]
  exact ⟨rfl, rfl⟩

namespace Parser
variable {σ τ : Type} {related : σ → τ → Prop} {handler : Handler σ} {other : Handler τ} {first : Parser σ}
  {second : Parser τ}

/-- Two parsers that go on alike, up to the numbers of their lines. -/
structure Alike (related : σ → τ → Prop) (first : Parser σ) (second : Parser τ) : Prop where
  user : related first.user second.user
  sect : first.sect = second.sect
  name : first.prevName = second.prevName

theorem Alike.named (alike : Alike related first second) (name : Text) :
    Alike related { first with prevName := name } { second with prevName := name } := ⟨alike.user, alike.sect, rfl⟩

/-- Neither of them has an error to report, or both of them have one. -/
def Agree (first : Parser σ) (second : Parser τ) : Prop := first.error = 0 ↔ second.error = 0

theorem fail_alike (alike : Alike related first second) : Alike related first.fail second.fail := by
  unfold fail
  split <;> split <;> exact ⟨alike.user, alike.sect, alike.name⟩

theorem fail_error {parser : Parser σ} (counted : 0 < parser.lineno) : parser.fail.error ≠ 0 := by
  unfold fail
  split
  · exact Nat.ne_of_gt counted
  · assumption

theorem handle_alike (respects : Respects related handler other) (alike : Alike related first second)
    (counted : 0 < first.lineno) (also : 0 < second.lineno) (name value : Text) :
    Alike related (first.handle handler name value) (second.handle other name value) ∧
      (Agree first second → Agree (first.handle handler name value) (second.handle other name value)) := by
  obtain ⟨after, accepts⟩ := respects first.user second.user second.sect name value alike.user
  unfold handle
  rw [alike.sect]
  cases accepted : (other second.user second.sect name value).2 with
  | true =>
    simp only [accepts, accepted, if_true]
    exact ⟨⟨after, rfl, alike.name⟩, id⟩
  | false =>
    simp only [accepts, accepted, Bool.false_eq_true, if_false]
    refine ⟨fail_alike ⟨after, rfl, alike.name⟩, fun _ => iff_of_false ?_ ?_⟩
    · apply fail_error
      exact counted
    · apply fail_error
      exact also

theorem statement_alike (respects : Respects related handler other) (alike : Alike related first second)
    (counted : 0 < first.lineno) (also : 0 < second.lineno) (indented : Bool) (start : Text) :
    Alike related (first.statement handler indented start) (second.statement other indented start) ∧
      (Agree first second → Agree (first.statement handler indented start)
        (second.statement other indented start)) := by
  have failed : Alike related first.fail second.fail ∧ (Agree first second → Agree first.fail second.fail) :=
    ⟨fail_alike alike, fun _ => iff_of_false (fail_error counted) (fail_error also)⟩
  cases start with
  | nil => exact ⟨alike, id⟩
  | cons char rest =>
    simp only [statement, alike.name]
    by_cases comment : char = ';' ∨ char = '#'
    · rw [if_pos comment, if_pos comment]
      exact ⟨alike, id⟩
    by_cases continued : second.prevName ≠ [] ∧ indented = true
    · rw [if_neg comment, if_neg comment, if_pos continued, if_pos continued]
      exact handle_alike respects alike counted also _ _
    rw [if_neg comment, if_neg comment, if_neg continued, if_neg continued]
    by_cases heading : char = '['
    · rw [if_pos heading, if_pos heading]
      by_cases closed : (findCharsOrComment rest [']']).2.head? = some ']'
      · rw [if_pos closed, if_pos closed]
        exact ⟨⟨alike.user, rfl, rfl⟩, id⟩
      · rw [if_neg closed, if_neg closed]
        exact failed
    · rw [if_neg heading, if_neg heading]
      split
      next =>
        exact handle_alike respects
          (alike.named (strncpy0 (rstrip (findCharsOrComment (char :: rest) ['=', ':']).1) maxName))
          counted also _ _
      next => exact failed

/-- A byte order mark is skipped by both parsers or by neither of them. -/
def Level (first : Parser σ) (second : Parser τ) (read : Text) : Prop :=
  first.lineno = second.lineno ∨ first.Unmarked read ∧ second.Unmarked read

theorem line_alike (respects : Respects related handler other) {read : Text} (alike : Alike related first second)
    (level : first.Level second read) :
    Alike related (first.line handler read) (second.line other read) ∧
      (Agree first second → Agree (first.line handler read) (second.line other read)) := by
  have counted : Alike related { first with lineno := first.lineno + 1 } { second with lineno := second.lineno + 1 } :=
    ⟨alike.user, alike.sect, alike.name⟩
  obtain same | ⟨unmarked, also⟩ := level
  · simp only [Parser.line]
    rw [same] at counted ⊢
    exact statement_alike respects counted (Nat.succ_pos _) (Nat.succ_pos _) _ _
  · rw [line_unmarked unmarked, line_unmarked also]
    exact statement_alike respects counted (Nat.succ_pos _) (Nat.succ_pos _) _ _

section
variable {parser : Parser σ}

@[simp] theorem fail_lineno : parser.fail.lineno = parser.lineno := by
  unfold fail
  split <;> rfl

@[simp] theorem handle_lineno (name value : Text) : (parser.handle handler name value).lineno = parser.lineno := by
  unfold handle
  obtain ⟨user, accepted⟩ := handler parser.user parser.sect name value
  cases accepted with
  | true => rfl
  | false => exact fail_lineno

theorem statement_lineno (indented : Bool) (start : Text) :
    (parser.statement handler indented start).lineno = parser.lineno := by
  cases start with
  | nil => rfl
  | cons char rest =>
    simp only [statement]
    split
    next => rfl
    split
    next => simp
    split
    next => split <;> simp
    next => split <;> simp

@[simp] theorem line_lineno (read : Text) :
    (parser.line handler read).lineno = parser.lineno + 1 := statement_lineno _ _

end

/-- What has been read before makes no difference to what is read later, once a line was read by both. -/
theorem lines_alike (respects : Respects related handler other) {reads : List Text} (alike : Alike related first second)
    (level : ∀ read ∈ reads.head?, first.Level second read) :
    Alike related (reads.foldl (Parser.line handler) first) (reads.foldl (Parser.line other) second) ∧
      (Agree first second → Agree (reads.foldl (Parser.line handler) first)
        (reads.foldl (Parser.line other) second)) := by
  induction reads generalizing first second with
  | nil => exact ⟨alike, id⟩
  | cons read reads ih =>
    obtain ⟨after, agree⟩ := line_alike respects alike (level read rfl)
    obtain ⟨final, agreed⟩ := ih after fun _ _ => .inr ⟨fun start => by simp at start, fun start => by simp at start⟩
    exact ⟨final, agreed ∘ agree⟩

variable {parser : Parser σ}

/-! Lines that say nothing. -/

/-- A line that the parser skips wherever it stands, and whether it is an error. -/
inductive Idle : Bool → Text → Prop where
  | blank {blanks : Text} : Blank blanks → Idle false blanks
  | comment {blanks rest : Text} {mark : Char} :
      Blank blanks → mark = ';' ∨ mark = '#' → Idle false (blanks ++ mark :: rest)
  /-- A heading without its end. -/
  | unclosed {rest : Text} : ']' ∉ rest → Idle true ('[' :: rest)
  /-- Neither a heading nor a setting. -/
  | unmarked {first : Char} {rest : Text} : isspace first = false → first ≠ ';' ∧ first ≠ '#' ∧ first ≠ '[' →
      '=' ∉ first :: rest ∧ ':' ∉ first :: rest → Idle true (first :: rest)

private theorem head_mem_rest {chars text : Text} {char : Char}
    (found : (findCharsOrComment text chars).2.head? = some char) :
    char ∈ text := by
  rw [← scan_split chars text false]
  exact List.mem_append_right _ (List.mem_of_mem_head? found)

private theorem fail_skips (counted : 0 < parser.lineno) :
    Alike Eq parser.fail parser ∧ (parser.fail.error = 0 ↔ true = false ∧ parser.error = 0) := by
  refine ⟨?_, by simp [fail_error counted]⟩
  unfold fail
  split <;> exact ⟨rfl, rfl, rfl⟩

theorem statement_idle {faulty : Bool} {text : Text} (handler : Handler σ) (parser : Parser σ)
    (idle : Idle faulty text) (counted : 0 < parser.lineno) :
    let stripped := rstrip text
    let after := parser.statement handler (decide ((lskip stripped).length < stripped.length)) (lskip stripped)
    Alike Eq after parser ∧ (after.error = 0 ↔ faulty = false ∧ parser.error = 0) := by
  cases idle with
  | blank blank =>
    have none : rstrip text = [] := List.rdropWhile_eq_nil_iff.mpr blank
    rw [none]
    exact ⟨⟨rfl, rfl, rfl⟩, by simp [lskip, statement]⟩
  | @comment blanks rest mark blank marks =>
    have solid : isspace mark = false := by obtain rfl | rfl := marks <;> decide
    have started : lskip (rstrip (blanks ++ mark :: rest)) = mark :: rstrip rest := by
      rw [rstrip_kept _ solid, lskip_blank blank]
      exact lskip_solid (by rintro char ⟨⟩; exact solid)
    simp only [started]
    rw [statement_comment handler parser (by simpa using marks)]
    exact ⟨⟨rfl, rfl, rfl⟩, by simp⟩
  | @unclosed rest open_ =>
    have stripped : rstrip ('[' :: rest) = '[' :: rstrip rest := rstrip_kept [] (by decide)
    have solid : lskip ('[' :: rstrip rest) = '[' :: rstrip rest := lskip_solid (by rintro char ⟨⟩; decide)
    have unfound : ¬ (findCharsOrComment (rstrip rest) [']']).2.head? = some ']' := fun found =>
      open_ ((rstrip_leading rest).subset (head_mem_rest found))
    simp only [stripped, solid, statement, Nat.lt_irrefl, decide_false, Bool.false_eq_true, and_false, if_false,
      if_neg unfound]
    exact fail_skips counted
  | @unmarked first rest solid plain free =>
    have stripped : rstrip (first :: rest) = first :: rstrip rest := rstrip_kept [] solid
    have kept : lskip (first :: rstrip rest) = first :: rstrip rest := lskip_solid (by rintro char ⟨⟩; exact solid)
    have inside : ∀ {char}, (findCharsOrComment (first :: rstrip rest) ['=', ':']).2.head? = some char →
        char ∈ first :: rest := by
      intro char found
      rw [← stripped] at found
      exact (rstrip_leading _).subset (head_mem_rest found)
    have unfound : ¬ ((findCharsOrComment (first :: rstrip rest) ['=', ':']).2.head? = some '=' ∨
        (findCharsOrComment (first :: rstrip rest) ['=', ':']).2.head? = some ':') :=
      fun found => found.elim (fun here => free.1 (inside here)) (fun here => free.2 (inside here))
    simp only [stripped, kept, statement, Nat.lt_irrefl, decide_false, Bool.false_eq_true, and_false, if_false,
      plain.1, plain.2.1, plain.2.2, or_self, if_neg unfound]
    exact fail_skips counted

theorem line_idle {faulty : Bool} {text behind : Text} (handler : Handler σ) (idle : Idle faulty text)
    (clean : '\x00' ∉ text) (newline : behind = [] ∨ behind = ['\n'])
    (unmarked : parser.Unmarked (text ++ behind)) :
    Alike Eq (parser.line handler (text ++ behind)) parser ∧
      ((parser.line handler (text ++ behind)).error = 0 ↔ faulty = false ∧ parser.error = 0) := by
  have blank : Blank behind := by obtain rfl | rfl := newline <;> simp [Blank, isspace]
  rw [line_unmarked unmarked, takeWhile_clean clean newline, rstrip_blank blank]
  obtain ⟨alike, error⟩ := statement_idle handler { parser with lineno := parser.lineno + 1 } idle (Nat.succ_pos _)
  exact ⟨⟨alike.user, alike.sect, alike.name⟩, error⟩

/-! The first error is the one that is reported. -/

theorem fail_failed (failed : parser.error ≠ 0) : parser.fail = parser := if_neg failed

theorem handle_failed (failed : parser.error ≠ 0) (name value : Text) :
    (parser.handle handler name value).error = parser.error := by
  unfold handle
  obtain ⟨user, accepted⟩ := handler parser.user parser.sect name value
  cases accepted with
  | true => rfl
  | false =>
    change ({ parser with user } : Parser σ).fail.error = parser.error
    rw [fail_failed]
    exact failed

theorem statement_failed (parser : Parser σ) (failed : parser.error ≠ 0) (indented : Bool) (start : Text) :
    (parser.statement handler indented start).error = parser.error := by
  cases start with
  | nil => rfl
  | cons char rest =>
    simp only [statement, fail_failed failed]
    split
    next => rfl
    split
    next => exact handle_failed failed _ _
    split
    next => split <;> rfl
    next =>
      split
      next =>
        rw [handle_failed]
        exact failed
      next => rfl

theorem error_sticks {reads : List Text} (failed : parser.error ≠ 0) :
    (reads.foldl (Parser.line handler) parser).error = parser.error := by
  induction reads generalizing parser with
  | nil => rfl
  | cons read reads ih =>
    have kept : (parser.line handler read).error = parser.error :=
      statement_failed { parser with lineno := parser.lineno + 1 } failed _ _
    rw [List.foldl_cons, ih (by rw [kept]; exact failed), kept]

theorem lines_lineno (reads : List Text) :
    (reads.foldl (Parser.line handler) parser).lineno = parser.lineno + reads.length := by
  induction reads generalizing parser with
  | nil => rfl
  | cons read reads ih => rw [List.foldl_cons, ih, line_lineno, List.length_cons]; omega

end Parser

/-- How a line stands in a file: with the newline behind it, or as the first bytes of a line that is too long. -/
def Stands (line written : Text) : Prop :=
  written = line ++ ['\n'] ∧ line.length < lineRoom ∨ written = line ∧ line.length = lineRoom

/-- A line that says nothing can stand between any others. What is behind it is read as if it was not there, also
when it is the rest of the same line. -/
theorem idle_skipped {σ : Type} (handler : Handler σ) (user : σ) {faulty : Bool} {before line written : Text}
    (closed : roomAfter '\n' lineRoom lineRoom before = lineRoom) (idle : Parser.Idle faulty line) (whole : '\n' ∉ line)
    (clean : '\x00' ∉ line) (stands : Stands line written) (rest : Text)
    (unmarked : before = [] → ¬ byteOrderMark <+: written ∧ ¬ byteOrderMark <+: rest) :
    let longer := iniParseStream handler user (before ++ (written ++ rest))
    let shorter := iniParseStream handler user (before ++ rest)
    longer.user = shorter.user ∧ (longer.error = 0 ↔ faulty = false ∧ shorter.error = 0) := by
  have first : pieces '\n' lineRoom lineRoom (written ++ rest) = written :: pieces '\n' lineRoom lineRoom rest := by
    obtain ⟨rfl, short⟩ | ⟨rfl, full⟩ := stands
    · rw [List.append_assoc]
      exact pieces_line whole short rest
    · exact pieces_full whole (by intro none; rw [none] at full; exact absurd full (by decide)) full rest
  simp only [iniParseStream_pieces, pieces_append (Nat.le_refl _) closed, first, List.foldl_append, List.foldl_cons]
  generalize same : (pieces '\n' lineRoom lineRoom before).foldl (Parser.line handler) { user } = parser
  have counted : parser.lineno = (pieces '\n' lineRoom lineRoom before).length := by
    rw [← same, Parser.lines_lineno, Nat.zero_add]
  have start : parser.lineno = 0 → before = [] := by
    intro none
    by_contra present
    exact pieces_nonempty present (List.length_eq_zero_iff.mp (counted ▸ none))
  obtain ⟨behind, newline, shape⟩ : ∃ behind, (behind = [] ∨ behind = ['\n']) ∧ written = line ++ behind := by
    obtain ⟨shape, _⟩ | ⟨shape, _⟩ := stands
    · exact ⟨['\n'], .inr rfl, shape⟩
    · exact ⟨[], .inl rfl, by rw [List.append_nil, shape]⟩
  have plain : parser.Unmarked (line ++ behind) := fun none => by rw [← shape]; exact (unmarked (start none)).1
  have skipped := Parser.line_idle handler idle clean newline plain
  rw [← shape] at skipped
  have level : ∀ read ∈ (pieces '\n' lineRoom lineRoom rest).head?,
      (parser.line handler written).Level parser read := by
    intro read head
    refine .inr ⟨fun none => ?_, fun none marked => (unmarked (start none)).2 (marked.trans (head_pieces head))⟩
    rw [Parser.line_lineno] at none
    exact absurd none (by simp)
  obtain ⟨final, agree⟩ := Parser.lines_alike (.refl handler) skipped.1 level
  refine ⟨final.user, ?_⟩
  cases faulty with
  | true =>
    have failed : (parser.line handler written).error ≠ 0 := by simp [skipped.2]
    simp [Parser.error_sticks failed, failed]
  | false =>
    have agreed : (parser.line handler written).Agree parser := by simp [Parser.Agree, skipped.2]
    exact (agree agreed).trans (by simp)

/-! The settings that are found in any text. -/

theorem record_accepts (entries : List Entry) (sect name value : Text) :
    (record entries sect name value).2 = true := rfl

def Inline (text : Text) : Prop := '\n' ∉ text ∧ '\x00' ∉ text

theorem Inline.within {text part : Text} (inline : Inline text) (within : part ⊆ text) : Inline part :=
  ⟨fun member => inline.1 (within member), fun member => inline.2 (within member)⟩

/-- What a section title, a name and a value look like that the parser gives away. -/
structure Readable (entry : Entry) : Prop where
  sect : entry.sect.length < maxSection ∧ ']' ∉ entry.sect ∧ Bare entry.sect ∧ Inline entry.sect
  name : ('=' ∉ entry.name ∧ ':' ∉ entry.name) ∧ Bare entry.name ∧ Inline entry.name
  value : IsValue entry.value ∧ Inline entry.value

theorem Bare.leading {text part : Text} (bare : Bare text) (before : part <+: text) : Bare part := by
  obtain ⟨rest, rfl⟩ := before
  exact (List.isChain_append.mp bare).1

private theorem scan_leading (text chars : Text) : (findCharsOrComment text chars).1 <+: text :=
  ⟨(findCharsOrComment text chars).2, scan_split chars text false⟩

/-- What is read as a value is one. -/
theorem read_value {text : Text} (solid : ∀ char ∈ text.head?, isspace char = false) :
    IsValue (rstrip (findCharsOrComment text []).1) := by
  have before : rstrip (findCharsOrComment text []).1 <+: text := (rstrip_leading _).trans (scan_leading text [])
  refine ⟨⟨fun char head => ?_, rstrip_last _⟩, (scan_bare [] text false).1.leading (rstrip_leading _)⟩
  obtain ⟨rest, same⟩ := before
  apply solid
  rw [← same, List.head?_append, Option.mem_def.mp head]
  rfl

/-- Only blanks are cut off where a line ends. -/
theorem rstrip_inline {text part : Text} (whole : '\n' ∉ text.dropLast) (behind : part <:+ text) :
    '\n' ∉ rstrip part := by
  obtain ⟨before, rfl⟩ := behind
  induction part using List.reverseRecOn with
  | nil => simp [rstrip]
  | append_singleton init last _ =>
    rw [← List.append_assoc, List.dropLast_concat, List.mem_append, not_or] at whole
    rw [rstrip, List.rdropWhile_concat]
    split
    · exact fun member => whole.2 ((List.rdropWhile_prefix isspace init).subset member)
    next solid =>
      rw [List.mem_append, List.mem_singleton, not_or]
      exact ⟨whole.2, by rintro rfl; exact solid (by decide)⟩

namespace Parser
variable {parser : Parser (List Entry)}

/-- What the parser has given away and still holds is fit to be given away. -/
structure Kept (parser : Parser (List Entry)) : Prop where
  entries : ∀ entry ∈ parser.user, Readable entry
  sect : parser.sect.length < maxSection ∧ ']' ∉ parser.sect ∧ Bare parser.sect ∧ Inline parser.sect
  name : ('=' ∉ parser.prevName ∧ ':' ∉ parser.prevName) ∧ Bare parser.prevName ∧ Inline parser.prevName

theorem Kept.fail (kept : Kept parser) : Kept parser.fail := by
  unfold Parser.fail
  split
  · exact ⟨kept.entries, kept.sect, kept.name⟩
  · exact kept

theorem Kept.handle (kept : Kept parser) {name value : Text}
    (named : ('=' ∉ name ∧ ':' ∉ name) ∧ Bare name ∧ Inline name) (valued : IsValue value ∧ Inline value) :
    Kept (parser.handle record name value) := by
  rw [handle_accepted record_accepts]
  refine ⟨fun entry member => ?_, kept.sect, kept.name⟩
  rcases List.mem_append.mp member with before | last
  · exact kept.entries entry before
  · cases List.mem_singleton.mp last
    exact ⟨kept.sect, named, valued⟩

theorem Kept.statement (kept : Kept parser) {start : Text} (solid : ∀ char ∈ start.head?, isspace char = false)
    (inline : Inline start) (indented : Bool) : Kept (parser.statement record indented start) := by
  cases start with
  | nil => exact kept
  | cons char rest =>
    simp only [Parser.statement]
    split
    next => exact kept
    split
    next =>
      have before := (rstrip_leading _).trans (scan_leading (char :: rest) [])
      exact kept.handle kept.name ⟨read_value solid, inline.within before.subset⟩
    split
    next =>
      split
      next =>
        have before : strncpy0 (findCharsOrComment rest [']']).1 maxSection <+: (findCharsOrComment rest [']']).1 :=
          List.take_prefix _ _
        refine ⟨kept.entries, ⟨?_, fun member => ?_, ?_, ?_⟩, by simp [Bare, Inline]⟩
        · exact Nat.lt_of_le_of_lt (List.length_take_le _ _) (by decide)
        · exact scan_free [']'] rest false ']' (before.subset member) (.head _)
        · exact (scan_bare [']'] rest false).1.leading before
        · exact inline.within (List.subset_cons_of_subset _ (before.trans (scan_leading rest [']'])).subset)
      next => exact kept.fail
    next =>
      split
      next =>
        have free := scan_free ['=', ':'] (char :: rest) false
        have bare := (scan_bare ['=', ':'] (char :: rest) false).1
        have named : ∀ part, part <+: (findCharsOrComment (char :: rest) ['=', ':']).1 →
            ('=' ∉ part ∧ ':' ∉ part) ∧ Bare part ∧ Inline part := fun part before =>
          ⟨⟨fun member => free '=' (before.subset member) (by simp),
            fun member => free ':' (before.subset member) (by simp)⟩,
            bare.leading before, inline.within (before.trans (scan_leading _ _)).subset⟩
        have value : rstrip (findCharsOrComment (lskip (findCharsOrComment (char :: rest) ['=', ':']).2.tail) []).1 ⊆
            char :: rest := by
          intro other member
          have found := (lskip_suffix _).subset (((rstrip_leading _).trans (scan_leading _ _)).subset member)
          rw [← scan_split ['=', ':'] (char :: rest) false]
          exact List.mem_append_right _ (List.mem_of_mem_tail found)
        apply Kept.handle
        · exact ⟨kept.entries, kept.sect, named _ ((List.take_prefix _ _).trans (rstrip_leading _))⟩
        · exact named _ (rstrip_leading _)
        · exact ⟨read_value (lskip_first _), inline.within value⟩
      next => exact kept.fail

theorem Kept.line (kept : Kept parser) {read : Text} (piece : IsPiece '\n' lineRoom read) :
    Kept (parser.line record read) := by
  have clean : '\x00' ∉ read.takeWhile (· ≠ '\x00') := fun member => by simpa using List.mem_takeWhile_imp member
  have whole : '\n' ∉ (read.takeWhile (· ≠ '\x00')).dropLast := by
    obtain ⟨more, same⟩ := List.takeWhile_prefix (l := read) (· ≠ '\x00')
    intro member
    refine piece.inside ?_
    rw [← same]
    cases more with
    | nil => rw [List.append_nil]; exact member
    | cons other more =>
      rw [List.dropLast_append_of_ne_nil (by simp)]
      exact List.mem_append_left _ (List.mem_of_mem_dropLast member)
  have counted : Kept { parser with lineno := parser.lineno + 1 } := ⟨kept.entries, kept.sect, kept.name⟩
  refine counted.statement (lskip_first _) ?_ _
  have part : (if (decide (parser.lineno + 1 = 1) && byteOrderMark.isPrefixOf (read.takeWhile (· ≠ '\x00'))) = true
      then (read.takeWhile (· ≠ '\x00')).drop 3 else read.takeWhile (· ≠ '\x00')) <:+ read.takeWhile (· ≠ '\x00') := by
    split
    · exact List.drop_suffix _ _
    · exact List.suffix_refl _
  exact ⟨fun member => rstrip_inline whole part ((lskip_suffix _).subset member),
    fun member => clean (part.subset ((rstrip_leading _).subset ((lskip_suffix _).subset member)))⟩

end Parser

/-- Whatever a file says, the settings that are read from it have readable titles, names and values. -/
theorem readEntries_readable (text : Text) : ∀ entry ∈ readEntries text, Readable entry := by
  have kept : ∀ (reads : List Text) (parser : Parser (List Entry)),
    (∀ read ∈ reads, IsPiece '\n' lineRoom read) → parser.Kept →
      (reads.foldl (Parser.line record) parser).Kept := by
    intro reads
    induction reads with
    | nil => exact fun parser _ kept => kept
    | cons read reads ih =>
      intro parser pieces kept
      obtain ⟨first, rest⟩ := List.forall_mem_cons.mp pieces
      exact ih _ rest (kept.line first)
  rw [readEntries, iniParseStream_pieces]
  exact (kept _ _ (fun read member => mem_pieces (by decide) member)
    ⟨by simp, by simp [Bare, Inline, maxSection], by simp [Bare, Inline]⟩).entries

namespace Parser
variable {parser : Parser (List Entry)}

end Parser

/-- A handler that refuses nothing is given the settings of the text, in order. -/
theorem iniParseStream_taken {σ : Type} {handler : Handler σ}
    (accepts : ∀ user sect name value, (handler user sect name value).2 = true) (user : σ) (text : Text) :
    (iniParseStream handler user text).user = (readEntries text).foldl (take handler) user := by
  have respects : Respects (fun final entries => final = entries.foldl (take handler) user) handler record := by
    intro first second sect name value same
    refine ⟨?_, accepts ..⟩
    simp only [record, List.foldl_append, ← same]
    rfl
  rw [readEntries, iniParseStream_pieces, iniParseStream_pieces]
  exact (Parser.lines_alike respects ⟨rfl, rfl, rfl⟩ (fun _ _ => .inl rfl)).1.user

theorem sections_take (entries : List Entry) (reader : Values) (sect : Text) :
    ((entries.foldl (take valueHandler) reader).sections sect).isSome ↔
      (reader.sections sect).isSome ∨ ∃ entry ∈ entries, entry.sect = sect := by
  induction entries generalizing reader with
  | nil => simp
  | cons entry entries ih =>
    rw [List.foldl_cons, ih, List.exists_mem_cons_iff]
    have added : (take valueHandler reader entry).sections = reader.sections.assign entry.sect () := rfl
    rw [added]
    by_cases same : entry.sect = sect
    · simp [same]
    · simp [same, Map.assign_other _ () (Ne.symm same)]

theorem text_get (text : Text) {name : Text} (sect default : Text) (single : '=' ∉ name) :
    (INIReader.ofFile (some text)).get sect name default = lookup (readEntries text) sect name default := by
  rw [INIReader.get, INIReader.ofFile, iniParseStream_taken valueHandler_accepts]
  exact values_lookup (fun entry member => (readEntries_readable text entry member).name.1.1) default single

/-- For any file there is a list of readable settings that each lookup is answered from: settings with other
titles or names are never taken for one another. -/
theorem text_lookups (text : Text) :
    (∀ entry ∈ readEntries text, Readable entry) ∧
      (∀ sect name default, '=' ∉ name →
        (INIReader.ofFile (some text)).get sect name default = lookup (readEntries text) sect name default) ∧
      ∀ sect, ((INIReader.ofFile (some text)).sections sect).isSome ↔
        ∃ entry ∈ readEntries text, entry.sect = sect := by
  refine ⟨readEntries_readable text, fun sect name default single => text_get text sect default single, fun sect => ?_⟩
  rw [INIReader.ofFile, iniParseStream_taken valueHandler_accepts]
  exact (sections_take _ _ _).trans (by simp [Map.empty])

end Tg2Sip.Ini
