import Mathlib.Data.List.Infix
import Tg2Sip.IniDocument
import Tg2Sip.Lib.Pieces

/-! What the parser of configuration files reads at once, and what it makes of one line. -/

namespace Tg2Sip.Ini
open Lib

/-- What one call of `fgets` reads at most. -/
abbrev lineRoom : Nat := iniMaxLine - 1

theorem takeLine_pieces {stream : Text} (limit room : Nat) (positive : 0 < room) (present : stream ≠ []) :
    pieces '\n' limit room stream = (takeLine room stream).1 :: pieces '\n' limit limit (takeLine room stream).2 ∧
      (takeLine room stream).2.length < stream.length := by
  induction stream generalizing room with
  | nil => exact absurd rfl present
  | cons char stream ih =>
    obtain ⟨less, rfl⟩ := Nat.exists_eq_succ_of_ne_zero (Nat.ne_of_gt positive)
    rw [pieces, takeLine]
    by_cases ends : char = '\n'
    · simp [ends]
    · simp only [ends, if_false, false_or, Nat.succ_eq_add_one, Nat.add_sub_cancel]
      cases less with
      | zero => simp [takeLine]
      | succ less =>
        rw [if_neg (by omega)]
        by_cases last : stream = []
        · subst last
          simp [pieces, takeLine]
        · obtain ⟨parts, shorter⟩ := ih (less + 1) (by omega) last
          rw [parts]
          exact ⟨rfl, by rw [List.length_cons]; omega⟩

/-- The loop reads the whole stream. -/
theorem readLines_pieces {fuel : Nat} {stream : Text} (enough : stream.length ≤ fuel) :
    readLines fuel stream = pieces '\n' lineRoom lineRoom stream := by
  induction fuel generalizing stream with
  | zero => rw [List.eq_nil_of_length_eq_zero (Nat.le_zero.mp enough)]; rfl
  | succ fuel ih =>
    rw [readLines, fgets]
    by_cases present : stream = []
    · subst present; rfl
    · obtain ⟨parts, shorter⟩ := takeLine_pieces lineRoom lineRoom (by decide) present
      rw [if_neg present, parts]
      exact congrArg _ (ih (Nat.le_of_lt_succ (Nat.lt_of_lt_of_le shorter enough)))

theorem iniParseStream_pieces {σ : Type} (handler : Handler σ) (user : σ) (stream : Text) :
    iniParseStream handler user stream = (pieces '\n' lineRoom lineRoom stream).foldl (Parser.line handler)
    { user } := by
  rw [iniParseStream, readLines_pieces (Nat.le_refl _)]

/-! Stripping. -/

theorem rstrip_blank {text blanks : Text} (blank : Blank blanks) : rstrip (text ++ blanks) = rstrip text := by
  unfold rstrip
  induction blanks using List.reverseRecOn with
  | nil => rw [List.append_nil]
  | append_singleton blanks char ih =>
    rw [← List.append_assoc, List.rdropWhile_concat_pos _ _ _ (blank char (by simp))]
    exact ih fun other member => blank other (by simp [member])

theorem rstrip_kept {rest : Text} {char : Char} (text : Text) (solid : isspace char = false) :
    rstrip (text ++ char :: rest) = text ++ char :: rstrip rest := by
  unfold rstrip
  induction rest using List.reverseRecOn with
  | nil => rw [List.rdropWhile_concat_neg _ _ _ (by simp [solid])]; rfl
  | append_singleton rest last ih =>
    rw [← List.cons_append, ← List.append_assoc, List.rdropWhile_concat, List.rdropWhile_concat]
    split
    · exact ih
    · simp

theorem rstrip_trimmed {text : Text} (trimmed : Trimmed text) : rstrip text = text := by
  rw [rstrip, List.rdropWhile_eq_self_iff]
  intro present
  rw [trimmed.last _ (List.getLast?_eq_getLast_of_ne_nil present)]
  decide

/-- A text is what is left of it and blanks. -/
theorem rstrip_split (text : Text) : ∃ blanks, Blank blanks ∧ text = rstrip text ++ blanks := by
  refine ⟨text.rtakeWhile isspace, fun char member => List.mem_rtakeWhile_imp member, ?_⟩
  rw [rstrip, List.rdropWhile_append_rtakeWhile]

theorem rstrip_last (text : Text) : ∀ char ∈ (rstrip text).getLast?, isspace char = false := by
  intro char last
  have present : rstrip text ≠ [] := by intro none; rw [none] at last; cases last
  rw [List.getLast?_eq_getLast_of_ne_nil present, Option.mem_some_iff] at last
  rw [← last]
  exact eq_false_of_ne_true (List.rdropWhile_last_not isspace text present)

theorem lskip_first (text : Text) : ∀ char ∈ (lskip text).head?, isspace char = false := by
  intro char first
  have skipped := List.head?_dropWhile_not isspace text
  rw [lskip, Option.mem_def] at first
  rw [first] at skipped
  exact skipped

theorem lskip_blank {blanks : Text} (blank : Blank blanks) (text : Text) : lskip (blanks ++ text) = lskip text := by
  induction blanks with
  | nil => rfl
  | cons char blanks ih =>
    obtain ⟨first, rest⟩ := List.forall_mem_cons.mp blank
    rw [List.cons_append, lskip, List.dropWhile_cons_of_pos first]
    exact ih rest

theorem lskip_solid {text : Text} (solid : ∀ char ∈ text.head?, isspace char = false) : lskip text = text := by
  cases text with
  | nil => rfl
  | cons char text => rw [lskip, List.dropWhile_cons_of_neg]; simp [solid char rfl]

theorem lskip_suffix (text : Text) : lskip text <:+ text := List.dropWhile_suffix isspace

theorem rstrip_leading (text : Text) : rstrip text <+: text := List.rdropWhile_prefix isspace text

/-! Scanning. -/

theorem scan_split (chars text : Text) (wasSpace : Bool) :
    (scan chars wasSpace text).1 ++ (scan chars wasSpace text).2 = text := by
  induction text generalizing wasSpace with
  | nil => rfl
  | cons char text ih =>
    rw [scan]
    split
    · rfl
    · exact congrArg (char :: ·) (ih _)

theorem scan_free (chars text : Text) (wasSpace : Bool) : ∀ char ∈ (scan chars wasSpace text).1, char ∉ chars := by
  induction text generalizing wasSpace with
  | nil => simp [scan]
  | cons char text ih =>
    rw [scan]
    split
    next => simp
    next goesOn => exact List.forall_mem_cons.mpr ⟨(not_or.mp goesOn).1, ih _⟩

/-- Before a comment there is none. -/
theorem scan_bare (chars text : Text) (wasSpace : Bool) :
    Bare (scan chars wasSpace text).1 ∧
      (wasSpace = true → ∀ char ∈ (scan chars wasSpace text).1.head?, char ∉ iniInlineCommentPrefixes) := by
  induction text generalizing wasSpace with
  | nil => exact ⟨.nil, by simp [scan]⟩
  | cons char text ih =>
    rw [scan]
    split
    next => exact ⟨.nil, by simp⟩
    next goesOn =>
      obtain ⟨bare, first⟩ := ih (isspace char)
      refine ⟨List.isChain_cons.mpr ⟨fun next member blank => first blank next member, bare⟩, ?_⟩
      intro blank other same
      cases same
      exact fun comment => goesOn (.inr ⟨blank, comment⟩)

/-- The scan passes a text in which there is nothing to find. -/
theorem scan_through {text : Text} (chars : Text) (wasSpace : Bool) (free : ∀ char ∈ text, char ∉ chars)
    (bare : Bare text) (first : wasSpace = true → ∀ char ∈ text.head?, char ∉ iniInlineCommentPrefixes)
    (rest : Text) :
    scan chars wasSpace (text ++ rest) =
      (text ++ (scan chars ((text.getLast?.map isspace).getD wasSpace) rest).1,
        (scan chars ((text.getLast?.map isspace).getD wasSpace) rest).2) := by
  induction text generalizing wasSpace with
  | nil => rfl
  | cons char text ih =>
    obtain ⟨unlisted, free⟩ := List.forall_mem_cons.mp free
    obtain ⟨next, bare⟩ := List.isChain_cons.mp bare
    have goesOn : ¬ (char ∈ chars ∨ wasSpace = true ∧ char ∈ iniInlineCommentPrefixes) := by
      intro found
      cases found with
      | inl listed => exact unlisted listed
      | inr comment => exact first comment.1 char rfl comment.2
    rw [List.cons_append, scan, if_neg goesOn, ih _ free bare (fun blank other member => next other member blank)]
    cases text with
    | nil => rfl
    | cons second text => simp [List.getLast?_cons]

theorem scan_stop {chars : Text} {char : Char} (listed : char ∈ chars) (wasSpace : Bool) (rest : Text) :
    scan chars wasSpace (char :: rest) = ([], char :: rest) := by
  rw [scan, if_pos (.inl listed)]

theorem scan_comment (chars rest : Text) : scan chars true (';' :: rest) = ([], ';' :: rest) := by
  rw [scan, if_pos (.inr ⟨rfl, by decide⟩)]

theorem blank_bare {blanks : Text} (blank : Blank blanks) : Bare blanks := by
  induction blanks with
  | nil => exact .nil
  | cons char blanks ih =>
    obtain ⟨_, rest⟩ := List.forall_mem_cons.mp blank
    refine List.isChain_cons.mpr ⟨fun next member _ comment => ?_, ih rest⟩
    have solid := rest next (List.mem_of_mem_head? member)
    cases List.mem_singleton.mp comment
    exact absurd solid (by decide)

/-- A text without a comment stays one when blanks are put behind it. -/
theorem Bare.blanks {text blanks : Text} (bare : Bare text) (blank : Blank blanks) : Bare (text ++ blanks) := by
  refine List.isChain_append.mpr ⟨bare, blank_bare blank, fun _ _ next member _ comment => ?_⟩
  have solid := blank next (List.mem_of_mem_head? member)
  cases List.mem_singleton.mp comment
  exact absurd solid (by decide)

/-- What the parser takes for a value. -/
def valueOf (text : Text) : Text := rstrip (findCharsOrComment (lskip text) []).1

theorem rstrip_cons (char : Char) (text : Text) :
    rstrip (char :: text) = if rstrip text = [] then rstrip [char] else char :: rstrip text := by
  obtain ⟨blanks, blank, same⟩ := rstrip_split text
  conv => lhs; rw [same]
  split
  next none => rw [none, List.nil_append, ← List.singleton_append, rstrip_blank blank]
  next some =>
    rw [← List.cons_append, rstrip_blank blank]
    unfold rstrip
    rw [List.rdropWhile_eq_self_iff]
    intro present
    rw [List.getLast_cons (by simpa [rstrip] using some)]
    exact List.rdropWhile_last_not isspace text some

private theorem scan_blanks {blanks : Text} (blank : Blank blanks) (text : Text) (wasSpace : Bool) :
    rstrip (scan [] wasSpace (text ++ blanks)).1 = rstrip (scan [] wasSpace text).1 := by
  induction text generalizing wasSpace with
  | nil =>
    have blankStart : Blank (scan [] wasSpace blanks).1 := fun char member =>
      blank char (by rw [← scan_split [] blanks wasSpace]; exact List.mem_append_left _ member)
    exact List.rdropWhile_eq_nil_iff.mpr blankStart
  | cons char text ih =>
    rw [List.cons_append, scan, scan]
    split
    next => rfl
    next =>
      change rstrip (char :: (scan [] (isspace char) (text ++ blanks)).1) =
        rstrip (char :: (scan [] (isspace char) text).1)
      rw [rstrip_cons char, ih, ← rstrip_cons]

/-- Blanks at the end do not count. -/
theorem valueOf_blank {blanks : Text} (blank : Blank blanks) (text : Text) :
    valueOf (text ++ blanks) = valueOf text := by
  unfold valueOf findCharsOrComment
  rw [lskip, List.dropWhile_append, ← lskip, ← lskip]
  split
  next none =>
    have skipped : lskip blanks = [] := List.dropWhile_eq_nil_iff.mpr blank
    rw [skipped, List.isEmpty_iff.mp none]
  next => exact scan_blanks blank _ _

theorem valueOf_rstrip (text : Text) : valueOf (rstrip text) = valueOf text := by
  obtain ⟨blanks, blank, same⟩ := rstrip_split text
  conv => rhs; rw [same]
  exact (valueOf_blank blank _).symm

/-- A value is read without the blanks around it. -/
theorem valueOf_plain {after value blanks : Text} (ahead : Blank after) (trimmed : Trimmed value) (bare : Bare value)
    (behind : Blank blanks) : valueOf (after ++ value ++ blanks) = value := by
  rw [valueOf_blank behind, valueOf, lskip_blank ahead, lskip_solid trimmed.first, findCharsOrComment]
  have passed := scan_through [] false (by simp) bare (by simp) []
  rw [List.append_nil] at passed
  rw [passed, scan, List.append_nil, rstrip_trimmed trimmed]

/-- A comment behind a value is not a part of it. -/
theorem valueOf_commented {after value blanks : Text} (ahead : Blank after) (present : value ≠ [])
    (trimmed : Trimmed value) (bare : Bare value) (behind : Blank blanks) (apart : blanks ≠ [])
    (comment : Text) :
    valueOf (after ++ value ++ blanks ++ ';' :: comment) = value := by
  obtain ⟨first, rest, same⟩ := List.exists_cons_of_ne_nil present
  have solid : ∀ char ∈ (value ++ (blanks ++ ';' :: comment)).head?, isspace char = false := by
    rw [same]
    exact fun char head => trimmed.first char (by rw [same]; exact head)
  rw [valueOf, List.append_assoc, List.append_assoc, lskip_blank ahead, lskip_solid solid, findCharsOrComment,
    ← List.append_assoc, scan_through [] false (by simp) (bare.blanks behind) (by simp)]
  have ends : ((value ++ blanks).getLast?.map isspace).getD false = true := by
    rw [List.getLast?_append_of_ne_nil _ apart, List.getLast?_eq_getLast_of_ne_nil apart]
    exact behind _ (List.getLast_mem apart)
  rw [ends, scan_comment, List.append_nil, rstrip_blank behind, rstrip_trimmed trimmed]

/-! What the parser does with one line. -/

/-- The C string that was read, when no byte of it is zero. -/
theorem takeWhile_clean {text behind : Text} (clean : '\x00' ∉ text) (newline : behind = [] ∨ behind = ['\n']) :
    (text ++ behind).takeWhile (· ≠ '\x00') = text ++ behind := by
  rw [List.takeWhile_eq_self_iff]
  intro char member
  rcases List.mem_append.mp member with inside | last
  · have other : char ≠ '\x00' := fun same => clean (by rw [← same]; exact inside)
    simpa using other
  · obtain rfl | rfl := newline <;> simp_all

namespace Parser
variable {σ : Type} (handler : Handler σ) (parser : Parser σ)

theorem statement_comment {indented : Bool} {start : Text} (comment : start.head? = some ';' ∨ start.head? = some '#') :
    parser.statement handler indented start = parser := by
  cases start with
  | nil => rfl
  | cons first rest =>
    rw [statement, if_pos]
    simpa using comment

theorem statement_continuation {start : Text} (present : start ≠ [])
    (plain : start.head? ≠ some ';' ∧ start.head? ≠ some '#') (named : parser.prevName ≠ []) :
    parser.statement handler true start =
      parser.handle handler parser.prevName (rstrip (findCharsOrComment start []).1) := by
  cases start with
  | nil => exact absurd rfl present
  | cons first rest =>
    rw [statement, if_neg (by simpa using plain), if_pos ⟨named, rfl⟩]

theorem statement_heading {indented : Bool} {title : Text} (free : ']' ∉ title) (bare : Bare title) (rest : Text)
    (fresh : parser.prevName = [] ∨ indented = false) :
    parser.statement handler indented ('[' :: (title ++ ']' :: rest)) =
      { parser with sect := strncpy0 title maxSection, prevName := [] } := by
  rw [statement, if_neg (by decide),
    if_neg (by intro ⟨named, far⟩; rcases fresh with none | near <;> simp_all), if_pos rfl]
  have passed := scan_through [']'] false
    (fun char member listed => free (List.mem_singleton.mp listed ▸ member)) bare (by simp) (']' :: rest)
  rw [findCharsOrComment, passed, scan_stop (by simp)]
  simp

theorem statement_setting {indented : Bool} {before : Text} {mark : Char} (marks : mark = '=' ∨ mark = ':')
    (first : ∀ char ∈ (before ++ [mark]).head?, char ≠ ';' ∧ char ≠ '#' ∧ char ≠ '[')
    (free : '=' ∉ before ∧ ':' ∉ before) (bare : Bare before) (rest : Text)
    (fresh : parser.prevName = [] ∨ indented = false) :
    parser.statement handler indented (before ++ mark :: rest) =
      { parser with prevName := strncpy0 (rstrip before) maxName }.handle handler (rstrip before) (valueOf rest) := by
  have passed := scan_through ['=', ':'] false
    (fun char member listed => by
      rcases List.mem_cons.mp listed with rfl | last
      · exact free.1 member
      · exact free.2 (List.mem_singleton.mp last ▸ member)) bare (by simp) (mark :: rest)
  rw [scan_stop (by rcases marks with rfl | rfl <;> simp), List.append_nil] at passed
  obtain ⟨char, others, same⟩ : ∃ char others, before ++ mark :: rest = char :: others :=
    List.exists_cons_of_ne_nil (by simp)
  have solid := first char (by cases before <;> simp_all)
  rw [same] at passed ⊢
  rw [statement, if_neg (by simp [solid]), if_neg (by intro ⟨named, far⟩; rcases fresh with none | near <;> simp_all),
    if_neg solid.2.2, findCharsOrComment, passed]
  simp only [List.head?_cons, Option.some.injEq, if_pos marks, List.tail_cons]
  rfl

variable {handler} {parser}

/-- A text is read from where it begins, as no byte order mark is skipped. -/
def Unmarked (parser : Parser σ) (text : Text) : Prop := parser.lineno = 0 → ¬ byteOrderMark <+: text

/-- How a line is read that has no byte order mark before it. -/
theorem line_unmarked {read : Text} (unmarked : parser.Unmarked read) :
    parser.line handler read =
      let stripped := rstrip (read.takeWhile (· ≠ '\x00'))
      { parser with lineno := parser.lineno + 1 }.statement handler (decide ((lskip stripped).length < stripped.length))
        (lskip stripped) := by
  have plain : (decide (parser.lineno + 1 = 1) && byteOrderMark.isPrefixOf (read.takeWhile (· ≠ '\x00'))) = false := by
    rw [Bool.and_eq_false_iff]
    by_cases start : parser.lineno = 0
    · refine .inr (Bool.eq_false_iff.mpr fun marked => unmarked start ?_)
      exact (List.isPrefixOf_iff_prefix.mp marked).trans (List.takeWhile_prefix _)
    · exact .inl (by simp [start])
  rw [Parser.line]
  simp only [plain, Bool.false_eq_true, if_false, Bool.false_or]

end Parser
end Tg2Sip.Ini
