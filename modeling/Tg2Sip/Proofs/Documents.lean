import Tg2Sip.Proofs.IniLines

/-! A configuration file says to the parser what it says to its author: every document, in whatever layout,
is read back as the settings that stand in it. -/

namespace Tg2Sip.Ini
open Lib

/-! The text of a line, once it is stripped. -/

private theorem sound_mark {mark : Char} (marks : mark = '=' ∨ mark = ':' ∨ mark = ';' ∨ mark = '#') :
    isspace mark = false := by
  obtain rfl | rfl | rfl | rfl := marks <;> decide

/-- A value is read from what stands behind its mark. -/
theorem valueOf_tail {after value : Text} {tail : Tail} (ahead : Blank after) (held : IsValue value)
    (behind : tail.Behind value) :
    valueOf (after ++ value ++ tail.text) = value := by
  cases comment : tail.comment with
  | none =>
    rw [Tail.text, comment, List.append_nil]
    exact valueOf_plain ahead held.trimmed held.bare behind.blank
  | some text =>
    obtain ⟨apart, present⟩ := behind.apart (by simp [comment])
    rw [Tail.text, comment, ← List.append_assoc]
    exact valueOf_commented ahead present held.trimmed held.bare behind.blank apart text

private theorem name_first {name : Text} (named : IsName name) (before text : Text) :
    ∀ char ∈ ((name ++ before) ++ text).head?, isspace char = false ∧ char ≠ ';' ∧ char ≠ '#' ∧ char ≠ '[' := by
  intro char head
  obtain ⟨first, rest, same⟩ := List.exists_cons_of_ne_nil named.present
  subst same
  exact ⟨named.trimmed.first char head, named.first char head⟩

namespace Parser
variable {σ : Type} (handler : Handler σ)

/-- What a line means to the parser. -/
def meant (parser : Parser σ) : Line → Parser σ
  | .empty _ | .comment .. => parser
  | .heading title _ => { parser with sect := title, prevName := [] }
  | .setting name _ _ _ value _ => { parser with prevName := name }.handle handler name value
  | .continuation _ value _ => parser.handle handler parser.prevName value

/-- The line begins behind a byte order mark, or where the text begins that was read. -/
def Begins (parser : Parser σ) (indented : Bool) (text : Text) : Prop :=
  ((lskip text).length < text.length → indented = true) ∧
    (indented = true → (lskip text).length < text.length ∨ parser.prevName = [])

variable {handler} {parser : Parser σ} {indented : Bool}

theorem Begins.fresh {text : Text} (begins : parser.Begins indented text) (solid : lskip text = text) :
    parser.prevName = [] ∨ indented = false := by
  cases held : indented with
  | false => exact .inr rfl
  | true =>
    have shorter := begins.2 held
    rw [solid] at shorter
    exact .inl (shorter.resolve_left (Nat.lt_irrefl _))

theorem statement_setting_line {name before rest : Text} {mark : Char} (named : IsName name) (gap : Blank before)
    (marks : mark = '=' ∨ mark = ':') (begins : parser.Begins indented (rstrip ((name ++ before) ++ mark :: rest))) :
    parser.statement handler indented (lskip (rstrip ((name ++ before) ++ mark :: rest))) =
      { parser with prevName := name }.handle handler name (valueOf rest) := by
  have stripped : rstrip ((name ++ before) ++ mark :: rest) = (name ++ before) ++ mark :: rstrip rest :=
    rstrip_kept _ (sound_mark (by obtain rfl | rfl := marks <;> simp))
  have solid := lskip_solid fun char head => (name_first named before (mark :: rstrip rest) char head).1
  have whole : rstrip (name ++ before) = name := by rw [rstrip_blank gap, rstrip_trimmed named.trimmed]
  have short : strncpy0 name maxName = name := List.take_of_length_le (Nat.le_sub_one_of_lt named.fits)
  have free : '=' ∉ name ++ before ∧ ':' ∉ name ++ before := by
    refine ⟨fun member => ?_, fun member => ?_⟩ <;> rcases List.mem_append.mp member with inside | blank
    · exact named.free.1 inside
    · exact absurd (gap _ blank) (by decide)
    · exact named.free.2 inside
    · exact absurd (gap _ blank) (by decide)
  rw [stripped] at begins ⊢
  rw [solid, statement_setting handler parser marks (fun char head => (name_first named before [mark] char head).2)
    free (named.bare.blanks gap) _ (begins.fresh solid), whole, short, valueOf_rstrip]

private theorem statement_continuation_line {indent value : Text} {tail : Tail}
    (far : indent ≠ [] ∧ Blank indent) (plain : value ≠ [] ∧ value.head? ≠ some ';' ∧ value.head? ≠ some '#')
    (held : IsValue value) (behind : tail.Behind value) (named : parser.prevName ≠ [])
    (begins : parser.Begins indented (rstrip (indent ++ value ++ tail.text))) :
    parser.statement handler indented (lskip (rstrip (indent ++ value ++ tail.text))) =
      parser.handle handler parser.prevName value := by
  obtain ⟨first, rest, same⟩ := List.exists_cons_of_ne_nil plain.1
  have solid : isspace first = false := held.trimmed.first first (by rw [same]; rfl)
  have stripped : rstrip (indent ++ value ++ tail.text) = indent ++ first :: rstrip (rest ++ tail.text) := by
    rw [same, List.append_assoc, List.cons_append]
    exact rstrip_kept _ solid
  have started : first :: rstrip (rest ++ tail.text) = rstrip (value ++ tail.text) := by
    rw [same]
    exact (rstrip_kept [] solid).symm
  have skipped : lskip (rstrip (indent ++ value ++ tail.text)) = rstrip (value ++ tail.text) := by
    rw [stripped, started, lskip_blank far.2, ← started]
    exact lskip_solid (by rintro char ⟨⟩; exact solid)
  have moved : indented = true := begins.1 (by
    rw [skipped, stripped, started, List.length_append]
    exact Nat.lt_add_of_pos_left (List.length_pos_iff.mpr far.1))
  have read : rstrip (findCharsOrComment (rstrip (value ++ tail.text)) []).1 = value := by
    have found := valueOf_tail (show Blank [] by simp [Blank]) held behind
    rw [List.nil_append, ← valueOf_rstrip, valueOf, ← started, lskip_solid (by rintro char ⟨⟩; exact solid),
      started] at found
    exact found
  rw [moved, skipped, statement_continuation handler parser (by simp [← started])
    (by rw [← started]; simpa [same] using plain.2) named, read]

/-- The parser takes each line for what its author means by it. -/
theorem statement_meant {line : Line} (parser : Parser σ) (sound : line.Sound)
    (admits : Place.Admits ⟨parser.sect, parser.prevName⟩ line)
    (begins : parser.Begins indented (rstrip line.text)) :
    parser.statement handler indented (lskip (rstrip line.text)) = parser.meant handler line := by
  cases line with
  | empty blanks =>
    have none : rstrip blanks = [] := List.rdropWhile_eq_nil_iff.mpr sound
    rw [Line.text, none]
    rfl
  | comment blanks mark text =>
    have solid : isspace mark = false := sound_mark (by obtain rfl | rfl := sound.2 <;> simp)
    rw [Line.text, rstrip_kept _ solid, lskip_blank sound.1, lskip_solid (by rintro char ⟨⟩; exact solid)]
    exact statement_comment handler parser (by simpa using sound.2)
  | heading title behind =>
    have stripped : rstrip ('[' :: (title ++ ']' :: behind)) = '[' :: (title ++ ']' :: rstrip behind) := by
      rw [← List.cons_append, rstrip_kept _ (by decide)]
      rfl
    have solid : lskip ('[' :: (title ++ ']' :: rstrip behind)) = '[' :: (title ++ ']' :: rstrip behind) :=
      lskip_solid (by rintro char ⟨⟩; decide)
    rw [Line.text, stripped] at begins ⊢
    rw [solid, statement_heading handler parser sound.free sound.bare _ (begins.fresh solid), strncpy0,
      List.take_of_length_le (Nat.le_sub_one_of_lt sound.fits)]
    rfl
  | setting name before mark after value tail =>
    obtain ⟨named, gap, marks, ahead, held, behind⟩ := sound
    rw [Line.text, statement_setting_line named gap marks begins, valueOf_tail ahead held behind]
    rfl
  | continuation indent value tail =>
    obtain ⟨far, plain, held, behind⟩ := sound
    exact statement_continuation_line far plain held behind admits begins

/-- What may stand in front of a line: a byte order mark in front of the first one. -/
def Opens (parser : Parser σ) (mark text : Text) : Prop :=
  mark = byteOrderMark ∧ parser.lineno = 0 ∧ parser.prevName = [] ∨
    mark = [] ∧ parser.Unmarked text

theorem line_meant {line : Line} {mark : Text} (handler : Handler σ) (behind : Text) (sound : line.Sound)
    (clean : '\x00' ∉ line.text) (admits : Place.Admits ⟨parser.sect, parser.prevName⟩ line)
    (opens : parser.Opens mark line.text) (newline : behind = [] ∨ behind = ['\n']) :
    parser.line handler (mark ++ line.text ++ behind) =
      { parser with lineno := parser.lineno + 1 }.meant handler line := by
  have blank : Blank behind := by obtain rfl | rfl := newline <;> simp [Blank, isspace]
  have whole : (line.text ++ behind).takeWhile (· ≠ '\x00') = line.text ++ behind := takeWhile_clean clean newline
  obtain ⟨rfl, first, fresh⟩ | ⟨rfl, unmarked⟩ := opens
  · have cut : (byteOrderMark ++ line.text ++ behind).takeWhile (· ≠ '\x00') =
        byteOrderMark ++ (line.text ++ behind) := by
      rw [List.append_assoc, List.takeWhile_append_of_pos (by simp [byteOrderMark]), whole]
    have marked : byteOrderMark.isPrefixOf (byteOrderMark ++ (line.text ++ behind)) = true :=
      List.isPrefixOf_iff_prefix.mpr (List.prefix_append _ _)
    have dropped : (byteOrderMark ++ (line.text ++ behind)).drop 3 = line.text ++ behind := rfl
    rw [Parser.line, cut]
    simp only [first, marked, dropped, rstrip_blank blank, decide_true, Bool.and_true, Bool.true_or,
      if_true, Nat.zero_add]
    exact statement_meant { parser with lineno := 1 } sound admits ⟨fun _ => rfl, fun _ => .inr fresh⟩
  · have plain : parser.Unmarked (line.text ++ behind) := by
      intro first marked
      refine unmarked first ?_
      obtain rfl | rfl := newline
      · simpa using marked
      · obtain same | inside := List.prefix_concat_iff.mp marked
        · have ends := congrArg List.getLast? same
          rw [List.getLast?_concat] at ends
          exact absurd ends (by decide)
        · exact inside
    rw [List.nil_append, line_unmarked plain, whole, rstrip_blank blank]
    exact statement_meant { parser with lineno := parser.lineno + 1 } sound admits
      ⟨fun shorter => by simpa using shorter, fun shorter => .inl (by simpa using shorter)⟩

end Parser

/-- What a handler makes of a setting. -/
def take {σ : Type} (handler : Handler σ) (user : σ) (entry : Entry) :
    σ := (handler user entry.sect entry.name entry.value).1

namespace Parser
variable {σ : Type} {handler : Handler σ} {parser : Parser σ} {place : Place}

/-- The parser is where the author is, and has no error to report. -/
structure At (place : Place) (parser : Parser σ) : Prop where
  sect : parser.sect = place.sect
  name : parser.prevName = place.name
  error : parser.error = 0

theorem handle_accepted (accepts : ∀ user sect name value, (handler user sect name value).2 = true)
    (name value : Text) :
    parser.handle handler name value = { parser with user := take handler parser.user ⟨parser.sect, name, value⟩ } := by
  simp [handle, take, accepts]

theorem meant_at (accepts : ∀ user sect name value, (handler user sect name value).2 = true) (parser : Parser σ)
    (located : At place parser) (line : Line) :
    At (place.after line) (parser.meant handler line) ∧ (parser.meant handler line).lineno = parser.lineno ∧
      (parser.meant handler line).user = (place.entry line).toList.foldl (take handler) parser.user := by
  obtain ⟨sect, name, error⟩ := located
  cases line with
  | empty | comment => exact ⟨⟨sect, name, error⟩, rfl, rfl⟩
  | heading title => exact ⟨⟨rfl, rfl, error⟩, rfl, rfl⟩
  | setting title before mark after value tail =>
    rw [meant, handle_accepted accepts]
    exact ⟨⟨sect, rfl, error⟩, rfl, by simp [Place.entry, sect]⟩
  | continuation indent value tail =>
    rw [meant, handle_accepted accepts]
    exact ⟨⟨sect, name, error⟩, rfl, by simp [Place.entry, sect, name]⟩

private theorem entry_empty {line : Line} (sound : line.Sound) (none : line.text = []) :
    place.entry line = Option.none := by
  cases line with
  | empty | comment | heading => rfl
  | setting name before mark after value tail => simp [Line.text] at none
  | continuation indent value tail =>
    rw [Line.text, List.append_eq_nil_iff, List.append_eq_nil_iff] at none
    exact absurd none.1.1 sound.1.1

/-- The parser goes with the author from line to line. -/
theorem read_lines (accepts : ∀ user sect name value, (handler user sect name value).2 = true)
    {lines : List Line} {mark : Text} (written : ∀ line ∈ lines, line.Written)
    (connected : place.Connected lines) (located : At place parser)
    (begins : ∀ line ∈ lines.head?, parser.Opens mark line.text ∧ '\n' ∉ mark ∧
      mark.length + line.text.length < lineRoom)
    (present : lines ≠ []) :
    let final := (pieces '\n' lineRoom lineRoom (mark ++ renderLines lines)).foldl (Parser.line handler) parser
    final.error = 0 ∧ final.user = (place.entries lines).foldl (take handler) parser.user := by
  induction lines generalizing parser place mark with
  | nil => exact absurd rfl present
  | cons line lines ih =>
    obtain ⟨first, rest⟩ := List.forall_mem_cons.mp written
    obtain ⟨opens, unmarked, short⟩ := begins line rfl
    have admits : Place.Admits ⟨parser.sect, parser.prevName⟩ line := by
      rw [located.sect, located.name]
      exact connected.1
    have whole : '\n' ∉ mark ++ line.text := by
      rw [List.mem_append, not_or]
      exact ⟨unmarked, first.whole⟩
    obtain ⟨arrived, counted, used⟩ :=
      meant_at accepts { parser with lineno := parser.lineno + 1 } ⟨located.sect, located.name, located.error⟩ line
    cases lines with
    | nil =>
      rw [renderLines, Place.entries, Place.entries, List.append_nil]
      by_cases none : mark ++ line.text = []
      · rw [none, pieces, entry_empty first.sound (List.append_eq_nil_iff.mp none).2]
        exact ⟨located.error, rfl⟩
      · have read := line_meant handler [] first.sound first.clean admits opens (.inl rfl)
        rw [List.append_nil] at read
        rw [pieces_last whole none (by rw [List.length_append]; omega), List.foldl_cons, read]
        exact ⟨arrived.error, used⟩
    | cons second lines =>
      rw [renderLines, ← List.append_assoc, pieces_line whole (by rw [List.length_append]; omega), List.foldl_cons,
        line_meant handler ['\n'] first.sound first.clean admits opens (.inr rfl)]
      · have follows : ∀ other ∈ (second :: lines).head?,
            Opens ({ parser with lineno := parser.lineno + 1 }.meant handler line) [] other.text ∧ '\n' ∉ ([] : Text) ∧
              ([] : Text).length + other.text.length < lineRoom := by
          rintro other ⟨⟩
          have fits := (rest second (.head _)).fits
          refine ⟨.inr ⟨rfl, fun start => absurd (counted.symm.trans start) (by simp)⟩, by simp, ?_⟩
          rw [List.length_nil]
          unfold lineRoom
          omega
        obtain ⟨error, final⟩ := ih rest connected.2 arrived follows (by simp)
        refine ⟨error, ?_⟩
        rw [Place.entries, List.foldl_append, ← used]
        exact final
      · simp

end Parser

/-- The parser gives its handler what stands in a document, in order, and reports no error. -/
theorem document_read {σ : Type} {handler : Handler σ}
    (accepts : ∀ user sect name value, (handler user sect name value).2 = true) (user : σ)
    (document : Document) :
    (iniParseStream handler user document.text).error = 0 ∧
      (iniParseStream handler user document.text).user = document.entries.foldl (take handler) user := by
  obtain ⟨marked, lines, written, connected, begins⟩ := document
  rw [iniParseStream_pieces, Document.text, Document.entries]
  have opens : ∀ line ∈ lines.head?, Parser.Opens (σ := σ) { user } (if marked then byteOrderMark else []) line.text ∧
      '\n' ∉ (if marked then byteOrderMark else []) ∧
        (if marked then byteOrderMark else []).length + line.text.length < lineRoom := by
    intro line head
    have start := begins line head
    have fits := (written line (List.mem_of_mem_head? head)).fits
    cases marked with
    | true => exact ⟨.inl ⟨rfl, rfl, rfl⟩, by decide, by simp only [if_true] at start ⊢; unfold lineRoom; omega⟩
    | false =>
      exact ⟨.inr ⟨rfl, fun _ => start⟩, by decide,
        by simp only [Bool.false_eq_true, if_false, List.length_nil]; unfold lineRoom; omega⟩
  cases lines with
  | cons line lines => exact Parser.read_lines accepts written connected ⟨rfl, rfl, rfl⟩ opens (by simp)
  | nil =>
    -- A file without any line reads like one with an empty line.
    have written : ∀ line ∈ [Line.empty []], line.Written := by
      intro line member
      cases List.mem_singleton.mp member
      exact ⟨by simp [Line.Sound, Blank], by simp [Line.text], by simp [Line.text], by decide⟩
    have opens : ∀ line ∈ [Line.empty []].head?,
        Parser.Opens (σ := σ) { user } (if marked then byteOrderMark else []) line.text ∧
          '\n' ∉ (if marked then byteOrderMark else []) ∧
            (if marked then byteOrderMark else []).length + line.text.length < lineRoom := by
      rintro line ⟨⟩
      cases marked with
      | true =>
        exact ⟨.inl ⟨rfl, rfl, rfl⟩, by simp [byteOrderMark], by simp [byteOrderMark, Line.text, lineRoom, iniMaxLine]⟩
      | false =>
        exact ⟨.inr ⟨rfl, fun _ => by simp [byteOrderMark, Line.text]⟩, by simp,
          by simp [Line.text, lineRoom, iniMaxLine]⟩
    have connected : Place.Connected {} [Line.empty []] := ⟨trivial, trivial⟩
    have begins : Parser.At {} { user } := ⟨rfl, rfl, rfl⟩
    have read := Parser.read_lines accepts written connected begins opens (by simp)
    exact read

/-! What can be looked up. -/

theorem valueHandler_accepts (reader : Values) (sect name value : Text) :
    (valueHandler reader sect name value).2 = true := rfl

private theorem lower_equals {char : Char} (lower : char.toLower = '=') : char = '=' := by
  unfold Char.toLower at lower
  split at lower
  next upper =>
    have above : 65 ≤ char.val.toNat := UInt32.le_iff_toNat_le.mp upper.1
    have below : char.val.toNat ≤ 90 := UInt32.le_iff_toNat_le.mp upper.2
    have moved : (char.val.toNat + 32) % 2 ^ 32 = 61 := congrArg (fun char => char.val.toNat) lower
    omega
  next => exact lower

theorem tolower_free {name : Text} (single : '=' ∉ name) : '=' ∉ tolower name := by
  intro member
  obtain ⟨char, inside, same⟩ := List.mem_map.mp member
  exact single (lower_equals same ▸ inside)

/-- Keys are the same only for the same setting. -/
theorem makeKey_inj {sect other name title : Text} (single : '=' ∉ name) (plain : '=' ∉ title) :
    makeKey sect name = makeKey other title ↔ tolower sect = tolower other ∧ tolower name = tolower title := by
  have keyed : ∀ sect name, makeKey sect name = tolower sect ++ '=' :: tolower name := by
    intro sect name
    rw [makeKey, tolower, List.map_append, List.map_cons]
    rfl
  rw [keyed, keyed]
  refine ⟨fun same => ?_, fun same => by rw [same.1, same.2]⟩
  obtain ⟨between, front, rest⟩ | ⟨between, front, rest⟩ := List.append_eq_append_iff.mp same
  · cases between with
    | nil => exact ⟨by simpa using front.symm, by simpa using rest⟩
    | cons char between =>
      obtain ⟨_, inside⟩ := List.cons.inj rest
      exact absurd (by rw [inside]; simp) (tolower_free single)
  · cases between with
    | nil => exact ⟨by simpa using front, by simpa using rest.symm⟩
    | cons char between =>
      obtain ⟨_, inside⟩ := List.cons.inj rest
      exact absurd (by rw [inside]; simp) (tolower_free plain)

theorem entries_free {lines : List Line} {place : Place} (sound : ∀ line ∈ lines, line.Sound)
    (single : '=' ∉ place.name) :
    ∀ entry ∈ place.entries lines, '=' ∉ entry.name := by
  induction lines generalizing place with
  | nil => simp [Place.entries]
  | cons line lines ih =>
    obtain ⟨first, rest⟩ := List.forall_mem_cons.mp sound
    intro entry member
    rw [Place.entries, List.mem_append] at member
    rcases member with here | later
    · cases line with
      | empty | comment | heading => cases here
      | setting name => cases List.mem_singleton.mp here; exact first.1.free.1
      | continuation => cases List.mem_singleton.mp here; exact single
    · refine ih rest ?_ entry later
      cases line with
      | empty | comment | continuation => exact single
      | heading => simp [Place.after]
      | setting name => exact first.1.free.1

private theorem join_next (held value : Text) :
    (if held.length > 0 then held ++ ['\n'] else held) ++ value = if held = [] then value
      else held ++ '\n' :: value := by
  cases held <;> simp

/-- What is stored under a key: the values of all entries with this key, joined. -/
theorem values_take (entries : List Entry) (reader : Values) (key : Text) :
    (entries.foldl (take valueHandler) reader).values key =
      match (entries.filter fun entry => makeKey entry.sect entry.name = key).map Entry.value with
      | [] => reader.values key
      | values => some (values.foldl (fun joined value => if joined = [] then value else joined ++ '\n' :: value)
          ((reader.values key).getD [])) := by
  induction entries generalizing reader with
  | nil => rfl
  | cons entry entries ih =>
    rw [List.foldl_cons, ih]
    by_cases same : makeKey entry.sect entry.name = key
    · have stored : (take valueHandler reader entry).values key =
          some (if (reader.values key).getD [] = [] then entry.value
              else (reader.values key).getD [] ++ '\n' :: entry.value) := by
        rw [← join_next, ← same]
        exact Map.assign_same ..
      rw [stored, List.filter_cons_of_pos (by simpa using same), List.map_cons]
      generalize (entries.filter fun entry => makeKey entry.sect entry.name = key).map Entry.value = later
      cases later <;> rfl
    · have kept : (take valueHandler reader entry).values key = reader.values key := Map.assign_other _ _ (Ne.symm same)
      rw [kept, List.filter_cons_of_neg (by simpa using same)]

/-- The reader finds a setting under the key that settings of this name have, and no others. -/
theorem values_lookup {entries : List Entry} (sound : ∀ entry ∈ entries, '=' ∉ entry.name) {sect name : Text}
    (default : Text) (single : '=' ∉ name) :
    ((entries.foldl (take valueHandler) {}).values (makeKey sect name)).getD default =
      lookup entries sect name default := by
  have same : entries.filter (fun entry => makeKey entry.sect entry.name = makeKey sect name) =
      entries.filter (Entry.concerns sect name) :=
    List.filter_congr fun entry member => by simp [Entry.concerns, makeKey_inj (sound entry member) single]
  rw [values_take, same, lookup]
  generalize (entries.filter (Entry.concerns sect name)).map Entry.value = values
  cases values <;> rfl

theorem document_get (document : Document) {name : Text} (sect default : Text) (single : '=' ∉ name) :
    (INIReader.ofFile (some document.text)).get sect name default = lookup document.entries sect name default := by
  have user := (document_read valueHandler_accepts {} document).2
  have sound : ∀ entry ∈ document.entries, '=' ∉ entry.name :=
    entries_free (fun line member => (document.written line member).sound) (by simp)
  rw [INIReader.get, INIReader.ofFile, user]
  exact values_lookup sound default single

/-- Every document is read without an error, and each lookup finds what the document says about the setting. -/
theorem document_reads_back (document : Document) (sect name default : Text) (single : '=' ∉ name) :
    (INIReader.ofFile (some document.text)).error = 0 ∧
      (INIReader.ofFile (some document.text)).get sect name default = lookup document.entries sect name default := by
  have error := (document_read valueHandler_accepts {} document).1
  exact ⟨by simp [INIReader.ofFile, error], document_get document sect default single⟩

/-- A file with a byte order mark, comments, and a setting of two lines. -/
def sampleDocument : Document where
  marked := true
  lines := [
    .comment [] ';' " sample settings file".toList,
    .heading "sip".toList [],
    .setting "port".toList [' '] '=' [' '] "5060".toList { blanks := [' '], comment := some " the first one".toList },
    .continuation ['\t'] "5061".toList {},
    .empty []]
  written := by decide
  connected := by decide
  begins := by decide

theorem sampleDocument_reads_back : '=' ∉ "Port".toList ∧
    (INIReader.ofFile (some sampleDocument.text)).get "SIP".toList "Port".toList [] = "5060\n5061".toList := by
  have single : '=' ∉ "Port".toList := by decide
  exact ⟨single, (document_reads_back sampleDocument "SIP".toList "Port".toList [] single).2.trans (by decide)⟩

end Tg2Sip.Ini
