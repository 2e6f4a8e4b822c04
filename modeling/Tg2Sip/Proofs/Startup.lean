import Tg2Sip.Configuration
import Tg2Sip.Proofs.IniNumbers
import Tg2Sip.Proofs.IniTexts
import Tg2Sip.Proofs.SignOn

/-! From the text of a configuration file to the gateway: what of the text the settings depend on, which numbers they
hold, and when the gateway is started with them. -/

namespace Tg2Sip.Configuration
open Ini Lib

/-! What the settings depend on. -/

theorem getInteger_congr {first second : INIReader} {sect name : Text}
    (same : first.get sect name [] = second.get sect name []) (default : Int64) :
    first.getInteger sect name default = second.getInteger sect name default := by
  rw [INIReader.getInteger, same, INIReader.getInteger]

theorem getBoolean_congr {first second : INIReader} {sect name : Text}
    (same : first.get sect name [] = second.get sect name []) (default : Bool) :
    first.getBoolean sect name default = second.getBoolean sect name default := by
  simp only [INIReader.getBoolean, same]

/-- Only what lookups find makes a difference to the settings. -/
theorem read_congr {first second : INIReader}
    (same : ∀ sect name default, '=' ∉ name → first.get sect name default = second.get sect name default) :
    Members.read first = Members.read second := by
  have number : ∀ sect name default, '=' ∉ name →
      first.getInteger sect name default = second.getInteger sect name default :=
    fun sect name default single => getInteger_congr (same sect name [] single) default
  have flag : ∀ sect name default, '=' ∉ name →
      first.getBoolean sect name default = second.getBoolean sect name default :=
    fun sect name default single => getBoolean_congr (same sect name [] single) default
  unfold Members.read level
  simp (disch := decide) only [same, number, flag]

/-- Whether the settings are read depends on whether the file opens, whatever errors the parser reports. -/
theorem read_text (text : Text) : Settings.read (.ofFile (some text)) =
    let members := Members.read (.ofFile (some text))
    { isLoaded := !(members.apiId == 0 || members.apiHash.isEmpty), members } := by
  rw [Settings.read, if_neg]
  simp [INIReader.ofFile]

theorem settings_congr {first second : Text}
    (same : ∀ sect name default, '=' ∉ name →
      (INIReader.ofFile (some first)).get sect name default = (INIReader.ofFile (some second)).get sect name default) :
    Settings.read (.ofFile (some first)) = Settings.read (.ofFile (some second)) := by
  rw [read_text, read_text, read_congr same]

/-- A comment, an empty line or a line that is an error can stand anywhere in a file without a change to any setting.
Of a line that is too long it is only the first part that is skipped. -/
theorem idle_line_keeps_settings {faulty : Bool} (before line written : Text)
    (closed : roomAfter '\n' lineRoom lineRoom before = lineRoom) (idle : Parser.Idle faulty line)
    (whole : '\n' ∉ line) (clean : '\x00' ∉ line) (stands : Stands line written) (rest : Text)
    (unmarked : before = [] → ¬ byteOrderMark <+: written ∧ ¬ byteOrderMark <+: rest) :
    Settings.read (.ofFile (some (before ++ (written ++ rest)))) = Settings.read (.ofFile (some (before ++ rest))) := by
  obtain ⟨user, _⟩ := idle_skipped valueHandler {} closed idle whole clean stands rest unmarked
  refine settings_congr fun sect name default _ => ?_
  simp only [INIReader.get, INIReader.ofFile, user]

theorem note_keeps_settings :
    Settings.read (.ofFile (some ("[sip]\n".toList ++ ("; note\n".toList ++ "port=5060".toList)))) =
    Settings.read (.ofFile (some ("[sip]\n".toList ++ "port=5060".toList))) :=
  have note : Parser.Idle false ([] ++ ';' :: " note".toList) := .comment (by simp [Blank]) (.inl rfl)
  idle_line_keeps_settings "[sip]\n".toList "; note".toList "; note\n".toList
    (roomAfter_stop (Nat.le_refl _) "[sip]".toList)
    note (by decide) (by decide) (.inl ⟨rfl, by decide⟩) "port=5060".toList (by simp)

/-- Documents that say the same of each setting make the same settings, whatever their layout is. -/
theorem documents_configure_alike {first second : Document}
    (same : ∀ sect name, (first.entries.filter (Entry.concerns sect name)).map Entry.value =
      (second.entries.filter (Entry.concerns sect name)).map Entry.value) :
    Settings.read (.ofFile (some first.text)) = Settings.read (.ofFile (some second.text)) := by
  refine settings_congr fun sect name default single => ?_
  have found : lookup first.entries sect name default = lookup second.entries sect name default := by
    rw [lookup, lookup, same]
  rw [document_get first sect default single, document_get second sect default single, found]

/-- The sample document in other letters and with other blanks. -/
def respelledDocument : Document where
  marked := false
  lines := [
    .heading "Sip".toList [],
    .setting "PORT".toList [] ':' [] "5060".toList {},
    .continuation [' '] "5061".toList {}]
  written := by decide
  connected := by decide
  begins := by decide

theorem respelledDocument_configures :
    Settings.read (.ofFile (some sampleDocument.text)) = Settings.read (.ofFile (some respelledDocument.text)) := by
  refine documents_configure_alike fun sect name => ?_
  have sample : sampleDocument.entries =
      [⟨"sip".toList, "port".toList, "5060".toList⟩, ⟨"sip".toList, "port".toList, "5061".toList⟩] := by decide
  have respelled : respelledDocument.entries =
      [⟨"Sip".toList, "PORT".toList, "5060".toList⟩, ⟨"Sip".toList, "PORT".toList, "5061".toList⟩] := by decide
  have sections : tolower "Sip".toList = tolower "sip".toList := by decide
  have names : tolower "PORT".toList = tolower "port".toList := by decide
  simp only [sample, respelled, List.filter_cons, List.filter_nil, Entry.concerns, sections, names]
  by_cases concerned : tolower "sip".toList = tolower sect ∧ tolower "port".toList = tolower name
  · simp only [concerned, and_self, decide_true, if_true, List.map_cons]
  · simp only [concerned, decide_false, Bool.false_eq_true, if_false]

/-! The numbers that are read. -/

theorem narrow_toNat (number : Int64) : (Tg2Sip.Settings.narrow number).toNat = (number.toInt % 2 ^ 32).toNat := by
  rw [Tg2Sip.Settings.narrow, UInt32.ofInt, UInt32.toNat_ofNat']
  have small : number.toInt % 2 ^ 32 < 2 ^ 32 := Int.emod_lt_of_pos _ (by decide)
  have positive : 0 ≤ number.toInt % 2 ^ 32 := Int.emod_nonneg _ (by decide)
  omega

theorem saturate_toInt (number : Int) : (Int64.ofInt (saturate number)).toInt = saturate number := by
  have bounds : -2 ^ 63 ≤ saturate number ∧ saturate number < 2 ^ 63 := by
    unfold saturate longMin longMax
    omega
  exact Int64.toInt_ofInt_of_le bounds.1 bounds.2

theorem getInteger_denotes {reader : INIReader} {sect name : Text} {sign : Sign} {number : Nat}
    (denotes : Denotes (reader.get sect name []) sign number) (default : Int64) :
    reader.getInteger sect name default = Int64.ofInt (saturate (sign.apply number)) := by
  rw [INIReader.getInteger, strtol_iff.mpr ⟨sign, number, denotes, rfl⟩]
  rfl

theorem getInteger_default {reader : INIReader} {sect name : Text}
    (none : ¬ ∃ sign number, Denotes (reader.get sect name []) sign number) (default : Int64) :
    reader.getInteger sect name default = default := by
  rw [INIReader.getInteger]
  cases read : strtol (reader.get sect name []) with
  | none => rfl
  | some value =>
    obtain ⟨sign, number, denotes, _⟩ := strtol_iff.mp read
    exact absurd ⟨sign, number, denotes⟩ none

/-- A number is not 0 for `static_cast<int>` unless it is a multiple of 2^32. -/
theorem toInt32_eq_zero (number : Int64) : number.toInt32 = 0 ↔ number.toInt % 2 ^ 32 = 0 := by
  have positive : 0 ≤ number.toInt % 2 ^ 32 := Int.emod_nonneg _ (by decide)
  have small : number.toInt % 2 ^ 32 < 2 ^ 32 := Int.emod_lt_of_pos _ (by decide)
  rw [← Int32.toInt_inj, Int64.toInt_toInt32, Int32.toInt_zero, Int.bmod_eq_emod]
  split <;> omega

/-- However many lines of it are errors, the settings of a file are loaded if and only if there is something for
`api_hash`, and `api_id` begins with a number that is not 0 when it is cut to 32 bits. -/
theorem settings_loaded_iff (file : Option Text) :
    (Settings.read (.ofFile file)).isLoaded = true ↔ ∃ text, file = some text ∧
    lookup (readEntries text) "telegram".toList "api_hash".toList [] ≠ [] ∧
      ∃ sign number, Denotes (lookup (readEntries text) "telegram".toList "api_id".toList []) sign number ∧
        saturate (sign.apply number) % 2 ^ 32 ≠ 0 := by
  cases file with
  | none => simp [Settings.read, INIReader.ofFile]
  | some text =>
    have hash := text_get text "telegram".toList [] (show '=' ∉ "api_hash".toList by decide)
    have id := text_get text "telegram".toList [] (show '=' ∉ "api_id".toList by decide)
    have loaded : (Settings.read (.ofFile (some text))).isLoaded = true ↔
        (INIReader.ofFile (some text)).get "telegram".toList "api_hash".toList [] ≠ [] ∧
          ((INIReader.ofFile (some text)).getInteger "telegram".toList "api_id".toList 0).toInt32 ≠ 0 := by
      rw [read_text]
      simp [Members.read, and_comm]
    rw [loaded]
    simp only [Option.some.injEq, exists_eq_left', ← hash, ← id]
    refine and_congr_right fun _ => ?_
    by_cases number : ∃ sign number,
      Denotes ((INIReader.ofFile (some text)).get "telegram".toList "api_id".toList []) sign number
    · obtain ⟨sign, number, denotes⟩ := number
      have read := getInteger_denotes denotes 0
      rw [Ne, toInt32_eq_zero, read, saturate_toInt]
      refine ⟨fun some => ⟨sign, number, denotes, some⟩, ?_⟩
      rintro ⟨other, also, again, some⟩
      have same : strtol _ = _ := strtol_iff.mpr ⟨sign, number, denotes, rfl⟩
      rw [strtol_iff.mpr ⟨other, also, again, rfl⟩, Option.some.injEq] at same
      rwa [← same]
    · rw [getInteger_default number]
      refine iff_of_false (by decide) fun some => ?_
      obtain ⟨sign, also, denotes, _⟩ := some
      exact number ⟨sign, also, denotes⟩

/-- The number of seconds that a setting stands for, or the default where it begins with no number. -/
structure Seconds (entries : List Entry) (name : Text) (default : Nat) (seconds : Nat) : Prop where
  written : ∀ sign number, Denotes (lookup entries "other".toList name []) sign number →
    seconds = (saturate (sign.apply number) % 2 ^ 32).toNat
  missing : (¬ ∃ sign number, Denotes (lookup entries "other".toList name []) sign number) → seconds = default

private theorem seconds_narrow (text : Text) {name : Text} (single : '=' ∉ name) (default : Int64)
    (small : 0 ≤ default.toInt ∧ default.toInt < 2 ^ 32) :
    Seconds (readEntries text) name default.toInt.toNat
      (Tg2Sip.Settings.narrow ((INIReader.ofFile (some text)).getInteger "other".toList name default)).toNat := by
  have found := text_get text "other".toList [] single
  constructor
  · intro sign number denotes
    rw [← found] at denotes
    rw [narrow_toNat, getInteger_denotes denotes, saturate_toInt]
  · intro missing
    rw [← found] at missing
    rw [narrow_toNat, getInteger_default missing, Int.emod_eq_of_lt small.1 small.2]

/-- Whatever file was read, the gateway waits as long as the file says, in any notation and modulo 2^32, or as
long as the defaults say. -/
theorem wait_times_are_read (text : Text) :
    let settings := (Members.read (.ofFile (some text))).gateway
    Seconds (readEntries text) "extra_wait_time".toList 30 settings.extraWaitTime.toNat ∧
      Seconds (readEntries text) "peer_flood_time".toList 86400 settings.peerFloodTime.toNat :=
  ⟨seconds_narrow text (by decide) 30 (by decide), seconds_narrow text (by decide) 86400 (by decide)⟩

/-! When the gateway is started. -/

/-- What is asked each time TDLib waits for its parameters: they are moved away the first time. -/
def requests (libParameters setProxy : Option Request) : Nat → List (Option Request)
  | 0 => []
  | times + 1 => [libParameters, setProxy] ++ List.replicate (2 * times) none

theorem requests_none (times : Nat) : requests none none times = List.replicate (2 * times) none := by
  cases times with
  | zero => rfl
  | succ times => rfl

/-- How often TDLib waits for its parameters. -/
def waits (updates : List Tg.Notice) : Nat := updates.count (.authorizationState .waitTdlibParameters)

theorem processUpdate_waits {receiver after : Tg.Receiver Request}
    (ran : receiver.processUpdate (.authorizationState .waitTdlibParameters) = .ok after) :
    after.queries = receiver.queries ++ [receiver.libParameters, receiver.setProxy] ∧ after.libParameters = none ∧
      after.setProxy = none := by
  cases ran
  exact ⟨rfl, rfl, rfl⟩

theorem processUpdate_quiet {receiver after : Tg.Receiver Request} {update : Tg.Notice}
    (other : update ≠ .authorizationState .waitTdlibParameters) (ran : receiver.processUpdate update = .ok after) :
    after.queries = receiver.queries ∧ after.libParameters = receiver.libParameters ∧
      after.setProxy = receiver.setProxy := by
  cases update with
  | authorizationState state =>
    cases state with
    | waitTdlibParameters => exact absurd rfl other
    | _ =>
      obtain ⟨promise, _, same⟩ := bind_ok_iff.mp ran
      cases same
      exact ⟨rfl, rfl, rfl⟩
  | _ => cases ran; exact ⟨rfl, rfl, rfl⟩

theorem processUpdates_asks {receiver after : Tg.Receiver Request} {updates : List Tg.Notice}
    (ran : receiver.processUpdates updates = .ok after) :
    after.queries = receiver.queries ++ requests receiver.libParameters receiver.setProxy (waits updates) := by
  induction updates generalizing receiver with
  | nil => cases ran; simp [waits, requests]
  | cons update updates ih =>
    obtain ⟨middle, first, rest⟩ := foldlM_cons_ok.mp ran
    rw [ih rest]
    by_cases parameters : update = .authorizationState .waitTdlibParameters
    · subst parameters
      obtain ⟨queries, moved, also⟩ := processUpdate_waits first
      have more : waits (.authorizationState .waitTdlibParameters :: updates) = waits updates + 1 :=
        List.count_cons_self
      rw [queries, moved, also, more, requests_none, requests, List.append_assoc]
    · obtain ⟨queries, kept, also⟩ := processUpdate_quiet parameters first
      have same : waits (update :: updates) = waits updates := List.count_cons_of_ne parameters
      rw [queries, kept, also, same]

/-- The log file opens, and no call of pjsua2 throws. -/
def Host.Serves (host : Host) (members : Members) : Prop :=
  host.logs (logFilePath members.logFolder "tg2sip.log".toList) = true ∧
    ∀ call ∈ initPjEndpoint members host.codecs ++ [.create members.idUri], host.pjsua call = .ok ()

/-- SIP is up with the settings of the file that the arguments select. -/
theorem setUp_iff {host : Host} {arguments : List Text} {members : Members} :
    setUp host arguments = .ok (some members) ↔
    ∃ path text, resolveConfigPath arguments host.present = .ok path ∧ host.files path = some text ∧
      members = Members.read (.ofFile (some text)) ∧ (members.apiId ≠ 0 ∧ members.apiHash ≠ []) ∧
        host.Serves members := by
  rw [setUp, bind_ok_iff]
  refine exists_congr fun path => ?_
  rw [exists_and_left]
  refine and_congr_right fun _ => ?_
  cases host.files path with
  | none => simp [Settings.read, INIReader.ofFile, pure, Except.pure]
  | some text =>
    simp only [Option.some.injEq, exists_eq_left', read_text]
    generalize Members.read (.ofFile (some text)) = found
    by_cases complete : found.apiId ≠ 0 ∧ found.apiHash ≠ []
    · have loaded : (!(found.apiId == 0 || found.apiHash.isEmpty)) = true := by simp [complete]
      have log : initLogging found host.logs = .ok () ↔
          host.logs (logFilePath found.logFolder "tg2sip.log".toList) = true := by
        unfold initLogging
        split <;> simp_all [pure, Except.pure, throw, throwThe, MonadExceptOf.throw]
      simp only [loaded, bind_unit_iff, log, forM_ok_iff, Host.Serves, List.forall_mem_append,
        List.forall_mem_singleton]
      constructor
      · rintro ⟨opened, called, created, same⟩
        cases same
        exact ⟨rfl, complete, opened, called, created⟩
      · rintro ⟨rfl, _, opened, called, created⟩
        exact ⟨opened, called, created, rfl⟩
    · have unloaded : (!(found.apiId == 0 || found.apiHash.isEmpty)) = false := by
        simpa [Classical.not_and_iff_not_or_not] using complete
      simp only [unloaded]
      refine iff_of_false (fun same => by cases same) ?_
      rintro ⟨rfl, loaded, _⟩
      exact complete loaded

/-- `tg::Client` signs on in time and stays signed on until `main` goes on. -/
theorem signed_on_iff {libParameters setProxy : Request} {early later : List Tg.Notice}
    {asked : List (Option Request)} :
    (∃ waited receiver, (Tg.Receiver.initial libParameters setProxy).processUpdates early = .ok waited ∧
      waited.processUpdates later = .ok receiver ∧ waited.isReady.value = some true ∧ asked = receiver.queries) ↔
    early.filterMap Tg.Notice.decision = [true] ∧ later.filterMap Tg.Notice.decision = [] ∧
      asked = requests libParameters setProxy (waits (early ++ later)) := by
  have unset : (Tg.Receiver.initial libParameters setProxy).isReady.value = none := rfl
  have all : ∀ {waited receiver : Tg.Receiver Request},
    (Tg.Receiver.initial libParameters setProxy).processUpdates early = .ok waited →
      waited.processUpdates later = .ok receiver → receiver.queries =
          requests libParameters setProxy (waits (early ++ later)) := by
    intro waited receiver ran goes
    have whole : (Tg.Receiver.initial libParameters setProxy).processUpdates (early ++ later) = .ok receiver := by
      rw [Tg.Receiver.processUpdates, List.foldlM_append]
      exact bind_ok_iff.mpr ⟨waited, ran, goes⟩
    exact processUpdates_asks whole
  constructor
  · rintro ⟨waited, receiver, ran, goes, ready, rfl⟩
    have first := Tg.processUpdate_decides.value_after ran
    have once := (Tg.processUpdate_decides.returns_iff unset early).mp ⟨waited, ran⟩
    refine ⟨?_, (Tg.processUpdate_decides.run_set ready later).mp ⟨receiver, goes⟩, all ran goes⟩
    rw [ready, unset] at first
    cases made : early.filterMap Tg.Notice.decision with
    | nil => rw [made] at first; cases first
    | cons value others =>
      rw [made] at first once
      cases first
      rw [List.eq_nil_of_length_eq_zero (Nat.le_zero.mp (Nat.le_of_succ_le_succ once))]
  · rintro ⟨made, none, rfl⟩
    obtain ⟨waited, ran⟩ := (Tg.processUpdate_decides.returns_iff unset early).mpr (by rw [made]; exact Nat.le_refl 1)
    have ready := Tg.processUpdate_decides.value_after ran
    rw [unset, made] at ready
    obtain ⟨receiver, goes⟩ := (Tg.processUpdate_decides.run_set ready later).mpr none
    exact ⟨waited, receiver, ran, goes, ready, (all ran goes).symm⟩

/-- The gateway is started if and only if the file of the command line opens and has both settings that have no
default, the log file opens, pjsua2 throws nothing, and the one state that decides says in time that the client
is signed on. It is started with the settings of the file, and TDLib was asked for nothing but what they say. -/
theorem start_gateway_iff (host : Host) (arguments : List Text) (early later : List Tg.Notice)
    (settings : Tg2Sip.Settings) (asked : List (Option Request)) :
    start host arguments early later = .gateway settings asked ↔
      ∃ path text, resolveConfigPath arguments host.present = .ok path ∧ host.files path = some text ∧
        let members := Members.read (.ofFile (some text))
        (members.apiId ≠ 0 ∧ members.apiHash ≠ []) ∧ host.Serves members ∧
          early.filterMap Tg.Notice.decision = [true] ∧ later.filterMap Tg.Notice.decision = [] ∧
            settings = members.gateway ∧
                asked = requests (initLibParameters members) (initProxy members) (waits (early ++ later)) := by
  have goes : start host arguments early later = .gateway settings asked ↔
    ∃ members, setUp host arguments = .ok (some members) ∧
      settings = members.gateway ∧ ∃ waited receiver,
        (Tg.Receiver.initial (initLibParameters members) (initProxy members)).processUpdates early = .ok waited ∧
          waited.processUpdates later = .ok receiver ∧ waited.isReady.value = some true ∧ asked = receiver.queries := by
    rw [start]
    cases setUp host arguments with
    | error => simp
    | ok found =>
      cases found with
      | none => simp
      | some members =>
        simp only [Except.ok.injEq, Option.some.injEq, exists_eq_left']
        cases ran : (Tg.Receiver.initial (initLibParameters members) (initProxy members)).processUpdates early with
        | error => simp
        | ok waited =>
          simp only [Except.ok.injEq, exists_and_left, exists_eq_left']
          cases waited.processUpdates later with
          | error => simp
          | ok receiver =>
            by_cases ready : waited.isReady.value = some true
            · simp [ready, eq_comm]
            · simp [ready]
  rw [goes]
  constructor
  · rintro ⟨members, up, rfl, signed⟩
    obtain ⟨path, text, found, opened, rfl, complete, serves⟩ := setUp_iff.mp up
    obtain ⟨made, none, same⟩ := signed_on_iff.mp signed
    exact ⟨path, text, found, opened, complete, serves, made, none, rfl, same⟩
  · rintro ⟨path, text, found, opened, complete, serves, made, none, rfl, same⟩
    exact ⟨_, setUp_iff.mpr ⟨path, text, found, opened, rfl, complete, serves⟩, rfl,
      signed_on_iff.mpr ⟨made, none, same⟩⟩

/-- A host with one file, on which nothing fails. -/
def sampleHost : Host where
  present := fun _ => .ok false
  files := fun path => if path = "tg2sip.conf".toList then some "[telegram]\napi_id=0X1F\napi_hash=a".toList else none
  logs := fun _ => true
  codecs := ["opus/48000/2".toList]
  pjsua := fun _ => .ok ()

example : (match start sampleHost [] [.authorizationState .waitTdlibParameters, .authorizationState .ready] [] with
    | .gateway settings asked => decide (settings.extraWaitTime = 30 ∧ asked.length = 2)
    | _ => false) = true := by decide +kernel

-- The session is ended before `main` goes on.
example : start sampleHost [] [.authorizationState .ready] [.authorizationState .loggingOut] = .terminated := rfl

end Tg2Sip.Configuration
