import Tg2Sip.Actions
import Tg2Sip.Lib.Lines

/-! The headers of an INVITE on the wire. Their values are taken as they are, and those of a profile come from
somebody else. -/

namespace Tg2Sip.Sip
open Lib

def headerFormat : LineFormat Char where
  cr := '\r'
  lf := '\n'
  colon := ':'
  blank := ' '
  ends := by decide
  inside := by decide

/-- How pjsip writes generic headers. -/
def writeHeaders (headers : List Header) : List Char :=
  headers.flatMap fun header => (header.name ++ ": " ++ header.value ++ "\r\n").toList

def readHeaders (text : List Char) : Option (List Header) :=
  (headerFormat.read text).map fun headers => headers.map fun header => ⟨String.ofList header.1, String.ofList header.2⟩

/-- A header by its symbols. -/
def Header.symbols (header : Header) : List Char × List Char := (header.name.toList, header.value.toList)

theorem writeHeaders_eq (headers : List Header) :
    writeHeaders headers = headerFormat.write (headers.map Header.symbols) := by
  induction headers with
  | nil => rfl
  | cons header headers ih =>
    rw [List.map_cons, LineFormat.write, List.flatMap_cons, ← LineFormat.write, ← ih, writeHeaders, List.flatMap_cons,
      ← writeHeaders]
    simp [LineFormat.line, headerFormat, Header.symbols]

/-- A name that pjsip and its reader take for one. -/
def Header.Named (header : Header) : Prop := '\r' ∉ header.name.toList ∧ ':' ∉ header.name.toList

theorem readHeaders_write_iff {headers : List Header} (named : ∀ header ∈ headers, header.Named) :
    readHeaders (writeHeaders headers) = some headers ↔
      ∀ header ∈ headers, ¬ headerFormat.Breaks header.value.toList := by
  have clean : ∀ part ∈ headers.map Header.symbols, headerFormat.cr ∉ part.1 ∧ headerFormat.colon ∉ part.1 := by
    intro part member
    obtain ⟨header, held, rfl⟩ := List.mem_map.mp member
    exact named header held
  have whole := headerFormat.read_write_iff clean
  rw [List.forall_mem_map] at whole
  rw [writeHeaders_eq]
  refine Iff.trans ?_ whole
  unfold readHeaders
  constructor
  · intro back
    obtain ⟨parts, found, same⟩ := Option.map_eq_some_iff.mp back
    rw [found, ← same, List.map_map]
    simp [Function.comp_def, Header.symbols]
  · intro back
    rw [back, Option.map_some, List.map_map]
    simp [Function.comp_def, Header.symbols]

end Tg2Sip.Sip

namespace Tg2Sip.Actions
open TdApi Lib Sip

/-- What the caller may choose. -/
def profile (user : User) :
    List String := [user.firstName, user.lastName, user.editableUsername.getD "", user.phoneNumber]

theorem repr_unbroken (number : Nat) : '\r' ∉ number.repr.toList := by
  rw [Nat.toList_repr]
  intro member
  have digit := Nat.isDigit_of_mem_toDigits (by decide) (by decide) member
  cases digit

theorem int_unbroken (number : Int) : '\r' ∉ (toString number).toList := by
  rw [Int.toString_eq_repr, Int.repr_eq_if]
  split
  next => exact repr_unbroken _
  next =>
    rw [String.toList_append]
    intro member
    rcases List.mem_append.mp member with sign | digits
    · simp at sign
    · exact repr_unbroken _ digits

/-- A header that is left out breaks nothing. -/
theorem optionalHeader_unbroken (name value : String) :
    (∀ header ∈ optionalHeader name value, ¬ headerFormat.Breaks header.value.toList) ↔
      ¬ headerFormat.Breaks value.toList := by
  unfold optionalHeader
  split
  next empty =>
    refine iff_of_true (by simp) fun broken => ?_
    have member := broken.mem
    simp [empty] at member
  next => simp

theorem dialHeaders_named (env : Env) (ctx : CtxId) (userId : UserId) (user : User) :
    ∀ header ∈ dialHeaders env ctx userId user, header.Named := by
  have optional : ∀ name value, '\r' ∉ name.toList ∧ ':' ∉ name.toList →
      ∀ header ∈ optionalHeader name value, header.Named := by
    intro name value clean header member
    unfold optionalHeader at member
    split at member
    next => cases member
    next => cases List.mem_singleton.mp member; exact clean
  intro header member
  simp only [dialHeaders, List.mem_append, List.mem_cons, List.not_mem_nil, or_false] at member
  rcases member with ((((rfl | rfl) | member) | member) | member) | member
  · exact (by decide : '\r' ∉ "X-GW-Context".toList ∧ ':' ∉ "X-GW-Context".toList)
  · exact (by decide : '\r' ∉ "X-TG-ID".toList ∧ ':' ∉ "X-TG-ID".toList)
  · exact optional _ _ (by decide) _ member
  · exact optional _ _ (by decide) _ member
  · exact optional _ _ (by decide) _ member
  · exact optional _ _ (by decide) _ member

/-- An INVITE. -/
def isDial : Obs → Bool
  | .sip _ _ (.dial ..) _ => true
  | _ => false

/-- `DialSip` sends one INVITE, with these headers and no others. -/
theorem dialSip_sends {settings : Settings} {env : Env} {call : TdApi.Call} {deps final : Deps}
    (ran : dialSip settings env call deps = .ok final) : ∃ user succeeded, env.getUser = .ok user ∧
      final.seen.filter isDial = deps.seen.filter isDial ++ [.sip deps.ctx.id .dialSip
        (.dial settings.callbackUri { headers := dialHeaders env deps.ctx.id call.userId user }) succeeded] := by
  have silent : ∀ callbacks : List Callback, (callbacks.map Obs.callback).filter isDial = [] := by
    intro callbacks
    simp [isDial]
  unfold dialSip at ran
  split at ran
  next => cases ran
  next user found =>
    cases ran
    refine ⟨user, (deps.sip.dial env.makeCall).2.toBool, found, ?_⟩
    generalize same : (deps.query .dialSip (.getUser call.userId) true).sip.dial env.makeCall = made
    have here : deps.sip.dial env.makeCall = made := same
    obtain ⟨client, result⟩ := made
    rw [dialCallback, same, here]
    cases result with
    | ok id =>
      simp only [Deps.query, Deps.request, Deps.observe, List.filter_append, silent, List.append_assoc]
      rfl
    | error thrown =>
      cases thrown <;> simp [Deps.query, Deps.request, Deps.observe, Deps.internalError, List.filter_append,
        silent, isDial]

/-- The headers that the PBX sees are those that the gateway set, if and only if nothing in the profile ends a line. -/
theorem headers_survive_iff (env : Env) (ctx : CtxId) (userId : UserId) (user : User) :
    readHeaders (writeHeaders (dialHeaders env ctx userId user)) = some (dialHeaders env ctx userId user) ↔
      ∀ field ∈ profile user, ¬ headerFormat.Breaks field.toList := by
  rw [readHeaders_write_iff (dialHeaders_named env ctx userId user)]
  have context : ¬ headerFormat.Breaks (toString env.pid ++ "-" ++ toString ctx).toList := by
    intro broken
    have member := broken.mem
    simp only [String.toList_append, List.mem_append] at member
    rcases member with (pid | dash) | number
    · exact repr_unbroken env.pid pid
    · exact absurd dash (by decide)
    · exact repr_unbroken ctx number
  have number : ¬ headerFormat.Breaks (toString userId).toList := fun broken => int_unbroken userId broken.mem
  have ours :
      ∀ header ∈ [⟨"X-GW-Context", toString env.pid ++ "-" ++ toString ctx⟩, (⟨"X-TG-ID", toString userId⟩ : Header)],
      ¬ headerFormat.Breaks header.value.toList := by
    simp only [List.forall_mem_cons]
    exact ⟨context, number, List.forall_mem_nil _⟩
  simp only [dialHeaders, profile, List.forall_mem_append, optionalHeader_unbroken]
  constructor
  · intro ⟨⟨⟨⟨_, first⟩, last⟩, username⟩, phone⟩
    simp [first, last, username, phone]
  · intro whole
    simp only [List.forall_mem_cons] at whole
    obtain ⟨first, last, username, phone, _⟩ := whole
    exact ⟨⟨⟨⟨ours, first⟩, last⟩, username⟩, phone⟩

/-- A first name that carries a second id. -/
theorem profile_forges_header : ¬ ∀ (env : Env) (ctx : CtxId) (userId : UserId) (user : User),
    readHeaders (writeHeaders (dialHeaders env ctx userId user)) = some (dialHeaders env ctx userId user) := by
  intro always
  have seen := always (Env.success 42 7 0) 1 42 { id := 42, firstName := "A\r\nX-TG-ID: 1" }
  have forged :
      readHeaders (writeHeaders (dialHeaders (Env.success 42 7 0) 1 42 { id := 42, firstName := "A\r\nX-TG-ID: 1" })) =
      some [⟨"X-GW-Context", "1-1"⟩, ⟨"X-TG-ID", "42"⟩, ⟨"X-TG-FirstName", "A"⟩, ⟨"X-TG-ID", "1"⟩] := by decide +kernel
  rw [forged] at seen
  exact absurd seen (by decide +kernel)

end Tg2Sip.Actions
