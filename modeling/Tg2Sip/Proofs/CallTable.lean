import Tg2Sip.Proofs.SipTraffic

/-! The table of `sip::Client` as a function of what was seen: a call that is given an id is
emplaced, a successful hang-up erases. Nothing else changes the table, and in particular
not the end of a call that was hung up by the other side. -/

namespace Tg2Sip
open Lib Sip

namespace CallTable

def follow (calls : Map CallId CallRef) : Obs → Map CallId CallRef
  | .given _ id call => calls.emplace id call
  | .sip _ _ (.hangup id _) true => calls.erase id
  | _ => calls

/-- Whether the last call that was given an id has not been hung up since. -/
def occupies (id : CallId) (taken : Bool) : Obs → Bool
  | .given _ other _ => if other = id then true else taken
  | .sip _ _ (.hangup other _) true => if other = id then false else taken
  | _ => taken

def occupied (id : CallId) (past : List Obs) : Bool := past.foldl (occupies id) false

theorem follow_occupies (calls : Map CallId CallRef) (obs : Obs) (id : CallId) :
    (follow calls obs id).isSome = occupies id (calls id).isSome obs := by
  unfold follow occupies
  split
  next other call =>
    by_cases same : other = id
    · rw [if_pos same, same, Map.emplace_same]; rfl
    · rw [if_neg same, Map.emplace_other _ _ (Ne.symm same)]
  next other prm =>
    by_cases same : other = id
    · rw [if_pos same, same, Map.erase_same]; rfl
    · rw [if_neg same, Map.erase_other _ (Ne.symm same)]
  next => rfl

theorem foldl_occupied (calls : Map CallId CallRef) (past : List Obs) (id : CallId) :
    (past.foldl follow calls id).isSome = past.foldl (occupies id) (calls id).isSome := by
  induction past generalizing calls with
  | nil => rfl
  | cons obs past ih => rw [List.foldl_cons, List.foldl_cons, ih, follow_occupies]

private theorem follow_callbacks (calls : Map CallId CallRef) (callbacks : List Callback) :
    (callbacks.map Obs.callback).foldl follow calls = calls := by
  induction callbacks with
  | nil => rfl
  | cons callback callbacks ih => exact ih

theorem onCallbacks_calls (client : Client) (dialing : Option CallRef) (callbacks : List Callback) :
    (client.onCallbacks dialing callbacks).calls = client.calls ∧
      (client.onCallbacks dialing callbacks).created = client.created := by
  induction callbacks generalizing client with
  | nil => exact ⟨rfl, rfl⟩
  | cons callback callbacks ih =>
    have first : (client.onCallback dialing callback).calls = client.calls ∧
        (client.onCallback dialing callback).created = client.created := by
      unfold Client.onCallback
      split <;> exact ⟨rfl, rfl⟩
    obtain ⟨calls, created⟩ := ih (client.onCallback dialing callback)
    exact ⟨calls.trans first.1, created.trans first.2⟩

theorem touch_follows {before after : Deps} {seen : List Obs} (touch : Deps.Touch before seen after) :
    after.sip.calls = seen.foldl follow before.sip.calls := by
  cases touch with
  | context | failed | registered | unregistered | blocked | cached => rfl
  | emitted blob => simp only [Deps.emit, World.emit]; split <;> rfl
  | shown obs own plain =>
    cases obs with
    | given => cases plain
    | sip ctx name request succeeded => cases request <;> first | rfl | cases plain
    | _ => rfl
  | dialed callbacks id =>
    simp only [List.foldl_cons, follow_callbacks, Client.dial, onCallbacks_calls]
    rfl
  | undialed callbacks reason uri prm =>
    simp only [List.foldl_append, List.foldl_cons, List.foldl_nil, follow_callbacks, Client.dial, onCallbacks_calls]
    rfl
  | hungUp id call held prm hangup =>
    simp only [List.foldl_cons, follow_callbacks, Client.hangup, held]
    cases result : hangup.result with
    | error reason => simp [onCallbacks_calls, Except.toBool, follow]
    | ok value => simp [onCallbacks_calls, Except.toBool, follow]
  | notHungUp id absent prm =>
    simp only [List.foldl_cons, List.foldl_nil, follow, Map.erase, Deps.observe]
    exact (Function.update_eq_self_iff.mpr absent.symm).symm

/-- In every step, of whatever thread. -/
theorem follows : ClientRule fun before seen after => after.calls = seen.foldl follow before.calls where
  aside := by
    intro client seen aside
    induction seen with
    | nil => rfl
    | cons obs seen ih =>
      have same : follow client.calls obs = client.calls := by
        have aside := aside obs (by simp)
        cases obs <;> first | rfl | cases aside
      rw [List.foldl_cons, same]
      exact ih fun other member => aside other (by simp [member])
  trans := by
    intro before middle after seen later first rest
    rw [List.foldl_append, ← first, rest]
  popped := fun _ => rfl
  incoming := rfl
  heard := (onCallbacks_calls _ none [_]).1
  touch := touch_follows

/-- Call objects are constructed in order, so those that a step gives an id are new. -/
structure Fresh (before : Client) (seen : List Obs) (after : Client) : Prop where
  grows : before.created ≤ after.created
  given : ∀ ctx id call, .given ctx id call ∈ seen → before.created ≤ call ∧ call < after.created

theorem Fresh.refl (client : Client) : Fresh client [] client := ⟨Nat.le_refl _, by simp⟩

theorem Fresh.trans {before middle after : Client} {seen later : List Obs} (first : Fresh before seen middle)
    (rest : Fresh middle later after) : Fresh before (seen ++ later) after := by
  refine ⟨Nat.le_trans first.grows rest.grows, ?_⟩
  intro ctx id call member
  rcases List.mem_append.mp member with member | member
  · obtain ⟨lower, upper⟩ := first.given ctx id call member
    exact ⟨lower, Nat.lt_of_lt_of_le upper rest.grows⟩
  · obtain ⟨lower, upper⟩ := rest.given ctx id call member
    exact ⟨Nat.le_trans first.grows lower, upper⟩

/-- Where no id is given, the counter is all that matters. -/
theorem Fresh.ungiven {before after : Client} {seen : List Obs} (grows : before.created ≤ after.created)
    (none : ∀ ctx id call, .given ctx id call ∉ seen) : Fresh before seen after :=
  ⟨grows, fun ctx id call member => absurd member (none ctx id call)⟩

private theorem given_callbacks {ctx : Option CtxId} {id : CallId} {call : CallRef} {callbacks : List Callback} :
    .given ctx id call ∉ callbacks.map Obs.callback := by
  simp

theorem touch_fresh {before after : Deps} {seen : List Obs} (touch : Deps.Touch before seen after) :
    Fresh before.sip seen after.sip := by
  cases touch with
  | context | failed | blocked | cached => exact .refl _
  | registered | unregistered => exact .ungiven (Nat.le_refl _) (by simp)
  | emitted blob =>
    refine .ungiven ?_ (by simp)
    simp only [Deps.emit, World.emit]
    split <;> exact Nat.le_refl _
  | shown obs own plain =>
    refine .ungiven (Nat.le_refl _) ?_
    intro ctx id call member
    rw [← List.mem_singleton.mp member] at plain
    cases plain
  | dialed callbacks id =>
    have counted : (before.sip.dial ⟨callbacks, .ok id⟩).1.created = before.sip.created + 1 := by
      simp only [Client.dial, onCallbacks_calls]
    refine ⟨by simp only [counted]; exact Nat.le_succ _, ?_⟩
    intro ctx other call member
    rcases List.mem_cons.mp member with same | member
    · cases same
      exact ⟨Nat.le_refl _, by simp only [counted]; exact Nat.lt_succ_self _⟩
    · exact absurd member given_callbacks
  | undialed callbacks reason uri prm =>
    refine .ungiven ?_ (by simp)
    simp only [Client.dial, onCallbacks_calls]
    exact Nat.le_succ _
  | hungUp id call held prm hangup =>
    refine .ungiven ?_ ?_
    · simp only [Client.hangup, held]
      split <;> simp only [onCallbacks_calls] <;> exact Nat.le_refl _
    · intro ctx other called member
      rcases List.mem_cons.mp member with same | member
      · cases same
      · exact given_callbacks member
  | notHungUp id absent prm => exact .ungiven (Nat.le_refl _) (by simp)

theorem fresh : ClientRule Fresh where
  aside := by
    intro client seen aside
    refine .ungiven (Nat.le_refl _) fun ctx id call member => ?_
    cases aside _ member
  trans := Fresh.trans
  popped := fun _ => .ungiven (Nat.le_refl _) (by simp)
  incoming := by
    intro client id ext
    refine ⟨Nat.le_succ _, fun ctx other call member => ?_⟩
    cases List.mem_singleton.mp member
    exact ⟨Nat.le_refl _, Nat.lt_succ_self _⟩
  heard := .ungiven (Nat.le_of_eq (onCallbacks_calls _ none [_]).2.symm) (by simp)
  touch := touch_fresh

private theorem foldl_deeds (calls : Map CallId CallRef) {seen : List Obs}
    (given : ∀ id call, .given none id call ∉ seen) :
    seen.foldl follow calls = (seen.filter Obs.deed).foldl follow calls := by
  refine foldl_noticed (fun obs member idle calls => ?_) calls
  cases obs with
  | given ctx id call =>
    cases ctx with
    | none => exact absurd member (given id call)
    | some ctx => cases idle
  | sip => cases idle
  | _ => rfl

variable {settings : Settings} {label : Label} {before after : System} {seen : List Obs}
  {ctx : Option CtxId} {id : CallId} {call : CallRef}

/-- The step in which a call is given its id does nothing else to the table. -/
theorem step_emplaces (step : System.Step settings label before seen after) (given : .given ctx id call ∈ seen) :
    after.gateway.sip.calls = before.gateway.sip.calls.emplace id call := by
  have followed := follows.step step
  rcases step.given given with ⟨ext, _, _, _, rfl⟩ | ⟨env, event, caller, middle, _, popped, handled, deed⟩
  · exact followed
  · rw [followed, foldl_deeds _ handled.given]
    generalize after.gateway = final at handled
    cases handled with
    | passed unrouted quiet => cases quiet _ (List.mem_of_mem_filter deed)
    | offered routed handles bridges counted queued touched =>
      obtain ⟨called, prm, _, _, _, _, _, _, deeds⟩ := handles.dialed deed
      rw [deeds]
      rfl

/-- An entry stays until its call is hung up. -/
theorem follow_stays {calls : Map CallId CallRef} (held : calls id = some call) {obs : Obs}
    (kept : ∀ ctx name prm, obs ≠ .sip ctx name (.hangup id prm) true) : follow calls obs id = some call := by
  unfold follow
  split
  next ctx other made =>
    by_cases same : id = other
    · rw [← same, Map.emplace_same, held]; rfl
    · rw [Map.emplace_other _ _ same, held]
  next ctx name other prm =>
    by_cases same : id = other
    · exact absurd (by rw [same]) (kept ctx name prm)
    · rw [Map.erase_other _ same, held]
  next => exact held

/-- An entry is new only if its call is given the id. -/
theorem follow_given {calls : Map CallId CallRef} {obs : Obs} (held : follow calls obs id = some call) :
    calls id = some call ∨ ∃ ctx, obs = .given ctx id call := by
  cases obs with
  | given ctx other made =>
    by_cases same : id = other
    · subst same
      rw [follow, Map.emplace_same] at held
      cases entry : calls id with
      | none => rw [entry] at held; cases held; exact .inr ⟨ctx, rfl⟩
      | some old => rw [entry] at held; exact .inl held
    · rw [follow, Map.emplace_other _ _ same] at held; exact .inl held
  | sip ctx name request succeeded =>
    rcases request with _ | _ | ⟨other, prm⟩ | _ | _ <;> cases succeeded
    case hangup.true =>
      by_cases same : id = other
      · rw [follow, same, Map.erase_same] at held; cases held
      · rw [follow, Map.erase_other _ same] at held; exact .inl held
    all_goals exact .inl held
  | _ => exact .inl held

theorem foldl_stays {calls : Map CallId CallRef} (held : calls id = some call) {past : List Obs}
    (kept : ∀ ctx name prm, .sip ctx name (.hangup id prm) true ∉ past) : past.foldl follow calls id = some call := by
  induction past generalizing calls with
  | nil => exact held
  | cons obs past ih =>
    refine ih (follow_stays held fun ctx name prm same => kept ctx name prm (by simp [same])) ?_
    exact fun ctx name prm member => kept ctx name prm (by simp [member])

theorem foldl_given {calls : Map CallId CallRef} {past : List Obs} (held : past.foldl follow calls id = some call) :
    calls id = some call ∨ ∃ ctx, .given ctx id call ∈ past := by
  induction past generalizing calls with
  | nil => exact .inl held
  | cons obs past ih =>
    rcases ih held with held | ⟨ctx, member⟩
    · rcases follow_given held with held | ⟨ctx, rfl⟩
      · exact .inl held
      · exact .inr ⟨ctx, by simp⟩
    · exact .inr ⟨ctx, by simp [member]⟩

variable {cache : Cache} {maxCalls : Nat} {allowed : Label → System → List Obs → Prop} {past : List Obs}

theorem run_follows (run : System.Reaches settings allowed (System.initial cache maxCalls) past before) :
    before.gateway.sip.calls = past.foldl follow Map.empty :=
  run.view (fun system => system.gateway.sip.calls) follow fun _ _ _ moved => by
    obtain ⟨label, _, step⟩ := moved
    exact follows.step step

theorem run_fresh {start : System} (run : System.Reaches settings allowed start past before) :
    Fresh start.gateway.sip past before.gateway.sip := by
  refine run.invariant (fun past system => Fresh start.gateway.sip past system.gateway.sip) (.refl _) ?_
  rintro past before seen after known ⟨label, _, step⟩
  exact known.trans (fresh.step step)

/-- From a state on, a call is the entry of its id, until a hang-up of the id succeeds. Every
method of the client that takes the id then acts on this call. -/
def Holds (settings : Settings) (system : System) (id : CallId) (call : CallRef) : Prop :=
  ∀ later final, System.Reaches settings System.Anything system later final →
    (∀ ctx name prm, .sip ctx name (.hangup id prm) true ∉ later) → final.gateway.sip.calls id = some call

end CallTable

open CallTable

/-- A call that is given an id becomes the entry of the id exactly when the last call that was
given the id has been hung up by the gateway. -/
theorem new_call_held_iff {settings : Settings} {cache : Cache} {maxCalls : Nat} {past seen : List Obs}
    {before after : System} {label : Label} {ctx : Option CtxId} {id : CallId} {call : CallRef}
    (reached : System.Reaches settings System.Anything (System.initial cache maxCalls) past before)
    (step : System.Step settings label before seen after) (given : .given ctx id call ∈ seen) :
    Holds settings after id call ↔ occupied id past = false := by
  have entries := run_follows reached
  have emplaced := step_emplaces step given
  have free : occupied id past = (before.gateway.sip.calls id).isSome := by
    rw [entries, foldl_occupied]; rfl
  constructor
  · intro holds
    have new : after.gateway.sip.calls id = some call := holds [] after .refl (by simp)
    rw [emplaced, Map.emplace_same] at new
    cases entry : before.gateway.sip.calls id with
    | none => rw [free, entry]; rfl
    | some old =>
      rw [entry] at new
      have same : old = call := Option.some.inj new
      rcases foldl_given (entries ▸ entry) with absent | ⟨author, earlier⟩
      · cases absent
      · have lower := ((fresh.step step).given ctx id call given).1
        have upper := ((run_fresh reached).given author id old earlier).2
        rw [same] at upper
        exact absurd (Nat.lt_of_lt_of_le upper lower) (Nat.lt_irrefl _)
  · intro unoccupied later final run kept
    have held : after.gateway.sip.calls id = some call := by
      rw [emplaced, Map.emplace_same]
      cases entry : before.gateway.sip.calls id with
      | none => rfl
      | some old => rw [free, entry] at unoccupied; cases unoccupied
    have followed := run.view (fun system => system.gateway.sip.calls) follow fun _ _ _ moved => by
      obtain ⟨label, _, step⟩ := moved
      exact follows.step step
    rw [followed]
    exact foldl_stays held kept

/-- The caller dials an extension that is none, and the gateway hangs up. -/
def gatewayHangup : List Label :=
  let env := { Env.success 42 7 0 with hangup := { callbacks := [⟨0, 0, .state .disconnected⟩], result := .ok () } }
  [.incoming 0 "nobody", .loop env, .loop env, .loop env, .loop env]

/-- The id of a call that the gateway has hung up is given again. -/
theorem next_call_held : ∃ past before after,
    System.Reaches { callbackUri := "" } System.Anything (System.initial {} 1) past before ∧ .given none 0 0 ∈ past ∧
      System.Step { callbackUri := "" } (.incoming 0 "100") before [.given none 0 1] after ∧
          Holds { callbackUri := "" } after 0 1 := by
  have ran : (execute (System.step { callbackUri := "" }) (fun _ _ _ => true) gatewayHangup (System.initial {} 1)).any
      (fun result => (result.1.step { callbackUri := "" } (.incoming 0 "100")).any fun next =>
        decide (.given none 0 0 ∈ result.2 ∧ occupied 0 result.2 = false ∧ next.2 = [.given none 0 1])) = true := by
          decide
  obtain ⟨before, past, reached, given⟩ := execute_any ran
  obtain ⟨⟨after, seen⟩, step, given⟩ := (Option.any_eq_true _ _).mp given
  obtain ⟨earlier, free, rfl⟩ := of_decide_eq_true given
  exact ⟨past, before, after, reached, earlier, step,
    (new_call_held_iff reached step (List.mem_singleton_self _)).mpr free⟩

/-- A call is answered and ended by the other side, and pjsua gives its id to the next call. -/
def remoteHangup : List Label :=
  let env := Env.success 42 7 0
  [.incoming 0 "100", .loop env, .loop env, .loop env, .callback ⟨0, 0, .state .disconnected⟩, .loop env, .loop env,
    .loop env]

theorem ended_call_stays : ¬ ∀ (settings : Settings) (cache : Cache) (maxCalls : Nat) (past seen : List Obs)
    (before after : System) (label : Label) (ctx : Option CtxId) (id : CallId) (call : CallRef),
    System.Reaches settings System.Anything (System.initial cache maxCalls) past before →
      System.Step settings label before seen after → .given ctx id call ∈ seen → Holds settings after id call := by
  intro always
  have ran : (execute (System.step { callbackUri := "" }) (fun _ _ _ => true) remoteHangup (System.initial {} 1)).any
      (fun result => (result.1.step { callbackUri := "" } (.incoming 0 "200")).any fun next =>
        decide (next.1.gateway.sip.calls 0 = some 0 ∧ .given none 0 1 ∈ next.2)) = true := by decide
  obtain ⟨before, past, reached, stale⟩ := execute_any ran
  obtain ⟨⟨after, seen⟩, step, stale⟩ := (Option.any_eq_true _ _).mp stale
  obtain ⟨old, given⟩ := of_decide_eq_true stale
  have new := always _ {} 1 past seen before after _ none 0 1 reached step given [] after .refl (by simp)
  rw [old] at new
  cases new

end Tg2Sip
