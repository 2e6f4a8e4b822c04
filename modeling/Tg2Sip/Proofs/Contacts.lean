import Mathlib.Data.List.TakeWhile
import Tg2Sip.Gateway

/-! The contacts cache against the directory that the responses amount to. The loop
leaves the function at the first user without access, so that everything depends on what
comes after such a user. -/

namespace Tg2Sip.Gateway
open TdApi Lib

/-- The names that the cache is meant to have for a user. -/
def usernames (user : User) : List (String × UserId) :=
  match user.editableUsername with
  | some username => if username ≠ "" then [(username, user.id)] else []
  | none => []

def phones (user : User) : List (String × UserId) :=
  if user.phoneNumber ≠ "" then [(user.phoneNumber, user.id)] else []

def accessible (responses : List (Answer User)) : List User :=
  responses.filterMap fun response => match response with
    | .ok user => if user.haveAccess = true then some user else none
    | .error _ => none

/-- The caches hold the directory of the users that are accessible, and nothing else. -/
structure Complete (responses : List (Answer User)) (cache : Cache) : Prop where
  usernames : ∀ username id, cache.usernameCache username = some id ↔ ∃ user, .ok user ∈ responses ∧
    user.haveAccess = true ∧ user.editableUsername = some username ∧ username ≠ "" ∧ user.id = id
  phones : ∀ phone id, cache.phoneCache phone = some id ↔ ∃ user, .ok user ∈ responses ∧
    user.haveAccess = true ∧ user.phoneNumber = phone ∧ phone ≠ "" ∧ user.id = id

/-- No two users share a username or a phone number. -/
def Distinct (responses : List (Answer User)) : Prop :=
  ∀ user other, .ok user ∈ responses → .ok other ∈ responses →
    (∃ username, user.editableUsername = some username ∧ username ≠ "" ∧ other.editableUsername = some username) ∨
      (user.phoneNumber ≠ "" ∧ other.phoneNumber = user.phoneNumber) → user.id = other.id

theorem mem_accessible {responses : List (Answer User)} {user : User} :
    user ∈ accessible responses ↔ .ok user ∈ responses ∧ user.haveAccess = true := by
  simp only [accessible, List.mem_filterMap]
  constructor
  · intro ⟨response, member, found⟩
    split at found
    next other =>
      split at found
      next allowed => cases found; exact ⟨member, allowed⟩
      next => cases found
    next => cases found
  · intro ⟨member, allowed⟩
    exact ⟨.ok user, member, by simp [allowed]⟩

theorem mem_usernames {user : User} {username : String} {id : UserId} :
    (username, id) ∈ usernames user ↔ user.editableUsername = some username ∧ username ≠ "" ∧ user.id = id := by
  unfold usernames
  split
  next name held =>
    split
    next named =>
      rw [held, List.mem_singleton, Prod.mk.injEq, Option.some.injEq]
      constructor
      · rintro ⟨rfl, rfl⟩; exact ⟨rfl, named, rfl⟩
      · rintro ⟨rfl, _, rfl⟩; exact ⟨rfl, rfl⟩
    next empty =>
      have empty : name = "" := by simpa using empty
      have never : username = "" → ¬ username = "" → ¬ user.id = id := fun same other => absurd same other
      simpa [held, empty, eq_comm] using never
  next missing => simp [missing]

theorem mem_phones {user : User} {phone : String} {id : UserId} :
    (phone, id) ∈ phones user ↔ user.phoneNumber = phone ∧ phone ≠ "" ∧ user.id = id := by
  unfold phones
  split
  next numbered =>
    rw [List.mem_singleton, Prod.mk.injEq]
    constructor
    · rintro ⟨rfl, rfl⟩; exact ⟨rfl, numbered, rfl⟩
    · rintro ⟨rfl, _, rfl⟩; exact ⟨rfl, rfl⟩
  next empty =>
    have empty : user.phoneNumber = "" := by simpa using empty
    have never : phone = "" → ¬ phone = "" → ¬ user.id = id := fun same other => absurd same other
    simpa [empty, eq_comm] using never

/-- Users that the loop goes on after. -/
def goesOn : Answer User → Bool
  | .ok user => user.haveAccess
  | .error _ => true

theorem remember_entries (cache : Cache) (user : User) :
    (remember cache user).usernameCache = cache.usernameCache.emplaceAll (usernames user) ∧
      (remember cache user).phoneCache = cache.phoneCache.emplaceAll (phones user) := by
  unfold remember usernames phones
  cases user.editableUsername with
  | none => by_cases numbered : user.phoneNumber = "" <;> simp [numbered, Map.emplaceAll]
  | some username =>
    by_cases named : username = "" <;> by_cases numbered : user.phoneNumber = "" <;>
      simp [named, numbered, Map.emplaceAll]

/-- The loop enters the users that come before the first one without access. -/
theorem loadResponses_entries (cache : Cache) (responses : List (Answer User)) :
    (loadResponses cache responses).usernameCache =
        cache.usernameCache.emplaceAll ((accessible (responses.takeWhile goesOn)).flatMap usernames) ∧
      (loadResponses cache responses).phoneCache =
        cache.phoneCache.emplaceAll ((accessible (responses.takeWhile goesOn)).flatMap phones) := by
  induction responses generalizing cache with
  | nil => exact ⟨rfl, rfl⟩
  | cons response rest ih =>
    cases response with
    | error error => exact ih cache
    | ok user =>
      cases allowed : user.haveAccess with
      | false =>
        simp [loadResponses, goesOn, allowed, accessible]
      | true =>
        have entered := remember_entries cache user
        have later := ih (remember cache user)
        rw [entered.1, entered.2] at later
        simpa [loadResponses, goesOn, allowed, accessible, Map.emplaceAll_append] using later

section Directory
variable {responses permuted : List (Answer User)}

/-- Neither map has two values for a key when no two users share a name. -/
theorem Distinct.single (distinct : Distinct responses) {names : User → List (String × UserId)}
    (known : (∀ user name id, (name, id) ∈ names user → (name, id) ∈ usernames user) ∨
      ∀ user name id, (name, id) ∈ names user → (name, id) ∈ phones user) {name : String} {id other : UserId}
    (first : (name, id) ∈ (accessible responses).flatMap names)
    (second : (name, other) ∈ (accessible responses).flatMap names) :
    id = other := by
  obtain ⟨user, member, listed⟩ := List.mem_flatMap.mp first
  obtain ⟨namesake, memberToo, listedToo⟩ := List.mem_flatMap.mp second
  have shared := distinct user namesake (mem_accessible.mp member).1 (mem_accessible.mp memberToo).1
  rcases known with named | numbered
  · obtain ⟨same, nonempty, rfl⟩ := mem_usernames.mp (named _ _ _ listed)
    obtain ⟨sameToo, _, rfl⟩ := mem_usernames.mp (named _ _ _ listedToo)
    exact shared (.inl ⟨name, same, nonempty, sameToo⟩)
  · obtain ⟨same, nonempty, rfl⟩ := mem_phones.mp (numbered _ _ _ listed)
    obtain ⟨sameToo, _, rfl⟩ := mem_phones.mp (numbered _ _ _ listedToo)
    exact shared (.inr ⟨same ▸ nonempty, sameToo.trans same.symm⟩)

/-- When the loop misses nobody's names, the caches are the directory. -/
theorem Distinct.complete (distinct : Distinct responses)
    (all : ∀ names, names = usernames ∨ names = phones →
      (accessible (responses.takeWhile goesOn)).flatMap names = (accessible responses).flatMap names) :
    Complete responses (loadResponses {} responses) := by
  obtain ⟨named, numbered⟩ := loadResponses_entries {} responses
  rw [all usernames (.inl rfl)] at named
  rw [all phones (.inr rfl)] at numbered
  refine ⟨fun username id => ?_, fun phone id => ?_⟩
  · rw [named, Map.emplaceAll_iff fun other => distinct.single (.inl fun _ _ _ listed => listed)]
    simp only [List.mem_flatMap, mem_accessible, mem_usernames, and_assoc]
  · rw [numbered, Map.emplaceAll_iff fun other => distinct.single (.inr fun _ _ _ listed => listed)]
    simp only [List.mem_flatMap, mem_accessible, mem_phones, and_assoc]

/-- The directory says all about the caches. -/
theorem Complete.unique {first second : Cache} (complete : Complete responses first)
    (other : Complete responses second) :
    first = second := by
  have maps : ∀ {left right : Map String UserId}, (∀ name id, left name = some id ↔ right name = some id) →
      left = right :=
    fun same => funext fun name => Option.ext fun id => same name id
  obtain ⟨firstUsernames, firstPhones⟩ := first
  obtain ⟨secondUsernames, secondPhones⟩ := second
  have usernames : firstUsernames = secondUsernames :=
    maps fun name id => (complete.usernames name id).trans (other.usernames name id).symm
  have phones : firstPhones = secondPhones :=
    maps fun name id => (complete.phones name id).trans (other.phones name id).symm
  rw [usernames, phones]

theorem Complete.perm {cache : Cache} (complete : Complete permuted cache) (perm : permuted.Perm responses) :
    Complete responses cache := by
  refine ⟨fun username id => ?_, fun phone id => ?_⟩
  · simp only [complete.usernames, perm.mem_iff]
  · simp only [complete.phones, perm.mem_iff]

/-- The loop is not left early, or there is nothing to enter. -/
def Unhidden (responses : List (Answer User)) : Prop :=
  (∀ user, .ok user ∈ responses → user.haveAccess = true) ∨
    ∀ user, .ok user ∈ responses → user.haveAccess = true → user.editableUsername.getD "" = "" ∧ user.phoneNumber = ""

theorem Unhidden.all (unhidden : Unhidden responses) (names : User → List (String × UserId))
    (known : names = usernames ∨ names = phones) :
    (accessible (responses.takeWhile goesOn)).flatMap names = (accessible responses).flatMap names := by
  rcases unhidden with everyone | nameless
  · rw [List.takeWhile_eq_self_iff.mpr]
    intro response member
    cases response with
    | error error => rfl
    | ok user => exact everyone user member
  · have none : ∀ user ∈ accessible responses, names user = [] := by
      intro user member
      obtain ⟨listed, allowed⟩ := mem_accessible.mp member
      obtain ⟨username, phone⟩ := nameless user listed allowed
      rcases known with rfl | rfl
      · cases held : user.editableUsername <;> simp_all [usernames]
      · simp [phones, phone]
    have noneToo : ∀ user ∈ accessible (responses.takeWhile goesOn), names user = [] := by
      intro user member
      obtain ⟨listed, allowed⟩ := mem_accessible.mp member
      exact none user (mem_accessible.mpr ⟨(List.takeWhile_sublist _).subset listed, allowed⟩)
    rw [List.flatMap_eq_nil_iff.mpr none, List.flatMap_eq_nil_iff.mpr noneToo]

theorem Unhidden.perm (unhidden : Unhidden responses) (perm : permuted.Perm responses) : Unhidden permuted := by
  simpa only [Unhidden, perm.mem_iff] using unhidden

/-- With no two users of one name: the caches are the directory of the accessible users, however the
responses are ordered, if and only if no response is a user without access or no accessible
user has a username or a phone number. -/
theorem cache_is_directory_iff {userIds : List UserId} (answered : responses.length = userIds.length)
    (distinct : Distinct responses) :
    (Complete responses (loadCache {} (.ok userIds) responses) ∧ ∀ permuted, permuted.Perm responses →
      loadCache {} (.ok userIds) permuted = loadCache {} (.ok userIds) responses) ↔ Unhidden responses := by
  have loads : ∀ permuted, permuted.Perm responses →
      loadCache {} (.ok userIds) permuted = loadResponses {} permuted := by
    intro permuted perm
    have length := perm.length_eq.trans answered
    rw [loadCache, List.take_of_length_le (Nat.le_of_eq length)]
  rw [loads responses (.refl _)]
  constructor
  · intro ⟨complete, same⟩
    by_contra hidden
    simp only [Unhidden, not_or, not_forall] at hidden
    obtain ⟨⟨stranger, listed, barred⟩, user, member, allowed, named⟩ := hidden
    -- The user without access may be the first to come.
    have first := List.perm_cons_erase listed
    have empty : loadResponses {} responses = {} := by
      rw [← same _ first.symm, loads _ first.symm, loadResponses, if_pos (by simpa using barred)]
    rw [empty] at complete
    rcases not_and_or.mp named with listed | phone
    · cases held : user.editableUsername with
      | none => exact listed (by rw [held]; rfl)
      | some username =>
        have entered :=
          (complete.usernames username user.id).mpr ⟨user, member, allowed, held, by simpa [held] using listed, rfl⟩
        cases entered
    · have entered := (complete.phones user.phoneNumber user.id).mpr ⟨user, member, allowed, rfl, phone, rfl⟩
      cases entered
  · intro unhidden
    have complete := distinct.complete unhidden.all
    refine ⟨complete, fun permuted perm => ?_⟩
    have distinctToo : Distinct permuted := by simpa only [Distinct, perm.mem_iff] using distinct
    rw [loads permuted perm]
    exact ((distinctToo.complete (unhidden.perm perm).all).perm perm).unique complete

/-- A contact without access that comes first hides all others. -/
theorem stranger_hides_contact :
    let responses : List (Answer User) := [.ok { id := 1, haveAccess := false },
      .ok { id := 2, editableUsername := some "alice", phoneNumber := "100" }]
    Distinct responses ∧ ¬ Complete responses (loadCache {} (.ok [1, 2]) responses) := by
  refine ⟨fun user other member memberToo shared => ?_, fun complete => ?_⟩
  · simp only [List.mem_cons, Except.ok.injEq, List.not_mem_nil, or_false] at member memberToo
    obtain rfl | rfl := member <;> obtain rfl | rfl := memberToo <;> simp at shared ⊢
  · have entered := (complete.usernames "alice" 2).mpr ⟨_, List.mem_cons_of_mem _ (.head _), rfl, rfl, by decide, rfl⟩
    cases entered

theorem accessible_contacts_are_cached :
    let responses : List (Answer User) := [.error ⟨404, "Not Found"⟩,
      .ok { id := 2, editableUsername := some "alice", phoneNumber := "100" }]
    Complete responses (loadCache {} (.ok [1, 2]) responses) := by
  refine ((cache_is_directory_iff rfl ?_).mpr (.inl ?_)).1
  · intro user other member memberToo _
    simp only [List.mem_cons, reduceCtorEq, Except.ok.injEq, List.not_mem_nil, or_false, false_or] at member memberToo
    rw [member, memberToo]
  · intro user member
    simp only [List.mem_cons, reduceCtorEq, Except.ok.injEq, List.not_mem_nil, or_false, false_or] at member
    rw [member]

end Directory

end Tg2Sip.Gateway
