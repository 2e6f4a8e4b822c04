import Tg2Sip.Lib.Throwing

/-! Requests that are served one after another with a memory of earlier answers. While the memory
holds nothing but the truth, what is kept of it between the requests cannot be told from the replies. -/

namespace Tg2Sip.Lib

universe u
variable {ε μ σ ι ρ : Type u}

/-- What is kept of the memory after a request, the next one starts with. -/
def serve (step : μ → σ → ι → Except ε (μ × σ × ρ)) (keep : μ → μ) (memory : μ) (state : σ) :
    List ι → Except ε (μ × σ × List ρ)
  | [] => .ok (memory, state, [])
  | request :: requests => do
    let (memory, state, reply) ← step (keep memory) state request
    let (memory, state, replies) ← serve step keep memory state requests
    pure (memory, state, reply :: replies)

section
variable {step : μ → σ → ι → Except ε (μ × σ × ρ)} {keep other : μ → μ} {good : μ → Prop} {fits : ι → Prop}

/-- The rule for memories: two of them that hold nothing but the truth serve alike. -/
theorem serve_alike
    (same : ∀ memory copy state request, good memory → good copy → fits request →
      (step memory state request).map Prod.snd = (step copy state request).map Prod.snd)
    (learns : ∀ memory state request after, good memory → fits request →
      step memory state request = .ok after → good after.1)
    (keeps : ∀ memory, good memory → good (keep memory)) (others : ∀ memory, good memory → good (other memory))
    {memory copy : μ} (valid : good memory) (copied : good copy) (state : σ) {requests : List ι}
    (fit : ∀ request ∈ requests, fits request) :
    (serve step keep memory state requests).map Prod.snd = (serve step other copy state requests).map Prod.snd := by
  induction requests generalizing memory copy state with
  | nil => rfl
  | cons request requests ih =>
    obtain ⟨first, rest⟩ := List.forall_mem_cons.mp fit
    have alike := same _ _ state request (keeps _ valid) (others _ copied) first
    unfold serve
    cases kept : step (keep memory) state request with
    | error thrown =>
      cases again : step (other copy) state request with
      | error => rw [kept, again] at alike; cases alike; rfl
      | ok => rw [kept, again] at alike; cases alike
    | ok after =>
      cases again : step (other copy) state request with
      | error => rw [kept, again] at alike; cases alike
      | ok twin =>
        rw [kept, again] at alike
        obtain ⟨memory, final⟩ := after
        obtain ⟨copy, last⟩ := twin
        cases alike
        have later :=
          ih (learns _ _ _ _ (keeps _ valid) first kept) (learns _ _ _ _ (others _ copied) first again) final.1 rest
        simp only [bind, Except.bind]
        generalize serve step keep memory final.1 requests = left at later
        generalize serve step other copy final.1 requests = right at later
        cases left with
        | error thrown =>
          cases right with
          | error => cases later; rfl
          | ok => cases later
        | ok left =>
          cases right with
          | error => cases later
          | ok right =>
            have replies : left.2 = right.2 := Except.ok.inj later
            simp only [Except.map, pure, Except.pure, replies]

/-- One more request. -/
theorem serve_snoc {memory middle last : μ} {state after final : σ} {requests : List ι} {replies : List ρ}
    {request : ι} {reply : ρ} (served : serve step keep memory state requests = .ok (middle, after, replies))
    (next : step (keep middle) after request = .ok (last, final, reply)) :
    serve step keep memory state (requests ++ [request]) = .ok (last, final, replies ++ [reply]) := by
  induction requests generalizing memory state replies with
  | nil =>
    cases served
    exact bind_ok_iff.mpr ⟨_, next, rfl⟩
  | cons first requests ih =>
    obtain ⟨⟨learned, moved, answer⟩, took, rest⟩ := bind_ok_iff.mp served
    obtain ⟨⟨memory, ended, answers⟩, later, same⟩ := bind_ok_iff.mp rest
    cases same
    exact bind_ok_iff.mpr ⟨_, took, bind_ok_iff.mpr ⟨_, ih later, rfl⟩⟩

end
end Tg2Sip.Lib
