import Mathlib.Tactic.Common

/-!
# Dialogues

A buffer is asked to do something and answers, request after request.  `Dialogue.run` is what
becomes of it, with all answers in order.  Two ways of doing the same are compared by a relation
between their states that no request breaks and that has both of them answer the same
(`Dialogue.Simulates`); then they do so over any sequence of requests (`Dialogue.Simulates.run`).
-/

namespace Switchboard.Dialogue

variable {σ τ ρ β : Type}

/-- What becomes of a state over a sequence of requests, with the answers in order. -/
def run (perform : σ → ρ → σ × β) (s : σ) : List ρ → σ × List β
  | [] => (s, [])
  | r :: rs =>
    let (next, answer) := perform s r
    let (last, answers) := run perform next rs
    (last, answer :: answers)

lemma run_cons (perform : σ → ρ → σ × β) (s : σ) (r : ρ) (rs : List ρ) :
    run perform s (r :: rs) =
      ((run perform (perform s r).1 rs).1,
        (perform s r).2 :: (run perform (perform s r).1 rs).2) := rfl

/-- A relation between two states that both keep while they answer the same. -/
def Simulates (perform : σ → ρ → σ × β) (perform' : τ → ρ → τ × β) (R : σ → τ → Prop) : Prop :=
  ∀ ⦃s t⦄, R s t → ∀ r, (perform s r).2 = (perform' t r).2 ∧ R (perform s r).1 (perform' t r).1

/-- What keeps up request by request keeps up over a whole dialogue. -/
theorem Simulates.run {perform : σ → ρ → σ × β} {perform' : τ → ρ → τ × β} {R : σ → τ → Prop}
    (h : Simulates perform perform' R) {s : σ} {t : τ} (hst : R s t) (rs : List ρ) :
    (Dialogue.run perform s rs).2 = (Dialogue.run perform' t rs).2 ∧
      R (Dialogue.run perform s rs).1 (Dialogue.run perform' t rs).1 := by
  induction rs generalizing s t with
  | nil => exact ⟨rfl, hst⟩
  | cons r rs ih =>
    obtain ⟨hanswer, hnext⟩ := h hst r
    obtain ⟨hanswers, hlast⟩ := ih hnext
    rw [run_cons, run_cons, hanswer, hanswers]
    exact ⟨rfl, hlast⟩

end Switchboard.Dialogue
