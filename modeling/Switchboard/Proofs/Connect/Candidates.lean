import Mathlib.Tactic.Common
import Switchboard.Connect.Candidates

/-!
# Trying candidates

The search that is resumed attempt by attempt comes to the same as the one that is not interrupted
(`Connect.connectStepwise_eq`), and a search connects exactly if some attempt does that is made when
all candidates before it were tried in vain (`Connect.Reachable`).
-/

namespace Switchboard.Connect

variable {α : Type} {attempt : Nat → Endpoint → Except SystemError α}

/-- Some candidate can be connected to when its turn comes. -/
def Reachable (attempt : Nat → Endpoint → Except SystemError α) (candidates : List Endpoint) :
    Prop :=
  ∃ i endpoint value, candidates[i]? = some endpoint ∧ attempt i endpoint = .ok value

/-! ### The two searches -/

/-- Driving a search has the outcome of trying what is left of the candidates. -/
lemma drive_proceed (attempt : Nat → Endpoint → Except SystemError α) (total made : Nat)
    (last : SystemError) (rest : List Endpoint) :
    (Walk.drive attempt rest.length (Walk.proceed total made last rest)).1 =
        .done (tryFrom attempt made last rest).1 ∧
      (Walk.drive attempt rest.length (Walk.proceed total made last rest)).2.1 =
        (tryFrom attempt made last rest).2 := by
  induction rest generalizing made last with
  | nil => exact ⟨rfl, rfl⟩
  | cons e rest ih =>
    simp only [Walk.proceed, List.length_cons, Walk.drive, Walk.resume, tryFrom]
    cases hattempt : attempt made e with
    | ok value =>
      -- a search that is over goes no further
      cases rest <;> exact ⟨rfl, rfl⟩
    | error error =>
      obtain ⟨houtcome, htried⟩ := ih (made + 1) error
      exact ⟨houtcome, congrArg (e :: ·) htried⟩

/-- The search that is resumed attempt by attempt is the one that is not interrupted. -/
theorem connectStepwise_eq (attempt : Nat → Endpoint → Except SystemError α)
    (candidates : List Endpoint) :
    connectStepwise attempt candidates = connectBlocking attempt candidates := by
  obtain ⟨houtcome, htried⟩ :=
    drive_proceed attempt candidates.length 0 noCandidates candidates
  unfold connectStepwise connectBlocking Walk.start
  generalize Walk.drive attempt candidates.length
    (Walk.proceed candidates.length 0 noCandidates candidates) = last at houtcome htried
  obtain ⟨walk, tried, failures⟩ := last
  obtain rfl : walk = _ := houtcome
  obtain rfl : tried = _ := htried
  rfl

/-! ### When a search connects -/

/-- Trying what is left connects exactly if one of those can be connected to. -/
lemma tryFrom_connected_iff (made : Nat) (last : SystemError) (rest : List Endpoint) :
    (∃ value endpoint, (tryFrom attempt made last rest).1 = .connected value endpoint) ↔
      ∃ i endpoint value, rest[i]? = some endpoint ∧ attempt (made + i) endpoint = .ok value := by
  induction rest generalizing made last with
  | nil => simp [tryFrom]
  | cons e rest ih =>
    unfold tryFrom
    cases hattempt : attempt made e with
    | ok value =>
      constructor
      · intro _
        exact ⟨0, e, value, rfl, hattempt⟩
      · intro _
        exact ⟨value, e, rfl⟩
    | error error =>
      refine (ih (made + 1) error).trans ⟨?_, ?_⟩
      · rintro ⟨i, endpoint, value, hi, hvalue⟩
        exact ⟨i + 1, endpoint, value, hi, by rwa [Nat.add_right_comm] at hvalue⟩
      · rintro ⟨i, endpoint, value, hi, hvalue⟩
        cases i with
        | zero =>
          obtain rfl := Option.some.inj hi
          simp [hattempt] at hvalue
        | succ i => exact ⟨i, endpoint, value, hi, by rwa [Nat.add_right_comm]⟩

/-- A search connects exactly if some candidate can be connected to when its turn comes. -/
theorem connected_iff (candidates : List Endpoint) :
    (∃ value endpoint, (connectBlocking attempt candidates).1 = .connected value endpoint) ↔
      Reachable attempt candidates := by
  simpa [Reachable, connectBlocking] using tryFrom_connected_iff 0 noCandidates candidates

/-! ### How far a search comes -/

/-- Trying what is left stops behind the first that can be connected to, or at the end with the
error of the last attempt. -/
lemma tryFrom_cases (attempt : Nat → Endpoint → Except SystemError α) (made : Nat)
    (last : SystemError) (rest : List Endpoint) :
    (∃ i endpoint value, rest[i]? = some endpoint ∧ attempt (made + i) endpoint = .ok value ∧
        tryFrom attempt made last rest = (.connected value endpoint, rest.take (i + 1))) ∨
      ∃ e, tryFrom attempt made last rest = (.exhausted (made + rest.length) e, rest) ∧
        (rest = [] → e = last) ∧
        ∀ endpoint, rest.getLast? = some endpoint →
          attempt (made + rest.length - 1) endpoint = .error e := by
  induction rest generalizing made last with
  | nil => exact .inr ⟨last, rfl, fun _ => rfl, by simp⟩
  | cons first rest ih =>
    unfold tryFrom
    cases hattempt : attempt made first with
    | ok value => exact .inl ⟨0, first, value, rfl, hattempt, rfl⟩
    | error error =>
      rcases ih (made + 1) error with
        ⟨i, endpoint, value, hi, hvalue, htry⟩ | ⟨e, htry, hnone, hlast⟩
      · refine .inl ⟨i + 1, endpoint, value, hi, ?_, ?_⟩
        · rwa [Nat.add_right_comm] at hvalue
        · simp [htry]
      · refine .inr
          ⟨e, ?_, fun hempty => (List.cons_ne_nil _ _ hempty).elim, fun endpoint hend => ?_⟩
        · simp [htry, Nat.add_assoc, Nat.add_comm 1]
        · cases rest with
          | nil =>
            obtain rfl : first = endpoint := by simpa using hend
            rw [hnone rfl]
            exact hattempt
          | cons second rest =>
            rw [List.getLast?_cons_cons] at hend
            have hmade := hlast endpoint hend
            rwa [show made + 1 + (second :: rest).length - 1 =
              made + (first :: second :: rest).length - 1 by simp; omega] at hmade

/-- A search that can connect tries the candidates up to the one that it connects to. -/
lemma connected_of_reachable {candidates : List Endpoint} (h : Reachable attempt candidates) :
    ∃ i endpoint value, candidates[i]? = some endpoint ∧ attempt i endpoint = .ok value ∧
      connectBlocking attempt candidates =
        (.connected value endpoint, candidates.take (i + 1)) := by
  rcases tryFrom_cases attempt 0 noCandidates candidates with hconnected | ⟨e, hexhausted, -⟩
  · simpa [connectBlocking] using hconnected
  · obtain ⟨value, endpoint, hconnected⟩ := (connected_iff candidates).mpr h
    rw [connectBlocking, hexhausted] at hconnected
    cases hconnected

/-- A search that cannot connect tries all candidates, and ends with the error of the last one. -/
lemma exhausted_of_not_reachable {candidates : List Endpoint}
    (h : ¬Reachable attempt candidates) :
    ∃ e, connectBlocking attempt candidates = (.exhausted candidates.length e, candidates) ∧
      (candidates = [] → e = noCandidates) ∧
      ∀ endpoint, candidates.getLast? = some endpoint →
        attempt (candidates.length - 1) endpoint = .error e := by
  rcases tryFrom_cases attempt 0 noCandidates candidates with
    ⟨i, endpoint, value, hi, hvalue, -⟩ | hexhausted
  · rw [Nat.zero_add] at hvalue
    exact absurd ⟨i, endpoint, value, hi, hvalue⟩ h
  · simpa [connectBlocking] using hexhausted

end Switchboard.Connect
