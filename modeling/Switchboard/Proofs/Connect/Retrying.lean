import Mathlib.Tactic.Common
import Switchboard.Proofs.Connect.Candidates

/-!
# Candidates in turn

What a search along candidates comes to, said without any search.  Candidates that were tried in
vain are `Vain`, one attempt behind the other, and `Connect.Ends` says how a search can end: at the
first candidate whose attempt succeeds, or behind the last one, with the error of the last attempt.
What is logged on the way, one entry for each failure, belongs to the end (`failuresAmong`).

A search ends in exactly one of these ways, whether it is interrupted between its attempts or not
(`Connect.tries_in_turn`).
-/

namespace Switchboard.Connect

variable {α : Type} {attempt : Nat → Endpoint → Except SystemError α}

/-! ### How a search can end -/

/-- Candidates that were tried in vain one after the other, with the error of the last attempt. -/
inductive Vain (attempt : Nat → Endpoint → Except SystemError α) :
    List Endpoint → SystemError → Prop where
  /-- Nothing was tried. -/
  | nothing : Vain attempt [] noCandidates
  /-- Behind what was tried in vain one more attempt fails. -/
  | more {front : List Endpoint} {last : SystemError} (before : Vain attempt front last)
      {endpoint : Endpoint} {error : SystemError}
      (failed : attempt front.length endpoint = .error error) :
      Vain attempt (front ++ [endpoint]) error

/-- What is logged of the first candidates when they were tried in vain: their numbers from 1 on,
and how many of `total` candidates are left behind each of them. -/
def failuresAmong (total : Nat) (front : List Endpoint) : List FailedAttempt :=
  front.mapIdx fun i endpoint => ⟨endpoint, i + 1, total - (i + 1)⟩

/-- How a search along candidates can end, with the candidates that were tried and with the log. -/
inductive Ends (attempt : Nat → Endpoint → Except SystemError α) (candidates : List Endpoint) :
    Outcome α × List Endpoint → List FailedAttempt → Prop where
  /-- A candidate is connected to after all those before it were tried in vain; those behind it are
  not tried. -/
  | connected {front rest : List Endpoint} {last : SystemError} {endpoint : Endpoint} {value : α}
      (split : candidates = front ++ endpoint :: rest) (vain : Vain attempt front last)
      (success : attempt front.length endpoint = .ok value) :
      Ends attempt candidates (.connected value endpoint, front ++ [endpoint])
        (failuresAmong candidates.length front)
  /-- All candidates were tried in vain. -/
  | exhausted {last : SystemError} (vain : Vain attempt candidates last) :
      Ends attempt candidates (.exhausted candidates.length last, candidates)
        (failuresAmong candidates.length candidates)

/-! ### The log -/

/-- A further failure is logged behind those before it. -/
lemma failuresAmong_concat (total : Nat) (front : List Endpoint) (endpoint : Endpoint) :
    failuresAmong total (front ++ [endpoint]) =
      failuresAmong total front ++ [⟨endpoint, front.length + 1, total - (front.length + 1)⟩] := by
  simp [failuresAmong]

/-- The number of a failed attempt and the candidates that are left make up all candidates, so no
more are ever subtracted than there are. -/
lemma number_add_remaining {total : Nat} {front : List Endpoint} (hfront : front.length ≤ total)
    {f : FailedAttempt} (hf : f ∈ failuresAmong total front) :
    0 < f.number ∧ f.number + f.remaining = total := by
  obtain ⟨i, hi, rfl⟩ := List.mem_mapIdx.mp hf
  refine ⟨Nat.succ_pos i, ?_⟩
  have hle : i + 1 ≤ total := Nat.le_trans hi hfront
  exact Nat.add_sub_cancel' hle

/-- The same holds for the whole log of a search. -/
lemma Ends.number_add_remaining {candidates : List Endpoint} {result : Outcome α × List Endpoint}
    {log : List FailedAttempt} (h : Ends attempt candidates result log) {f : FailedAttempt}
    (hf : f ∈ log) : 0 < f.number ∧ f.number + f.remaining = candidates.length := by
  cases h with
  | connected split vain success =>
    refine Connect.number_add_remaining ?_ hf
    rw [split, List.length_append]
    exact Nat.le_add_right _ _
  | exhausted vain => exact Connect.number_add_remaining (Nat.le_refl _) hf

/-! ### The search that is not interrupted -/

/-- Behind candidates tried in vain the search goes on with their number and their last error. -/
lemma Vain.tryFrom_append {front : List Endpoint} {last : SystemError}
    (vain : Vain attempt front last) (rest : List Endpoint) :
    tryFrom attempt 0 noCandidates (front ++ rest) =
      ((tryFrom attempt front.length last rest).1,
        front ++ (tryFrom attempt front.length last rest).2) := by
  induction vain generalizing rest with
  | nothing => rfl
  | @more front last before endpoint error failed ih =>
    have hfirst : tryFrom attempt front.length last (endpoint :: rest) =
        ((tryFrom attempt (front.length + 1) error rest).1,
          endpoint :: (tryFrom attempt (front.length + 1) error rest).2) := by
      rw [tryFrom, failed]
    rw [List.append_assoc, List.singleton_append, ih, hfirst, List.length_append,
      List.append_assoc]
    rfl

/-- A search ends in no other way. -/
lemma Ends.connectBlocking_eq {candidates : List Endpoint} {result : Outcome α × List Endpoint}
    {log : List FailedAttempt} (h : Ends attempt candidates result log) :
    connectBlocking attempt candidates = result := by
  cases h with
  | @connected front rest last endpoint value split vain success =>
    rw [connectBlocking, split, vain.tryFrom_append, tryFrom, success]
  | exhausted vain =>
    have hall := vain.tryFrom_append []
    rw [List.append_nil] at hall
    rw [connectBlocking, hall, tryFrom, List.append_nil]

/-! ### The search that is resumed attempt by attempt -/

/-- A failed attempt is logged, and the search goes on to the next candidate. -/
lemma drive_of_failed {total made : Nat} {endpoint : Endpoint} {rest : List Endpoint}
    {error : SystemError} (failed : attempt made endpoint = .error error) (fuel : Nat) :
    Walk.drive attempt (fuel + 1) (.trying total made endpoint rest) =
      let later := Walk.drive attempt fuel (Walk.proceed total (made + 1) error rest)
      (later.1, endpoint :: later.2.1,
        ⟨endpoint, made + 1, total - (made + 1)⟩ :: later.2.2) := by
  rw [Walk.drive, failed]
  rfl

/-- Where candidates were tried in vain, driving the search on brings it to an end. -/
lemma Vain.ends_drive {front : List Endpoint} {last : SystemError}
    (vain : Vain attempt front last) (rest : List Endpoint) :
    ∃ outcome tried failures,
      Walk.drive attempt rest.length
          (Walk.proceed (front ++ rest).length front.length last rest) =
        (.done outcome, tried, failures) ∧
      Ends attempt (front ++ rest) (outcome, front ++ tried)
        (failuresAmong (front ++ rest).length front ++ failures) := by
  induction rest generalizing front last with
  | nil =>
    refine ⟨.exhausted front.length last, [], [], rfl, ?_⟩
    simpa using Ends.exhausted vain
  | cons endpoint rest ih =>
    cases hattempt : attempt front.length endpoint with
    | ok value =>
      have hend : Ends attempt (front ++ endpoint :: rest) _ _ := .connected rfl vain hattempt
      rw [← List.append_nil (failuresAmong _ front)] at hend
      refine ⟨.connected value endpoint, [endpoint], [], ?_, hend⟩
      -- a search that is over goes no further
      cases rest <;> simp [Walk.proceed, Walk.drive, Walk.resume, hattempt]
    | error error =>
      obtain ⟨outcome, tried, failures, hdrive, hend⟩ := ih (vain.more hattempt)
      have hsplit : front ++ [endpoint] ++ rest = front ++ endpoint :: rest := by
        rw [List.append_assoc, List.singleton_append]
      rw [hsplit] at hdrive hend
      refine ⟨outcome, endpoint :: tried,
        ⟨endpoint, front.length + 1, (front ++ endpoint :: rest).length - (front.length + 1)⟩ ::
          failures, ?_, ?_⟩
      · rw [show (front ++ [endpoint]).length = front.length + 1 from List.length_append] at hdrive
        rw [Walk.proceed, List.length_cons, drive_of_failed hattempt, hdrive]
      · rw [failuresAmong_concat, List.append_assoc, List.append_assoc, List.singleton_append,
          List.singleton_append] at hend
        exact hend

/-! ### Both of them -/

/-- **Candidates are tried in turn, up to the first that can be connected to.**  For all candidates,
and whatever comes of the attempts, a search that is not interrupted ends in exactly one way: with
the first candidate whose attempt succeeds, every candidate up to and including it having been tried
once and in order, or with the error of the last attempt and the number of all candidates, which
have all been tried; without candidates nothing is tried, and what is told is that there is no
address.  The search that is resumed attempt by attempt has the same result, and ends with a log of
its failures in which the number of an attempt and the candidates left behind it make up all
candidates. -/
theorem tries_in_turn (attempt : Nat → Endpoint → Except SystemError α)
    (candidates : List Endpoint) :
    let last := Walk.drive attempt candidates.length (Walk.start candidates)
    (∀ result, connectBlocking attempt candidates = result ↔
        ∃ log, Ends attempt candidates result log) ∧
      connectStepwise attempt candidates = connectBlocking attempt candidates ∧
      (∃ outcome, last.1 = .done outcome) ∧
      Ends attempt candidates (connectStepwise attempt candidates) last.2.2 ∧
      (∀ f ∈ last.2.2, 0 < f.number ∧ f.number + f.remaining = candidates.length) ∧
      noCandidates.kind = .addrNotAvailable := by
  intro last
  obtain ⟨outcome, tried, failures, hdrive, hend⟩ :=
    (Vain.nothing : Vain attempt [] noCandidates).ends_drive candidates
  have hlast : last = (.done outcome, tried, failures) := hdrive
  have hstepwise : connectStepwise attempt candidates = (outcome, tried) := by
    unfold connectStepwise
    rw [show Walk.drive attempt candidates.length (Walk.start candidates) = _ from hlast]
  have hsame := connectStepwise_eq attempt candidates
  have hends : Ends attempt candidates (connectStepwise attempt candidates) last.2.2 := by
    rw [hstepwise, hlast]
    exact hend
  refine ⟨fun result => ⟨?_, ?_⟩, hsame, ⟨outcome, congrArg Prod.fst hlast⟩, hends,
    fun f hf => hends.number_add_remaining hf, rfl⟩
  · rintro rfl
    exact ⟨last.2.2, hsame ▸ hends⟩
  · rintro ⟨log, hlog⟩
    exact hlog.connectBlocking_eq

/-- A candidate that is listed twice is tried twice, and the last one is not needed. -/
example :
    let here : Endpoint := ⟨.v4 0x7f000001, 80⟩
    let there : Endpoint := ⟨.v4 0x7f000001, 81⟩
    let attempt : Nat → Endpoint → Except SystemError Nat := fun made _ =>
      if made = 2 then .ok 7 else .error (.os 111)
    connectStepwise attempt [here, here, there, here] =
      (.connected 7 there, [here, here, there]) := by
  decide

end Switchboard.Connect
