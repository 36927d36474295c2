import Mathlib.Tactic.Common
import Switchboard.Shutdown

/-!
# Whom a stop request reaches

The channel of a `Shutdown` keeps one request only, and everybody who listens to it has a position
behind which requests are new.  A position never overtakes the count of requests, nothing but a look
moves it, and a look moves it no further than what it reports.  So a receiver that has not looked
since a request finds one, however many there were (`Shutdown.Receives`).

A wait gets its position when it is polled for the first time, and a request that comes before that
is none that it ever hears of.  From its first poll on it is as good as a receiver
(`Shutdown.Resolves`), so made, triggered and polled in this order it goes on waiting.
-/

namespace Switchboard

/-- Whether a signal says that a stop was requested. -/
def StopSignal.tellsStop : StopSignal → Bool
  | stop | lagged _ => true
  | empty | closed => false

namespace Shutdown

/-! ### Requests -/

/-- Whether an event requests a stop. -/
def requests (s : Shutdown) : Event → Bool
  | .trigger handle => handle < s.handles
  | _ => false

/-- Whether a stop is requested in a run. -/
def requested (s : Shutdown) : List Event → Bool
  | [] => false
  | e :: es => s.requests e || (s.step e).requested es

variable {s : Shutdown} {e : Event} {es : List Event} {receiver name position : Nat}

@[simp] lemma run_nil (s : Shutdown) : s.run [] = s := rfl

@[simp] lemma run_cons (s : Shutdown) (e : Event) (es : List Event) :
    s.run (e :: es) = (s.step e).run es := rfl

lemma run_append (s : Shutdown) (es fs : List Event) : s.run (es ++ fs) = (s.run es).run fs :=
  List.foldl_append

lemma sent_poll (s : Shutdown) (name : Nat) : (s.poll name).2.sent = s.sent := by
  unfold poll
  split
  · rfl
  · split <;> rfl

lemma sent_receive (s : Shutdown) (receiver : Nat) : (s.receive receiver).2.sent = s.sent := by
  unfold receive
  split <;> rfl

/-- Requests are counted. -/
lemma sent_step (s : Shutdown) (e : Event) :
    (s.step e).sent = s.sent + if s.requests e then 1 else 0 := by
  cases e with
  | trigger handle => by_cases h : handle < s.handles <;> simp [step, requests, trigger, h]
  | clone handle => by_cases h : handle < s.handles <;> simp [step, requests, clone, h]
  | subscribe handle receiver =>
    by_cases h : handle < s.handles <;> simp [step, requests, subscribe, h]
  | wait handle name => by_cases h : handle < s.handles <;> simp [step, requests, wait, h]
  | receive receiver => exact s.sent_receive receiver
  | poll name => exact s.sent_poll name
  | keep n => rfl
  | unsubscribe receiver => rfl
  | abandon name => rfl

lemma sent_le_run (s : Shutdown) (es : List Event) : s.sent ≤ (s.run es).sent := by
  induction es generalizing s with
  | nil => exact Nat.le_refl _
  | cons e es ih =>
    have hstep := s.sent_step e
    have hrest := ih (s.step e)
    rw [run_cons]
    omega

/-- A stop was requested exactly if the count has grown. -/
lemma requested_iff (s : Shutdown) (es : List Event) :
    s.requested es = true ↔ s.sent < (s.run es).sent := by
  induction es generalizing s with
  | nil => simp [requested]
  | cons e es ih =>
    have hstep := s.sent_step e
    have hrest := (s.step e).sent_le_run es
    rw [requested, Bool.or_eq_true, ih, run_cons]
    cases hrequests : s.requests e with
    | true =>
      rw [hrequests, if_pos rfl] at hstep
      constructor
      · intro _
        omega
      · intro _
        exact .inl rfl
    | false =>
      rw [hrequests, if_neg Bool.false_ne_true] at hstep
      simp [hstep]

/-! ### Looking -/

/-- Who has taken everything finds nothing. -/
lemma look_sent (sent senders : Nat) :
    look sent senders sent = (if senders = 0 then .closed else .empty, sent) := by
  rw [look, if_pos (Nat.le_refl sent)]

/-- Who has not finds a request, and moves on, though not beyond the last one. -/
lemma look_of_lt {sent senders position : Nat} (h : position < sent) :
    (look sent senders position).1.tellsStop = true ∧ (look sent senders position).2 ≤ sent := by
  unfold look
  rw [if_neg (by omega)]
  split
  · exact ⟨rfl, Nat.le_refl sent⟩
  · exact ⟨rfl, Nat.sub_le sent 1⟩

lemma look_le {sent senders position : Nat} (h : position ≤ sent) :
    (look sent senders position).2 ≤ sent := by
  rcases Nat.lt_or_eq_of_le h with hlt | rfl
  · exact (look_of_lt hlt).2
  · have hsame : (look position senders position).2 = position := by rw [look_sent]
    exact Nat.le_of_eq hsame

/-! ### Receivers -/

/-- Whether an event makes or gives up a receiver of that name. -/
def Event.replacesReceiver (receiver : Nat) : Event → Bool
  | .subscribe _ r | .unsubscribe r => r = receiver
  | _ => false

lemma receivers_poll (s : Shutdown) (name : Nat) : (s.poll name).2.receivers = s.receivers := by
  unfold poll
  split
  · rfl
  · split <;> rfl

lemma receive_of_get? (h : s.receivers.get? receiver = some position) :
    s.receive receiver =
      (some (look s.sent s.senders position).1,
        { s with receivers := s.receivers.put receiver (look s.sent s.senders position).2 }) := by
  simp only [receive, h]

/-- Nothing but a look moves a receiver. -/
lemma receivers_step (he : e.replacesReceiver receiver = false) (hlook : e ≠ .receive receiver) :
    (s.step e).receivers.get? receiver = s.receivers.get? receiver := by
  cases e with
  | clone handle => by_cases h : handle < s.handles <;> simp [step, clone, h]
  | trigger handle => by_cases h : handle < s.handles <;> simp [step, trigger, h]
  | wait handle name => by_cases h : handle < s.handles <;> simp [step, wait, h]
  | keep n => rfl
  | abandon name => rfl
  | poll name => rw [step, receivers_poll]
  | subscribe handle other =>
    have hother : receiver ≠ other := fun heq => by simp [Event.replacesReceiver, heq] at he
    by_cases h : handle < s.handles
    · rw [step, if_pos h, subscribe, Table.get?_put, if_neg hother]
    · rw [step, if_neg h]
  | unsubscribe other =>
    have hother : receiver ≠ other := fun heq => by simp [Event.replacesReceiver, heq] at he
    rw [step, unsubscribe, Table.get?_erase, if_neg hother]
  | receive other =>
    have hother : receiver ≠ other := fun heq => hlook (by rw [heq])
    rw [step, receive]
    split
    · rfl
    · rw [Table.get?_put, if_neg hother]

lemma receivers_run (he : ∀ e ∈ es, e.replacesReceiver receiver = false)
    (hlook : .receive receiver ∉ es) :
    (s.run es).receivers.get? receiver = s.receivers.get? receiver := by
  induction es generalizing s with
  | nil => rfl
  | cons e es ih =>
    rw [List.forall_mem_cons] at he
    rw [List.mem_cons, not_or] at hlook
    rw [run_cons, ih he.2 hlook.2, receivers_step he.1 (Ne.symm hlook.1)]

/-- There is a receiver of that name, not ahead of the requests. -/
def Hears (s : Shutdown) (receiver : Nat) : Prop :=
  ∃ position ≤ s.sent, s.receivers.get? receiver = some position

lemma Hears.step (hs : s.Hears receiver) (he : e.replacesReceiver receiver = false) :
    (s.step e).Hears receiver := by
  obtain ⟨position, hle, hget⟩ := hs
  by_cases hlook : e = .receive receiver
  · subst hlook
    refine ⟨(look s.sent s.senders position).2, ?_, ?_⟩
    · rw [Shutdown.step, sent_receive]
      exact look_le hle
    · rw [Shutdown.step, receive_of_get? hget, Table.get?_put, if_pos rfl]
  · have hsent := s.sent_step e
    refine ⟨position, by omega, ?_⟩
    rw [receivers_step he hlook, hget]

lemma Hears.run (hs : s.Hears receiver) (he : ∀ e ∈ es, e.replacesReceiver receiver = false) :
    (s.run es).Hears receiver := by
  induction es generalizing s with
  | nil => exact hs
  | cons e es ih =>
    rw [List.forall_mem_cons] at he
    exact ih (hs.step he.1) he.2

/-- A receiver that has taken everything has still done so after a step without a request. -/
lemma caughtUp_step (hs : s.receivers.get? receiver = some s.sent)
    (he : e.replacesReceiver receiver = false) (hcalm : s.requests e = false) :
    (s.step e).receivers.get? receiver = some (s.step e).sent := by
  have hsent : (s.step e).sent = s.sent := by simp [sent_step, hcalm]
  by_cases hlook : e = .receive receiver
  · subst hlook
    rw [hsent, step, receive_of_get? hs, look_sent, Table.get?_put, if_pos rfl]
  · rw [receivers_step he hlook, hsent, hs]

lemma caughtUp_run (hs : s.receivers.get? receiver = some s.sent)
    (he : ∀ e ∈ es, e.replacesReceiver receiver = false) (hcalm : s.requested es = false) :
    (s.run es).receivers.get? receiver = some (s.run es).sent := by
  induction es generalizing s with
  | nil => exact hs
  | cons e es ih =>
    rw [List.forall_mem_cons] at he
    rw [requested, Bool.or_eq_false_iff] at hcalm
    exact ih (caughtUp_step hs he.1 hcalm.1) he.2 hcalm.2

/-- What a receiver hears of what comes after a state. -/
structure Receives (s : Shutdown) (receiver : Nat) : Prop where
  /-- When it looks for the first time since a request, it finds one. -/
  heard : ∀ earlier later : List Event,
    (∀ e ∈ earlier ++ later, e.replacesReceiver receiver = false) →
    .receive receiver ∉ later → (s.run earlier).requested later = true →
    ∃ signal, ((s.run (earlier ++ later)).receive receiver).1 = some signal ∧
      signal.tellsStop = true
  /-- When it looks before any request, it finds nothing, and the channel is open as long as
  somebody could send. -/
  silent : ∀ later : List Event, (∀ e ∈ later, e.replacesReceiver receiver = false) →
    s.requested later = false →
    ((s.run later).receive receiver).1 =
      some (if (s.run later).senders = 0 then .closed else .empty)

/-- A receiver that has just been made hears of everything from then on. -/
lemma receives_of_caughtUp (hs : s.receivers.get? receiver = some s.sent) :
    s.Receives receiver where
  heard earlier later he hlook hrequested := by
    rw [List.forall_mem_append] at he
    have hhears : s.Hears receiver := ⟨s.sent, Nat.le_refl _, hs⟩
    obtain ⟨position, hle, hget⟩ := hhears.run he.1
    have hlt : position < ((s.run earlier).run later).sent :=
      Nat.lt_of_le_of_lt hle (((s.run earlier).requested_iff later).mp hrequested)
    rw [← receivers_run he.2 hlook] at hget
    rw [run_append, receive_of_get? hget]
    exact ⟨_, rfl, (look_of_lt hlt).1⟩
  silent later he hcalm := by
    rw [receive_of_get? (caughtUp_run hs he hcalm), look_sent]

/-! ### Waits -/

/-- Whether an event makes or gives up a wait of that name. -/
def Event.replacesWait (name : Nat) : Event → Bool
  | .wait _ w | .abandon w => w = name
  | _ => false

/-- Whether a stop is requested in a run after the first poll of a wait. -/
def requestedSincePoll (s : Shutdown) (name : Nat) : List Event → Bool
  | [] => false
  | e :: es =>
    if e = .poll name then (s.step e).requested es else (s.step e).requestedSincePoll name es

/-- What is requested after the first poll is requested. -/
lemma requested_of_requestedSincePoll (h : s.requestedSincePoll name es = true) :
    s.requested es = true := by
  induction es generalizing s with
  | nil => cases h
  | cons e es ih =>
    rw [requested, Bool.or_eq_true]
    right
    rw [requestedSincePoll] at h
    split at h
    · exact h
    · exact ih h

/-- An unfinished wait could send. -/
lemma senders_ne_zero {wait : Option Nat} (h : s.waits.get? name = some wait) : s.senders ≠ 0 := by
  have hwaits : s.waits.length ≠ 0 := by
    intro hzero
    rw [List.length_eq_zero_iff.mp hzero] at h
    cases h
  rw [senders]
  omega

/-- A wait that is not behind goes on, and listens from then on. -/
lemma poll_of_caughtUp {wait : Option Nat} (h : s.waits.get? name = some wait)
    (hwait : wait.getD s.sent = s.sent) :
    s.poll name = (some false, { s with waits := s.waits.put name (some s.sent) }) := by
  simp only [poll, h, hwait, look_sent, if_neg (senders_ne_zero h)]

/-- A wait that is behind is over. -/
lemma poll_of_lt (h : s.waits.get? name = some (some position)) (hlt : position < s.sent) :
    s.poll name = (some true, { s with waits := s.waits.erase name }) := by
  have htells : (look s.sent s.senders position).1.tellsStop = true := (look_of_lt hlt).1
  simp only [poll, h, Option.getD_some]
  split
  · rename_i hlook
    rw [hlook] at htells
    cases htells
  · rfl

lemma poll_of_none (h : s.waits.get? name = none) : s.poll name = (none, s) := by
  simp only [poll, h]

/-- Nothing but a poll moves a wait. -/
lemma waits_step (he : e.replacesWait name = false) (hpoll : e ≠ .poll name) :
    (s.step e).waits.get? name = s.waits.get? name := by
  cases e with
  | clone handle => by_cases h : handle < s.handles <;> simp [step, clone, h]
  | trigger handle => by_cases h : handle < s.handles <;> simp [step, trigger, h]
  | subscribe handle receiver => by_cases h : handle < s.handles <;> simp [step, subscribe, h]
  | keep n => rfl
  | unsubscribe receiver => rfl
  | receive receiver =>
    rw [step, receive]
    split <;> rfl
  | wait handle other =>
    have hother : name ≠ other := fun heq => by simp [Event.replacesWait, heq] at he
    by_cases h : handle < s.handles
    · rw [step, if_pos h, wait, Table.get?_put, if_neg hother]
    · rw [step, if_neg h]
  | abandon other =>
    have hother : name ≠ other := fun heq => by simp [Event.replacesWait, heq] at he
    rw [step, abandon, Table.get?_erase, if_neg hother]
  | poll other =>
    have hother : name ≠ other := fun heq => hpoll (by rw [heq])
    rw [step, poll]
    split
    · rfl
    · split
      · rw [Table.get?_put, if_neg hother]
      · rw [Table.get?_erase, if_neg hother]

/-- A wait that is behind tells so when it is polled, if it is not over by then. -/
lemma ready_of_behind (hs : ∀ wait, s.waits.get? name = some wait → ∃ p < s.sent, wait = some p)
    (he : ∀ e ∈ es, e.replacesWait name = false) {answer : Bool}
    (hanswer : ((s.run es).poll name).1 = some answer) : answer = true := by
  induction es generalizing s with
  | nil =>
    rw [run_nil] at hanswer
    cases hget : s.waits.get? name with
    | none => simp [poll_of_none hget] at hanswer
    | some wait =>
      obtain ⟨position, hlt, rfl⟩ := hs wait hget
      rw [poll_of_lt hget hlt] at hanswer
      exact (Option.some.inj hanswer).symm
  | cons e es ih =>
    rw [List.forall_mem_cons] at he
    refine ih (s := s.step e) ?_ he.2 hanswer
    intro wait hwait
    by_cases hpoll : e = .poll name
    · subst hpoll
      cases hget : s.waits.get? name with
      | none =>
        rw [step, poll_of_none hget, hget] at hwait
        cases hwait
      | some old =>
        obtain ⟨position, hlt, rfl⟩ := hs old hget
        rw [step, poll_of_lt hget hlt, Table.get?_erase, if_pos rfl] at hwait
        cases hwait
    · rw [waits_step he.1 hpoll] at hwait
      obtain ⟨position, hlt, rfl⟩ := hs wait hwait
      have hsent := s.sent_step e
      exact ⟨position, by omega, rfl⟩

/-- A wait that listens and has taken everything is as good as a receiver. -/
lemma ready_iff_of_caughtUp (hs : s.waits.get? name = some (some s.sent))
    (he : ∀ e ∈ es, e.replacesWait name = false) {answer : Bool}
    (hanswer : ((s.run es).poll name).1 = some answer) : answer = s.requested es := by
  induction es generalizing s with
  | nil =>
    rw [run_nil, poll_of_caughtUp hs rfl] at hanswer
    exact (Option.some.inj hanswer).symm
  | cons e es ih =>
    rw [List.forall_mem_cons] at he
    have hsent := s.sent_step e
    cases hrequests : s.requests e with
    | true =>
      -- From here on the wait is behind, and stays so.
      rw [hrequests, if_pos rfl] at hsent
      have hpoll : e ≠ .poll name := by
        rintro rfl
        cases hrequests
      have hbehind : ∀ wait, (s.step e).waits.get? name = some wait →
          ∃ p < (s.step e).sent, wait = some p := by
        intro wait hwait
        rw [waits_step he.1 hpoll, hs] at hwait
        exact ⟨s.sent, by omega, (Option.some.inj hwait).symm⟩
      rw [requested, hrequests, Bool.true_or]
      exact ready_of_behind hbehind he.2 hanswer
    | false =>
      rw [hrequests, if_neg Bool.false_ne_true, Nat.add_zero] at hsent
      have hkept : (s.step e).waits.get? name = some (some (s.step e).sent) := by
        by_cases hpoll : e = .poll name
        · subst hpoll
          rw [hsent, step, poll_of_caughtUp hs rfl, Table.get?_put, if_pos rfl]
        · rw [waits_step he.1 hpoll, hsent, hs]
      rw [requested, hrequests, Bool.false_or]
      exact ih hkept he.2 hanswer

/-- What an unfinished wait hears of what comes after a state. -/
structure Resolves (s : Shutdown) (name : Nat) : Prop where
  /-- When it is polled, it is over exactly if a stop was requested after its first poll. -/
  ready_iff : ∀ later : List Event, (∀ e ∈ later, e.replacesWait name = false) →
    ∀ answer, ((s.run later).poll name).1 = some answer →
      (answer = true ↔ s.requestedSincePoll name later = true)
  /-- It goes on before any request. -/
  silent : ∀ later : List Event, (∀ e ∈ later, e.replacesWait name = false) →
    s.requested later = false →
    ∀ answer, ((s.run later).poll name).1 = some answer → answer = false
  /-- It does not end but by a poll that tells so. -/
  told : ∀ later : List Event, (∀ e ∈ later, e.replacesWait name = false) →
    ((s.run later).poll name).1 = none →
    ∃ earlier rest, later = earlier ++ .poll name :: rest ∧
      ((s.run earlier).poll name).1 = some true

lemma poll_eq_none_iff : (s.poll name).1 = none ↔ s.waits.get? name = none := by
  constructor
  · intro h
    by_contra hget
    obtain ⟨wait, hget⟩ := Option.ne_none_iff_exists'.mp hget
    simp only [poll, hget] at h
    split at h <;> cases h
  · intro h
    rw [poll_of_none h]

/-- A wait that does not listen yet hears of nothing that comes before its first poll. -/
lemma ready_iff_of_unpolled (hs : s.waits.get? name = some none)
    (he : ∀ e ∈ es, e.replacesWait name = false) {answer : Bool}
    (hanswer : ((s.run es).poll name).1 = some answer) :
    answer = s.requestedSincePoll name es := by
  induction es generalizing s with
  | nil =>
    rw [run_nil, poll_of_caughtUp hs rfl] at hanswer
    exact (Option.some.inj hanswer).symm
  | cons e es ih =>
    rw [List.forall_mem_cons] at he
    by_cases hpoll : e = .poll name
    · subst hpoll
      have hlistens : (s.step (.poll name)).waits.get? name =
          some (some (s.step (.poll name)).sent) := by
        rw [step, sent_poll, poll_of_caughtUp hs rfl, Table.get?_put, if_pos rfl]
      rw [requestedSincePoll, if_pos rfl]
      exact ready_iff_of_caughtUp hlistens he.2 hanswer
    · rw [requestedSincePoll, if_neg hpoll]
      exact ih (by rw [waits_step he.1 hpoll, hs]) he.2 hanswer

/-- A wait that was there and is no longer was polled to its end. -/
lemma exists_poll_of_over (hs : s.waits.get? name ≠ none)
    (he : ∀ e ∈ es, e.replacesWait name = false) (hover : ((s.run es).poll name).1 = none) :
    ∃ earlier rest, es = earlier ++ .poll name :: rest ∧
      ((s.run earlier).poll name).1 = some true := by
  induction es generalizing s with
  | nil => exact absurd (poll_eq_none_iff.mp hover) hs
  | cons e es ih =>
    rw [List.forall_mem_cons] at he
    by_cases hkept : (s.step e).waits.get? name = none
    · have hpoll : e = .poll name := by
        by_contra hpoll
        rw [waits_step he.1 hpoll] at hkept
        exact hs hkept
      subst hpoll
      refine ⟨[], es, rfl, ?_⟩
      obtain ⟨wait, hget⟩ := Option.ne_none_iff_exists'.mp hs
      rw [step] at hkept
      rw [run_nil]
      revert hkept
      simp only [poll, hget]
      split
      · intro hkept
        rw [Table.get?_put, if_pos rfl] at hkept
        cases hkept
      · intro _
        rfl
    · obtain ⟨earlier, rest, rfl, htold⟩ := ih hkept he.2 hover
      exact ⟨e :: earlier, rest, rfl, htold⟩

/-- A wait that has just been made hears of everything from its first poll on. -/
lemma resolves_of_unpolled (hs : s.waits.get? name = some none) : s.Resolves name where
  ready_iff later he answer hanswer := by
    rw [ready_iff_of_unpolled hs he hanswer]
  silent later he hcalm answer hanswer := by
    rw [ready_iff_of_unpolled hs he hanswer, Bool.eq_false_iff]
    intro hrequested
    rw [requested_of_requestedSincePoll hrequested] at hcalm
    cases hcalm
  told later he hover := by
    refine exists_poll_of_over ?_ he hover
    rw [hs]
    exact Option.some_ne_none none

/-! ### Whoever is reached -/

/-- Whatever was done before, a receiver hears of every request that comes after it was made, and a
wait of every request that comes after its first poll. -/
theorem reaches_listeners (before : List Event) (handle : Nat)
    (hhandle : handle < (run {} before).handles) (listener : Nat) :
    (run {} (before ++ [.subscribe handle listener])).Receives listener ∧
      (run {} (before ++ [.wait handle listener])).Resolves listener := by
  constructor
  · rw [run_append, run_cons, run_nil, step, if_pos hhandle]
    apply receives_of_caughtUp
    rw [subscribe, Table.get?_put, if_pos rfl]
  · rw [run_append, run_cons, run_nil, step, if_pos hhandle]
    apply resolves_of_unpolled
    rw [wait, Table.get?_put, if_pos rfl]

/-- A receiver of the second handle that is slow, and a wait of it that is polled in time. -/
theorem reaches_listeners_of_clone :
    1 < (run {} [.clone 0]).handles ∧
      (∃ signal, ((run {} [.clone 0, .subscribe 1 7, .trigger 0, .trigger 1]).receive 7).1 =
        some signal ∧ signal.tellsStop = true) ∧
      ((run {} [.clone 0, .wait 1 7, .poll 7, .keep 1, .trigger 0]).poll 7).1.isSome = true ∧
      ∀ answer, ((run {} [.clone 0, .wait 1 7, .poll 7, .keep 1, .trigger 0]).poll 7).1 =
        some answer → answer = true := by
  have hhandle : 1 < (run {} [.clone 0]).handles := by decide
  obtain ⟨hreceives, hresolves⟩ := reaches_listeners [.clone 0] 1 hhandle 7
  refine ⟨hhandle, ?_, by decide, ?_⟩
  · exact hreceives.heard [] [.trigger 0, .trigger 1] (by decide) (by decide) (by decide)
  · intro answer hanswer
    apply (hresolves.ready_iff [.poll 7, .keep 1, .trigger 0] (by decide) answer hanswer).mpr
    decide

/-- A wait that is made before a request and polled after it goes on waiting. -/
theorem unheard_request :
    ((run {} [.wait 0 1]).waits.get? 1).isSome = true ∧
      (run {} [.wait 0 1]).requested [.trigger 0] = true ∧
      ((run {} [.wait 0 1, .trigger 0]).poll 1).1 = some false := by
  decide

end Shutdown

end Switchboard
