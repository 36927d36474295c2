import Switchboard.Proofs.Connect.Retrying
import Switchboard.Proofs.Connect.Waiting

/-!
# The code of a failed request

A caller that waits and is refused can ask for the code of what went wrong.  What went wrong is a
`Connect.Cause`: the resolver failed, or every candidate was tried in vain.  The fault of a resolver
is handed to the caller as it is, with the system's number in it.  That of the last attempt is also
told to the service, so the caller is given a copy of it, and the copy has its class and its text
but not its number: whatever the system said, the code is 1 (`Connect.Codes`).
-/

namespace Switchboard

namespace Connect

variable {α : Type} {resolution : Except SystemError (List Endpoint)}
  {attempt : Nat → Endpoint → Except SystemError α} {request : Request}
  {answer : Except NetworkError Unit} {candidates : List Endpoint} {e e' : SystemError}

/-! ### Candidates tried in vain -/

/-- Where all candidates were tried in vain, none can be connected to. -/
lemma Vain.not_reachable (vain : Vain attempt candidates e) : ¬Reachable attempt candidates := by
  intro hreachable
  obtain ⟨value, endpoint, hconnected⟩ := (connected_iff candidates).mpr hreachable
  have hexhausted := (Ends.exhausted vain).connectBlocking_eq
  rw [hexhausted] at hconnected
  cases hconnected

/-- Where none can be connected to, all can be tried in vain. -/
lemma vain_of_not_reachable (h : ¬Reachable attempt candidates) :
    ∃ e, Vain attempt candidates e := by
  induction candidates using List.reverseRecOn with
  | nil => exact ⟨noCandidates, .nothing⟩
  | append_singleton front endpoint ih =>
    have hfront : ¬Reachable attempt front := by
      rintro ⟨i, candidate, value, hi, hvalue⟩
      have hlt := (List.getElem?_eq_some_iff.mp hi).1
      exact h ⟨i, candidate, value, (List.getElem?_append_left hlt).trans hi, hvalue⟩
    obtain ⟨last, vain⟩ := ih hfront
    cases hattempt : attempt front.length endpoint with
    | error e => exact ⟨e, vain.more hattempt⟩
    | ok value => exact absurd ⟨front.length, endpoint, value, by simp, hattempt⟩ h

/-- The error of a search that was in vain is that of its last attempt. -/
lemma Vain.eq_of_last (vain : Vain attempt candidates e)
    (hnone : candidates = [] → e' = noCandidates)
    (hlast : ∀ endpoint, candidates.getLast? = some endpoint →
      attempt (candidates.length - 1) endpoint = .error e') : e' = e := by
  cases vain with
  | nothing => exact hnone rfl
  | @more front last before endpoint error failed =>
    have hend := hlast endpoint List.getLast?_concat
    rw [List.length_append, List.length_singleton, Nat.add_sub_cancel, failed] at hend
    exact (Except.error.inj hend).symm

/-! ### What goes wrong, and what is told of it -/

/-- What goes wrong with a request that a caller waits for. -/
inductive Cause (resolution : Except SystemError (List Endpoint))
    (attempt : Nat → Endpoint → Except SystemError α) : SystemError → Prop where
  /-- The resolver fails. -/
  | unresolved {e : SystemError} (failed : resolution = .error e) : Cause resolution attempt e
  /-- All candidates are tried in vain, and the last attempt fails so. -/
  | unreached {candidates : List Endpoint} {e : SystemError}
      (resolved : resolution = .ok candidates) (vain : Vain attempt candidates e) :
      Cause resolution attempt e

/-- What a caller that waits learns of what went wrong, and which code goes with it. -/
structure Codes (resolution : Except SystemError (List Endpoint))
    (attempt : Nat → Endpoint → Except SystemError α) (request : Request)
    (answer : Except NetworkError Unit) : Prop where
  /-- The caller is told of an error exactly if something went wrong. -/
  failed : answer ≠ .ok () ↔ ∃ cause, Cause resolution attempt cause
  /-- The fault of the resolver is told as it is. -/
  unresolved : ∀ {cause}, resolution = .error cause →
    answer = .error (.resolve request.host request.service cause)
  /-- That of the last attempt is told without its number. -/
  unreached : ∀ {candidates cause}, resolution = .ok candidates → Vain attempt candidates cause →
    answer = .error (.connect request.host request.service candidates.length cause.summarized)
  /-- In both cases its class and its text are told. -/
  described : ∀ {error cause}, answer = .error error → Cause resolution attempt cause →
    ∃ source, error.source? = some source ∧ source.kind = cause.kind ∧
      source.message = cause.message
  /-- The code of the error is the system's number if the resolver failed with one, and else 1. -/
  code : ∀ {error cause}, answer = .error error → Cause resolution attempt cause →
    error.code = if resolution = .error cause then cause.code else 1
  /-- So it is the code of what went wrong exactly if the resolver failed or that code is 1 too. -/
  kept : ∀ {error cause}, answer = .error error → Cause resolution attempt cause →
    (error.code = cause.code ↔ (∃ e, resolution = .error e) ∨ cause.code = 1)

/-- A caller that is told what came of its request learns these codes. -/
lemma Reply.codes {tried : List Endpoint} (h : Reply resolution attempt request answer tried) :
    Codes resolution attempt request answer := by
  have hunreached {candidates : List Endpoint} {cause : SystemError}
      (hresolution : resolution = .ok candidates) (vain : Vain attempt candidates cause) :
      answer =
        .error (.connect request.host request.service candidates.length cause.summarized) := by
    obtain ⟨htried, e, hanswer, hnone, hlast⟩ := h.unreached hresolution vain.not_reachable
    rw [hanswer, htried, vain.eq_of_last hnone hlast]
  have hcode {error : NetworkError} {cause : SystemError} (hanswer : answer = .error error)
      (hcause : Cause resolution attempt cause) :
      error.code = if resolution = .error cause then cause.code else 1 := by
    cases hcause with
    | unresolved hresolution =>
      obtain rfl := Except.error.inj (hanswer.symm.trans (h.unresolved hresolution).1)
      rw [if_pos hresolution]
      rfl
    | unreached hresolution vain =>
      obtain rfl := Except.error.inj (hanswer.symm.trans (hunreached hresolution vain))
      rw [if_neg (by simp [hresolution])]
      rfl
  refine ⟨h.error_iff.trans ⟨?_, ?_⟩, fun hresolution => (h.unresolved hresolution).1, hunreached,
    fun hanswer hcause => ?_, hcode, fun hanswer hcause => ?_⟩
  · rintro (⟨e, hresolution⟩ | ⟨candidates, hresolution, hvain⟩)
    · exact ⟨e, .unresolved hresolution⟩
    · obtain ⟨e, vain⟩ := vain_of_not_reachable hvain
      exact ⟨e, .unreached hresolution vain⟩
  · rintro ⟨cause, hresolution | ⟨hresolution, vain⟩⟩
    · exact .inl ⟨cause, hresolution⟩
    · exact .inr ⟨_, hresolution, vain.not_reachable⟩
  · cases hcause with
    | unresolved hresolution =>
      obtain rfl := Except.error.inj (hanswer.symm.trans (h.unresolved hresolution).1)
      exact ⟨_, rfl, rfl, rfl⟩
    | unreached hresolution vain =>
      obtain rfl := Except.error.inj (hanswer.symm.trans (hunreached hresolution vain))
      exact ⟨_, rfl, rfl, rfl⟩
  · rw [hcode hanswer hcause]
    cases hcause with
    | unresolved hresolution => simp [hresolution]
    | unreached hresolution vain => simp [hresolution, eq_comm]

/-- A request that is not tried at all: no failed call is at the bottom of the answer. -/
structure Untried (answer : Except NetworkError Unit) (tried : List Endpoint) : Prop where
  /-- The manager does not run, or the local end is not valid. -/
  refused : answer = .error .notInitialized ∨ ∃ text, answer = .error (.config text)
  /-- Nothing is tried. -/
  nothing : tried = []

/-- The code of a request that is not tried is 1. -/
lemma Untried.code {tried : List Endpoint} (h : Untried answer tried) {error : NetworkError}
    (hanswer : answer = .error error) : error.source? = none ∧ error.code = 1 := by
  obtain hrefused | ⟨text, hrefused⟩ := h.refused
  · obtain rfl := Except.error.inj (hanswer.symm.trans hrefused)
    exact ⟨rfl, rfl⟩
  · obtain rfl := Except.error.inj (hanswer.symm.trans hrefused)
    exact ⟨rfl, rfl⟩

/-- A request without a valid local end is not tried. -/
lemma untried_of_invalid {ip : String} {port : Port} {e : NetworkError}
    (hbind : bindEndpoint ip port = .error e) : Untried (.error e) [] := by
  unfold bindEndpoint at hbind
  dsimp only at hbind
  split at hbind
  · obtain rfl := Except.error.inj hbind
    exact ⟨.inr ⟨_, rfl⟩, rfl⟩
  · split at hbind <;> cases hbind

end Connect

/-! ### Both kinds of managers -/

namespace Tcp.Manager

variable {m : Manager} {journey : Journey} {id : ConnectionId} {request : Connect.Request}

/-- A caller that waits is refused before anything is tried, or learns what came of its request. -/
lemma untried_or_codes (hsync : request.sync = true) :
    Connect.Untried (m.createConnection journey id request).1.answer
        (m.createConnection journey id request).1.passage.tried ∨
      ∃ bind, bindEndpoint request.bindIp request.bindPort = .ok bind ∧
        Connect.Codes (journey.resolver request.host request.service) (journey.attempt bind) request
          (m.createConnection journey id request).1.answer := by
  unfold createConnection
  cases m.engine with
  | none => exact .inl ⟨.inl rfl, rfl⟩
  | some engine =>
    cases hbind : bindEndpoint request.bindIp request.bindPort with
    | error e => exact .inl (Connect.untried_of_invalid hbind)
    | ok bind =>
      dsimp only
      rcases m.pool.next engine.loops with ⟨_ | eventLoop, pool⟩
      · exact .inl ⟨.inl rfl, rfl⟩
      · have hreply := engine.reply_attend journey id request bind
        refine .inr ⟨bind, rfl, ?_⟩
        -- a loop that was stopped loses what is left to it, but not the answer
        simp only [hsync, if_true]
        split <;> exact hreply.codes

/-- If the manager is ready, a valid local end is all that it takes. -/
lemma Ready.codes (h : m.Ready) (hsync : request.sync = true) {bind : Option Endpoint}
    (hbind : bindEndpoint request.bindIp request.bindPort = .ok bind) :
    Connect.Codes (journey.resolver request.host request.service) (journey.attempt bind) request
      (m.createConnection journey id request).1.answer := by
  obtain ⟨engine, hengine, hruns⟩ := h
  rw [createConnection_eq_of_ready hengine hruns journey id hbind, hsync]
  exact (engine.reply_attend journey id request bind).codes

end Tcp.Manager

namespace Udp.Manager

variable {m : Manager} {journey : Journey} {id : ConnectionId} {request : Connect.Request}

/-- A caller that waits is refused before anything is tried, or learns what came of its request. -/
lemma untried_or_codes (hsync : request.sync = true) :
    Connect.Untried (m.createConnection journey id request).1.answer
        (m.createConnection journey id request).1.passage.tried ∨
      ∃ bind, bindEndpoint request.bindIp request.bindPort = .ok bind ∧
        Connect.Codes (journey.resolver request.host request.service) (journey.tryCandidate bind)
          request (m.createConnection journey id request).1.answer := by
  unfold createConnection
  cases m.engine with
  | none => exact .inl ⟨.inl rfl, rfl⟩
  | some engine =>
    cases hbind : bindEndpoint request.bindIp request.bindPort with
    | error e => exact .inl (Connect.untried_of_invalid hbind)
    | ok bind =>
      dsimp only
      rcases m.pool.next engine.loops with ⟨_ | eventLoop, pool⟩
      · exact .inl ⟨.inl rfl, rfl⟩
      · have hreply := engine.reply_attend journey id request bind
        refine .inr ⟨bind, rfl, ?_⟩
        simp only [hsync, if_true]
        split <;> exact hreply.codes

/-- If the manager is ready, a valid local end is all that it takes. -/
lemma Ready.codes (h : m.Ready) (hsync : request.sync = true) {bind : Option Endpoint}
    (hbind : bindEndpoint request.bindIp request.bindPort = .ok bind) :
    Connect.Codes (journey.resolver request.host request.service) (journey.tryCandidate bind)
      request (m.createConnection journey id request).1.answer := by
  obtain ⟨engine, hengine, hruns⟩ := h
  rw [createConnection_eq_of_ready hengine hruns journey id hbind, hsync]
  exact (engine.reply_attend journey id request bind).codes

end Udp.Manager

/-- **The number of a resolver's fault reaches the caller, that of a refused socket does not.**  For
every manager, whatever the resolver and the attempts answer, a caller that waits and is told of an
error is refused before anything is tried, and the code is 1 with no failed call beneath it, or its
local end is valid and it learns the codes of `Connect.Codes`: the error has the class and the text
of what went wrong, and its code is the system's number if the resolver failed with one, but 1 if
all candidates were tried in vain, with whatever number the last of them failed.  A manager that is
ready refuses no valid local end. -/
theorem Connect.codes_while_waiting (request : Request) (hsync : request.sync = true)
    (id : ConnectionId) :
    (∀ (m : Tcp.Manager) (journey : Tcp.Journey),
        let outcome := (m.createConnection journey id request).1
        let codes bind :=
          Codes (journey.resolver request.host request.service) (journey.attempt bind) request
            outcome.answer
        (∀ error, outcome.answer = .error error →
          outcome.passage.tried = [] ∧ error.source? = none ∧ error.code = 1 ∨
            ∃ bind, bindEndpoint request.bindIp request.bindPort = .ok bind ∧ codes bind) ∧
        ∀ bind, m.Ready → bindEndpoint request.bindIp request.bindPort = .ok bind → codes bind) ∧
      ∀ (m : Udp.Manager) (journey : Udp.Journey),
        let outcome := (m.createConnection journey id request).1
        let codes bind :=
          Codes (journey.resolver request.host request.service) (journey.tryCandidate bind) request
            outcome.answer
        (∀ error, outcome.answer = .error error →
          outcome.passage.tried = [] ∧ error.source? = none ∧ error.code = 1 ∨
            ∃ bind, bindEndpoint request.bindIp request.bindPort = .ok bind ∧ codes bind) ∧
        ∀ bind, m.Ready → bindEndpoint request.bindIp request.bindPort = .ok bind → codes bind := by
  constructor
  · intro m journey outcome codes
    refine ⟨fun error hanswer => ?_, fun bind hready hbind => hready.codes hsync hbind⟩
    obtain huntried | hcodes := Tcp.Manager.untried_or_codes hsync
    · exact .inl ⟨huntried.nothing, huntried.code hanswer⟩
    · exact .inr hcodes
  · intro m journey outcome codes
    refine ⟨fun error hanswer => ?_, fun bind hready hbind => hready.codes hsync hbind⟩
    obtain huntried | hcodes := Udp.Manager.untried_or_codes hsync
    · exact .inl ⟨huntried.nothing, huntried.code hanswer⟩
    · exact .inr hcodes

/-- A host whose only endpoint is on a network that cannot be reached. -/
def Tcp.Journey.offline : Tcp.Journey where
  resolver _ _ := .ok [⟨.v4 0x0a000001, 80⟩]
  attempt _ _ _ := .error (.os 101)
  ends := .error (.os 107)

/-- A started manager of streams cannot reach a host and tells of that with code 1, and one of
datagrams cannot resolve a host and tells of that with the system's number. -/
theorem Connect.codes_while_waiting_offline :
    let request : Request := { host := "here", service := "80", sync := true, identity := ⟨7⟩ }
    let streams := ({} : Tcp.Manager).init .bare { threadCount := 1 } ()
    let datagrams := ({} : Udp.Manager).init .bare { threadCount := 1 } ()
    request.sync = true ∧ streams.2.1.Ready ∧ datagrams.2.1.Ready ∧
      bindEndpoint request.bindIp request.bindPort = .ok none ∧
      Vain (Tcp.Journey.offline.attempt none) [⟨.v4 0x0a000001, 80⟩] (.os 101) ∧
      (streams.2.1.createConnection .offline ⟨1⟩ request).1.answer =
        .error (.connect "here" "80" 1 (SystemError.os 101).summarized) ∧
      (datagrams.2.1.createConnection .astray ⟨1⟩ request).1.answer =
        .error (.resolve "here" "80" (.os 2)) := by
  intro request streams datagrams
  have hready : streams.2.1.Ready := Tcp.Manager.ready_of_init {} .bare _ () (by decide +kernel)
  have hready' : datagrams.2.1.Ready := Udp.Manager.ready_of_init {} .bare _ () (by decide +kernel)
  have hbind : bindEndpoint request.bindIp request.bindPort = .ok none := by decide +kernel
  have hvain : Vain (Tcp.Journey.offline.attempt none) [⟨.v4 0x0a000001, 80⟩] (.os 101) :=
    .more .nothing rfl
  obtain ⟨htcp, hudp⟩ := Connect.codes_while_waiting request rfl ⟨1⟩
  refine ⟨rfl, hready, hready', hbind, hvain, ?_, ?_⟩
  · exact ((htcp streams.2.1 .offline).2 none hready hbind).unreached rfl hvain
  · exact ((hudp datagrams.2.1 .astray).2 none hready' hbind).unresolved rfl

/-- The system refuses the only candidate with the number 101, and the caller is told the code 1. -/
theorem Connect.code_of_refusal_lost :
    let request : Request :=
      { host := "backend.test", service := "80", sync := true, identity := ⟨7⟩ }
    let m := (({} : Tcp.Manager).init .bare { threadCount := 1 } ()).2.1
    Cause (Tcp.Journey.offline.resolver request.host request.service)
        (Tcp.Journey.offline.attempt none) (.os 101) ∧
      ∃ error, (m.createConnection .offline ⟨1⟩ request).1.answer = .error error ∧
        error.code = 1 ∧ error.code ≠ (SystemError.os 101).code := by
  intro request m
  refine ⟨.unreached rfl (.more .nothing rfl),
    .connect "backend.test" "80" 1 (SystemError.os 101).summarized, ?_, rfl, by decide⟩
  decide +kernel

end Switchboard
