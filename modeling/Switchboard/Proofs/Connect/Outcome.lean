import Switchboard.Proofs.Connect.Candidates
import Switchboard.Proofs.History

/-!
# The outcome of a request for a connection

A request for an outbound connection can fail in many places, some of them in the time of the caller
and some on a loop.  Whatever happens, the service is told of one outcome: `Connect.Answered` says
which calls that are, in terms of what the resolver found, whether a candidate was reached
(`Connect.Reached`), whether the connection could be secured, and whether the socket could still
tell its ends.  There are five ways to get there, and one lemma for each (`Answered.ofUnresolved`,
`ofUnreached`, `ofUnsecured`, `ofLost`, `ofConnected`).
-/

namespace Switchboard

namespace Connect

/-! ### Whether a candidate is reached -/

/-- Some candidate is connected to when its turn comes, and the socket is taken over. -/
def Reached {α : Type} (resolution : Except SystemError (List Endpoint))
    (attempt : Nat → Endpoint → Except SystemError α) (taken : Prop) : Prop :=
  ∃ candidates, resolution = .ok candidates ∧ Reachable attempt candidates ∧ taken

section Reached

variable {α : Type} {resolution : Except SystemError (List Endpoint)}
  {attempt : Nat → Endpoint → Except SystemError α} {taken : Prop}
  {candidates tried : List Endpoint}

lemma not_reached_of_unresolved {e : SystemError} (hresolution : resolution = .error e) :
    ¬Reached resolution attempt taken := by
  rintro ⟨candidates, hok, -⟩
  rw [hresolution] at hok
  cases hok

lemma not_reached_of_exhausted {attempts : Nat} {e : SystemError}
    (hresolution : resolution = .ok candidates)
    (hsearch : connectBlocking attempt candidates = (.exhausted attempts e, tried)) :
    ¬Reached resolution attempt taken := by
  rintro ⟨candidates', hok, hreachable, -⟩
  rw [hresolution] at hok
  cases hok
  obtain ⟨value, endpoint, hconnected⟩ := (connected_iff candidates).mpr hreachable
  rw [hsearch] at hconnected
  cases hconnected

lemma reached_of_connected {value : α} {endpoint : Endpoint}
    (hresolution : resolution = .ok candidates)
    (hsearch : connectBlocking attempt candidates = (.connected value endpoint, tried))
    (htaken : taken) : Reached resolution attempt taken :=
  ⟨candidates, hresolution,
    (connected_iff candidates).mp ⟨value, endpoint, congrArg Prod.fst hsearch⟩, htaken⟩

end Reached

/-! ### What the service is told -/

variable {δ : Type}

/-- What the service is told of a request, and the driver there is for it, given what came of
resolving its host, whether a candidate was reached, what was wrong with securing the connection,
and whether its socket tells its ends.  `later d` are the calls that a driver `d` can still make. -/
structure Answered (later : δ → Callback → Prop) (id : ConnectionId) (identity : Identity)
    (resolution : Except SystemError (List Endpoint)) (reached : Prop)
    (fault : Option (Nat × String)) (reported : Prop) (driver : Option δ)
    (calls : List Callback) : Prop where
  /-- A host that cannot be resolved is an error and no connection. -/
  unresolved : ∀ {e}, resolution = .error e →
    calls = [.error "connection" "resolve" e.code e.message, .connect none identity]
  /-- A connection that cannot be secured is an error only. -/
  unsecured : ∀ {code message}, reached → fault = some (code, message) →
    calls = [.error "connection" "handshake" code message]
  /-- Else the one call tells of the connection, or that there is none. -/
  settled : ∀ {candidates}, resolution = .ok candidates → ¬(reached ∧ fault ≠ none) →
    ∃ connection, calls = [.connect connection identity] ∧
      (connection = some id ∧ reached ∧ reported ∨ connection = none ∧ ¬(reached ∧ reported))
  /-- There is a connection exactly if nothing failed. -/
  connected : .connect (some id) identity ∈ calls ↔ reached ∧ fault = none ∧ reported
  /-- There is a driver exactly if there is a connection. -/
  driven : driver.isSome = true ↔ reached ∧ fault = none ∧ reported
  /-- The driver only tells of data and of the end after that. -/
  quiet : ∀ {d call}, driver = some d → later d call → call.tells id ∨ call = .close id .closed

namespace Answered

variable {later : δ → Callback → Prop} {id : ConnectionId} {identity : Identity}
  {candidates : List Endpoint} {reached reported : Prop}

/-- The host could not be resolved. -/
lemma ofUnresolved {e : SystemError} {fault : Option (Nat × String)} (hreached : ¬reached) :
    Answered later id identity (.error e) reached fault reported none
      [.error "connection" "resolve" e.code e.message, .connect none identity] where
  unresolved he := by
    cases he
    rfl
  unsecured hcandidate := absurd hcandidate hreached
  settled hresolution := by cases hresolution
  connected := by simp [hreached]
  driven := by simp [hreached]
  quiet hd := by cases hd

/-- No candidate was reached. -/
lemma ofUnreached {fault : Option (Nat × String)} (hreached : ¬reached) :
    Answered later id identity (.ok candidates) reached fault reported none
      [.connect none identity] where
  unresolved he := by cases he
  unsecured hcandidate := absurd hcandidate hreached
  settled _ _ := ⟨none, rfl, .inr ⟨rfl, fun hboth => hreached hboth.1⟩⟩
  connected := by simp [hreached]
  driven := by simp [hreached]
  quiet hd := by cases hd

/-- The connection could not be secured. -/
lemma ofUnsecured {code : Nat} {message : String} (hreached : reached) :
    Answered later id identity (.ok candidates) reached (some (code, message)) reported none
      [.error "connection" "handshake" code message] where
  unresolved he := by cases he
  unsecured _ hfault := by
    cases hfault
    rfl
  settled _ hsecured := absurd ⟨hreached, Option.some_ne_none _⟩ hsecured
  connected := by simp
  driven := by simp
  quiet hd := by cases hd

/-- The socket was lost before the connection was established. -/
lemma ofLost (hlost : ¬reported) :
    Answered later id identity (.ok candidates) reached none reported none
      [.connect none identity] where
  unresolved he := by cases he
  unsecured _ hfault := by cases hfault
  settled _ _ := ⟨none, rfl, .inr ⟨rfl, fun hboth => hlost hboth.2⟩⟩
  connected := by simp [hlost]
  driven := by simp [hlost]
  quiet hd := by cases hd

/-- There is a connection. -/
lemma ofConnected {d : δ} (hreached : reached) (hreported : reported)
    (hlater : ∀ call, later d call → call.tells id ∨ call = .close id .closed) :
    Answered later id identity (.ok candidates) reached none reported (some d)
      [.connect (some id) identity] where
  unresolved he := by cases he
  unsecured _ hfault := by cases hfault
  settled _ _ := ⟨some id, rfl, .inl ⟨rfl, hreached, hreported⟩⟩
  connected := by simp [hreached, hreported]
  driven := by simp [hreached, hreported]
  quiet hd hcall := by
    cases hd
    exact hlater _ hcall

/-- A connection is told of only if nothing failed, and it is the one that was asked for. -/
lemma of_connect {resolution : Except SystemError (List Endpoint)} {fault : Option (Nat × String)}
    {driver : Option δ} {calls : List Callback}
    (h : Answered later id identity resolution reached fault reported driver calls)
    {connection : ConnectionId} {identity' : Identity}
    (hcall : .connect (some connection) identity' ∈ calls) :
    connection = id ∧ reached ∧ fault = none ∧ reported := by
  have hconnected : connection = id ∧ identity' = identity := by
    cases hresolution : resolution with
    | error e =>
      rw [h.unresolved hresolution] at hcall
      simp at hcall
    | ok candidates =>
      by_cases hfault : reached ∧ fault ≠ none
      · obtain ⟨⟨code, message⟩, hsome⟩ := Option.ne_none_iff_exists'.mp hfault.2
        rw [h.unsecured hfault.1 hsome] at hcall
        simp at hcall
      · obtain ⟨told, hcalls, ⟨rfl, -⟩ | ⟨rfl, -⟩⟩ := h.settled hresolution hfault
        · simpa [hcalls] using hcall
        · simp [hcalls] at hcall
  obtain ⟨rfl, rfl⟩ := hconnected
  exact ⟨rfl, h.connected.mp hcall⟩

end Answered

end Connect

end Switchboard
