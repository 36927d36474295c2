import Switchboard.Address.Resolve
import Switchboard.Connection.Identity

/-!
# Requests and their candidates

An outbound connection is asked for with a host and a service, which a resolver turns into a list of
candidate endpoints. They are tried in order, each entry once, until one attempt succeeds;
duplicates are tried again. `connectBlocking` does so in one go. `Walk` is the same search cut at
its waiting points: it is started with the list, and resumed with each attempt's result;
`connectStepwise` drives it to the end. An attempt may depend on how many attempts went before it.
-/

namespace Switchboard.Connect

/-- What a caller asks of an outbound connection. -/
structure Request where
  /-- The host to reach. -/
  host : String
  /-- A decimal port or a well-known service name. -/
  service : String
  /-- Whether the caller waits for the outcome. -/
  sync : Bool := false
  /-- The caller's own token, handed back with the outcome. -/
  identity : Identity := ⟨0⟩
  /-- The local address to bind; empty for any. -/
  bindIp : String := ""
  /-- The local port to bind; 0 for any. -/
  bindPort : Port := 0
  deriving DecidableEq, Repr

/-- The request for a host and a numeric port. -/
def Request.toPort (host : String) (port : Port) : Request :=
  { host, service := Numeral.decimal port.toNat }

/-- How a search along candidates ended. -/
inductive Outcome (α : Type) where
  /-- The first successful attempt, with the endpoint it reached. -/
  | connected (value : α) (endpoint : Endpoint)
  /-- Every attempt failed. -/
  | exhausted (attempts : Nat) (lastError : SystemError)
  deriving DecidableEq, Repr

/-- What an empty list of candidates reports. -/
def noCandidates : SystemError := .described .addrNotAvailable "no candidate addresses"

/-- Tries candidates when `made` attempts went before and the last of them failed with `last`.
The result names the endpoints that were tried, in order. -/
def tryFrom {α : Type} (attempt : Nat → Endpoint → Except SystemError α) (made : Nat)
    (last : SystemError) : List Endpoint → Outcome α × List Endpoint
  | [] => (.exhausted made last, [])
  | e :: rest =>
    match attempt made e with
    | .ok value => (.connected value e, [e])
    | .error error =>
      let (outcome, tried) := tryFrom attempt (made + 1) error rest
      (outcome, e :: tried)

/-- Tries the candidates one after the other without interruption. -/
def connectBlocking {α : Type} (attempt : Nat → Endpoint → Except SystemError α)
    (candidates : List Endpoint) : Outcome α × List Endpoint :=
  tryFrom attempt 0 noCandidates candidates

/-- A failed attempt as the log shows it. -/
structure FailedAttempt where
  /-- The endpoint that was tried. -/
  endpoint : Endpoint
  /-- The number of this attempt, from 1 on. -/
  number : Nat
  /-- How many candidates are left. -/
  remaining : Nat
  deriving DecidableEq, Repr

/-- A search along candidates between two attempts. -/
inductive Walk (α : Type) where
  /-- `current` is being tried; `made` attempts failed before it and `rest` comes after it. -/
  | trying (total made : Nat) (current : Endpoint) (rest : List Endpoint)
  /-- The search is over. -/
  | done (outcome : Outcome α)
  deriving DecidableEq, Repr

namespace Walk

variable {α : Type}

/-- The search among `total` candidates of which `rest` are still to be tried. -/
def proceed (total made : Nat) (last : SystemError) : List Endpoint → Walk α
  | [] => done (.exhausted made last)
  | e :: rest => trying total made e rest

/-- The start of a search. -/
def start (candidates : List Endpoint) : Walk α :=
  proceed candidates.length 0 noCandidates candidates

/-- Takes in the result of the current attempt; a search that is over stays as it is. -/
def resume (w : Walk α) (result : Except SystemError α) : Walk α × Option FailedAttempt :=
  match w with
  | trying total made e rest =>
    match result with
    | .ok value => (done (.connected value e), none)
    | .error error =>
      (proceed total (made + 1) error rest, some ⟨e, made + 1, total - (made + 1)⟩)
  | done outcome => (done outcome, none)

/-- Drives a search with at most `fuel` attempts to its end; the failed attempts come with it. -/
def drive (attempt : Nat → Endpoint → Except SystemError α) :
    Nat → Walk α → Walk α × List Endpoint × List FailedAttempt
  | 0, w => (w, [], [])
  | fuel + 1, w =>
    match w with
    | done outcome => (done outcome, [], [])
    | trying total made e rest =>
      let (next, failure) := (trying total made e rest).resume (attempt made e)
      let (last, tried, failures) := drive attempt fuel next
      (last, e :: tried, failure.toList ++ failures)

end Walk

/-- Tries the candidates through a search that is resumed attempt by attempt. -/
def connectStepwise {α : Type} (attempt : Nat → Endpoint → Except SystemError α)
    (candidates : List Endpoint) : Outcome α × List Endpoint :=
  match Walk.drive attempt candidates.length (Walk.start candidates) with
  | (.done outcome, tried, _) => (outcome, tried)
  | (.trying _ made _ _, tried, _) => (.exhausted made noCandidates, tried)

end Switchboard.Connect
