import Switchboard.Address.Endpoint
import Switchboard.Fault.System

/-!
# Faults of the network layer

What the managers, the pool and the certificate loaders report. Every fault has a text; its code is
the system's error number where a failed system call is at the bottom of it, and 1 otherwise.
-/

namespace Switchboard

/-- The side of an encrypted connection that a certificate speaks for. -/
inductive CertificateRole where
  | server
  | client
  deriving DecidableEq, Repr

namespace CertificateRole

/-- The name of a role. -/
def name : CertificateRole → String
  | server => "server"
  | client => "client"

end CertificateRole

/-- The reasons for which an operation of the library is refused or fails. -/
inductive NetworkError where
  /-- An argument or a configuration is not acceptable. -/
  | config (message : String)
  /-- Something is started that already runs. -/
  | alreadyInitialized
  /-- Something is used that was not started. -/
  | notInitialized
  /-- A system call failed. -/
  | io (source : SystemError)
  /-- A listening socket could not be opened on an endpoint. -/
  | bind (endpoint : Endpoint) (source : SystemError)
  /-- A host and service could not be turned into endpoints. -/
  | resolve (host service : String) (source : SystemError)
  /-- Every endpoint of a host and service was tried in vain. -/
  | connect (host service : String) (attempts : Nat) (source : SystemError)
  /-- Encryption could not be set up. -/
  | tls (message : String)
  /-- A certificate, key or trust anchor is unusable. -/
  | certificate (role : CertificateRole) (message : String)
  /-- None of the configured ports could be opened. -/
  | noListener
  deriving DecidableEq, Repr

namespace NetworkError

/-- The name of the kind of a fault. -/
def name : NetworkError → String
  | config _ => "Config"
  | alreadyInitialized => "AlreadyInitialized"
  | notInitialized => "NotInitialized"
  | io _ => "Io"
  | bind _ _ => "Bind"
  | resolve _ _ _ => "Resolve"
  | connect _ _ _ _ => "Connect"
  | tls _ => "Tls"
  | certificate _ _ => "Certificate"
  | noListener => "NoListener"

/-- The failed system call at the bottom of a fault. -/
def source? : NetworkError → Option SystemError
  | io e | bind _ e | resolve _ _ e | connect _ _ _ e => some e
  | _ => none

/-- The number reported to services. -/
def code (e : NetworkError) : Nat := (e.source?.map SystemError.code).getD 1

/-- What a fault says. -/
def message : NetworkError → String
  | config m => "Configuration error: " ++ m
  | alreadyInitialized => "already initialized"
  | notInitialized => "not initialized"
  | io e => "I/O error: " ++ e.message
  | bind at_ e => "failed to bind " ++ at_.print ++ ": " ++ e.message
  | resolve host service e => "failed to resolve " ++ host ++ ":" ++ service ++ ": " ++ e.message
  | connect host service attempts e =>
    "connect to " ++ host ++ ":" ++ service ++ " failed after " ++ Numeral.decimal attempts ++
      " attempt(s): " ++ e.message
  | tls m => "TLS error: " ++ m
  | certificate role m => role.name ++ " certificate error: " ++ m
  | noListener => "no listener could be started"

end NetworkError

end Switchboard
