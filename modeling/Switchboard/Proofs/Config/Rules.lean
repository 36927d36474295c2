import Mathlib.Data.List.Nodup
import Mathlib.Logic.Function.Basic
import Mathlib.Tactic.Common
import Switchboard.Proofs.Proxy.Listening
import Switchboard.Tls.Material

/-!
# The rules about settings

What is reported of a configuration comes from a fixed list of rules (`Rule.all`), each of which
says of a configuration that it is broken (`Rule.Broken`) and how that is reported (`Rule.report`).
The reports of a configuration are those of its broken rules, in the order of the list
(`Config.reports_broken_rules`), and no two rules are reported alike.

The rules about certificates ask for the fields that the loaders need.  A certificate of a
configuration that breaks no rule may still fail to load, but then something that it names is
unreadable or of no use (`Tls.FailsByContent`): nothing that a loader needs is left out.
-/

namespace Switchboard

/-- The managers, which have some rules in common. -/
inductive ManagerPart where
  /-- That of streams. -/
  | tcp
  /-- That of datagrams. -/
  | udp
  deriving DecidableEq

/-- The rules about settings. -/
inductive Rule where
  /-- A manager has loops. -/
  | loops (part : ManagerPart)
  /-- The host that a manager binds to is an address. -/
  | host (part : ManagerPart)
  /-- A read asks for something. -/
  | chunk
  /-- There may be connections. -/
  | connections
  /-- A server certificate has a chain. -/
  | serverChain
  /-- A server certificate has a key. -/
  | serverKey
  /-- A client certificate with a chain has a key. -/
  | clientKey
  /-- A client certificate with a key has a chain. -/
  | clientChain
  /-- A client certificate with neither has trust anchors. -/
  | clientAnchors
  /-- A datagram has room for something, and fits into a packet. -/
  | datagram
  /-- There is a host to forward to. -/
  | target
  /-- Something may be held for it. -/
  | held
  deriving DecidableEq

namespace Rule

/-- The rules of the stream manager, in the order in which they are checked. -/
def ofTcp : List Rule :=
  [loops .tcp, host .tcp, chunk, connections, serverChain, serverKey, clientKey, clientChain,
    clientAnchors]

/-- The rules of the datagram manager. -/
def ofUdp : List Rule := [loops .udp, host .udp, datagram]

/-- The rules of the forwarding program. -/
def ofProxy : List Rule := [target, held]

/-- All rules. -/
def all : List Rule := ofTcp ++ ofUdp ++ ofProxy

variable (c : Config)

/-- Whether a configuration breaks a rule. -/
def Broken : Rule → Prop
  | loops .tcp => c.tcp.threadCount = 0
  | loops .udp => c.udp.threadCount = 0
  | host .tcp => IpAddress.ofString? c.tcp.bindHost = none
  | host .udp => IpAddress.ofString? c.udp.bindHost = none
  | chunk => c.tcp.chunkSize = 0
  | connections => c.tcp.maxConnections = 0
  | serverChain => ∃ cert ∈ c.tcp.serverCertificate, cert.cert = none
  | serverKey => ∃ cert ∈ c.tcp.serverCertificate, cert.key = none
  | clientKey => ∃ cert ∈ c.tcp.clientCertificate, cert.cert ≠ none ∧ cert.key = none
  | clientChain => ∃ cert ∈ c.tcp.clientCertificate, cert.cert = none ∧ cert.key ≠ none
  | clientAnchors =>
    ∃ cert ∈ c.tcp.clientCertificate, cert.cert = none ∧ cert.key = none ∧ cert.ca = none
  | datagram => ¬(1 ≤ c.udp.maxDatagramSize ∧ c.udp.maxDatagramSize ≤ 65507)
  | target => c.proxy.targetHost = ""
  | held => c.proxy.maxPendingBytes = 0

instance : DecidablePred (Broken c)
  | loops .tcp => inferInstanceAs (Decidable (c.tcp.threadCount = 0))
  | loops .udp => inferInstanceAs (Decidable (c.udp.threadCount = 0))
  | host .tcp => inferInstanceAs (Decidable (IpAddress.ofString? c.tcp.bindHost = none))
  | host .udp => inferInstanceAs (Decidable (IpAddress.ofString? c.udp.bindHost = none))
  | chunk => inferInstanceAs (Decidable (c.tcp.chunkSize = 0))
  | connections => inferInstanceAs (Decidable (c.tcp.maxConnections = 0))
  | serverChain => inferInstanceAs (Decidable (∃ cert ∈ c.tcp.serverCertificate, cert.cert = none))
  | serverKey => inferInstanceAs (Decidable (∃ cert ∈ c.tcp.serverCertificate, cert.key = none))
  | clientKey => inferInstanceAs
      (Decidable (∃ cert ∈ c.tcp.clientCertificate, cert.cert ≠ none ∧ cert.key = none))
  | clientChain => inferInstanceAs
      (Decidable (∃ cert ∈ c.tcp.clientCertificate, cert.cert = none ∧ cert.key ≠ none))
  | clientAnchors => inferInstanceAs
      (Decidable
        (∃ cert ∈ c.tcp.clientCertificate, cert.cert = none ∧ cert.key = none ∧ cert.ca = none))
  | datagram => inferInstanceAs
      (Decidable ¬(1 ≤ c.udp.maxDatagramSize ∧ c.udp.maxDatagramSize ≤ 65507))
  | target => inferInstanceAs (Decidable (c.proxy.targetHost = ""))
  | held => inferInstanceAs (Decidable (c.proxy.maxPendingBytes = 0))

/-- How a broken rule is reported. -/
def report : Rule → Violation
  | loops .tcp => ⟨"tcp.thread_count", Config.notZero⟩
  | loops .udp => ⟨"udp.thread_count", Config.notZero⟩
  | host .tcp => ⟨"tcp.bind_host", "'" ++ c.tcp.bindHost ++ "' is not an IP address"⟩
  | host .udp => ⟨"udp.bind_host", "'" ++ c.udp.bindHost ++ "' is not an IP address"⟩
  | chunk => ⟨"tcp.recv_chunk_size", Config.notZero⟩
  | connections => ⟨"tcp.max_connections", Config.notZero⟩
  | serverChain => ⟨"tcp.server_certificate", "cert is required"⟩
  | serverKey => ⟨"tcp.server_certificate", "key is required"⟩
  | clientKey => ⟨"tcp.client_certificate", "cert given without key"⟩
  | clientChain => ⟨"tcp.client_certificate", "key given without cert"⟩
  | clientAnchors => ⟨"tcp.client_certificate", "needs ca or cert and key"⟩
  | datagram => ⟨"udp.max_datagram_size", "must be between 1 and 65507"⟩
  | target => ⟨"proxy.target_host", "must not be empty"⟩
  | held => ⟨"proxy.max_pending_bytes", Config.notZero⟩

/-- The reports of those of some rules that a configuration breaks. -/
def reports (rules : List Rule) : List Violation :=
  (rules.filter fun r => r.Broken c).map (report c)

lemma reports_append (rules rules' : List Rule) :
    reports c (rules ++ rules') = reports c rules ++ reports c rules' := by
  simp [reports]

/-- A rule that is checked by itself. -/
lemma reports_singleton {broken : Bool} {r : Rule} (h : broken = true ↔ r.Broken c) :
    reports c [r] = Violation.reportIf broken (report c r).field (report c r).message := by
  cases broken with
  | true => simp [reports, h.mp rfl, Violation.reportIf]
  | false =>
    have hholds : ¬r.Broken c := fun hbroken => Bool.false_ne_true (h.mpr hbroken)
    simp [reports, hholds, Violation.reportIf]

/-- Every rule is in the list, once. -/
lemma count_all (r : Rule) : all.count r = 1 := by
  cases r with
  | loops part => cases part <;> decide
  | host part => cases part <;> decide
  | _ => decide

lemma mem_all (r : Rule) : r ∈ all := by
  apply List.count_pos_iff.mp
  rw [count_all]
  exact Nat.one_pos

/-- No two rules are reported alike. -/
lemma report_injective : Function.Injective (report c) := by
  have hdistinct : (all.map (report c)).Nodup := by
    simp [all, ofTcp, ofUdp, ofProxy, report]
  intro r r' h
  exact List.inj_on_of_nodup_map hdistinct (mem_all r) (mem_all r') h

/-! ### The reports of each part -/

/-- The rules about a certificate for accepted connections. -/
lemma reports_server : reports c [serverChain, serverKey] =
    match c.tcp.serverCertificate with
    | some cert => Config.violationsOfServer "tcp.server_certificate" cert
    | none => [] := by
  cases hcert : c.tcp.serverCertificate with
  | none => simp [reports, Broken, hcert]
  | some cert =>
    cases hchain : cert.cert <;> cases hkey : cert.key <;>
      simp [reports, Broken, report, hcert, hchain, hkey, Config.violationsOfServer,
        Violation.reportIf]

/-- The rules about one for outbound connections.  At most one of the three can be broken, since
they tell apart what is given. -/
lemma reports_client : reports c [clientKey, clientChain, clientAnchors] =
    match c.tcp.clientCertificate with
    | some cert => Config.violationsOfClient "tcp.client_certificate" cert
    | none => [] := by
  cases hcert : c.tcp.clientCertificate with
  | none => simp [reports, Broken, hcert]
  | some cert =>
    cases hchain : cert.cert <;> cases hkey : cert.key <;> cases hanchors : cert.ca <;>
      simp [reports, Broken, report, hcert, hchain, hkey, hanchors, Config.violationsOfClient,
        Violation.reportIf]

/-- What is reported of the stream manager's settings. -/
lemma violations_tcp : c.tcp.violations = reports c ofTcp := by
  have hsplit : ofTcp = [loops .tcp] ++ [host .tcp] ++ [chunk] ++ [connections] ++
      [serverChain, serverKey] ++ [clientKey, clientChain, clientAnchors] := rfl
  have hloops : reports c [loops .tcp] = _ := reports_singleton c beq_iff_eq
  have hhost : reports c [host .tcp] = _ := reports_singleton c Option.isNone_iff_eq_none
  have hchunk : reports c [chunk] = _ := reports_singleton c beq_iff_eq
  have hconnections : reports c [connections] = _ := reports_singleton c beq_iff_eq
  simp only [hsplit, reports_append, hloops, hhost, hchunk, hconnections, reports_server,
    reports_client]
  rfl

/-- What is reported of the datagram manager's settings. -/
lemma violations_udp : c.udp.violations = reports c ofUdp := by
  have hsplit : ofUdp = [loops .udp] ++ [host .udp] ++ [datagram] := rfl
  have hloops : reports c [loops .udp] = _ := reports_singleton c beq_iff_eq
  have hhost : reports c [host .udp] = _ := reports_singleton c Option.isNone_iff_eq_none
  have hbounds : (c.udp.maxDatagramSize == 0 ||
      decide (c.udp.maxDatagramSize > maxDatagramPayload)) = true ↔ datagram.Broken c := by
    rw [Bool.or_eq_true, beq_iff_eq, decide_eq_true_iff]
    unfold Broken maxDatagramPayload
    omega
  have hmessage : "must be between 1 and " ++ Numeral.decimal maxDatagramPayload =
      "must be between 1 and 65507" := by decide +kernel
  rw [UdpConfig.violations, hmessage]
  simp only [hsplit, reports_append, hloops, hhost, reports_singleton c hbounds]
  rfl

/-- What is reported of the forwarding program's settings. -/
lemma violations_proxy : c.proxy.violations = reports c ofProxy := by
  have hsplit : ofProxy = [target] ++ [held] := rfl
  have htarget : reports c [target] = _ := reports_singleton c String.isEmpty_iff
  have hheld : reports c [held] = _ := reports_singleton c beq_iff_eq
  simp only [hsplit, reports_append, htarget, hheld]
  rfl

/-- What is reported of all settings. -/
lemma violations_all : c.violations = reports c all := by
  rw [all, reports_append, reports_append, ← violations_tcp, ← violations_udp, ← violations_proxy]
  rfl

/-- Nothing is reported exactly if no rule is broken. -/
lemma reports_all_eq_nil_iff : reports c all = [] ↔ ∀ r : Rule, ¬r.Broken c := by
  rw [reports, List.map_eq_nil_iff, List.filter_eq_nil_iff]
  constructor
  · intro h r hbroken
    exact h r (mem_all r) (decide_eq_true hbroken)
  · intro h r _ hbroken
    exact h r (of_decide_eq_true hbroken)

end Rule

/-! ### Certificates that cannot be loaded -/

namespace Tls

/-- Where loading fails, it is not because something that is needed was left out. -/
def FailsByContent {α : Type} (x : Loading α) : Prop := ∀ e, x = .error e → e.isMissing = false

namespace FailsByContent

variable {α β : Type} {files : Files} {c : Certificate}

lemma ok (a : α) : FailsByContent (.ok a) := fun e h => by cases h

lemma error {e : MaterialError} (h : e.isMissing = false) :
    FailsByContent (.error e : Loading α) := by
  intro e' he
  cases he
  exact h

/-- Steps that fail by content do so one after the other. -/
lemma bind {x : Loading α} {f : α → Loading β} (hx : FailsByContent x)
    (hf : ∀ a, FailsByContent (f a)) : FailsByContent (x >>= f) := by
  cases x with
  | error e => exact .error (hx e rfl)
  | ok a => exact hf a

lemma certificatesIn (what : Ingredient) (file : Bytes) :
    FailsByContent (certificatesIn what file) := by
  unfold Tls.certificatesIn
  split
  · exact .error rfl
  · exact .error rfl
  · exact .ok _

lemma keyIn (file : Bytes) : FailsByContent (keyIn file) := by
  unfold Tls.keyIn
  split
  · exact .error rfl
  · split
    · exact .error rfl
    · exact .error rfl
    · exact .ok _

lemma bytesOf (what : Ingredient) (text : String) :
    FailsByContent (Material.bytesOf files c what text) := by
  unfold Material.bytesOf
  split
  · split
    · exact .ok _
    · exact .error rfl
  · exact .ok _

/-- A chain that is given. -/
lemma chain (hgiven : c.cert ≠ none) : FailsByContent (Material.chain files c) := by
  unfold Material.chain
  split
  · contradiction
  · exact .bind (.bytesOf _ _) fun _ => .certificatesIn _ _

/-- A key that is given. -/
lemma key (hgiven : c.key ≠ none) : FailsByContent (Material.key files c) := by
  unfold Material.key
  split
  · contradiction
  · exact .bind (.bytesOf _ _) fun _ => .keyIn _

lemma usable (anchors : List Bytes) : FailsByContent (Material.usable anchors) := by
  unfold Material.usable
  split
  · exact .error rfl
  · exact .ok _

lemma anchorsIn (text : String) : FailsByContent (Material.anchorsIn files c text) :=
  .bind (.bytesOf _ _) fun _ => .certificatesIn _ _

lemma matching (certificates : List Bytes) (key : Pem.Section) :
    FailsByContent (Material.matching certificates key) := by
  unfold Material.matching
  split
  · exact .error rfl
  · split
    · exact .error rfl
    · split
      · exact .ok _
      · exact .error rfl

/-- A server that is given a chain and a key. -/
lemma server (hchain : c.cert ≠ none) (hkey : c.key ≠ none) :
    FailsByContent (ServerMaterial.load files c) := by
  unfold ServerMaterial.load
  refine .bind (.chain hchain) fun chain => .bind (.key hkey) fun key => ?_
  have hrest (anchors : Option (List Bytes)) : FailsByContent (do
      Material.matching chain key
      return { chain, key, anchors : ServerMaterial }) :=
    .bind (.matching _ _) fun _ => .ok _
  cases c.ca with
  | none => exact hrest none
  | some text =>
    refine .bind ?_ hrest
    exact .bind (.bind (.anchorsIn _) .usable) fun _ => .ok _

/-- A client that is given a chain, or trust anchors in its place.  It loads its own chain and key
only if both are there. -/
lemma client (hgiven : c.cert = none → c.ca ≠ none) :
    FailsByContent (ClientMaterial.load files c) := by
  have hrest (given : List Bytes) : FailsByContent (do
      let anchors ← Material.usable given
      if c.cert.isSome ∧ c.key.isSome then
        let chain ← Material.chain files c
        let key ← Material.key files c
        Material.matching chain key
        return { anchors, own := some (chain, key) : ClientMaterial }
      else return { anchors, own := none }) := by
    refine .bind (.usable given) fun anchors => ?_
    split
    · rename_i hboth
      have hchain : c.cert ≠ none := Option.isSome_iff_ne_none.mp hboth.1
      have hkey : c.key ≠ none := Option.isSome_iff_ne_none.mp hboth.2
      exact .bind (.chain hchain) fun _ => .bind (.key hkey) fun _ =>
        .bind (.matching _ _) fun _ => .ok _
    · exact .ok _
  unfold ClientMaterial.load
  cases hanchors : c.ca with
  | some text => exact .bind (.anchorsIn text) hrest
  | none =>
    refine .bind (.chain ?_) hrest
    intro hchain
    exact hgiven hchain hanchors

end FailsByContent

end Tls

/-! ### Configurations -/

namespace Config

variable {c : Config}

/-- A certificate for accepted connections of which no rule is broken is complete. -/
lemma server_failsByContent (hholds : ∀ r : Rule, ¬r.Broken c) (files : Files) {cert : Certificate}
    (hcert : cert ∈ c.tcp.serverCertificate) :
    Tls.FailsByContent (Tls.ServerMaterial.load files cert) := by
  apply Tls.FailsByContent.server
  · intro hchain
    exact hholds .serverChain ⟨cert, hcert, hchain⟩
  · intro hkey
    exact hholds .serverKey ⟨cert, hcert, hkey⟩

/-- One for outbound connections has trust anchors or a chain that serves for them. -/
lemma client_failsByContent (hholds : ∀ r : Rule, ¬r.Broken c) (files : Files) {cert : Certificate}
    (hcert : cert ∈ c.tcp.clientCertificate) :
    Tls.FailsByContent (Tls.ClientMaterial.load files cert) := by
  apply Tls.FailsByContent.client
  intro hchain hanchors
  by_cases hkey : cert.key = none
  · exact hholds .clientAnchors ⟨cert, hcert, hchain, hkey, hanchors⟩
  · exact hholds .clientChain ⟨cert, hcert, hchain, hkey⟩

/-- A configuration that breaks no rule is accepted as it is. -/
lemma validated_of_holds (hholds : ∀ r : Rule, ¬r.Broken c) : c.validated = .ok c := by
  have hnone : c.violations = [] := by
    rw [Rule.violations_all, Rule.reports_all_eq_nil_iff]
    exact hholds
  rw [validated, hnone]
  rfl

/-- One that breaks a rule is refused with all that is reported of it. -/
lemma validated_of_broken {r : Rule} (hbroken : r.Broken c) :
    c.validated = .error (.invalid c.violations) := by
  have hsome : c.violations ≠ [] := by
    rw [Rule.violations_all]
    intro hnone
    exact (Rule.reports_all_eq_nil_iff c).mp hnone r hbroken
  rw [validated, if_neg fun hempty => hsome (List.isEmpty_iff.mp hempty)]

/-- **Every broken rule is reported, once and in order, and nothing else is.**  The rules of the
stream manager come first, then those of the datagram manager and those about forwarding; every rule
is in that list once, and no two are reported alike.  A configuration is accepted exactly if it
breaks no rule.  If it is accepted, its certificates fail to load only over what they name, and not
because a chain, a key or trust anchors that are needed were left out. -/
theorem reports_broken_rules (c : Config) :
    c.violations = c.tcp.violations ++ c.udp.violations ++ c.proxy.violations ∧
    c.tcp.violations = (Rule.ofTcp.filter fun r => r.Broken c).map (Rule.report c) ∧
    c.udp.violations = (Rule.ofUdp.filter fun r => r.Broken c).map (Rule.report c) ∧
    c.proxy.violations = (Rule.ofProxy.filter fun r => r.Broken c).map (Rule.report c) ∧
    (∀ r, (Rule.ofTcp ++ Rule.ofUdp ++ Rule.ofProxy).count r = 1) ∧
    Function.Injective (Rule.report c) ∧
    (c.validated = .ok c ↔ ∀ r : Rule, ¬r.Broken c) ∧
    (c.validated = .error (.invalid c.violations) ↔ ∃ r : Rule, r.Broken c) ∧
    (c.validated = .ok c → ∀ files : Files,
      (∀ cert ∈ c.tcp.serverCertificate, ∀ e,
        Tls.ServerMaterial.load files cert = .error e → e.isMissing = false) ∧
      ∀ cert ∈ c.tcp.clientCertificate, ∀ e,
        Tls.ClientMaterial.load files cert = .error e → e.isMissing = false) := by
  have hok : c.validated = .ok c ↔ ∀ r : Rule, ¬r.Broken c := by
    constructor
    · intro hvalid r hbroken
      rw [validated_of_broken hbroken] at hvalid
      cases hvalid
    · exact validated_of_holds
  have herror : c.validated = .error (.invalid c.violations) ↔ ∃ r : Rule, r.Broken c := by
    constructor
    · intro hinvalid
      by_contra hholds
      rw [validated_of_holds (not_exists.mp hholds)] at hinvalid
      cases hinvalid
    · rintro ⟨r, hbroken⟩
      exact validated_of_broken hbroken
  refine ⟨rfl, Rule.violations_tcp c, Rule.violations_udp c, Rule.violations_proxy c,
    Rule.count_all, Rule.report_injective c, hok, herror, ?_⟩
  intro hvalid files
  have hholds := hok.mp hvalid
  exact ⟨fun cert hcert => server_failsByContent hholds files hcert,
    fun cert hcert => client_failsByContent hholds files hcert⟩

/-- Each of four broken rules of both managers is reported. -/
example : ({ tcp := { threadCount := 0, bindHost := "localhost", chunkSize := 0 }
             udp := { maxDatagramSize := 70000 } } : Config).violations.map Violation.field =
    ["tcp.thread_count", "tcp.bind_host", "tcp.recv_chunk_size", "udp.max_datagram_size"] := by
  decide +kernel

end Config

end Switchboard
