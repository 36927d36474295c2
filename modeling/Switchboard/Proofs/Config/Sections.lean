import Switchboard.Proofs.Config.Layout
import Switchboard.Proofs.Config.Loading

/-!
# What a document says about a configuration

The layouts of the six sections, and with them what a whole document says.  A document that fits is
read as the configuration in which every setting that the document names is as the document has it,
and every other one is as its own section starts out.  A document that does not fit is refused, and
documents that are alike, in whatever order and with whatever keys besides, come to the same
(`Config.told_of_document`).
-/

namespace Switchboard

namespace Config.Decode.Layout

/-- The settings of a certificate. -/
def ofCertificate : Layout Certificate where
  shape := certificate
  settings :=
    [.mk "pass_file_not_buffer" .flag (·.fromFiles) fun v c => { c with fromFiles := v },
      .mk "cert" (.optional .text) (·.cert) fun v c => { c with cert := v },
      .mk "key" (.optional .text) (·.key) fun v c => { c with key := v },
      .mk "dh" (.optional .text) (·.dh) fun v c => { c with dh := v },
      .mk "password" (.optional .text) (·.password) fun v c => { c with password := v },
      .mk "ca" (.optional .text) (·.ca) fun v c => { c with ca := v }]
  fields_eq := rfl
  distinct := by decide
  set_eq k n c := by
    simp only [certificate]
    split <;> simp_all [setBy]
  apart := by simp
  ext := by
    rintro ⟨⟩ ⟨⟩ h
    simpa using h

@[simp] lemma shape_ofCertificate : ofCertificate.shape = certificate := rfl

/-- The settings of the stream manager. -/
def ofTcp : Layout TcpConfig where
  shape := tcp
  settings :=
    [.mk "thread_count" .size (·.threadCount) fun v c => { c with threadCount := v },
      .mk "bind_host" .text (·.bindHost) fun v c => { c with bindHost := v },
      .mk "ports" .ports (·.ports) fun v c => { c with ports := v },
      .mk "port_policy" .policy (·.portPolicy) fun v c => { c with portPolicy := v },
      .mk "recv_chunk_size" .size (·.chunkSize) fun v c => { c with chunkSize := v },
      .mk "connect_timeout_secs" .seconds (·.connectTimeoutSecs)
        fun v c => { c with connectTimeoutSecs := v },
      .mk "max_connections" .size (·.maxConnections) fun v c => { c with maxConnections := v },
      .mk "close_linger_secs" .seconds (·.closeLingerSecs)
        fun v c => { c with closeLingerSecs := v },
      .mk "server_certificate" (.optional (.part ofCertificate {})) (·.serverCertificate)
        fun v c => { c with serverCertificate := v },
      .mk "client_certificate" (.optional (.part ofCertificate {})) (·.clientCertificate)
        fun v c => { c with clientCertificate := v },
      .mk "require_tls" .flag (·.requireTls) fun v c => { c with requireTls := v }]
  fields_eq := rfl
  distinct := by decide
  set_eq k n c := by
    simp only [tcp]
    split <;> simp_all [setBy]
  apart := by simp
  ext := by
    rintro ⟨⟩ ⟨⟩ h
    simpa using h

@[simp] lemma shape_ofTcp : ofTcp.shape = tcp := rfl

/-- The settings of the datagram manager. -/
def ofUdp : Layout UdpConfig where
  shape := udp
  settings :=
    [.mk "thread_count" .size (·.threadCount) fun v c => { c with threadCount := v },
      .mk "bind_host" .text (·.bindHost) fun v c => { c with bindHost := v },
      .mk "ports" .ports (·.ports) fun v c => { c with ports := v },
      .mk "port_policy" .policy (·.portPolicy) fun v c => { c with portPolicy := v },
      .mk "max_datagram_size" .size (·.maxDatagramSize) fun v c => { c with maxDatagramSize := v }]
  fields_eq := rfl
  distinct := by decide
  set_eq k n c := by
    simp only [udp]
    split <;> simp_all [setBy]
  apart := by simp
  ext := by
    rintro ⟨⟩ ⟨⟩ h
    simpa using h

@[simp] lemma shape_ofUdp : ofUdp.shape = udp := rfl

/-- The settings of the forwarding program. -/
def ofProxy : Layout ProxyConfig where
  shape := proxy
  settings :=
    [.mk "target_host" .text (·.targetHost) fun v c => { c with targetHost := v },
      .mk "target_port" .port (·.targetPort) fun v c => { c with targetPort := v },
      .mk "max_pending_bytes" .size (·.maxPendingBytes) fun v c => { c with maxPendingBytes := v },
      .mk "close_linger_secs" .seconds (·.closeLingerSecs)
        fun v c => { c with closeLingerSecs := v }]
  fields_eq := rfl
  distinct := by decide
  set_eq k n c := by
    simp only [proxy]
    split <;> simp_all [setBy]
  apart := by simp
  ext := by
    rintro ⟨⟩ ⟨⟩ h
    simpa using h

@[simp] lemma shape_ofProxy : ofProxy.shape = proxy := rfl

/-- The settings of logs and metrics. -/
def ofObservability : Layout ObservabilityConfig where
  shape := observability
  settings :=
    [.mk "log_level" .text (·.logLevel) fun v c => { c with logLevel := v },
      .mk "metrics_address" (.optional .text) (·.metricsAddress)
        fun v c => { c with metricsAddress := v }]
  fields_eq := rfl
  distinct := by decide
  set_eq k n c := by
    simp only [observability]
    split <;> simp_all [setBy]
  apart := by simp
  ext := by
    rintro ⟨⟩ ⟨⟩ h
    simpa using h

@[simp] lemma shape_ofObservability : ofObservability.shape = observability := rfl

/-- All settings. A section that is not there is as it starts out. -/
def ofConfig : Layout Config where
  shape := config
  settings :=
    [.mk "tcp" (.part ofTcp {}) (·.tcp) fun v c => { c with tcp := v },
      .mk "udp" (.part ofUdp {}) (·.udp) fun v c => { c with udp := v },
      .mk "proxy" (.part ofProxy {}) (·.proxy) fun v c => { c with proxy := v },
      .mk "observability" (.part ofObservability {}) (·.observability)
        fun v c => { c with observability := v }]
  fields_eq := rfl
  distinct := by decide
  set_eq k n c := by
    simp only [config]
    split <;> simp_all [setBy]
  apart := by simp
  ext := by
    rintro ⟨⟩ ⟨⟩ h
    simpa using h

end Config.Decode.Layout

/-! ### Documents -/

open Config.Decode (Layout)

namespace Config

variable {entries : Toml.Entries} {c : Config}

lemma ofEntries_iff_told (h : entries.Sound) :
    ofEntries entries = .ok c ↔ Layout.ofConfig.Told entries {} c := by
  rw [ofEntries_eq_ok_iff]
  exact Layout.setAll_iff (l := .ofConfig) h

/-- A document that fits is read, and one that does not is refused for a value that does not. -/
lemma ofEntries_of_fits_or_not (h : entries.Sound) :
    (Layout.ofConfig.Fits entries ∧ ∃ c, ofEntries entries = .ok c) ∨
      ¬Layout.ofConfig.Fits entries ∧ ∃ misfit, ofEntries entries = .error (.misfit misfit) := by
  have hfits : (∃ c, Layout.ofConfig.Told entries {} c) ↔ Layout.ofConfig.Fits entries :=
    Layout.exists_told_iff h
  cases hset : Decode.config.setAll {} entries with
  | ok c =>
    have hread := ofEntries_eq_ok_iff.mpr hset
    exact .inl ⟨hfits.mp ⟨c, (ofEntries_iff_told h).mp hread⟩, c, hread⟩
  | error e =>
    refine .inr ⟨fun hfit => ?_, e, ofEntries_eq_error hset⟩
    obtain ⟨c, htold⟩ := hfits.mpr hfit
    have hread := (ofEntries_iff_told h).mpr htold
    rw [ofEntries_eq_error hset] at hread
    cases hread

lemma parse_iff_told {text : String} (hread : Toml.read? text = some entries) :
    parse text = .ok c ↔ Layout.ofConfig.Told entries {} c ∧ c.violations = [] := by
  rw [parse_eq_ok_iff, hread]
  simp only [Option.some.injEq, exists_eq_left', ← ofEntries_eq_ok_iff,
    ofEntries_iff_told (Toml.sound_of_read? hread)]

end Config

/-- **A document changes only what it names.**  The configuration of a document has for every
setting what the document says of it, and where it says nothing the default of the section that the
setting is in.  There is one exactly if all values that the document gives to settings fit; else the
document is refused for one that does not.  It is accepted if it breaks no rule besides.  Documents
that say the same of all settings come to the same.  So they do if they differ in the order of their
keys, or in keys that name no setting, and it is so with the tables of the sections too, in whatever
form these are written. -/
theorem Config.told_of_document {text : String} {entries : Toml.Entries}
    (hread : Toml.read? text = some entries) :
    (∀ c, Config.ofEntries entries = .ok c ↔ Layout.ofConfig.Told entries {} c) ∧
    ((∃ c, Config.ofEntries entries = .ok c) ↔ Layout.ofConfig.Fits entries) ∧
    (¬Layout.ofConfig.Fits entries → ∃ misfit, Config.parse text = .error (.misfit misfit)) ∧
    (∀ c, Config.parse text = .ok c ↔ Layout.ofConfig.Told entries {} c ∧ c.violations = []) ∧
    (∀ {other entries'}, Toml.read? other = some entries' → Layout.ofConfig.Alike entries entries' →
      ∀ c, (Config.ofEntries entries = .ok c ↔ Config.ofEntries entries' = .ok c) ∧
        (Config.parse text = .ok c ↔ Config.parse other = .ok c)) ∧
    (∀ entries', (Layout.ofConfig.known entries).Perm (Layout.ofConfig.known entries') →
      Layout.ofConfig.Alike entries entries') ∧
    ∀ {σ : Type} (l : Layout σ) (start : σ) {t t' : Toml.Entries}, t.Sound →
      (l.known t).Perm (l.known t') → ∀ form form' : Toml.TableForm,
        (Decode.Kind.part l start).Alike (.table form t) (.table form' t') := by
  have hsound := Toml.sound_of_read? hread
  refine ⟨fun c => ofEntries_iff_told hsound, ?_, ?_, fun c => parse_iff_told hread, ?_,
    fun entries' => Layout.alike_of_perm hsound,
    fun l start t t' ht hperm form form' => ?_⟩
  · rcases ofEntries_of_fits_or_not hsound with ⟨hfits, hsome⟩ | ⟨hfits, e, herror⟩
    · exact iff_of_true hsome hfits
    · rw [herror]
      simp [hfits]
  · intro hfits
    rcases ofEntries_of_fits_or_not hsound with ⟨hfits', -⟩ | ⟨-, e, herror⟩
    · exact absurd hfits' hfits
    · refine ⟨e, ?_⟩
      rw [parse_of_read? hread, herror]
      rfl
  · intro other entries' hother halike c
    have hsound' := Toml.sound_of_read? hother
    rw [ofEntries_iff_told hsound, ofEntries_iff_told hsound', parse_iff_told hread,
      parse_iff_told hother, Layout.told_congr halike]
    exact ⟨Iff.rfl, Iff.rfl⟩
  · exact Decode.Kind.alike_part_of_perm ht hperm form form' start

example : Config.parse "[udp]\nports = [1]\nthread_count = 2\n[proxy]\ntarget_port = 3\n" =
    Config.parse "[proxy]\nshade = 1\ntarget_port = 3\n[udp]\nthread_count = 2\nports = [1]\n" := by
  decide +kernel

/-- A document that names half of a certificate, a port, and something that no setting is. -/
theorem Config.told_of_document_partial :
    let text := "[tcp.server_certificate]\nkey = \"k\"\ncert = \"c\"\n[colour]\nred = 1\n" ++
      "[tcp]\nports = [80]\n"
    let c : Config :=
      { tcp := { ports := [80], serverCertificate := some { cert := some "c", key := some "k" } } }
    ∃ entries, Toml.read? text = some entries ∧ Layout.ofConfig.Told entries {} c ∧
      Layout.ofConfig.Fits entries := by
  intro text c
  have hsome : (Toml.read? text).isSome = true := by decide +kernel
  obtain ⟨entries, hread⟩ := Option.isSome_iff_exists.mp hsome
  have hparse : Config.parse text = .ok c := by decide +kernel
  obtain ⟨htold, hfits, -, haccepted, -⟩ := Config.told_of_document hread
  have hc := ((haccepted c).mp hparse).1
  exact ⟨entries, hread, hc, hfits.mp ⟨c, (htold c).mpr hc⟩⟩

end Switchboard
