import PgmanProxy.Runtime.ReloadGuarantees

/-!
# A routes listener that other hosts can reach

Validation, the resolution of the cluster password, the credential check and the
building of the options each do their own trimming and their own test for
emptiness. Put together they leave no way to a server whose routes listener is
open to other hosts without a credential, or in plaintext that the operator has
not asked for.
-/

namespace PgmanProxy.Runtime.ExposedRoutes

open PgmanProxy.Embedded.ServerOptions
open PgmanProxy.Library.GoStrings
open PgmanProxy.Library.Runs
open PgmanProxy.Runtime.Reload
open PgmanProxy.Runtime.ReloadGuarantees
open PgmanProxy.Validation

set_option autoImplicit false

section Guarding

variable (std : Stdlib)

/-- A loopback address or a documented loopback name, possibly in the brackets that
`host:port` notation allows. -/
def LoopbackHost (host : String) : Prop :=
  ∃ name, (host = name ∨ host = "[" ++ name ++ "]") ∧ name ≠ "" ∧
    (std.parseIP name = some true ∨
      std.parseIP name = none ∧ name ∈ ["localhost", "ip6-localhost"])

/-- The routes listener is on and bound where other hosts can reach it. -/
def Exposed (cluster : ClusterConfig) : Prop :=
  routesEnabled cluster = true ∧ ¬ LoopbackHost std cluster.routesListen.host

/-- The listener asks for a real credential and is encrypted, unless the operator has
acknowledged plaintext. -/
def Guarded (cluster : ClusterConfig) (options : Options) : Prop :=
  options.cluster.username ≠ "" ∧ 16 ≤ options.cluster.password.utf8ByteSize ∧
    (options.cluster.tlsConfig.isSome = true ∨ cluster.tls.plaintextExplicitAck = true)

variable {std}

theorem loopback_host_of_addr (host : String) (port : Int)
    (loopback : isLoopbackAddr std (host ++ ":" ++ toString port) = .ok true) :
    LoopbackHost std host := by
  unfold isLoopbackAddr at loopback
  split at loopback
  · cases loopback
  · rename_i found rest parsed
    have same := split_host_port_join host (toString port) found rest
      (colon_not_mem_int_text port) parsed
    split at loopback
    · cases loopback
    · rename_i named
      refine ⟨found, same, named, ?_⟩
      split at loopback
      · rename_i flag known
        left
        rw [known]
        cases loopback
        rfl
      · rename_i unknown
        right
        refine ⟨unknown, ?_⟩
        simpa using loopback

/-- What validation has checked of an exposed listener. -/
theorem exposed_rules (config : Config) (accepted : validate std config = .ok ())
    (exposed : Exposed std config.cluster) :
    config.cluster.username ≠ "" ∧
      ((config.cluster.tls.certFile ≠ "" ∧ config.cluster.tls.keyFile ≠ "") ∨
        config.cluster.tls.plaintextExplicitAck = true) := by
  obtain ⟨enabled, outside⟩ := exposed
  obtain ⟨_, _, _, clean⟩ := validate_ok config accepted
  have on : (config.cluster.routesListen.enabled && config.cluster.declaredSize > 1) = true :=
    enabled
  simp only [routesIssues, on, if_true] at clean
  split at clean
  · cases clean
  · rename_i loopback
    exact absurd (loopback_host_of_addr _ _ loopback) outside
  · simp only [exposedRoutesIssues, List.append_eq_nil_iff] at clean
    obtain ⟨⟨⟨username, _⟩, plaintext⟩, _⟩ := clean
    have named := no_issue _ _ username
    have encrypted := no_issue _ _ plaintext
    refine ⟨by simpa using named, ?_⟩
    cases acked : config.cluster.tls.plaintextExplicitAck with
    | true => exact .inr rfl
    | false =>
        left
        simpa [acked] using encrypted

/-- A credential that is loaded has passed its own check after trimming. -/
theorem loaded_credential_strong (username password : String) (credential : ClusterCredential)
    (loaded : loadClusterCredential username password = .ok credential) :
    credential.username ≠ "" ∧ 16 ≤ credential.password.utf8ByteSize := by
  unfold loadClusterCredential at loaded
  cases checked : (ClusterCredential.mk (trimSpace username) (trimSpace password)).validate with
  | error text =>
      simp only [checked, bind, Except.bind] at loaded
      cases loaded
  | ok _ =>
      simp only [checked, bind, Except.bind, pure, Except.pure] at loaded
      cases loaded
      unfold ClusterCredential.validate at checked
      split at checked
      · cases checked
      rename_i named
      split at checked
      · cases checked
      split at checked
      · cases checked
      rename_i long
      exact ⟨named, Nat.le_of_not_lt long⟩

theorem cluster_tls_some (host : Host) (certFile keyFile caFile : String)
    (tlsConfig : Option TLSConfig) (both : certFile ≠ "" ∧ keyFile ≠ "")
    (loaded : clusterTLS std host certFile keyFile caFile = .ok tlsConfig) :
    tlsConfig.isSome = true := by
  unfold clusterTLS at loaded
  rw [if_pos both] at loaded
  split at loaded
  · cases loaded
  · cases loaded
    rfl

/-- Whatever the secrets, options built for an accepted exposed configuration are guarded. -/
theorem options_guarded (host : Host) (config : Config) (password : String) (options : Options)
    (accepted : validate std config = .ok ()) (exposed : Exposed std config.cluster)
    (built : optionsFromConfig std host config password = .ok options) :
    Guarded config.cluster options := by
  obtain ⟨named, encrypted⟩ := exposed_rules config accepted exposed
  unfold optionsFromConfig at built
  split at built
  · cases built
  rename_i credential loaded
  unfold clusterCredential at loaded
  rw [if_pos (.inl named)] at loaded
  obtain ⟨user, long⟩ := loaded_credential_strong _ _ credential loaded
  rcases build_options_ok _ options built with ⟨_, ⟨off, _⟩ | ⟨_, tlsConfig, _, tls, _, shape⟩⟩
  · rw [show (optionsInput config credential).routesEnabled = true from exposed.1] at off
    cases off
  · rw [shape]
    refine ⟨user, long, ?_⟩
    rcases encrypted with both | acked
    · exact .inl (cluster_tls_some host _ _ _ tlsConfig both tls)
    · exact .inr acked

/-- A pass that hands nothing over leaves the handler as it was. -/
theorem apply_once_not_handed (handler : ReloadHandler std) (reading : Reading)
    (nats : Except String Unit) (kept : (applyOnce std handler reading nats).handed = none) :
    (applyOnce std handler reading nats).handler = handler := by
  rw [applyOnce] at kept ⊢
  cases reached : prepare std handler reading with
  | error text => rfl
  | ok prepared =>
      rw [reached] at kept
      by_cases empty : prepared.diff.isEmpty = true
      · simp [empty]
      · by_cases listed : prepared.diff.hasAllowListed = true
        · cases nats with
          | error text => simp [empty, listed] at kept
          | ok _ => simp [empty, listed] at kept
        · simp [empty, listed]

/-- An accepted configuration that exposes the routes listener is either run guarded or not
run: its options are guarded or not built, boot starts a server with guarded options or none,
and a reload hands guarded options over or leaves the running server alone. -/
theorem exposed_routes_guarded (config : Config) (accepted : validate std config = .ok ())
    (exposed : Exposed std config.cluster) :
    (∀ host password,
        (∃ options, optionsFromConfig std host config password = .ok options ∧
          Guarded config.cluster options) ∨
        ∃ text, optionsFromConfig std host config password = .error text) ∧
      (∀ host,
        (∃ handler, boot std host config = .ok handler ∧
          Guarded config.cluster handler.embedded.options) ∨
        ∃ text, boot std host config = .error text) ∧
      ∀ handler reading nats, reading.config = .ok config →
        (∃ options, (applyOnce std handler reading nats).handed = some options ∧
          Guarded config.cluster options) ∨
        (applyOnce std handler reading nats).handed = none ∧
          (applyOnce std handler reading nats).handler = handler := by
  refine ⟨?_, ?_, ?_⟩
  · intro host password
    cases built : optionsFromConfig std host config password with
    | error text => exact .inr ⟨text, rfl⟩
    | ok options =>
        exact .inl ⟨options, rfl,
          options_guarded host config password options accepted exposed built⟩
  · intro host
    cases booted : boot std host config with
    | error text => exact .inr ⟨text, rfl⟩
    | ok handler =>
        obtain ⟨_, _, same, _⟩ := boot_ok host config handler booted
        have built := handler.embedded.built
        rw [same] at built
        exact .inl ⟨handler, rfl, options_guarded _ config _ _ accepted exposed built⟩
  · intro handler reading nats read
    cases handed : (applyOnce std handler reading nats).handed with
    | none => exact .inr ⟨rfl, apply_once_not_handed handler reading nats handed⟩
    | some options =>
        obtain ⟨prepared, reached, given⟩ := apply_once_handed handler reading nats options handed
        obtain ⟨loaded, _⟩ := prepare_ok handler reading prepared reached
        rw [read, Except.ok.injEq] at loaded
        have built := prepared.new.built
        rw [← loaded, given] at built
        exact .inl ⟨options, rfl, options_guarded _ config _ _ accepted exposed built⟩

theorem sample_config_exposed : Exposed sampleStd (sampleConfig 4222 ["n2:6222"]).cluster := by
  refine ⟨by decide, ?_⟩
  rintro ⟨name, plain | bracketed, _, loopback⟩
  · have known : sampleStd.parseIP name = some false := by
      rw [← plain]
      rfl
    rw [known] at loopback
    simp at loopback
  · have runes := congrArg String.toList bracketed
    simp [sampleConfig] at runes

theorem sample_routes_guarded :
    ∃ options, optionsFromConfig sampleStd (sampleHost "first-secret-0001\n")
        (sampleConfig 4222 ["n2:6222"]) "first-secret-0001" = .ok options ∧
      Guarded (sampleConfig 4222 ["n2:6222"]).cluster options := by
  have accepted : validate sampleStd (sampleConfig 4222 ["n2:6222"]) = .ok () := by
    decide
  have guarded := (exposed_routes_guarded _ accepted sample_config_exposed).1
    (sampleHost "first-secret-0001\n") "first-secret-0001"
  rcases guarded with built | ⟨text, failed⟩
  · exact built
  · rw [sample_options_built] at failed
    cases failed

end Guarding

end PgmanProxy.Runtime.ExposedRoutes
