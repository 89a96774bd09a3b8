import TacacsRs.Rust.Outcome

/-!
# Making connections

The helpers that find a server, connect to it and set TLS up. Name resolution,
sockets, files and the TLS library are parameters: what they answer is theirs.
-/

namespace TacacsRs.Networking

open Rust

section Tcp

variable {SocketAddr TcpStream : Type}

/-- `get_server_addresses`: the port is 49 unless the text names one. -/
def getServerAddresses (toSocketAddrs : String → Outcome (List SocketAddr)) (hostname : String) :
    Outcome (List SocketAddr) :=
  let address := if hostname.contains ':' then hostname else hostname ++ ":" ++ "49"
  toSocketAddrs address

/-- The loop of `connect_tcp`: an address that does not answer is passed over. -/
def connectFirst (connect : SocketAddr → Except Error TcpStream) :
    List SocketAddr → Outcome TcpStream
  | [] => .err (.msg "Failed to connect to any server")
  | serverAddress :: serverAddresses =>
      match connect serverAddress with
      | .ok stream => .ok stream
      | .error _ => connectFirst connect serverAddresses

/-- The stream of the first address of the server that answers. -/
def connectTcp (toSocketAddrs : String → Outcome (List SocketAddr))
    (connect : SocketAddr → Except Error TcpStream) (hostname : String) : Outcome TcpStream := do
  let serverAddresses ← getServerAddresses toSocketAddrs hostname
  connectFirst connect serverAddresses

variable {connect : SocketAddr → Except Error TcpStream} {serverAddresses : List SocketAddr}

/-- The stream is that of the first address that answers. -/
theorem connectFirst_eq_ok_iff {stream : TcpStream} :
    connectFirst connect serverAddresses = .ok stream ↔
      ∃ refused serverAddress later, serverAddresses = refused ++ serverAddress :: later ∧
        (∀ address ∈ refused, ∃ error, connect address = .error error) ∧
        connect serverAddress = .ok stream := by
  induction serverAddresses with
  | nil => simp [connectFirst]
  | cons first rest ih =>
      cases hfirst : connect first with
      | ok found =>
          simp only [connectFirst, hfirst, Outcome.ok.injEq]
          constructor
          · rintro rfl
            exact ⟨[], first, rest, rfl, by simp, hfirst⟩
          · rintro ⟨refused, serverAddress, later, hsplit, hrefused, hconnect⟩
            cases refused with
            | nil =>
                obtain ⟨rfl, -⟩ := List.cons.inj hsplit
                simpa [hfirst] using hconnect
            | cons address refused =>
                obtain ⟨rfl, -⟩ := List.cons.inj hsplit
                obtain ⟨error, herror⟩ := hrefused first (List.mem_cons_self ..)
                simp [hfirst] at herror
      | error error =>
          simp only [connectFirst, hfirst, ih]
          constructor
          · rintro ⟨refused, serverAddress, later, rfl, hrefused, hconnect⟩
            refine ⟨first :: refused, serverAddress, later, rfl, ?_, hconnect⟩
            exact List.forall_mem_cons.mpr ⟨⟨error, hfirst⟩, hrefused⟩
          · rintro ⟨refused, serverAddress, later, hsplit, hrefused, hconnect⟩
            cases refused with
            | nil =>
                obtain ⟨rfl, -⟩ := List.cons.inj hsplit
                simp [hfirst] at hconnect
            | cons address refused =>
                obtain ⟨-, rfl⟩ := List.cons.inj hsplit
                exact ⟨refused, serverAddress, later, rfl,
                  fun other hother => hrefused other (List.mem_cons_of_mem _ hother), hconnect⟩

/-- Without a stream the loop has come to its end. -/
theorem connectFirst_cases (connect : SocketAddr → Except Error TcpStream)
    (serverAddresses : List SocketAddr) :
    (∃ stream, connectFirst connect serverAddresses = .ok stream) ∨
      connectFirst connect serverAddresses = .err (.msg "Failed to connect to any server") := by
  induction serverAddresses with
  | nil => exact .inr rfl
  | cons first rest ih =>
      cases hfirst : connect first with
      | ok stream => exact .inl ⟨stream, by simp [connectFirst, hfirst]⟩
      | error error =>
          simp only [connectFirst, hfirst]
          exact ih

theorem safe_connectTcp {toSocketAddrs : String → Outcome (List SocketAddr)}
    (hresolve : ∀ address, (toSocketAddrs address).Safe)
    (connect : SocketAddr → Except Error TcpStream) (hostname : String) :
    (connectTcp toSocketAddrs connect hostname).Safe := by
  apply (hresolve _).bind
  intro serverAddresses _
  rcases connectFirst_cases connect serverAddresses with ⟨stream, hstream⟩ | hfailed
  · simp [hstream]
  · simp [hfailed]

end Tcp

/-- The configuration of a TLS client, as far as the builder decides it. -/
structure ClientConfig where
  rootCertStore : List (List UInt8)
  clientAuth : Option (List (List UInt8) × List UInt8)
  tls12Resumption : Bool
  certificateVerification : Bool
  deriving DecidableEq

/-- What a TLS configuration is to be built of. -/
structure TlsConfigurationBuilder where
  rootCertStore : List (List UInt8)
  resumptionEnabled : Bool
  certificateChain : Option (List (List UInt8))
  privateKey : Option (List UInt8)
  disableCertificateVerification : Bool
  deriving DecidableEq

namespace TlsConfigurationBuilder

/-- No root certificates, no resumption, no client certificate, and a server that is verified. -/
def new : TlsConfigurationBuilder := ⟨[], false, none, none, false⟩

/-- The certificates by which the server is verified. -/
def withRootCertificates (builder : TlsConfigurationBuilder)
    (rootCertStore : List (List UInt8)) : TlsConfigurationBuilder :=
  { builder with rootCertStore }

/-- Whether sessions of TLS 1.2 are resumed. -/
def withResumption (builder : TlsConfigurationBuilder) (enabled : Bool) :
    TlsConfigurationBuilder :=
  { builder with resumptionEnabled := enabled }

/-- The certificate and then the key are read from their files. -/
def withClientAuthCertFiles (readCerts : String → Outcome (List (List UInt8)))
    (readKey : String → Outcome (List UInt8)) (builder : TlsConfigurationBuilder)
    (certificateChainFile privateKeyFile : String) : Outcome TlsConfigurationBuilder := do
  let certChain ← readCerts certificateChainFile
  let keyDer ← readKey privateKeyFile
  return { builder with
    certificateChain := some certChain
    privateKey := some keyDer }

/-- Whether any server is taken for the right one. -/
def withCertificateVerificationDisabled (builder : TlsConfigurationBuilder) (disabled : Bool) :
    TlsConfigurationBuilder :=
  { builder with disableCertificateVerification := disabled }

section Build

-- how the TLS library takes a certificate chain and its key
variable (withClientAuthCert : List (List UInt8) → List UInt8 → Outcome Unit)

/-- The certificate chain of `build` and its key. -/
def clientAuth (builder : TlsConfigurationBuilder) :
    Outcome (Option (List (List UInt8) × List UInt8)) :=
  match builder.certificateChain with
  | some certChain =>
      match builder.privateKey with
      | some keyDer => do
          withClientAuthCert certChain keyDer
          return some (certChain, keyDer)
      | none => .err (.msg "Private key not provided")
  | none => .ok none

/-- The client certificate is checked against its key; nothing else can fail. -/
def build (builder : TlsConfigurationBuilder) : Outcome ClientConfig := do
  let clientAuth ← builder.clientAuth withClientAuthCert
  return {
    rootCertStore := builder.rootCertStore
    clientAuth
    tls12Resumption := builder.resumptionEnabled
    certificateVerification := !builder.disableCertificateVerification }

end Build

/-- The builders that can be made: the fields are not public. -/
inductive Made (readCerts : String → Outcome (List (List UInt8)))
    (readKey : String → Outcome (List UInt8)) : TlsConfigurationBuilder → Prop where
  | new : Made readCerts readKey .new
  | rootCertificates {builder} (rootCertStore) (h : Made readCerts readKey builder) :
      Made readCerts readKey (builder.withRootCertificates rootCertStore)
  | resumption {builder} (enabled) (h : Made readCerts readKey builder) :
      Made readCerts readKey (builder.withResumption enabled)
  | verificationDisabled {builder} (disabled) (h : Made readCerts readKey builder) :
      Made readCerts readKey (builder.withCertificateVerificationDisabled disabled)
  | clientAuthCertFiles {builder next} (certificateChainFile privateKeyFile)
      (h : Made readCerts readKey builder)
      (hfiles : builder.withClientAuthCertFiles readCerts readKey certificateChainFile
        privateKeyFile = .ok next) : Made readCerts readKey next

variable {readCerts : String → Outcome (List (List UInt8))}
  {readKey : String → Outcome (List UInt8)} {builder : TlsConfigurationBuilder}

/-- A chain and its key are always set together. -/
theorem Made.paired (h : Made readCerts readKey builder) :
    builder.certificateChain.isSome = builder.privateKey.isSome := by
  induction h with
  | new => rfl
  | rootCertificates _ _ ih => exact ih
  | resumption _ _ ih => exact ih
  | verificationDisabled _ _ ih => exact ih
  | clientAuthCertFiles certificateChainFile privateKeyFile _ hfiles ih =>
      simp only [withClientAuthCertFiles, Outcome.bind_def, Outcome.bind_eq_ok_iff,
        Outcome.pure_eq, Outcome.ok.injEq] at hfiles
      obtain ⟨certChain, -, keyDer, -, rfl⟩ := hfiles
      rfl

/-- No builder that can be made fails for the lack of a key: what `build` refuses, the TLS library
has refused. -/
theorem Made.build_eq_err_iff (h : Made readCerts readKey builder)
    {withClientAuthCert : List (List UInt8) → List UInt8 → Outcome Unit} {error : Error} :
    builder.build withClientAuthCert = .err error ↔
      ∃ certChain keyDer, builder.certificateChain = some certChain ∧
        builder.privateKey = some keyDer ∧ withClientAuthCert certChain keyDer = .err error := by
  have hpaired := h.paired
  cases hchain : builder.certificateChain with
  | none =>
      have hbuilt : ∃ config, builder.build withClientAuthCert = .ok config := by
        simp [build, clientAuth, hchain]
      obtain ⟨config, hconfig⟩ := hbuilt
      simp [hconfig]
  | some certChain =>
      rw [hchain] at hpaired
      obtain ⟨keyDer, hkey⟩ := Option.isSome_iff_exists.mp hpaired.symm
      cases hauth : withClientAuthCert certChain keyDer with
      | ok value => simp [build, clientAuth, hchain, hkey, hauth]
      | err other => simp [build, clientAuth, hchain, hkey, hauth]
      | panic => simp [build, clientAuth, hchain, hkey, hauth]

theorem safe_withClientAuthCertFiles (hcerts : ∀ file, (readCerts file).Safe)
    (hkey : ∀ file, (readKey file).Safe) (builder : TlsConfigurationBuilder)
    (certificateChainFile privateKeyFile : String) :
    (builder.withClientAuthCertFiles readCerts readKey certificateChainFile
      privateKeyFile).Safe := by
  apply (hcerts _).bind
  intro certChain _
  apply (hkey _).bind
  intro keyDer _
  exact Outcome.safe_ok _

theorem safe_build {withClientAuthCert : List (List UInt8) → List UInt8 → Outcome Unit}
    (hauth : ∀ certChain keyDer, (withClientAuthCert certChain keyDer).Safe)
    (builder : TlsConfigurationBuilder) : (builder.build withClientAuthCert).Safe := by
  have hclient : (builder.clientAuth withClientAuthCert).Safe := by
    unfold clientAuth
    split
    · split
      · exact (hauth _ _).bind fun _ _ => Outcome.safe_ok _
      · exact Outcome.safe_err _
    · exact Outcome.safe_ok _
  exact hclient.bind fun _ _ => Outcome.safe_ok _

end TlsConfigurationBuilder

/-- `connect_tls`: the handshake is made with a name that the TLS library takes for one. -/
def connectTls {ServerName TcpStream TlsStream : Type} (serverName : String → Option ServerName)
    (connect : ServerName → TcpStream → Outcome TlsStream) (stream : TcpStream)
    (domain : String) : Outcome TlsStream := do
  let domain ← Outcome.ofOption "invalid dnsname" (serverName domain)
  connect domain stream

end TacacsRs.Networking
