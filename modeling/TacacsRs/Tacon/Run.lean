import TacacsRs.Messages.AccountingReply
import TacacsRs.Networking.Helpers
import TacacsRs.Networking.ReadHandler
import TacacsRs.Tacon.Accounting

/-!
# One run of tacon

A run makes one connection and one session on it, and sends at most one request.
What is asked of the environment is a parameter, the sessions of a connection
included: a connection is known here by its kind and its obfuscation key only.
What its tasks and its session do is tied to it in `Tacon.Exchange`.
-/

namespace TacacsRs.Tacon

open Rust Messages Networking

/-- The subcommands of `tacon`. -/
inductive Commands where
  | accounting (cmd : String) (cmdArgs : Option (List String))
  | authentication
  | authorization
  deriving DecidableEq

/-- The command line of `tacon`. -/
structure Cli where
  serverAddr : String
  obfuscationKey : Option String
  useTls : Bool
  clientCertificate : Option String
  clientKey : Option String
  batch : Option String
  user : Option String
  port : Option String
  remAddr : Option String
  command : Option Commands
  deriving DecidableEq

/-- A connection of either kind. -/
inductive Connection where
  | tcpConnection (connection : TcpConnection)
  | tlsConnection (connection : TlsConnection)

/-- What `run` asks for, and what it is answered: by the system, by the TLS library, and by the
connection it has made, whose `create_session` and `send_accounting_request` come last. -/
structure Environment (SocketAddr TcpStream ServerName TlsStream Session : Type) where
  toSocketAddrs : String → Outcome (List SocketAddr)
  connect : SocketAddr → Except Error TcpStream
  readCerts : String → Outcome (List (List UInt8))
  readKey : String → Outcome (List UInt8)
  withClientAuthCert : List (List UInt8) → List UInt8 → Outcome Unit
  serverName : String → Option ServerName
  connectTls : ClientConfig → ServerName → TcpStream → Outcome TlsStream
  createSession : Connection → Outcome Session
  sendAccountingRequest : Session → AccountingRequest → Outcome AccountingReply

variable {SocketAddr TcpStream ServerName TlsStream Session : Type}

namespace Environment

variable (environment : Environment SocketAddr TcpStream ServerName TlsStream Session)

/-- Nothing that is asked of the environment panics. -/
structure Safe : Prop where
  toSocketAddrs : ∀ address, (environment.toSocketAddrs address).Safe
  readCerts : ∀ file, (environment.readCerts file).Safe
  readKey : ∀ file, (environment.readKey file).Safe
  withClientAuthCert : ∀ certChain keyDer, (environment.withClientAuthCert certChain keyDer).Safe
  connectTls : ∀ config domain stream, (environment.connectTls config domain stream).Safe
  createSession : ∀ connection, (environment.createSession connection).Safe
  sendAccountingRequest : ∀ session request,
    (environment.sendAccountingRequest session request).Safe

end Environment

section Run

variable (environment : Environment SocketAddr TcpStream ServerName TlsStream Session)

/-- `send_accounting_request` of the accounting command. -/
def sendAccountingRequest (session : Session) (user port remAddress cmd : String)
    (cmdArgs : Option (List String)) : Outcome AccountingReply :=
  match environment.sendAccountingRequest session
    (accountingRequest user port remAddress cmd cmdArgs) with
  | .ok response => .ok response
  | .err e => .err (.msg ("Failed to send accounting request: " ++ e.toString))
  | .panic => .panic

/-- The connection that the flags ask for, on a TCP stream. -/
def makeConnection (cli : Cli) (tcpConnection : TcpStream) : Outcome Connection :=
  let obfuscationKey := cli.obfuscationKey.map asBytes
  if cli.useTls then
    match cli.clientCertificate, cli.clientKey with
    | some clientCertificate, some clientKey => do
        let builder ← TlsConfigurationBuilder.new.withClientAuthCertFiles environment.readCerts
          environment.readKey clientCertificate clientKey
        let tlsConfig ← (builder.withCertificateVerificationDisabled true).build
          environment.withClientAuthCert
        let _ ← connectTls environment.serverName (environment.connectTls tlsConfig)
          tcpConnection "tacacsserver.local"
        return .tlsConnection ⟨obfuscationKey⟩
    -- the certificate and the key are unwrapped
    | _, _ => .panic
  else
    .ok (.tcpConnection ⟨obfuscationKey⟩)

/-- Only the accounting command sends anything; it needs the texts that are optional on the command
line. -/
def runCommand (cli : Cli) (session : Session) : Option Commands → Outcome Unit
  | some (.accounting cmd cmdArgs) =>
      if cmd.isEmpty then
        .err (.msg "Accounting command requires a positional cmd argument")
      else do
        let user ← Outcome.ofOption "User is required" cli.user
        let port ← Outcome.ofOption "Port is required" cli.port
        let remAddr ← Outcome.ofOption "Remote address is required" cli.remAddr
        let _ ← sendAccountingRequest environment session user port remAddr cmd cmdArgs
        return ()
  | some .authentication => .ok ()
  | some .authorization => .ok ()
  | none => .ok ()

/-- The connection is made first, then its session, and then the command runs. -/
def run (cli : Cli) : Outcome Unit :=
  if cli.batch.isSome ∧ cli.command.isSome then
    .err (.msg "Error: --batch flag cannot be used with subcommands.")
  else do
    let tcpConnection ← connectTcp environment.toSocketAddrs environment.connect cli.serverAddr
    let tacacsConnection ← makeConnection environment cli tcpConnection
    let session ← environment.createSession tacacsConnection
    runCommand environment cli session cli.command

/-- The error of `run` gets a text of its own. -/
def main (cli : Cli) : Outcome Unit := (run environment cli).withContext "run failed"

end Run

variable {environment : Environment SocketAddr TcpStream ServerName TlsStream Session} {cli : Cli}

/-- With TLS, a certificate or key that is not given is found missing when the connection is
there. -/
theorem makeConnection_eq_panic_iff (hsafe : environment.Safe) (tcpConnection : TcpStream) :
    makeConnection environment cli tcpConnection = .panic ↔
      cli.useTls = true ∧ (cli.clientCertificate = none ∨ cli.clientKey = none) := by
  unfold makeConnection
  cases cli.useTls with
  | false => simp
  | true =>
      cases cli.clientCertificate with
      | none => simp
      | some clientCertificate =>
          cases cli.clientKey with
          | none => simp
          | some clientKey =>
              simp only [if_true, true_and, reduceCtorEq, or_self, iff_false]
              apply Outcome.safe_iff.mp
              apply (TlsConfigurationBuilder.safe_withClientAuthCertFiles hsafe.readCerts
                hsafe.readKey _ _ _).bind
              intro builder _
              apply (TlsConfigurationBuilder.safe_build hsafe.withClientAuthCert _).bind
              intro tlsConfig _
              apply (Outcome.safe_ofOption.bind fun domain _ =>
                hsafe.connectTls tlsConfig domain tcpConnection).bind
              intro tlsStream _
              exact Outcome.safe_ok _

theorem safe_runCommand (hsafe : environment.Safe) (session : Session)
    (command : Option Commands) : (runCommand environment cli session command).Safe := by
  cases command with
  | none => exact Outcome.safe_ok _
  | some command =>
      cases command with
      | authentication => exact Outcome.safe_ok _
      | authorization => exact Outcome.safe_ok _
      | accounting cmd cmdArgs =>
          simp only [runCommand]
          split
          · exact Outcome.safe_err _
          · apply Outcome.safe_ofOption.bind
            intro user _
            apply Outcome.safe_ofOption.bind
            intro port _
            apply Outcome.safe_ofOption.bind
            intro remAddr _
            refine Outcome.Safe.bind ?_ fun _ _ => Outcome.safe_ok _
            have hsent := hsafe.sendAccountingRequest session
              (accountingRequest user port remAddr cmd cmdArgs)
            unfold sendAccountingRequest
            split
            · exact Outcome.safe_ok _
            · exact Outcome.safe_err _
            · next hpanic =>
              rw [hpanic] at hsent
              exact hsent

/-- `tacon` panics in one case: TLS is asked for without a certificate or without a key, and the
server has let it connect. -/
theorem run_eq_panic_iff (hsafe : environment.Safe) :
    run environment cli = .panic ↔
      ¬ (cli.batch.isSome ∧ cli.command.isSome) ∧
      (∃ tcpConnection,
        connectTcp environment.toSocketAddrs environment.connect cli.serverAddr =
          .ok tcpConnection) ∧
      cli.useTls = true ∧ (cli.clientCertificate = none ∨ cli.clientKey = none) := by
  have hconnect := Outcome.safe_iff.mp
    (safe_connectTcp hsafe.toSocketAddrs environment.connect cli.serverAddr)
  have hsession (tacacsConnection : Connection) :=
    Outcome.safe_iff.mp (hsafe.createSession tacacsConnection)
  have hcommand (session : Session) : runCommand environment cli session cli.command ≠ .panic :=
    Outcome.safe_iff.mp (safe_runCommand hsafe session cli.command)
  unfold run
  split
  · next hconflict => simp [hconflict]
  · next hconflict =>
    simp [Outcome.bind_eq_panic_iff, makeConnection_eq_panic_iff hsafe, hconnect, hsession,
      hcommand, hconflict]

/-- The session is that of the connection that the flags ask for. -/
def Opens (environment : Environment SocketAddr TcpStream ServerName TlsStream Session)
    (cli : Cli) (session : Session) : Prop :=
  ∃ tcpConnection tacacsConnection,
    connectTcp environment.toSocketAddrs environment.connect cli.serverAddr =
      .ok tcpConnection ∧
    makeConnection environment cli tcpConnection = .ok tacacsConnection ∧
    environment.createSession tacacsConnection = .ok session

theorem sendAccountingRequest_eq_ok_iff {session : Session} {user port remAddress cmd : String}
    {cmdArgs : Option (List String)} {reply : AccountingReply} :
    sendAccountingRequest environment session user port remAddress cmd cmdArgs = .ok reply ↔
      environment.sendAccountingRequest session
        (accountingRequest user port remAddress cmd cmdArgs) = .ok reply := by
  unfold sendAccountingRequest
  cases environment.sendAccountingRequest session
    (accountingRequest user port remAddress cmd cmdArgs) with
  | ok response => simp
  | err e => simp
  | panic => simp

/-- The accounting command succeeds exactly when its request was answered by a reply, whatever the
reply says. -/
theorem main_accounting_eq_ok_iff {cmd : String} {cmdArgs : Option (List String)}
    (hcommand : cli.command = some (.accounting cmd cmdArgs)) :
    main environment cli = .ok () ↔
      cli.batch = none ∧ cmd ≠ "" ∧ ∃ user port remAddr session reply,
        cli.user = some user ∧ cli.port = some port ∧ cli.remAddr = some remAddr ∧
        Opens environment cli session ∧
        environment.sendAccountingRequest session
          (accountingRequest user port remAddr cmd cmdArgs) = .ok reply := by
  rw [main, Outcome.withContext_eq_ok_iff]
  unfold run
  split
  · next hconflict =>
    have hbatch : cli.batch ≠ none := Option.isSome_iff_ne_none.mp hconflict.1
    simp [hbatch]
  · next hconflict =>
    have hbatch : cli.batch = none := by simpa [hcommand] using hconflict
    simp only [hcommand, runCommand, hbatch, true_and, Outcome.bind_def, Outcome.bind_eq_ok_iff]
    by_cases hempty : cmd = ""
    · simp [hempty]
    · simp only [String.isEmpty_iff, hempty, if_false, not_false_iff, true_and, ne_eq,
        Outcome.bind_eq_ok_iff, Outcome.ofOption_eq_ok_iff, Outcome.pure_eq,
        sendAccountingRequest_eq_ok_iff, and_true]
      constructor
      · rintro ⟨tcpConnection, hconnect, tacacsConnection, hmake, session, hsession, user, huser,
          port, hport, remAddr, hremAddr, reply, hreply⟩
        exact ⟨user, port, remAddr, session, reply, huser, hport, hremAddr,
          ⟨tcpConnection, tacacsConnection, hconnect, hmake, hsession⟩, hreply⟩
      · rintro ⟨user, port, remAddr, session, reply, huser, hport, hremAddr,
          ⟨tcpConnection, tacacsConnection, hconnect, hmake, hsession⟩, hreply⟩
        exact ⟨tcpConnection, hconnect, tacacsConnection, hmake, session, hsession, user, huser,
          port, hport, remAddr, hremAddr, reply, hreply⟩

end TacacsRs.Tacon
