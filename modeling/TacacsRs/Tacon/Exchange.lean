import TacacsRs.Networking.HeardRequests
import TacacsRs.Tacon.Run

/-!
# What the accounting command exchanges with the server

`run` makes one session on its connection and one call on the session, and waits
for the call. When its environment answers as the tasks of the connection do,
the command succeeds only with the reply to the request that the user typed.
-/

namespace TacacsRs.Tacon

open Rust Messages Networking

/-- The key of either kind of connection. -/
def Connection.obfuscationKey : Connection → Option (List UInt8)
  | .tcpConnection connection => connection.obfuscationKey
  | .tlsConnection connection => connection.obfuscationKey

/-- A run of a connection with one session, of which the only call has returned the reply. -/
structure Exchanged (md5 : List UInt8 → Digest) (obfuscationKey : Option (List UInt8))
    (request : AccountingRequest) (reply : AccountingReply)
    (actions : List RunningConnection.Action) (wire : Wire) : Prop where
  run : Rust.run (Wire.step md5 obfuscationKey) .new actions = some wire
  unqueued : ∀ index packet, .queueRequest index packet ∉ actions
  called : ∃ session call, wire.running.connection.sessions = [session] ∧
    session.calls = [call] ∧ call.request = request ∧ call.phase = .returned (.ok reply)

section Exchanged

variable {md5 : List UInt8 → Digest} {obfuscationKey : Option (List UInt8)}
  {request : AccountingRequest} {reply : AccountingReply}
  {actions : List RunningConnection.Action} {wire : Wire}

/-- The packet of the call was the only one that was ever queued. -/
theorem Exchanged.exists_sent (h : Exchanged md5 obfuscationKey request reply actions wire) :
    ∃ session sequenceNumber packet, wire.running.connection.sessions = [session] ∧
      wire.outgoing.sent = [packet] ∧
      session.requestPacket sequenceNumber request = .ok packet := by
  obtain ⟨session, call, hsessions, hcalls, rfl, hreturned⟩ := h.called
  have hcallAt (author : Nat × Nat) (other : Call) :
      wire.running.connection.callAt author.1 author.2 = some other ↔
        author = (0, 0) ∧ call = other := by
    rw [Connection.callAt_eq_some_iff, hsessions, Prod.ext_iff]
    simp [List.getElem?_singleton, hcalls, and_assoc]
  have hsession : wire.running.connection.sessions[0]? = some session := by simp [hsessions]
  obtain ⟨authors, hheard⟩ := Wire.exists_heard h.run h.unqueued
  obtain ⟨before, takers, -, -, hsettled⟩ := Wire.exists_takers h.run hsession
  obtain ⟨response, hresponse, -⟩ := (hsettled 0 call (by simp [hcalls])).1.of_returned hreturned
  have hauthor : (0, 0) ∈ authors :=
    hheard.asking (0, 0) call ((hcallAt _ _).mpr ⟨rfl, rfl⟩) (by simp [Call.asks, hresponse])
  have halone : ∀ other ∈ authors, other = (0, 0) := by
    intro other hother
    obtain ⟨otherCall, hotherCall⟩ := hheard.authored.exists_call hother
    exact ((hcallAt _ _).mp hotherCall).1
  obtain ⟨packet, hsent, hwrote⟩ := hheard.authored.authored.eq_singleton hauthor halone
  obtain ⟨found, wrote, sequenceNumber, hfound, hcall, -, -, hpacket⟩ := hwrote
  obtain rfl : session = found := by simpa [hsessions] using hfound
  obtain rfl : call = wrote := by simpa [hcalls] using hcall
  exact ⟨session, sequenceNumber, packet, hsessions, hsent, hpacket⟩

/-- The reply is what the first packet decodes to that was read for the session. -/
theorem Exchanged.exists_read (h : Exchanged md5 obfuscationKey request reply actions wire)
    {session : Session} (hsessions : wire.running.connection.sessions = [session]) :
    ∃ before response, Wire.RegistersAfter md5 obfuscationKey actions before 0 ∧
      ((wire.arrived md5 obfuscationKey session.sessionId).drop
        (before.arrived md5 obfuscationKey session.sessionId).length).head? = some response ∧
      AccountingReply.fromBytes response.body = .ok reply := by
  obtain ⟨found, call, hfound, hcalls, -, hreturned⟩ := h.called
  obtain rfl : session = found := List.singleton_inj.mp (hsessions.symm.trans hfound)
  have hsession : wire.running.connection.sessions[0]? = some session := by simp [hsessions]
  have hcallAt : session.calls[0]? = some call := by simp [hcalls]
  obtain ⟨before, takers, hregisters, htaken, hsettled⟩ := Wire.exists_takers h.run hsession
  have ⟨first, _, _, _, hfirst, _⟩ := hregisters
  rw [← Wire.arrived_eq h.run, ← Wire.arrived_eq hfirst] at htaken
  obtain ⟨hcall, htaker⟩ := hsettled 0 call hcallAt
  obtain ⟨response, hresponse, hreply⟩ := hcall.of_returned hreturned
  have halone : ∀ other ∈ takers, other = 0 := by
    intro other hother
    obtain ⟨-, packet, -, -, htook⟩ := htaken.exists_item hother
    obtain ⟨otherCall, hotherCall, -⟩ := Session.exists_of_responseOf htook
    rw [hcalls, List.getElem?_singleton] at hotherCall
    by_contra hne
    simp [hne] at hotherCall
  obtain ⟨packet, hpackets, htook⟩ := htaken.eq_singleton (htaker (by simp [hresponse])) halone
  obtain rfl : response = packet := by
    rw [Session.responseOf_eq hcallAt, hresponse] at htook
    exact Option.some.inj htook
  refine ⟨before, response, hregisters, ?_, hreply⟩
  have hhead := congrArg List.head? hpackets
  rw [List.head?_take, List.head?_singleton] at hhead
  split at hhead
  · simp at hhead
  · exact hhead

end Exchanged

section Command

variable {SocketAddr TcpStream ServerName TlsStream Session : Type}
  {environment : Environment SocketAddr TcpStream ServerName TlsStream Session} {cli : Cli}
  {md5 : List UInt8 → Digest}

/-- The environment answers calls on the sessions of a connection as the tasks of the connection
do. -/
def Environment.RunsConnections (md5 : List UInt8 → Digest)
    (environment : Environment SocketAddr TcpStream ServerName TlsStream Session) : Prop :=
  ∀ connection session request reply, environment.createSession connection = .ok session →
    environment.sendAccountingRequest session request = .ok reply →
      ∃ actions wire, Exchanged md5 connection.obfuscationKey request reply actions wire

theorem obfuscationKey_of_makeConnection {tcpConnection : TcpStream} {connection : Connection}
    (h : makeConnection environment cli tcpConnection = .ok connection) :
    connection.obfuscationKey = cli.obfuscationKey.map asBytes := by
  unfold makeConnection at h
  split at h
  · split at h
    · simp only [Outcome.bind_def, Outcome.bind_eq_ok_iff, Outcome.pure_eq, Outcome.ok.injEq] at h
      obtain ⟨-, -, -, -, -, -, rfl⟩ := h
      rfl
    · simp at h
  · obtain rfl := Outcome.ok.inj h
    rfl

/-- An administrator runs `ls`. -/
def lsCommand : Cli :=
  ⟨"localhost", none, false, none, none, none, some "admin", some "tty0", some "10.0.0.1",
    some (.accounting "ls" none)⟩

/-- There is one server, and it answers what `lsCommand` asks. -/
def answeringEnvironment : Environment Unit Unit Unit Unit Unit where
  toSocketAddrs _ := .ok [()]
  connect _ := .ok ()
  readCerts _ := .ok []
  readKey _ := .ok []
  withClientAuthCert _ _ := .ok ()
  serverName _ := some ()
  connectTls _ _ _ := .ok ()
  createSession
    | .tcpConnection ⟨none⟩ => .ok ()
    | _ => .err SessionManager.notAccepting
  sendAccountingRequest _ request :=
    if request = Connection.requestOfCall then .ok ⟨.tacPlusAcctStatusSuccess, "", ""⟩
    else .err Networking.Session.failedToReceive

/-- What the connection of `lsCommand` does: its owner lets go of it as soon as it has its session,
the request is written, and the reply is read and taken. -/
def exchangingRun : List RunningConnection.Action :=
  [.run] ++ (Wire.creationRun 0 7).map .owner ++ [.dropArc] ++ (Wire.requestRun 0 0).map .owner ++
    [.takeOutgoing, .written, .readFrame (SessionManager.replyTo 7).toBytes, .finishSend] ++
    (Wire.replyRun 0 0).map .owner

theorem exchanged_exchangingRun : ∃ wire,
    Exchanged RunningConnection.noDigest none Networking.Connection.requestOfCall
      ⟨.tacPlusAcctStatusSuccess, "", ""⟩ exchangingRun wire := by
  have hfacts : (Rust.run (Wire.step RunningConnection.noDigest none) .new exchangingRun).map
      (fun wire => wire.running.connection.sessions.map fun session =>
        session.calls.map fun call => (call.request, call.phase)) =
      some [[(Networking.Connection.requestOfCall,
        .returned (.ok ⟨.tacPlusAcctStatusSuccess, "", ""⟩))]] := by decide +kernel
  obtain ⟨wire, hrun, hsessions⟩ := Option.map_eq_some_iff.mp hfacts
  obtain ⟨session, hsession, hcalls⟩ := List.map_eq_singleton_iff.mp hsessions
  obtain ⟨call, hcall, hfields⟩ := List.map_eq_singleton_iff.mp hcalls
  obtain ⟨hrequest, hphase⟩ := Prod.mk.inj hfields
  refine ⟨wire, hrun, ?_, session, call, hsession, hcall, hrequest, hphase⟩
  simp [exchangingRun, Wire.creationRun, Wire.requestRun, Wire.replyRun]

theorem runsConnections_answeringEnvironment :
    answeringEnvironment.RunsConnections RunningConnection.noDigest := by
  intro connection session request reply hsession hreply
  obtain ⟨wire, hexchanged⟩ := exchanged_exchangingRun
  have hkey : connection.obfuscationKey = none := by
    simp only [answeringEnvironment] at hsession
    split at hsession
    · rfl
    · simp at hsession
  simp only [answeringEnvironment] at hreply
  split at hreply
  · next hrequest =>
    obtain rfl := Outcome.ok.inj hreply
    exact ⟨exchangingRun, wire, hkey ▸ hrequest ▸ hexchanged⟩
  · simp at hreply

end Command

end TacacsRs.Tacon
