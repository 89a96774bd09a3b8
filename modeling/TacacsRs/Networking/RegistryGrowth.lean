import TacacsRs.Networking.HandleConnection

/-!
# Growth of the registry

`create_channel` is the only place that changes the registry of a connection: it
inserts, and nothing is ever removed. A packet for a session that is over is
looked up like any other; what becomes of it depends on whether the session's
receiver is still there.
-/

namespace TacacsRs.Networking

open Rust Messages

namespace SessionManager

variable {manager : SessionManager}

/-- The keys of the registry are the ids of all the channels that were made. -/
theorem Registered.keys_perm (h : manager.Registered) :
    manager.duplexChannels.keys.Perm manager.ids := by
  rw [List.perm_ext_iff_of_nodup manager.duplexChannels.keys_nodup h.nodup]
  intro sessionId
  rw [← AList.mem_keys]
  exact h.mem_iff

section Send

variable {packet : Packet} {index : Nat} {session : SessionChannel}

theorem sendMessageToSession_of_lookup (hidle : manager.sending = none)
    (hlookup : manager.duplexChannels.lookup packet.header.sessionId = some index) :
    manager.step (.sendMessageToSession packet) =
      some ({ manager with sending := some (packet, index) }, .lookedUp packet) := by
  simp only [step, sendMessageToSession, hidle, hlookup]

/-- A packet for a dropped session is refused. -/
theorem finishSend_of_dropped (hidle : manager.sending = none)
    (hsession : manager.sessions[index]? = some session)
    (hdropped : session.channel.receiverDropped = true) :
    step { manager with sending := some (packet, index) } .finishSend =
      some (manager, .returned (.err failedToSend)) := by
  have hclosed : session.channel.send packet = .closed := Channel.send_eq_closed_iff.mpr hdropped
  simp only [step, finishSend, hsession, hclosed]
  rw [← hidle]

/-- A packet for any other session is delivered as soon as there is room. -/
theorem finishSend_of_open (hidle : manager.sending = none)
    (hsession : manager.sessions[index]? = some session)
    (hopen : session.channel.receiverDropped = false) (hroom : session.channel.HasRoom) :
    step { manager with sending := some (packet, index) } .finishSend =
      some ({ manager with
        sessions := manager.sessions.set index
          { session with channel := session.channel.push packet hroom } },
        .returned (.ok ())) := by
  have hsent : session.channel.send packet = .sent (session.channel.push packet hroom) :=
    Channel.send_eq_sent_iff.mpr ⟨hopen, hroom, rfl⟩
  simp only [step, finishSend, hsession, hsent]
  rw [← hidle]

end Send

end SessionManager

namespace RunningConnection

variable {md5 : List UInt8 → Digest} {obfuscationKey : Option (List UInt8)}

/-- In every run, the registry has one entry for each session that was ever created. A packet for
one that is dropped is refused once its send is polled, a packet for any other one is delivered,
whether the session is complete or not. -/
theorem registry_keeps_sessions {actions : List Action} {running : RunningConnection}
    (hrun : Rust.run (step md5 obfuscationKey) new actions = some running) :
    running.connection.sessionManager.duplexChannels.keys.Perm
        (running.connection.sessions.map Session.sessionId) ∧
      ∀ (index : Nat) (session : Session) (sessionChannel : SessionChannel) (packet : Packet),
        running.connection.sessions[index]? = some session →
        running.connection.sessionManager.sessions[index]? = some sessionChannel →
        packet.header.sessionId = session.sessionId →
        running.connection.sessionManager.sending = none →
          let manager := running.connection.sessionManager
          let sending := { manager with sending := some (packet, index) }
          manager.step (.sendMessageToSession packet) = some (sending, .lookedUp packet) ∧
            (sessionChannel.channel.receiverDropped = true →
              sending.step .finishSend =
                some (manager, .returned (.err SessionManager.failedToSend))) ∧
            (sessionChannel.channel.receiverDropped = false →
              ∀ hroom : sessionChannel.channel.HasRoom, sending.step .finishSend =
                some ({ manager with
                  sessions := manager.sessions.set index
                    { sessionChannel with
                      channel := sessionChannel.channel.push packet hroom } },
                  .returned (.ok ()))) := by
  have hregistered := registered_of_run hrun
  refine ⟨hregistered.ids ▸ hregistered.registered.keys_perm, ?_⟩
  intro index session sessionChannel packet hsession hchannel hid hidle
  have hlookup : running.connection.sessionManager.duplexChannels.lookup
      packet.header.sessionId = some index := by
    rw [hregistered.registered, hid, ← hregistered.ids, List.getElem?_map, hsession,
      Option.map_some]
  exact ⟨SessionManager.sendMessageToSession_of_lookup hidle hlookup,
    SessionManager.finishSend_of_dropped hidle hchannel,
    SessionManager.finishSend_of_open hidle hchannel⟩

/-- A session is created, completed and dropped. -/
def finishedSessionRun : List Action :=
  [.run, .owner (.manage .createSession), .owner (.manage (.canCreateSessions 0)),
    .owner (.manage (.createChannel 0 [7])), .completeSession 0, .owner (.dropSession 0)]

/-- The only session is complete and dropped, nothing is in progress, and its id is registered. -/
theorem finishedSessionRun_registered :
    ∃ running, Rust.run (step noDigest none) new finishedSessionRun = some running ∧
      running.connection.sessions.map (fun session =>
        (session.sessionId, session.sessionComplete, session.calls)) = [(7, true, [])] ∧
      running.connection.sessionManager.sessions.map (fun sessionChannel =>
        sessionChannel.channel.receiverDropped) = [true] ∧
      running.connection.sessionManager.creations = [.created 7] ∧
      running.connection.sessionManager.sending = none ∧
      running.connection.sessionManager.duplexChannels.lookup 7 = some 0 := by
  refine ⟨_, rfl, rfl, rfl, rfl, rfl, ?_⟩
  decide

theorem registry_keeps_sessions_finishedSessionRun :
    ∃ running, Rust.run (step noDigest none) new finishedSessionRun = some running ∧
      running.connection.sessionManager.duplexChannels.keys.Perm
        (running.connection.sessions.map Session.sessionId) ∧
      ∃ sending refused,
        running.connection.sessionManager.step
          (.sendMessageToSession (SessionManager.replyTo 7)) = some sending ∧
        sending.1.step .finishSend = some refused ∧
        refused.2 = .returned (.err SessionManager.failedToSend) := by
  have hfacts : (Rust.run (step noDigest none) new finishedSessionRun).map (fun running =>
      (running.connection.sessions[0]?.map Session.sessionId,
        running.connection.sessionManager.sessions[0]?.map fun sessionChannel =>
          sessionChannel.channel.receiverDropped, running.connection.sessionManager.sending)) =
      some (some 7, some true, none) := rfl
  obtain ⟨running, hrun, hfields⟩ := Option.map_eq_some_iff.mp hfacts
  simp only [Prod.mk.injEq] at hfields
  obtain ⟨hid, hdropped, hidle⟩ := hfields
  obtain ⟨session, hsession, hid⟩ := Option.map_eq_some_iff.mp hid
  obtain ⟨sessionChannel, hchannel, hdropped⟩ := Option.map_eq_some_iff.mp hdropped
  obtain ⟨hkeys, hpackets⟩ := registry_keeps_sessions hrun
  obtain ⟨hlookup, hrefused, -⟩ :=
    hpackets 0 session sessionChannel (SessionManager.replyTo 7) hsession hchannel hid.symm hidle
  exact ⟨running, hrun, hkeys, _, _, hlookup, hrefused hdropped, rfl⟩

end RunningConnection

end TacacsRs.Networking
