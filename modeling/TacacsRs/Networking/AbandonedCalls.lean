import TacacsRs.Networking.Connection

/-!
# Calls abandoned one after the other

A call that runs alone on an open session gets through to its wait for a reply
without waiting before. Abandoned there, it leaves the session as it was except
for the number that it has drawn.
-/

namespace TacacsRs.Networking

open Rust Messages

namespace Session

/-- The polls of one call, taken one after the other. -/
def pollInTurn (index : Nat) (state : Session × DuplexChannel) (poll : Poll) :
    Option (Session × DuplexChannel) :=
  state.1.poll state.2 index poll

theorem exists_requestPacket (session : Session) (sequenceNumber : UInt8)
    (request : AccountingRequest) :
    ∃ packet, session.requestPacket sequenceNumber request = .ok packet :=
  ⟨_, Packet.new_eq_ok_iff.mpr ⟨Nat.mod_le _ _, rfl⟩⟩

/-- A call that runs alone on an open session sends its request under the next number, and can be
abandoned while it waits for its reply. -/
theorem run_abandoned (session : Session) (duplexChannel : DuplexChannel)
    (request : AccountingRequest) (hlock : session.receiverLock = .new)
    (hcomplete : session.sessionComplete = false)
    (hsender : duplexChannel.sender.receiverDropped = false)
    (hreceiver : duplexChannel.receiver.sendersDropped = false)
    (hroom : duplexChannel.sender.HasRoom) :
    ∃ packet, session.requestPacket session.currentSequenceNumber request = .ok packet ∧
      run (pollInTurn session.calls.length) (session.sendAccountingRequest request, duplexChannel)
        [.checkSender, .joinRead, .checkReceiver, .checkComplete, .draw, .send, .joinWrite,
          .acquire, .abandon] = some ({ session with
        currentSequenceNumber := session.currentSequenceNumber + 2
        calls := session.calls ++
          [⟨request, some session.currentSequenceNumber, none, .abandoned⟩] },
        { duplexChannel with sender := duplexChannel.sender.push packet hroom }) := by
  obtain ⟨packet, hpacket⟩ := exists_requestPacket session session.currentSequenceNumber request
  refine ⟨packet, hpacket, ?_⟩
  have hsend : duplexChannel.sender.send packet = .sent (duplexChannel.sender.push packet hroom) :=
    Channel.send_eq_sent_iff.mpr ⟨hsender, hroom, rfl⟩
  obtain ⟨sessionId, current, complete, lock, calls⟩ := session
  obtain rfl := hlock
  obtain rfl := hcomplete
  have hdraw (session' : Session) (hid : session'.sessionId = sessionId) :
      session'.requestPacket current request = .ok packet := by
    rw [← hpacket, requestPacket, requestPacket, hid]
  simp [run, pollInTurn, poll, pollCheckSender, pollJoinRead, pollCheckReceiver,
    pollCheckComplete, pollDraw, nextSequenceNumber, pollSend, pollJoinWrite, pollAcquire, abandon,
    setCall, joinLock, leaveLock, sendAccountingRequest, DuplexChannel.senderClosed,
    DuplexChannel.receiverClosed, RwLock.new, RwLock.join, RwLock.leave, RwLock.CanRead,
    RwLock.CanWrite, RwLock.acquire, hsender, hreceiver, hsend, hdraw]

end Session

namespace Connection

/-- One session's polls in turn are steps of the connection. -/
theorem run_pollInTurn {connection : Connection} {index callIndex : Nat} {polls : List Poll}
    {session next : Session} {sessionChannel : SessionChannel} {duplexChannel : DuplexChannel}
    (hsession : connection.sessions[index]? = some session)
    (hchannel : connection.sessionManager.sessions[index]? = some sessionChannel)
    (hrun : run (Session.pollInTurn callIndex)
      (session, ⟨connection.sessionManager.outgoing, sessionChannel.channel⟩) polls =
        some (next, duplexChannel)) :
    run step connection (polls.map (.poll index callIndex)) =
      some { connection with
        sessionManager := { connection.sessionManager with
          outgoing := duplexChannel.sender
          sessions := connection.sessionManager.sessions.set index
            { sessionChannel with channel := duplexChannel.receiver } }
        sessions := connection.sessions.set index next } := by
  induction polls generalizing connection session sessionChannel with
  | nil =>
      obtain ⟨rfl, rfl⟩ := Prod.mk.inj (Option.some.inj hrun)
      rw [set_eq_self_of_some hsession, set_eq_self_of_some hchannel]
      rfl
  | cons poll polls ih =>
      obtain ⟨⟨polled, duplexChannel'⟩, hpoll, hrest⟩ := run_cons_eq_some_iff.mp hrun
      have hstep : step connection (.poll index callIndex poll) = some { connection with
          sessionManager := { connection.sessionManager with
            outgoing := duplexChannel'.sender
            sessions := connection.sessionManager.sessions.set index
              { sessionChannel with channel := duplexChannel'.receiver } }
          sessions := connection.sessions.set index polled } := by
        rw [Session.pollInTurn] at hpoll
        simp only [step, pollCall, hsession, hchannel, hpoll, Option.map_some]
      rw [List.map_cons, run_cons_of_step hstep]
      rw [ih (getElem?_set_of_some hsession polled) (getElem?_set_of_some hchannel _) hrest]
      simp only [List.set_set]

end Connection

end TacacsRs.Networking
