import TacacsRs.Rust.Lists
import TacacsRs.Networking.Session

/-!
# Runs of one session

The session's calls interleave with the rest of the connection: the reader
queues packets to the session and may go away, the outgoing queue is shared with
other sessions and emptied by the writer, which may go away too.
-/

namespace TacacsRs.Networking

open Rust Messages

/-- A session and the channels that it shares with the rest of the connection. -/
structure LiveSession where
  session : Session
  duplexChannel : DuplexChannel

namespace LiveSession

/-- A new session with an empty outgoing queue and an empty channel of its own. -/
def new (sessionId : UInt32) : LiveSession := ⟨.new sessionId, ⟨.new, .new⟩⟩

/-- What happens to a session: its calls, the packets that come for it, and what others do to the
outgoing queue. -/
inductive Action where
  | sendAccountingRequest (request : AccountingRequest)
  | poll (call : Nat) (poll : Poll)
  | deliver (packet : Packet)
  | disconnect
  | queueOther (packet : Packet)
  | takeOutgoing
  | closeOutgoing
  deriving DecidableEq

/-- A step, or `none` where the action cannot happen. -/
def step (live : LiveSession) : Action → Option LiveSession
  | .sendAccountingRequest request =>
      some { live with session := live.session.sendAccountingRequest request }
  | .poll call poll =>
      (live.session.poll live.duplexChannel call poll).map fun next => ⟨next.1, next.2⟩
  | .deliver packet =>
      match live.duplexChannel.receiver.sendersDropped, live.duplexChannel.receiver.send packet with
      | false, .sent receiver =>
          some { live with duplexChannel := { live.duplexChannel with receiver } }
      | _, _ => none
  | .disconnect =>
      some { live with duplexChannel :=
        { live.duplexChannel with receiver := live.duplexChannel.receiver.dropSenders } }
  | .queueOther packet =>
      match live.duplexChannel.sender.send packet with
      | .sent sender => some { live with duplexChannel := { live.duplexChannel with sender } }
      | _ => none
  | .takeOutgoing =>
      match live.duplexChannel.sender.receiverDropped, live.duplexChannel.sender.recv with
      | false, .received _ sender =>
          some { live with duplexChannel := { live.duplexChannel with sender } }
      | _, _ => none
  | .closeOutgoing =>
      some { live with duplexChannel :=
        { live.duplexChannel with sender := live.duplexChannel.sender.dropReceiver } }

/-- Everything that a step can do: a new call, a poll, a packet from the reader, or something
that leaves the calls and the queued replies alone. -/
inductive Step (live : LiveSession) : Action → LiveSession → Prop where
  | start (request : AccountingRequest) :
      Step live (.sendAccountingRequest request)
        { live with session := live.session.sendAccountingRequest request }
  | poll (index : Nat) (poll : Poll) (call : Call) (next : Session)
      (duplexChannel : DuplexChannel) (hcall : live.session.calls[index]? = some call)
      (hpolled : Session.Polled live.session live.duplexChannel index call poll next
        duplexChannel) :
      Step live (.poll index poll) ⟨next, duplexChannel⟩
  | deliver (packet : Packet) (hroom : live.duplexChannel.receiver.HasRoom) :
      Step live (.deliver packet) { live with duplexChannel :=
        { live.duplexChannel with receiver := live.duplexChannel.receiver.push packet hroom } }
  | environment (action : Action) (sender receiver : PacketChannel)
      (hqueue : receiver.queue = live.duplexChannel.receiver.queue)
      (haction : action = .disconnect ∨ action = .takeOutgoing ∨ action = .closeOutgoing ∨
        ∃ packet, action = .queueOther packet) :
      Step live action { live with duplexChannel := ⟨sender, receiver⟩ }

theorem step_eq_some {live next : LiveSession} {action : Action}
    (h : live.step action = some next) : Step live action next := by
  cases action with
  | sendAccountingRequest request =>
      obtain rfl := Option.some.inj h
      exact .start request
  | poll index poll =>
      obtain ⟨⟨session, duplexChannel⟩, hpoll, rfl⟩ := Option.map_eq_some_iff.mp h
      obtain ⟨call, hcall, hpolled⟩ := Session.poll_eq_some hpoll
      exact .poll index poll call session duplexChannel hcall hpolled
  | deliver packet =>
      simp only [step] at h
      split at h
      · next receiver _ hsend =>
        obtain rfl := Option.some.inj h
        obtain ⟨-, hroom, rfl⟩ := Channel.send_eq_sent_iff.mp hsend
        exact .deliver packet hroom
      · simp at h
  | disconnect =>
      obtain rfl := Option.some.inj h
      exact .environment _ _ _ rfl (.inl rfl)
  | queueOther packet =>
      simp only [step] at h
      split at h
      · obtain rfl := Option.some.inj h
        exact .environment _ _ _ rfl (.inr (.inr (.inr ⟨packet, rfl⟩)))
      · simp at h
  | takeOutgoing =>
      simp only [step] at h
      split at h
      · obtain rfl := Option.some.inj h
        exact .environment _ _ _ rfl (.inr (.inl rfl))
      · simp at h
  | closeOutgoing =>
      obtain rfl := Option.some.inj h
      exact .environment _ _ _ rfl (.inr (.inr (.inl rfl)))

end LiveSession

namespace Session

/-- What each call of the session has to do with the lock on the receiver. -/
def stakes (session : Session) (index : Nat) : Stake :=
  (session.calls.map fun call => call.phase.stake).getD index .outside

theorem stakes_sendAccountingRequest (session : Session) (request : AccountingRequest) :
    (session.sendAccountingRequest request).stakes = session.stakes :=
  getD_map_append _ rfl

/-- A poll replaces the call and makes one move on the lock that fits its await points. -/
theorem Polled.move {session next : Session} {duplexChannel duplexChannel' : DuplexChannel}
    {index : Nat} {call : Call} {poll : Poll}
    (h : Polled session duplexChannel index call poll next duplexChannel') :
    ∃ call', next.calls = session.calls.set index call' ∧
      RwLock.Move session.receiverLock index call.phase.stake next.receiverLock
        call'.phase.stake := by
  cases h with
  | senderClosed hphase => exact ⟨_, rfl, hphase ▸ .stay .outside⟩
  | senderOpen hphase => exact ⟨_, rfl, hphase ▸ .stay .outside⟩
  | joinRead hphase => exact ⟨_, rfl, hphase ▸ .join .read⟩
  | receiverClosed hphase => exact ⟨_, rfl, .leave _⟩
  | receiverOpen hphase => exact ⟨_, rfl, .leave _⟩
  | complete hphase => exact ⟨_, rfl, hphase ▸ .stay .outside⟩
  | incomplete hphase => exact ⟨_, rfl, hphase ▸ .stay .outside⟩
  | draw phase hphase hnext =>
      have hstake : phase.stake = .outside := by
        rcases hnext with ⟨packet, rfl, -⟩ | ⟨error, rfl⟩ | rfl <;> rfl
      refine ⟨_, rfl, ?_⟩
      rw [hphase, hstake]
      exact .stay .outside
  | queue packet hphase => exact ⟨_, rfl, hphase ▸ .stay .outside⟩
  | queueClosed packet hphase => exact ⟨_, rfl, hphase ▸ .stay .outside⟩
  | joinWrite hphase => exact ⟨_, rfl, hphase ▸ .join .write⟩
  | acquire hphase hcan => exact ⟨_, rfl, hphase ▸ .acquire hcan⟩
  | closed => exact ⟨_, rfl, .leave _⟩
  | reply response receiver reply hphase => exact ⟨_, rfl, hphase ▸ .stay .writing⟩
  | malformed response receiver result hphase => exact ⟨_, rfl, .leave _⟩
  | succeed => exact ⟨_, rfl, .leave _⟩
  | abandon => exact ⟨_, rfl, .leave _⟩

/-- The lock on the receiver records what its calls have to do with it. -/
def Tracked (session : Session) : Prop := session.receiverLock.Tracks session.stakes

theorem tracked_new (sessionId : UInt32) : (new sessionId).Tracked := by
  have hstakes : (new sessionId).stakes = fun _ => .outside := by
    funext index
    simp [stakes, new]
  rw [Tracked, hstakes]
  exact RwLock.tracks_new

theorem Tracked.polled {session next : Session} {duplexChannel duplexChannel' : DuplexChannel}
    {index : Nat} {call : Call} {poll : Poll} (h : session.Tracked)
    (hcall : session.calls[index]? = some call)
    (hpolled : Polled session duplexChannel index call poll next duplexChannel') :
    next.Tracked := by
  obtain ⟨call', hcalls, hmove⟩ := hpolled.move
  have hstake : session.stakes index = call.phase.stake := getD_map_eq _ _ hcall
  have hstakes : next.stakes = Function.update session.stakes index call'.phase.stake := by
    unfold stakes
    rw [hcalls]
    exact getD_map_set _ _ hcall call'
  rw [Tracked, hstakes]
  exact RwLock.Tracks.move h (hstake ▸ hmove)

end Session

theorem LiveSession.Step.tracked {live next : LiveSession} {action : LiveSession.Action}
    (hstep : LiveSession.Step live action next) (h : live.session.Tracked) :
    next.session.Tracked := by
  cases hstep with
  | start request =>
      rw [Session.Tracked, Session.stakes_sendAccountingRequest]
      exact h
  | poll index poll call next duplexChannel hcall hpolled => exact h.polled hcall hpolled
  | deliver | environment => exact h

end TacacsRs.Networking
