import Mathlib.Data.List.AList
import TacacsRs.Rust.Channel
import TacacsRs.Rust.Transition
import TacacsRs.Messages.Packet

/-!
# The session manager

The registry maps a session id to the sending half of the session's channel.
Calls of `create_session` and the one reader that calls
`send_message_to_session` interleave at their await points; what happens between
two await points is one step. The reader holds the registry's read lock from the
lookup until its send is over, so no session is registered in between.

Channels are numbered in the order of their registration. The owners of the
sessions take packets and drop sessions as they like.
-/

namespace TacacsRs.Networking

open Rust Messages

/-- The capacity of the channels of a connection. -/
def channelCapacity : Nat := 32

/-- The channels of packets all have the same capacity. -/
abbrev PacketChannel := Channel Packet channelCapacity

/-- The channel from the connection to one session. -/
structure SessionChannel where
  sessionId : UInt32
  channel : PacketChannel
  deriving DecidableEq

/-- Where a call of `create_session` stands. -/
inductive Creation where
  | checkingPermission
  | creatingChannel
  | refused (error : Error)
  | created (sessionId : UInt32)
  | cancelled
  deriving DecidableEq

/-- The registry with the flag and the outgoing queue, all channels ever made, and the calls that
are under way. -/
structure SessionManager where
  duplexChannels : AList fun _ : UInt32 => Nat
  outgoing : PacketChannel
  canAcceptNewSessions : Bool
  sessions : List SessionChannel
  creations : List Creation
  /-- The packet and the channel of a `send_message_to_session` that awaits its send. -/
  sending : Option (Packet × Nat)

namespace SessionManager

/-- A manager without sessions, which accepts new ones. -/
def new : SessionManager where
  duplexChannels := ∅
  outgoing := .new
  canAcceptNewSessions := true
  sessions := []
  creations := []
  sending := none

/-- What happens to a manager: the steps of its methods, and what sessions do with their receivers.
-/
inductive Action where
  | createSession
  | canCreateSessions (call : Nat)
  | createChannel (call : Nat) (draws : List UInt32)
  | cancelCreation (call : Nat)
  | disableNewSessions
  | sendMessageToSession (packet : Packet)
  | finishSend
  | receive (session : Nat)
  | dropSession (session : Nat)
  deriving DecidableEq

/-- What a step shows to an observer of the manager. -/
inductive Event where
  | internal
  | registered (sessionId : UInt32)
  | lookedUp (packet : Packet)
  | rejected (packet : Packet) (error : Error)
  | returned (result : Outcome Unit)
  | dropped (sessionId : UInt32)
  deriving DecidableEq

/-- The id that `create_channel` settles on: the first draw that is not registered. -/
def drawSessionId (duplexChannels : AList fun _ : UInt32 => Nat) : List UInt32 → Option UInt32
  | [] => none
  | sessionId :: draws =>
      if sessionId ∈ duplexChannels then drawSessionId duplexChannels draws else some sessionId

/-- The error of `create_session` once new sessions are disabled. -/
def notAccepting : Error := .msg "Connection is not accepting new sessions"

/-- The error of `send_message_to_session` for an id that is not registered. -/
def noClientChannel : Error := .msg "No client channel found for session id"

/-- The error of `send_message_to_session` for a session that was dropped. -/
def failedToSend : Error := .msg "Failed to send packet to client channel"

/-- `create_channel` under the registry's write lock, which the reader must not hold. -/
def createChannel (manager : SessionManager) (call : Nat) (draws : List UInt32) :
    Option (SessionManager × Event) :=
  match manager.sending, drawSessionId manager.duplexChannels draws with
  | none, some sessionId =>
      some ({ manager with
        duplexChannels := manager.duplexChannels.insert sessionId manager.sessions.length
        sessions := manager.sessions ++ [⟨sessionId, .new⟩]
        creations := manager.creations.set call (.created sessionId) }, .registered sessionId)
  | _, _ => none

/-- `send_message_to_session` up to its send: the read lock is taken and the id looked up. -/
def sendMessageToSession (manager : SessionManager) (packet : Packet) :
    Option (SessionManager × Event) :=
  match manager.sending with
  | some _ => none
  | none =>
      match manager.duplexChannels.lookup packet.header.sessionId with
      | some index => some ({ manager with sending := some (packet, index) }, .lookedUp packet)
      | none => some (manager, .rejected packet noClientChannel)

/-- The end of `send_message_to_session`: its send is polled and found ready. -/
def finishSend (manager : SessionManager) : Option (SessionManager × Event) :=
  match manager.sending with
  | none => none
  | some (packet, index) =>
      match manager.sessions[index]? with
      | none => none
      | some session =>
          match session.channel.send packet with
          | .pending => none
          | .closed =>
              some ({ manager with sending := none }, .returned (.err failedToSend))
          | .sent channel =>
              some ({ manager with
                sessions := manager.sessions.set index { session with channel }
                sending := none }, .returned (.ok ()))

/-- A step and what it shows, or `none` where the action cannot happen. -/
def step (manager : SessionManager) : Action → Option (SessionManager × Event)
  | .createSession =>
      some ({ manager with creations := manager.creations ++ [.checkingPermission] }, .internal)
  | .canCreateSessions call =>
      match manager.creations[call]? with
      | some .checkingPermission =>
          let next := if manager.canAcceptNewSessions then .creatingChannel
            else .refused notAccepting
          some ({ manager with creations := manager.creations.set call next }, .internal)
      | _ => none
  | .createChannel call draws =>
      match manager.creations[call]? with
      | some .creatingChannel => manager.createChannel call draws
      | _ => none
  | .cancelCreation call =>
      match manager.creations[call]? with
      | some .checkingPermission | some .creatingChannel =>
          some ({ manager with creations := manager.creations.set call .cancelled }, .internal)
      | _ => none
  | .disableNewSessions => some ({ manager with canAcceptNewSessions := false }, .internal)
  | .sendMessageToSession packet => manager.sendMessageToSession packet
  | .finishSend => manager.finishSend
  | .receive index =>
      match manager.sessions[index]? with
      | none => none
      | some session =>
          match session.channel.receiverDropped, session.channel.recv with
          | false, .received _ channel =>
              some ({ manager with
                sessions := manager.sessions.set index { session with channel } }, .internal)
          | _, _ => none
  | .dropSession index =>
      match manager.sessions[index]? with
      | none => none
      | some session =>
          if session.channel.receiverDropped then none
          else some ({ manager with
            sessions := manager.sessions.set index
              { session with channel := session.channel.dropReceiver } },
            .dropped session.sessionId)

theorem drawSessionId_notMem {duplexChannels : AList fun _ : UInt32 => Nat}
    {draws : List UInt32} {sessionId : UInt32}
    (h : drawSessionId duplexChannels draws = some sessionId) : sessionId ∉ duplexChannels := by
  induction draws with
  | nil => simp [drawSessionId] at h
  | cons draw draws ih =>
      unfold drawSessionId at h
      split at h
      · exact ih h
      · next hfresh =>
        cases h
        exact hfresh

/-- A draw that is not registered ends the loop. -/
theorem drawSessionId_isSome {duplexChannels : AList fun _ : UInt32 => Nat}
    {draws : List UInt32} (h : ∃ sessionId ∈ draws, sessionId ∉ duplexChannels) :
    (drawSessionId duplexChannels draws).isSome := by
  induction draws with
  | nil => simp at h
  | cons draw draws ih =>
      unfold drawSessionId
      split
      · next hdraw =>
        obtain ⟨sessionId, hmem, hfresh⟩ := h
        rcases List.mem_cons.mp hmem with rfl | hmem
        · exact absurd hdraw hfresh
        · exact ih ⟨sessionId, hmem, hfresh⟩
      · rfl

/-- Every step of the manager, by what it does to the registry, the channels and the reader. -/
inductive Step (manager : SessionManager) : Action → SessionManager → Event → Prop where
  | create :
      Step manager .createSession
        { manager with creations := manager.creations ++ [.checkingPermission] } .internal
  | permit (call : Nat) (hcall : manager.creations[call]? = some .checkingPermission)
      (haccepting : manager.canAcceptNewSessions = true) :
      Step manager (.canCreateSessions call)
        { manager with creations := manager.creations.set call .creatingChannel } .internal
  | refuse (call : Nat) (hcall : manager.creations[call]? = some .checkingPermission)
      (hclosed : manager.canAcceptNewSessions = false) :
      Step manager (.canCreateSessions call)
        { manager with creations := manager.creations.set call (.refused notAccepting) } .internal
  | cancel (call : Nat) (hcall : manager.creations[call]? = some .checkingPermission ∨
        manager.creations[call]? = some .creatingChannel) :
      Step manager (.cancelCreation call)
        { manager with creations := manager.creations.set call .cancelled } .internal
  | disable : Step manager .disableNewSessions { manager with canAcceptNewSessions := false }
      .internal
  | register (call : Nat) (draws : List UInt32) (sessionId : UInt32)
      (hcall : manager.creations[call]? = some .creatingChannel)
      (hidle : manager.sending = none)
      (hdraw : drawSessionId manager.duplexChannels draws = some sessionId) :
      Step manager (.createChannel call draws)
        { manager with
          duplexChannels := manager.duplexChannels.insert sessionId manager.sessions.length
          sessions := manager.sessions ++ [⟨sessionId, .new⟩]
          creations := manager.creations.set call (.created sessionId) } (.registered sessionId)
  | lookup (packet : Packet) (index : Nat) (hidle : manager.sending = none)
      (hlookup : manager.duplexChannels.lookup packet.header.sessionId = some index) :
      Step manager (.sendMessageToSession packet)
        { manager with sending := some (packet, index) } (.lookedUp packet)
  | reject (packet : Packet) (hidle : manager.sending = none)
      (hlookup : manager.duplexChannels.lookup packet.header.sessionId = none) :
      Step manager (.sendMessageToSession packet) manager (.rejected packet noClientChannel)
  | deliver (packet : Packet) (index : Nat) (session : SessionChannel)
      (hsending : manager.sending = some (packet, index))
      (hsession : manager.sessions[index]? = some session)
      (hopen : session.channel.receiverDropped = false) (hroom : session.channel.HasRoom) :
      Step manager .finishSend
        { manager with
          sessions := manager.sessions.set index
            { session with channel := session.channel.push packet hroom }
          sending := none } (.returned (.ok ()))
  | fail (packet : Packet) (index : Nat) (session : SessionChannel)
      (hsending : manager.sending = some (packet, index))
      (hsession : manager.sessions[index]? = some session)
      (hdropped : session.channel.receiverDropped = true) :
      Step manager .finishSend { manager with sending := none } (.returned (.err failedToSend))
  | receive (index : Nat) (session : SessionChannel)
      (hsession : manager.sessions[index]? = some session)
      (hnonempty : session.channel.taken < session.channel.sent.length) :
      Step manager (.receive index)
        { manager with
          sessions := manager.sessions.set index
            { session with channel := session.channel.pop hnonempty } } .internal
  | drop (index : Nat) (session : SessionChannel)
      (hsession : manager.sessions[index]? = some session)
      (hopen : session.channel.receiverDropped = false) :
      Step manager (.dropSession index)
        { manager with
          sessions := manager.sessions.set index
            { session with channel := session.channel.dropReceiver } }
        (.dropped session.sessionId)

theorem createChannel_eq_some {manager next : SessionManager} {event : Event} {call : Nat}
    {draws : List UInt32} (hcall : manager.creations[call]? = some .creatingChannel)
    (h : manager.createChannel call draws = some (next, event)) :
    Step manager (.createChannel call draws) next event := by
  unfold createChannel at h
  split at h
  · next sessionId hidle hdraw =>
    rw [Option.some.injEq, Prod.mk.injEq] at h
    obtain ⟨rfl, rfl⟩ := h
    exact .register call draws sessionId hcall hidle hdraw
  · simp at h

theorem sendMessageToSession_eq_some {manager next : SessionManager} {event : Event}
    {packet : Packet} (h : manager.sendMessageToSession packet = some (next, event)) :
    Step manager (.sendMessageToSession packet) next event := by
  unfold sendMessageToSession at h
  split at h
  · simp at h
  · next hidle =>
    split at h
    · next index hlookup =>
      rw [Option.some.injEq, Prod.mk.injEq] at h
      obtain ⟨rfl, rfl⟩ := h
      exact .lookup packet index hidle hlookup
    · next hlookup =>
      rw [Option.some.injEq, Prod.mk.injEq] at h
      obtain ⟨rfl, rfl⟩ := h
      exact .reject packet hidle hlookup

theorem finishSend_eq_some {manager next : SessionManager} {event : Event}
    (h : manager.finishSend = some (next, event)) : Step manager .finishSend next event := by
  unfold finishSend at h
  split at h
  · simp at h
  · next packet index hsending =>
    split at h
    · simp at h
    · next session hsession =>
      split at h
      · simp at h
      · next hclosed =>
        rw [Option.some.injEq, Prod.mk.injEq] at h
        obtain ⟨rfl, rfl⟩ := h
        exact .fail packet index session hsending hsession
          (Channel.send_eq_closed_iff.mp hclosed)
      · next channel hsent =>
        rw [Option.some.injEq, Prod.mk.injEq] at h
        obtain ⟨rfl, rfl⟩ := h
        obtain ⟨hopen, hroom, rfl⟩ := Channel.send_eq_sent_iff.mp hsent
        exact .deliver packet index session hsending hsession hopen hroom

theorem step_eq_some {manager next : SessionManager} {action : Action} {event : Event}
    (h : manager.step action = some (next, event)) : Step manager action next event := by
  cases action with
  | createSession =>
      simp only [step, Option.some.injEq, Prod.mk.injEq] at h
      obtain ⟨rfl, rfl⟩ := h
      exact .create
  | canCreateSessions call =>
      simp only [step] at h
      split at h
      · next hcall =>
        rw [Option.some.injEq, Prod.mk.injEq] at h
        obtain ⟨rfl, rfl⟩ := h
        by_cases haccepting : manager.canAcceptNewSessions = true
        · rw [if_pos haccepting]
          exact .permit call hcall haccepting
        · rw [if_neg haccepting]
          exact .refuse call hcall (Bool.eq_false_iff.mpr haccepting)
      · simp at h
  | createChannel call draws =>
      simp only [step] at h
      split at h
      · next hcall => exact createChannel_eq_some hcall h
      · simp at h
  | cancelCreation call =>
      simp only [step] at h
      split at h
      · next hcall =>
        rw [Option.some.injEq, Prod.mk.injEq] at h
        obtain ⟨rfl, rfl⟩ := h
        exact .cancel call (.inl hcall)
      · next hcall =>
        rw [Option.some.injEq, Prod.mk.injEq] at h
        obtain ⟨rfl, rfl⟩ := h
        exact .cancel call (.inr hcall)
      · simp at h
  | disableNewSessions =>
      simp only [step, Option.some.injEq, Prod.mk.injEq] at h
      obtain ⟨rfl, rfl⟩ := h
      exact .disable
  | sendMessageToSession packet => exact sendMessageToSession_eq_some h
  | finishSend => exact finishSend_eq_some h
  | receive index =>
      simp only [step] at h
      split at h
      · simp at h
      · next session hsession =>
        split at h
        · next value channel hopen hrecv =>
          rw [Option.some.injEq, Prod.mk.injEq] at h
          obtain ⟨rfl, rfl⟩ := h
          obtain ⟨hnonempty, -, rfl⟩ := Channel.recv_eq_received_iff.mp hrecv
          exact .receive index session hsession hnonempty
        · simp at h
  | dropSession index =>
      simp only [step] at h
      split at h
      · simp at h
      · next session hsession =>
        split at h
        · simp at h
        · next hopen =>
          rw [Option.some.injEq, Prod.mk.injEq] at h
          obtain ⟨rfl, rfl⟩ := h
          exact .drop index session hsession (Bool.eq_false_iff.mpr hopen)

/-- A packet with an accounting reply to the given session. -/
def replyTo (sessionId : UInt32) : Packet :=
  ⟨{ majorVersion := .tacacsPlusMajor1, minorVersion := .tacacsPlusMinorVerDefault,
     tacacsType := .tacPlusAccounting, seqNo := 2, flags := TacacsFlags.tacPlusUnencryptedFlag,
     sessionId, length := 5 }, [0, 0, 0, 0, 1]⟩

end SessionManager

end TacacsRs.Networking
