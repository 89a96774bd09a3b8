import TacacsRs.Networking.Progress
import TacacsRs.Networking.ReplyOrigin
import TacacsRs.Networking.ScriptedReplies
import TacacsRs.Networking.Transactions

/-!
# What the mock server has in hand

The server takes one request after the other and passes the reply that it finds
for it on to the session. Every step queues a request, answers it, gives it up
or passes its reply on, and nothing that is underway overtakes another one. The
owner queues no requests by himself here.
-/

namespace TacacsRs.Networking

open Rust Messages

/-- What the server has in hand. -/
def Serving.items : Serving → List Item
  | .answering request _ => [.request request]
  | .recording _ reply => [.reply reply]
  | .delivering reply => [.reply reply]
  | _ => []

theorem Serving.items_of_isOver {serving : Serving} (h : serving.isOver = true) :
    serving.items = [] := by
  cases serving with
  | notStarted | ended => rfl
  | receiving | answering | recording | delivering | sending => simp [isOver] at h

namespace Connection

/-- What the connection of a server keeps, whoever serves it. -/
structure Regular (connection : Connection) : Prop where
  ordered : connection.Ordered
  matched : connection.Matched
  authored : ∃ authors, connection.Authored authors
  settled : ∀ session ∈ connection.sessions, ∀ call ∈ session.calls, call.Settled

theorem regular_new : Regular .new where
  ordered := ordered_new
  matched := matched_new
  authored := ⟨[], authored_new⟩
  settled := by simp [new]

section Step

variable {connection next : Connection} {action : Action}

theorem Regular.settled_step (h : connection.Regular) (hstep : Step connection action next) :
    ∀ session ∈ next.sessions, ∀ call ∈ session.calls, call.Settled := by
  intro session hsession call hcall
  cases hstep with
  | manage action manager event hpresent howner hstep =>
      rcases List.mem_append.mp hsession with hold | hnew
      · exact h.settled session hold call hcall
      · obtain ⟨sessionId, -, rfl⟩ := List.mem_map.mp hnew
        simp [Session.new] at hcall
  | start index request started sessionChannel hstarted =>
      rcases List.mem_or_eq_of_mem_set hsession with hold | rfl
      · exact h.settled session hold call hcall
      rcases List.mem_append.mp hcall with hold | hnew
      · exact h.settled started (List.mem_of_getElem? hstarted) call hold
      · obtain rfl := List.mem_singleton.mp hnew
        exact Call.settled_of_none rfl (by simp)
  | poll index callIndex poll polling polled sessionChannel duplexChannel hpolling hchannel
      hpoll =>
      rcases List.mem_or_eq_of_mem_set hsession with hold | rfl
      · exact h.settled session hold call hcall
      obtain ⟨running, hrunning, hpolled⟩ := Session.poll_eq_some hpoll
      have hbefore := h.settled polling (List.mem_of_getElem? hpolling)
      obtain ⟨call', hcalls, hafter, -⟩ :=
        hpolled.takes (hbefore running (List.mem_of_getElem? hrunning))
      rw [hcalls] at hcall
      rcases List.mem_or_eq_of_mem_set hcall with hold | rfl
      · exact hbefore call hold
      · exact hafter
  | dropSession | takeOutgoing | closeOutgoing | dropConnection =>
      exact h.settled session hsession call hcall

theorem Regular.step (h : connection.Regular) (hstep : Step connection action next) :
    next.Regular where
  ordered := h.ordered.step hstep
  matched := h.matched.step hstep
  authored := by
    obtain ⟨authors, hauthors⟩ := h.authored
    exact hauthors.step hstep
  settled := h.settled_step hstep

theorem Regular.complete (h : connection.Regular) {index : Nat} {session : Session}
    (hsession : connection.sessions[index]? = some session) :
    Regular { connection with sessions := connection.sessions.set index session.complete } where
  ordered := h.ordered.complete hsession
  matched := h.matched.complete hsession
  authored := by
    obtain ⟨authors, hauthors⟩ := h.authored
    exact ⟨authors, hauthors.complete hsession⟩
  settled := by
    intro other hother call hcall
    rcases List.mem_or_eq_of_mem_set hother with hold | rfl
    · exact h.settled other hold call hcall
    · exact h.settled session (List.mem_of_getElem? hsession) call hcall

theorem Step.outgoing_eq_of_manage {managed : SessionManager.Action}
    (hstep : Step connection (.manage managed) next) :
    next.sessionManager.outgoing = connection.sessionManager.outgoing := by
  cases hstep with
  | manage _ manager event hpresent howner hmanaged => exact hmanaged.outgoing_eq

/-- A packet that a call has to send has the id of its session. -/
theorem Regular.getElem?_ids (h : connection.Regular) {index callIndex : Nat} {call : Call}
    {packet : Packet} (hcall : connection.callAt index callIndex = some call)
    (hphase : call.phase = .sending packet) :
    connection.sessionManager.ids[index]? = some (packetSession packet) := by
  obtain ⟨authors, hauthors⟩ := h.authored
  obtain ⟨session, hsession, hcalls⟩ := callAt_eq_some_iff.mp hcall
  obtain ⟨sequenceNumber, -, hpacket⟩ := hauthors.prepared session
    (List.mem_of_getElem? hsession) call (List.mem_of_getElem? hcalls) packet hphase
  rw [packetSession, (Session.requestPacket_header hpacket).1, ← h.matched.ids,
    List.getElem?_map, hsession]
  rfl

end Step

end Connection

namespace MockConnection

/-- The requests that the server can still take. -/
def pending (mock : MockConnection) : List Packet :=
  if mock.connection.sessionManager.outgoing.receiverDropped then []
  else mock.connection.sessionManager.outgoing.queue

/-- What has not reached the session manager again, the next one first. -/
def underway (mock : MockConnection) : List Item :=
  mock.serving.items ++ mock.pending.map .request

section Step

variable {overflowChecks : Bool} {mock next : MockConnection} {action : Action} {event : Event}

/-- What every step of a connection and `Session::complete` keep is kept by every step of a mock
connection whose owner queues nothing. -/
theorem Step.invariant {P : Connection → Prop}
    (hstep : ∀ connection action next, P connection → Connection.Step connection action next →
      P next)
    (hcomplete : Connection.KeptByComplete P)
    (h : Step overflowChecks mock action next event) (hserved : mock.Served)
    (hunqueued : ∀ index request, action ≠ .queueRequest index request)
    (hbefore : P mock.connection) : P next.connection := by
  have hclosed {connection : Connection} (hconnection : P connection) :
      P connection.closeOutgoing := hstep _ _ _ hconnection .closeOutgoing
  cases h with
  | run | addReply | unanswered | answered | recordRequest => exact hbefore
  | owner action connection howner howned => exact hstep _ _ _ hbefore howned
  | completeSession index session hsession => exact hcomplete _ _ _ hbefore hsession
  | queueRequest index request => exact absurd rfl (hunqueued index request)
  | receive request outgoing replySequenceNumber connection hreceiving hrecv hnumber htake =>
      exact hstep _ _ _ hbefore htake
  | overflow request outgoing connection hreceiving hrecv hpanicked htake =>
      exact hclosed (hstep _ _ _ hbefore htake)
  | closed hreceiving hnone => exact absurd hnone hserved.recv_ne_closed
  | deliverReply reply connection hdelivering hdeliver => exact hstep _ _ _ hbefore hdeliver
  | finishSend connection hsending hfinish => exact hstep _ _ _ hbefore hfinish
  | dropConnection connection hover hdrop => exact hstep _ _ _ (hclosed hbefore) hdrop

/-- How a step changes what has not reached the session manager again. -/
inductive Flow (mock : MockConnection) (action : Action) (next : MockConnection) (event : Event) :
    Prop where
  | same (hunderway : next.underway = mock.underway)
  | queue (index callIndex : Nat) (call : Call) (packet : Packet)
      (haction : action = .owner (.poll index callIndex .send))
      (hcall : mock.connection.callAt index callIndex = some call)
      (hphase : call.phase = .sending packet)
      (hunderway : next.underway = mock.underway ++ [.request packet])
  | answer (request reply : Packet) (replySequenceNumber : UInt8) (rest : List Item)
      (hanswering : mock.serving = .answering request replySequenceNumber)
      (hreply : mock.replies.get (request.header.sessionId, replySequenceNumber) = some reply)
      (hevent : event = .answered request reply)
      (hbefore : mock.underway = .request request :: rest)
      (hafter : next.underway = .reply reply :: rest)
  | giveUp (request : Packet) (hevent : event = .unanswered request)
      (hunderway : mock.underway = .request request :: next.underway)
  | pass (reply : Packet) (haction : action = .deliverReply)
      (hunderway : mock.underway = .reply reply :: next.underway)
  | close (hclosed : next.connection.sessionManager.outgoing.receiverDropped = true)
      (hunderway : next.underway = [])

theorem pending_of_open (h : mock.connection.sessionManager.outgoing.receiverDropped = false) :
    mock.pending = mock.connection.sessionManager.outgoing.queue := by
  simp [pending, h]

theorem pending_of_closed (h : mock.connection.sessionManager.outgoing.receiverDropped = true) :
    mock.pending = [] := by
  simp [pending, h]

theorem pending_congr
    (h : next.connection.sessionManager.outgoing = mock.connection.sessionManager.outgoing) :
    next.pending = mock.pending := by
  rw [pending, pending, h]

theorem underway_of_push (hserving : next.serving = mock.serving) {packet : Packet}
    (hopen : mock.connection.sessionManager.outgoing.receiverDropped = false)
    (hroom : mock.connection.sessionManager.outgoing.HasRoom)
    (hpush : next.connection.sessionManager.outgoing =
      mock.connection.sessionManager.outgoing.push packet hroom) :
    next.underway = mock.underway ++ [.request packet] := by
  have hopened : next.connection.sessionManager.outgoing.receiverDropped = false := by
    rw [hpush]
    exact hopen
  rw [underway, underway, hserving, pending_of_open hopen, pending_of_open hopened, hpush,
    Channel.queue_push, List.map_append, List.append_assoc]
  rfl

/-- The request that is taken is the first one that was queued. -/
theorem pending_of_taken {request : Packet} {outgoing : PacketChannel}
    (hrecv : mock.connection.sessionManager.outgoing.recv = .received request outgoing)
    (hstep : Connection.Step mock.connection .takeOutgoing next.connection) :
    mock.pending = request :: next.pending := by
  have hsame := hstep.outgoing_receiverDropped_eq (by simp)
  generalize hconnection : next.connection = connection at hstep hsame
  cases hstep with
  | takeOutgoing hopen hnonempty =>
      obtain ⟨_, hqueue, rfl⟩ := Channel.recv_eq_received_iff.mp hrecv
      rw [pending_of_open hopen, hqueue, pending_of_open, hconnection]
      rw [hconnection]
      exact hopen

/-- What the sessions do leaves the queue alone, or puts the packet of a call behind the others. -/
theorem flow_of_owner {connection : Connection} {connectionAction : Connection.Action}
    (howner : connectionAction.byOwner = true)
    (hstep : Connection.Step mock.connection connectionAction connection) :
    Flow mock (.owner connectionAction) { mock with connection } event := by
  have hsame (h : connection.sessionManager.outgoing = mock.connection.sessionManager.outgoing) :
      Flow mock (.owner connectionAction) { mock with connection } event :=
    .same (congrArg (fun pending => mock.serving.items ++ pending.map .request) (pending_congr h))
  cases hstep with
  | manage action manager event hpresent howned hmanaged => exact hsame hmanaged.outgoing_eq
  | start | dropSession | dropConnection => exact hsame rfl
  | takeOutgoing | closeOutgoing => simp [Connection.Action.byOwner] at howner
  | poll index callIndex poll session polled sessionChannel duplexChannel hsession hchannel
      hpoll =>
      obtain ⟨call, hcall, hpolled⟩ := Session.poll_eq_some hpoll
      have hfound := Connection.callAt_eq_some_iff.mpr ⟨session, hsession, hcall⟩
      cases hpolled with
      | queue packet hphase hopen hroom =>
          refine .queue index callIndex call packet rfl hfound hphase ?_
          exact underway_of_push (by rfl) hopen hroom rfl
      | senderClosed | senderOpen | joinRead | receiverClosed | receiverOpen | complete
      | incomplete | draw | queueClosed | joinWrite | acquire | closed | reply | malformed
      | succeed | abandon => exact hsame rfl

theorem underway_of_closed
    (hclosed : mock.connection.sessionManager.outgoing.receiverDropped = true)
    (hover : mock.serving.isOver = true) : mock.underway = [] := by
  rw [underway, pending_of_closed hclosed, Serving.items_of_isOver hover]
  rfl

/-- A turn of the server in which the queue stays as it is. -/
theorem underway_of_turn (hserving : mock.serving.items = next.serving.items)
    (houtgoing : next.connection.sessionManager.outgoing =
      mock.connection.sessionManager.outgoing) : next.underway = mock.underway := by
  rw [underway, underway, hserving, pending_congr houtgoing]

theorem underway_of_taken {request : Packet} {outgoing : PacketChannel}
    (hreceiving : mock.serving = .receiving)
    (hrecv : mock.connection.sessionManager.outgoing.recv = .received request outgoing)
    (hstep : Connection.Step mock.connection .takeOutgoing next.connection)
    (hserving : next.serving.items = [.request request]) : next.underway = mock.underway := by
  rw [underway, underway, hserving, hreceiving, pending_of_taken hrecv hstep]
  rfl

theorem underway_of_delivered {reply : Packet} (hdelivering : mock.serving = .delivering reply)
    (hstep : Connection.Step mock.connection (.manage (.sendMessageToSession reply))
      next.connection)
    (hserving : next.serving.items = []) : mock.underway = .reply reply :: next.underway := by
  rw [underway, underway, hserving, hdelivering, pending_congr hstep.outgoing_eq_of_manage]
  rfl

theorem underway_of_finished (hsending : mock.serving = .sending)
    (hstep : Connection.Step mock.connection (.manage .finishSend) next.connection)
    (hserving : next.serving.items = []) : next.underway = mock.underway := by
  refine underway_of_turn ?_ hstep.outgoing_eq_of_manage
  rw [hserving, hsending]
  rfl

theorem items_of_delivered (connection : Connection) :
    (if connection.sessionManager.sending.isSome then Serving.sending
      else .receiving).items = [] := by
  split
  · rfl
  · rfl

theorem Step.flow (h : Step overflowChecks mock action next event) (hserved : mock.Served)
    (hunqueued : ∀ index request, action ≠ .queueRequest index request) :
    Flow mock action next event := by
  cases h with
  | run hserving hpresent =>
      exact .same (underway_of_turn (by rw [hserving]; rfl) rfl)
  | addReply | completeSession => exact .same (underway_of_turn rfl rfl)
  | owner action connection howner howned => exact flow_of_owner howner howned
  | queueRequest index request => exact absurd rfl (hunqueued index request)
  | receive request outgoing replySequenceNumber connection hreceiving hrecv hnumber htake =>
      exact .same (underway_of_taken hreceiving hrecv htake rfl)
  | overflow request outgoing connection hreceiving hrecv hpanicked htake =>
      exact .close rfl (underway_of_closed rfl rfl)
  | closed hreceiving hnone => exact absurd hnone hserved.recv_ne_closed
  | unanswered request replySequenceNumber hanswering hnone =>
      refine .giveUp request rfl ?_
      rw [underway, hanswering]
      rfl
  | answered request reply replySequenceNumber replies hanswering hreply =>
      refine .answer request reply replySequenceNumber (mock.pending.map .request) hanswering
        hreply rfl ?_ rfl
      rw [underway, hanswering]
      rfl
  | recordRequest request reply hrecording =>
      exact .same (underway_of_turn (by rw [hrecording]; rfl) rfl)
  | deliverReply reply connection hdelivering hdeliver =>
      exact .pass reply rfl
        (underway_of_delivered hdelivering hdeliver (items_of_delivered connection))
  | finishSend connection hsending hfinish =>
      exact .same (underway_of_finished hsending hfinish rfl)
  | dropConnection connection hover hdrop =>
      have hclosed : connection.sessionManager.outgoing.receiverDropped = true :=
        hdrop.outgoing_receiverDropped_eq (by simp)
      exact .close hclosed (underway_of_closed hclosed hover)

/-- What the mock connection keeps while its owner queues nothing. -/
structure Orderly (mock : MockConnection) : Prop where
  served : mock.Served
  regular : mock.connection.Regular
  keyed : ∀ key reply, mock.replies.get key = some reply → entryKey reply = key
  numbered : ∀ request replySequenceNumber, mock.serving = .answering request replySequenceNumber →
    replySequenceNumber = request.header.seqNo + 1
  opened : mock.connection.dropped = false → (∀ result, mock.serving ≠ .ended result) →
    mock.connection.sessionManager.outgoing.receiverDropped = false
  closed : mock.connection.dropped = true →
    mock.connection.sessionManager.outgoing.receiverDropped = true
  awaited : mock.serving = .sending → mock.connection.sessionManager.sending ≠ none
  known : ∀ item ∈ mock.underway, itemSession item ∈ mock.connection.sessionManager.ids

theorem orderly_new : Orderly .new where
  served := served_new
  regular := Connection.regular_new
  keyed := by
    intro key reply hreply
    have hnone : new.replies.get key = none := rfl
    simp [hnone] at hreply
  numbered := by simp [new]
  opened := fun _ _ => rfl
  closed := by simp [new, Connection.new]
  awaited := by simp [new]
  known := by
    intro item hitem
    have hnone : new.underway = [] := rfl
    simp [hnone] at hitem

/-- The reply that is found has the id of the request, and the next number. -/
theorem Orderly.answers (h : mock.Orderly) {request reply : Packet} {replySequenceNumber : UInt8}
    (hanswering : mock.serving = .answering request replySequenceNumber)
    (hreply : mock.replies.get (request.header.sessionId, replySequenceNumber) = some reply) :
    packetSession reply = packetSession request ∧
      reply.header.seqNo = request.header.seqNo + 1 := by
  obtain ⟨hid, hnumber⟩ := Prod.mk.inj (h.keyed _ _ hreply)
  exact ⟨hid, hnumber.trans (h.numbered request replySequenceNumber hanswering)⟩

theorem Orderly.keyed_step (h : mock.Orderly) (hstep : Step overflowChecks mock action next event)
    (key : UInt32 × UInt8) (reply : Packet) (hreply : next.replies.get key = some reply) :
    entryKey reply = key := by
  rcases hstep.replies_cases with ⟨hsame, -⟩ | ⟨added, -, -, hinsert⟩ |
    ⟨_, _, _, -, -, -, -, hrest⟩
  · rw [hsame] at hreply
    exact h.keyed key reply hreply
  · rw [hinsert, NestedMap.get_insertEntry, Function.update_apply] at hreply
    split at hreply
    · next hkey =>
      obtain rfl := Option.some.inj hreply
      exact hkey.symm
    · exact h.keyed key reply hreply
  · rw [hrest, Function.update_apply] at hreply
    split at hreply
    · simp at hreply
    · exact h.keyed key reply hreply

theorem Step.ids_prefix (h : Step overflowChecks mock action next event) (hserved : mock.Served)
    (hunqueued : ∀ index request, action ≠ .queueRequest index request) :
    mock.connection.sessionManager.ids <+: next.connection.sessionManager.ids := by
  refine h.invariant (P := fun connection : Connection =>
    mock.connection.sessionManager.ids <+: connection.sessionManager.ids) ?_ ?_ hserved hunqueued
    (List.prefix_refl _)
  · exact fun connection action next hids hstep => hids.trans hstep.ids_prefix
  · exact fun connection index session hids hsession => hids

theorem Orderly.known_step (h : mock.Orderly) (hstep : Step overflowChecks mock action next event)
    (hunqueued : ∀ index request, action ≠ .queueRequest index request) (item : Item)
    (hitem : item ∈ next.underway) :
    itemSession item ∈ next.connection.sessionManager.ids := by
  have hkept {item : Item} (hold : item ∈ mock.underway) :
      itemSession item ∈ next.connection.sessionManager.ids :=
    (hstep.ids_prefix h.served hunqueued).subset (h.known item hold)
  cases hstep.flow h.served hunqueued with
  | same hunderway => exact hkept (hunderway ▸ hitem)
  | queue index callIndex call packet haction hcall hphase hunderway =>
      rw [hunderway, List.mem_append, List.mem_singleton] at hitem
      rcases hitem with hold | rfl
      · exact hkept hold
      · exact (hstep.ids_prefix h.served hunqueued).subset
          (List.mem_of_getElem? (h.regular.getElem?_ids hcall hphase))
  | answer request reply replySequenceNumber rest hanswering hreply hevent hbefore hafter =>
      rw [hafter, List.mem_cons] at hitem
      rcases hitem with rfl | hold
      · have hbehind : Item.request request ∈ mock.underway := by simp [hbefore]
        rw [itemSession, Item.packet, (h.answers hanswering hreply).1]
        exact hkept hbehind
      · exact hkept (by simp [hbefore, hold])
  | giveUp request hevent hunderway => exact hkept (by simp [hunderway, hitem])
  | pass reply haction hunderway => exact hkept (by simp [hunderway, hitem])
  | close hclosed hunderway => simp [hunderway] at hitem

theorem Orderly.numbered_step (h : mock.Orderly)
    (hstep : Step overflowChecks mock action next event) (request : Packet)
    (replySequenceNumber : UInt8)
    (hanswering : next.serving = .answering request replySequenceNumber) :
    replySequenceNumber = request.header.seqNo + 1 := by
  rcases hstep.answering_cases hanswering with hbefore | ⟨-, -, -, hnumber⟩
  · exact h.numbered request replySequenceNumber hbefore
  · exact Outcome.eq_add_of_addU8 hnumber

/-- The receiver of the outgoing queue goes with the server that has it, or with the connection. -/
theorem Step.closing_cases (h : Step overflowChecks mock action next event)
    (hserved : mock.Served) :
    (next.connection.sessionManager.outgoing.receiverDropped =
        mock.connection.sessionManager.outgoing.receiverDropped ∧
      next.connection.dropped = mock.connection.dropped ∧
      ((∃ result, next.serving = .ended result) ↔ ∃ result, mock.serving = .ended result)) ∨
    next.connection.sessionManager.outgoing.receiverDropped = true ∧
      (next.connection.dropped = true ∨ ∃ result, next.serving = .ended result) := by
  have hkept {connection : Connection} {connectionAction : Connection.Action}
      (hnext : Connection.Step mock.connection connectionAction connection)
      (hclose : connectionAction ≠ .closeOutgoing) (hdrop : connectionAction ≠ .dropConnection) :
      connection.sessionManager.outgoing.receiverDropped =
          mock.connection.sessionManager.outgoing.receiverDropped ∧
        connection.dropped = mock.connection.dropped :=
    ⟨hnext.outgoing_receiverDropped_eq hclose, hnext.dropped_eq hdrop⟩
  cases h with
  | run hserving => exact .inl ⟨rfl, rfl, by simp [hserving]⟩
  | owner action connection howner howned =>
      obtain ⟨hreceiver, hdropped⟩ := hkept howned (RunningConnection.ne_of_byOwner howner rfl)
        (RunningConnection.ne_of_byOwner howner rfl)
      exact .inl ⟨hreceiver, hdropped, Iff.rfl⟩
  | completeSession | queueRequest | addReply => exact .inl ⟨rfl, rfl, Iff.rfl⟩
  | receive request outgoing replySequenceNumber connection hreceiving hrecv hnumber htake =>
      obtain ⟨hreceiver, hdropped⟩ := hkept htake (by simp) (by simp)
      exact .inl ⟨hreceiver, hdropped, by simp [hreceiving]⟩
  | overflow => exact .inr ⟨rfl, .inr ⟨_, rfl⟩⟩
  | closed hreceiving hnone => exact absurd hnone hserved.recv_ne_closed
  | unanswered request replySequenceNumber hanswering
  | answered request reply replySequenceNumber replies hanswering =>
      exact .inl ⟨rfl, rfl, by simp [hanswering]⟩
  | recordRequest request reply hrecording => exact .inl ⟨rfl, rfl, by simp [hrecording]⟩
  | deliverReply reply connection hdelivering hdeliver =>
      obtain ⟨hreceiver, hdropped⟩ := hkept hdeliver (by simp) (by simp)
      refine .inl ⟨hreceiver, hdropped, ?_⟩
      dsimp only
      split
      · simp [hdelivering]
      · simp [hdelivering]
  | finishSend connection hsending hfinish =>
      obtain ⟨hreceiver, hdropped⟩ := hkept hfinish (by simp) (by simp)
      exact .inl ⟨hreceiver, hdropped, by simp [hsending]⟩
  | dropConnection connection hover hdrop =>
      refine .inr ⟨hdrop.outgoing_receiverDropped_eq (by simp), .inl ?_⟩
      cases hdrop
      rfl

theorem Orderly.awaited_step (h : mock.Orderly)
    (hstep : Step overflowChecks mock action next event) (hsending : next.serving = .sending) :
    next.connection.sessionManager.sending ≠ none := by
  cases hstep with
  | owner action connection howner howned =>
      cases howned with
      | manage action manager managed hpresent howned hmanaged =>
          cases hmanaged with
          | create | permit | refuse | cancel => exact h.awaited hsending
          | register call draws sessionId hcall hidle => exact absurd hidle (h.awaited hsending)
          | disable | lookup | reject | deliver | fail | receive | drop =>
              simp [Connection.Action.byOwner] at howner
      | start | poll | dropSession => exact h.awaited hsending
      | takeOutgoing | closeOutgoing | dropConnection =>
          simp [Connection.Action.byOwner] at howner
  | completeSession | queueRequest | addReply => exact h.awaited hsending
  | deliverReply reply connection hdelivering =>
      dsimp only at hsending ⊢
      split at hsending
      · next hsome => exact Option.isSome_iff_ne_none.mp hsome
      · simp at hsending
  | dropConnection connection hover =>
      rw [show mock.serving = .sending from hsending] at hover
      simp [Serving.isOver] at hover
  | run | receive | unanswered | answered | recordRequest | finishSend => simp at hsending
  | overflow | closed => simp [endServing, clearDuplexChannels] at hsending

theorem Orderly.step (h : mock.Orderly) (hstep : Step overflowChecks mock action next event)
    (hunqueued : ∀ index request, action ≠ .queueRequest index request) : next.Orderly where
  served := h.served.step hstep
  regular := by
    apply hstep.invariant _ _ h.served hunqueued h.regular
    · exact fun connection action next hregular hnext => hregular.step hnext
    · exact fun connection index session hregular hsession => hregular.complete hsession
  keyed := h.keyed_step hstep
  numbered := h.numbered_step hstep
  opened := by
    intro hpresent hserving
    rcases hstep.closing_cases h.served with ⟨hreceiver, hdropped, hended⟩ | ⟨-, hdropped | hended⟩
    · rw [hreceiver]
      refine h.opened (hdropped ▸ hpresent) fun result hresult => ?_
      obtain ⟨after, hafter⟩ := hended.mpr ⟨result, hresult⟩
      exact hserving after hafter
    · simp [hpresent] at hdropped
    · obtain ⟨result, hresult⟩ := hended
      exact absurd hresult (hserving result)
  closed := by
    intro hgone
    rcases hstep.closing_cases h.served with ⟨hreceiver, hdropped, -⟩ | ⟨hreceiver, -⟩
    · rw [hreceiver]
      exact h.closed (hdropped ▸ hgone)
    · exact hreceiver
  awaited := h.awaited_step hstep
  known := h.known_step hstep hunqueued

end Step

end MockConnection

end TacacsRs.Networking
