import TacacsRs.Networking.MockConnection
import TacacsRs.Networking.PadReuse

/-!
# The numbers of replies

The server adds one to the number of each request it takes. A session's counter
wraps, so its 128th draw gives 255, and the addition overflows for the packet of
the call that made it. It overflows for no other packet of a session.
-/

namespace TacacsRs.Networking

open Rust Messages

/-- The 128th draw, and every 128th one after it, gives the last number there is. -/
theorem drawnNumber_eq_last_iff {place : Nat} : drawnNumber place = 255 ↔ place % 128 = 127 := by
  have hlast : drawnNumber 127 = 255 := by decide
  rw [← hlast, drawnNumber_eq_iff]
  rfl

theorem seqNo_lt_iff {sequenceNumber : UInt8} :
    sequenceNumber.toNat + 1 < 2 ^ 8 ↔ sequenceNumber ≠ 255 := by
  have hlt := sequenceNumber.toNat_lt
  rw [ne_eq, ← UInt8.toNat_inj]
  change _ ↔ ¬ sequenceNumber.toNat = 255
  omega

namespace Connection

section Draws

variable {actions : List Action} {connection next : Connection} {action : Action}

/-- What the owner does not do draws no number. -/
theorem Numbered.unowned (h : Numbered actions connection) (hstep : Step connection action next)
    (howner : action.byOwner = false) : Numbered actions next := by
  have hnone (index : Nat) : drawers index (actions ++ [action]) = drawers index actions := by
    have hempty : action.drawers index = [] := by
      cases action with
      | poll => simp [Action.byOwner] at howner
      | manage | sendAccountingRequest | dropSession | takeOutgoing | closeOutgoing
      | dropConnection => rfl
    rw [drawers_concat, hempty, List.append_nil]
  have hnext := h.step hstep
  constructor
  case registered => exact hnext.registered
  case ids => exact hnext.ids
  case numbered =>
    intro index session hsession
    rw [← hnone]
    exact hnext.numbered index session hsession
  case undrawn =>
    intro index hindex
    rw [← hnone]
    exact hnext.undrawn index hindex

theorem Numbered.completeSession (h : Numbered actions connection) {index : Nat}
    {session : Session} (hsession : connection.sessions[index]? = some session) :
    Numbered actions
      { connection with sessions := connection.sessions.set index session.complete } := by
  constructor
  case registered => exact h.registered
  case ids => exact (map_set_of_eq Session.sessionId hsession (by rfl)).trans h.ids
  case numbered =>
    intro other session' hsession'
    rcases getElem?_set_cases hsession' with ⟨rfl, rfl⟩ | ⟨-, hold⟩
    · have hnumbered := h.numbered _ session hsession
      exact ⟨hnumbered.nodup, hnumbered.calls, hnumbered.current, hnumbered.waiting,
        hnumbered.packet⟩
    · exact h.numbered other session' hold
  case undrawn =>
    intro other hother
    rw [List.length_set] at hother
    exact h.undrawn other hother

/-- A step queues nothing, or the packet of a call while the queue has its receiver. -/
theorem Step.sent_cases (h : Step connection action next) :
    next.sessionManager.outgoing.sent = connection.sessionManager.outgoing.sent ∨
      connection.sessionManager.outgoing.receiverDropped = false ∧
        ∃ index callIndex call packet, action = .poll index callIndex .send ∧
          connection.callAt index callIndex = some call ∧ call.phase = .sending packet ∧
          next.sessionManager.outgoing.sent =
            connection.sessionManager.outgoing.sent ++ [packet] := by
  rcases h.outgoing with hsame |
    ⟨index, callIndex, call, packet, _, rfl, hcall, hphase, -, -, hqueued⟩
  · exact .inl hsame
  · refine .inr ⟨?_, index, callIndex, call, packet, rfl, hcall, hphase, hqueued⟩
    rcases h.outgoing_cases with hsame | ⟨sent, hsend⟩ | ⟨htake, -⟩ | ⟨hclose, -⟩
    · simp [hsame] at hqueued
    · exact (Channel.send_eq_sent_iff.mp hsend).1
    · simp at htake
    · simp at hclose

/-- The send of a call finds the queue closed, or queues the packet that the call has to send. -/
theorem Step.send_cases {index callIndex : Nat}
    (h : Step connection (.poll index callIndex .send) next) :
    connection.sessionManager.outgoing.receiverDropped = true ∨
      ∃ call packet, connection.callAt index callIndex = some call ∧
        call.phase = .sending packet ∧ packet ∈ next.sessionManager.outgoing.sent := by
  cases h with
  | poll _ _ _ session polled sessionChannel duplexChannel hsession hchannel hpoll =>
      obtain ⟨call, hcall, hpolled⟩ := Session.poll_eq_some hpoll
      cases hpolled with
      | queue packet hphase hopen hroom =>
          refine .inr ⟨call, packet, callAt_eq_some_iff.mpr ⟨session, hsession, hcall⟩, hphase, ?_⟩
          exact List.mem_append_right _ (List.mem_singleton_self packet)
      | queueClosed packet hphase hclosed => exact .inl hclosed

end Draws

end Connection

namespace MockConnection

/-- The mock connection without what a step shows. -/
def advance (overflowChecks : Bool) (mock : MockConnection) (action : Action) :
    Option MockConnection :=
  (mock.step overflowChecks action).map Prod.fst

/-- The step of the connection that an owner takes. -/
def Action.owned : Action → List Connection.Action
  | .owner action => [action]
  | _ => []

/-- What the owner does with its sessions, in this order. -/
def owned (actions : List Action) : List Connection.Action := actions.flatMap Action.owned

/-- No request that was put on the queue makes the addition overflow, the server has not panicked,
and it looks for no reply under number 0. -/
structure NeverOverflows (mock : MockConnection) : Prop where
  queued : ∀ request ∈ mock.connection.sessionManager.outgoing.sent,
    request.header.seqNo.toNat + 1 < 2 ^ 8
  serving : mock.serving ≠ .ended .panic
  number : ∀ request, mock.serving ≠ .answering request 0

/-- After these actions, the action sends the packet of the call that made the 128th, the 256th, …
draw of its session, or a packet numbered 255 that the owner made himself. -/
def AfterLastNumber (before : List Action) : Action → Prop
  | .owner (.poll index callIndex .send) =>
      ∃ place, (Connection.drawers index (owned before))[place]? = some callIndex ∧
        place % 128 = 127
  | .queueRequest _ request => request.header.seqNo = 255
  | _ => False

theorem afterLastNumber_cases {before : List Action} {action : Action}
    (h : AfterLastNumber before action) :
    (∃ index callIndex place, action = .owner (.poll index callIndex .send) ∧
        (Connection.drawers index (owned before))[place]? = some callIndex ∧
        place % 128 = 127) ∨
      ∃ index request, action = .queueRequest index request ∧ request.header.seqNo = 255 := by
  unfold AfterLastNumber at h
  split at h
  · next index callIndex =>
    obtain ⟨place, hplace, hwrapped⟩ := h
    exact .inl ⟨index, callIndex, place, rfl, hplace, hwrapped⟩
  · next index request => exact .inr ⟨index, request, rfl, h⟩
  · exact h.elim

theorem owned_concat (actions : List Action) (action : Action) :
    owned (actions ++ [action]) = owned actions ++ action.owned := by
  simp [owned]

section Step

variable {overflowChecks : Bool} {mock next : MockConnection} {action : Action} {event : Event}

theorem advance_eq_some (h : advance overflowChecks mock action = some next) :
    ∃ event, Step overflowChecks mock action next event := by
  obtain ⟨⟨found, event⟩, hstep, rfl⟩ := Option.map_eq_some_iff.mp h
  exact ⟨event, step_eq_some hstep⟩

/-- Only what the owner does can draw a number. -/
theorem Step.numbered_of_unowned {actions : List Connection.Action}
    (h : Step overflowChecks mock action next event) (hserved : mock.Served)
    (hunowned : action.owned = []) (hnumbered : Connection.Numbered actions mock.connection) :
    Connection.Numbered actions next.connection := by
  cases h with
  | owner => simp [Action.owned] at hunowned
  | run | addReply | unanswered | answered | recordRequest => exact hnumbered
  | completeSession index session hsession => exact hnumbered.completeSession hsession
  | queueRequest =>
      exact ⟨hnumbered.registered, hnumbered.ids, hnumbered.numbered, hnumbered.undrawn⟩
  | receive request outgoing replySequenceNumber connection hreceiving hrecv hnumber hstep =>
      exact hnumbered.unowned hstep rfl
  | overflow request outgoing connection hreceiving hrecv hpanicked hstep =>
      exact (hnumbered.unowned hstep rfl).unowned .closeOutgoing rfl
  | closed hreceiving hclosed => exact absurd hclosed hserved.recv_ne_closed
  | deliverReply reply connection hdelivering hstep => exact hnumbered.unowned hstep rfl
  | finishSend connection hsending hstep => exact hnumbered.unowned hstep rfl
  | dropConnection connection hover hstep =>
      exact (hnumbered.unowned .closeOutgoing rfl).unowned hstep rfl

theorem Step.numbered {actions : List Connection.Action}
    (h : Step overflowChecks mock action next event) (hserved : mock.Served)
    (hnumbered : Connection.Numbered actions mock.connection) :
    Connection.Numbered (actions ++ action.owned) next.connection := by
  by_cases hunowned : action.owned = []
  · rw [hunowned, List.append_nil]
    exact h.numbered_of_unowned hserved hunowned hnumbered
  · cases h with
    | owner action connection howner hstep => exact hnumbered.step hstep
    | run | completeSession | queueRequest | addReply | receive | overflow | closed | unanswered
    | answered | recordRequest | deliverReply | finishSend | dropConnection =>
        exact absurd rfl hunowned

/-- What is put on the queue is the packet of a call or one that the owner made. -/
theorem Step.sent_cases (h : Step overflowChecks mock action next event) :
    next.connection.sessionManager.outgoing.sent = mock.connection.sessionManager.outgoing.sent ∨
      mock.connection.sessionManager.outgoing.receiverDropped = false ∧ ∃ packet,
        next.connection.sessionManager.outgoing.sent =
          mock.connection.sessionManager.outgoing.sent ++ [packet] ∧
        ((∃ index, action = .queueRequest index packet) ∨
          ∃ index callIndex call, action = .owner (.poll index callIndex .send) ∧
            mock.connection.callAt index callIndex = some call ∧
            call.phase = .sending packet) := by
  have hunowned (connection : Connection) {connectionAction : Connection.Action}
      (hstep : Connection.Step mock.connection connectionAction connection)
      (hpoll : ∀ index callIndex, connectionAction ≠ .poll index callIndex .send) :
      connection.sessionManager.outgoing.sent =
        mock.connection.sessionManager.outgoing.sent := by
    rcases hstep.sent_cases with hsame | ⟨-, index, callIndex, call, packet, hsend, -⟩
    · exact hsame
    · exact absurd hsend (hpoll index callIndex)
  cases h with
  | owner action connection howner hstep =>
      rcases hstep.sent_cases with hsame |
        ⟨hopen, index, callIndex, call, packet, rfl, hcall, hphase, hqueued⟩
      · exact .inl hsame
      · exact .inr ⟨hopen, packet, hqueued, .inr ⟨index, callIndex, call, rfl, hcall, hphase⟩⟩
  | queueRequest index request hopen hroom =>
      exact .inr ⟨hopen, request, rfl, .inl ⟨index, rfl⟩⟩
  | run | completeSession | addReply | closed | unanswered | answered | recordRequest =>
      exact .inl rfl
  | receive request outgoing replySequenceNumber connection hreceiving hrecv hnumber hstep =>
      exact .inl (hunowned connection hstep (by simp))
  | overflow request outgoing connection hreceiving hrecv hpanicked hstep =>
      exact .inl (hunowned connection hstep (by simp))
  | deliverReply reply connection hdelivering hstep =>
      exact .inl (hunowned connection hstep (by simp))
  | finishSend connection hsending hstep => exact .inl (hunowned connection hstep (by simp))
  | dropConnection connection hover hstep =>
      cases hstep with
      | dropConnection => exact .inl rfl

/-- The packet that is queued without the last number leaves the addition room. -/
theorem NeverOverflows.queued_step {before : List Action} (h : NeverOverflows mock)
    (hnumbered : Connection.Numbered (owned before) mock.connection)
    (hguard : AfterLastNumber before action →
      mock.connection.sessionManager.outgoing.receiverDropped = true)
    (hstep : Step overflowChecks mock action next event) :
    ∀ request ∈ next.connection.sessionManager.outgoing.sent,
      request.header.seqNo.toNat + 1 < 2 ^ 8 := by
  intro request hrequest
  rcases hstep.sent_cases with hsame | ⟨hopen, packet, hqueued, hsource⟩
  · rw [hsame] at hrequest
    exact h.queued request hrequest
  · rw [hqueued, List.mem_append, List.mem_singleton] at hrequest
    rcases hrequest with hold | rfl
    · exact h.queued request hold
    rw [seqNo_lt_iff]
    intro hlast
    have hafter : AfterLastNumber before action := by
      rcases hsource with ⟨index, rfl⟩ | ⟨index, callIndex, call, rfl, hcall, hphase⟩
      · exact hlast
      · obtain ⟨draw, rfl, hplace, -, hnumber⟩ := hnumbered.exists_draw hcall hphase
        exact ⟨draw.place, hplace, drawnNumber_eq_last_iff.mp (hnumber.symm.trans hlast)⟩
    rw [hguard hafter] at hopen
    simp at hopen

theorem NeverOverflows.seqNo_lt {request : Packet} {outgoing : PacketChannel}
    (h : NeverOverflows mock)
    (hrecv : mock.connection.sessionManager.outgoing.recv = .received request outgoing) :
    request.header.seqNo.toNat < 255 := by
  obtain ⟨-, hqueue, -⟩ := Channel.recv_eq_received_iff.mp hrecv
  have hmem : request ∈ mock.connection.sessionManager.outgoing.queue := by
    rw [hqueue]
    exact List.mem_cons_self ..
  exact Nat.lt_of_succ_lt_succ (h.queued request (List.mem_of_mem_drop hmem))

theorem NeverOverflows.step {before : List Action} (h : NeverOverflows mock)
    (hnumbered : Connection.Numbered (owned before) mock.connection)
    (hguard : AfterLastNumber before action →
      mock.connection.sessionManager.outgoing.receiverDropped = true)
    (hstep : Step overflowChecks mock action next event) : NeverOverflows next where
  queued := h.queued_step hnumbered hguard hstep
  serving := by
    intro hpanicked
    rcases hstep.panicked_cases hpanicked with hbefore | ⟨-, request, outgoing, hrecv, hoverflow⟩
    · exact h.serving hbefore
    · obtain ⟨hok, -⟩ := Outcome.addU8_one_of_lt overflowChecks (h.seqNo_lt hrecv)
      simp [hok] at hoverflow
  number := by
    intro request hanswering
    rcases hstep.answering_cases hanswering with hbefore | ⟨-, outgoing, hrecv, hnumber⟩
    · exact h.number request hbefore
    · obtain ⟨hok, hnext⟩ := Outcome.addU8_one_of_lt overflowChecks (h.seqNo_lt hrecv)
      rw [hok, Outcome.ok.injEq] at hnumber
      simp [hnumber] at hnext

/-- A packet that is queued under the last number leaves the addition no room. -/
theorem Step.not_neverOverflows {before : List Action}
    (hnumbered : Connection.Numbered (owned before) mock.connection)
    (hstep : Step overflowChecks mock action next event) (hafter : AfterLastNumber before action)
    (hopen : mock.connection.sessionManager.outgoing.receiverDropped = false) :
    ¬ NeverOverflows next := by
  obtain ⟨packet, hqueued, hlast⟩ : ∃ packet : Packet,
      packet ∈ next.connection.sessionManager.outgoing.sent ∧ packet.header.seqNo = 255 := by
    rcases afterLastNumber_cases hafter with
      ⟨index, callIndex, place, rfl, hplace, hwrapped⟩ | ⟨index, request, rfl, hlast⟩
    · cases hstep with
      | owner _ connection howner hstep =>
          rcases hstep.send_cases with hclosed | ⟨call, packet, hcall, hphase, hqueued⟩
          · simp [hclosed] at hopen
          · refine ⟨packet, hqueued, ?_⟩
            rw [hnumbered.seqNo_eq hcall hphase hplace]
            exact drawnNumber_eq_last_iff.mpr hwrapped
    · cases hstep with
      | queueRequest _ _ hopen hroom =>
          exact ⟨request, List.mem_append_right _ (List.mem_singleton_self request), hlast⟩
  intro hnever
  exact seqNo_lt_iff.mp (hnever.queued packet hqueued) hlast

end Step

section Runs

variable {overflowChecks : Bool} {actions : List Action} {mock : MockConnection}

theorem numbered_of_run (hrun : Rust.run (advance overflowChecks) new actions = some mock) :
    mock.Served ∧ Connection.Numbered (owned actions) mock.connection := by
  refine history_of_run (P := fun actions (mock : MockConnection) =>
    mock.Served ∧ Connection.Numbered (owned actions) mock.connection) ?_ ?_ hrun
  · exact ⟨served_new, Connection.numbered_new⟩
  · rintro before mid action next ⟨hserved, hnumbered⟩ hstep
    obtain ⟨event, hstep⟩ := advance_eq_some hstep
    rw [owned_concat]
    exact ⟨hserved.step hstep, hstep.numbered hserved hnumbered⟩

theorem neverOverflows_new : NeverOverflows new where
  queued := by simp [new, Connection.new, SessionManager.new]
  serving := by simp [new]
  number := by simp [new]

/-- As long as no packet is sent under the last number, the addition never overflows. -/
theorem neverOverflows_of_run
    (hguard : ∀ before action, before ++ [action] <+: actions → AfterLastNumber before action →
      ∀ mid, Rust.run (advance overflowChecks) new before = some mid →
        mid.connection.sessionManager.outgoing.receiverDropped = true)
    (hrun : Rust.run (advance overflowChecks) new actions = some mock) : NeverOverflows mock := by
  induction actions using List.reverseRecOn generalizing mock with
  | nil =>
      obtain rfl : new = mock := by simpa using hrun
      exact neverOverflows_new
  | append_singleton before action ih =>
      obtain ⟨mid, hmid, hlast⟩ := run_concat_eq_some_iff.mp hrun
      obtain ⟨event, hstep⟩ := advance_eq_some hlast
      have hkept : NeverOverflows mid := by
        refine ih (fun first other hpre => ?_) hmid
        exact hguard first other (hpre.trans (List.prefix_append before [action]))
      exact hkept.step (numbered_of_run hmid).2
        (fun hafter => hguard before action List.prefix_rfl hafter mid hmid) hstep

/-- In every run the addition never overflows exactly if no packet gets onto the queue under the
last number: neither that of a call that made the 128th, the 256th, … draw of its session, nor one
that an owner made himself. -/
theorem neverOverflows_iff (hrun : Rust.run (advance overflowChecks) new actions = some mock) :
    Throughout (advance overflowChecks) NeverOverflows new actions ↔
      ∀ before action, before ++ [action] <+: actions → AfterLastNumber before action →
        ∀ mid, Rust.run (advance overflowChecks) new before = some mid →
          mid.connection.sessionManager.outgoing.receiverDropped = true := by
  constructor
  · rintro hnever before action hpre hafter mid hmid
    by_contra hopen
    obtain ⟨rest, rfl⟩ := hpre
    obtain ⟨next, hnext, -⟩ := run_append_eq_some_iff.mp hrun
    obtain ⟨mid', hmid', hlast⟩ := run_concat_eq_some_iff.mp hnext
    obtain rfl : mid = mid' := Option.some.inj (hmid.symm.trans hmid')
    obtain ⟨event, hstep⟩ := advance_eq_some hlast
    exact hstep.not_neverOverflows (numbered_of_run hmid).2 hafter (Bool.eq_false_iff.mpr hopen)
      (hnever _ (List.prefix_append _ rest) next hnext)
  · intro hguard before hpre mid hmid
    refine neverOverflows_of_run (fun first action hfirst => ?_) hmid
    exact hguard first action (hfirst.trans hpre)

/-- Below 128 draws a session the addition never overflows, unless an owner queues packets of his
own. -/
theorem neverOverflows_of_few_draws
    (hfew : ∀ session, (Connection.drawers session (owned actions)).length < 128)
    (howner : ∀ index request, .queueRequest index request ∉ actions)
    (hrun : Rust.run (advance overflowChecks) new actions = some mock) : NeverOverflows mock := by
  refine neverOverflows_of_run (fun before action hpre hafter => ?_) hrun
  obtain ⟨rest, rfl⟩ := hpre
  rcases afterLastNumber_cases hafter with
    ⟨index, callIndex, place, rfl, hplace, hwrapped⟩ | ⟨index, request, rfl, -⟩
  · have hlt := (List.getElem?_eq_some_iff.mp hplace).1
    have hlength := hfew index
    rw [owned, List.flatMap_append, List.flatMap_append, Connection.drawers, List.flatMap_append,
      List.flatMap_append, List.length_append, List.length_append] at hlength
    rw [Connection.drawers, owned] at hlt
    omega
  · exact absurd (by simp) (howner index request)

end Runs

section Unanswered

variable (overflowChecks : Bool)

/-- What the owner does alone is a run of the mock connection. -/
theorem run_owner {connection next : Connection} {actions : List Connection.Action}
    (howner : ∀ action ∈ actions, action.byOwner = true)
    (hrun : Rust.run Connection.step connection actions = some next)
    (replies requests : NestedMap UInt32 UInt8 Packet) (serving : Serving) :
    Rust.run (advance overflowChecks) ⟨connection, replies, requests, serving⟩
      (actions.map .owner) = some ⟨next, replies, requests, serving⟩ := by
  induction actions generalizing connection with
  | nil =>
      obtain rfl := Option.some.inj hrun
      rfl
  | cons action actions ih =>
      obtain ⟨mid, hmid, hrest⟩ := run_cons_eq_some_iff.mp hrun
      have hstep : advance overflowChecks ⟨connection, replies, requests, serving⟩
          (.owner action) = some ⟨mid, replies, requests, serving⟩ := by
        simp [advance, step, ownerStep, howner action (List.mem_cons_self ..), hmid]
      rw [List.map_cons, run_cons_of_step hstep]
      exact ih (fun other hother => howner other (List.mem_cons_of_mem _ hother)) hrest

/-- A call that is abandoned while it waits for its reply; the server takes its packet. -/
def abandonedCall (call : Nat) : List Action :=
  (Connection.abandonedCall call).dropLast.map .owner ++ [.receive]

/-- A session is created, the server is started, and the given number of calls is made. No reply is
scripted for any of them. -/
def unansweredRun (calls : Nat) : List Action :=
  [.owner (.manage .createSession), .owner (.manage (.canCreateSessions 0)),
    .owner (.manage (.createChannel 0 [7])), .run] ++
    (List.range calls).flatMap fun call => abandonedCall call ++ [.takeReply]

/-- A mock connection with one session and nothing scripted. -/
def unscripted (manager : SessionManager) (outgoing : PacketChannel) (session : Session)
    (serving : Serving) : MockConnection :=
  ⟨Connection.single manager outgoing session, ∅, ∅, serving⟩

open Connection (Idle)

/-- An abandoned call leaves its packet to the server. -/
theorem exists_run_abandonedCall {calls : Nat} {outgoing : PacketChannel} {session : Session}
    (h : Idle calls outgoing session) (manager : SessionManager) :
    ∃ request taken connection session', request.header.seqNo = drawnNumber calls ∧
      Rust.run (advance overflowChecks) (unscripted manager outgoing session .receiving)
        ((Connection.abandonedCall calls).dropLast.map .owner) =
          some ⟨connection, ∅, ∅, .receiving⟩ ∧
      connection.sessionManager.outgoing.recv = .received request taken ∧
      connection.step .takeOutgoing = some (Connection.single manager taken session') ∧
      Idle (calls + 1) taken session' := by
  obtain ⟨request, queued, taken, session', hkey, hrun, hrecv, htake, hidle⟩ :=
    Connection.exists_run_abandoned h manager
  have howner : (Connection.abandonedCall calls).dropLast.all Connection.Action.byOwner := rfl
  refine ⟨request, taken, Connection.single manager queued session', session',
    (Prod.mk.inj hkey).2, ?_, hrecv, htake, hidle⟩
  exact run_owner overflowChecks (List.all_eq_true.mp howner) hrun ∅ ∅ .receiving

/-- The server gives up a request for which nothing is scripted. -/
theorem exists_run_unansweredCall {calls : Nat} {outgoing : PacketChannel} {session : Session}
    (h : Idle calls outgoing session) (manager : SessionManager) (hlow : calls < 127) :
    ∃ taken session', Idle (calls + 1) taken session' ∧
      Rust.run (advance overflowChecks) (unscripted manager outgoing session .receiving)
        (abandonedCall calls ++ [.takeReply]) =
          some (unscripted manager taken session' .receiving) := by
  obtain ⟨request, taken, connection, session', hnumber, hcalls, hrecv, htake, hidle⟩ :=
    exists_run_abandonedCall overflowChecks h manager
  refine ⟨taken, session', hidle, ?_⟩
  have hlt : request.header.seqNo.toNat < 255 := by
    rw [hnumber, drawnNumber, UInt8.toNat_ofNat']
    omega
  obtain ⟨hok, -⟩ := Outcome.addU8_one_of_lt overflowChecks hlt
  have hreceive : advance overflowChecks ⟨connection, ∅, ∅, .receiving⟩ .receive =
      some (unscripted manager taken session'
        (.answering request (request.header.seqNo + 1))) := by
    simp [advance, step, receive, hrecv, htake, hok, unscripted]
  have hgiveUp : advance overflowChecks (unscripted manager taken session'
      (.answering request (request.header.seqNo + 1))) .takeReply =
        some (unscripted manager taken session' .receiving) := rfl
  rw [abandonedCall, List.append_assoc, run_append_eq_some_iff]
  exact ⟨_, hcalls, (run_cons_of_step hreceive _).trans (run_cons_of_step hgiveUp [])⟩

theorem exists_run_unansweredRun (calls : Nat) (hlow : calls ≤ 127) :
    ∃ manager outgoing session, Idle calls outgoing session ∧
      Rust.run (advance overflowChecks) new (unansweredRun calls) =
        some (unscripted manager outgoing session .receiving) := by
  let manager : SessionManager := { SessionManager.new with
    duplexChannels := SessionManager.new.duplexChannels.insert 7 0
    creations := [.created 7] }
  refine ⟨manager, ?_⟩
  induction calls with
  | zero => exact ⟨.new, .new 7, ⟨rfl, rfl, rfl, rfl, rfl, rfl, rfl, rfl⟩, rfl⟩
  | succ calls ih =>
      obtain ⟨outgoing, session, hidle, hrun⟩ := ih (Nat.le_of_succ_le hlow)
      obtain ⟨taken, session', hidle', hcall⟩ :=
        exists_run_unansweredCall overflowChecks hidle manager hlow
      refine ⟨taken, session', hidle', ?_⟩
      rw [unansweredRun, List.range_succ, List.flatMap_append, List.flatMap_singleton,
        ← List.append_assoc, run_append_eq_some_iff]
      exact ⟨_, hrun, hcall⟩

theorem neverOverflows_iff_unansweredRun :
    ∃ mock, Rust.run (advance true) new (unansweredRun 1) = some mock ∧
      (Throughout (advance true) NeverOverflows new (unansweredRun 1) ↔
        ∀ before action, before ++ [action] <+: unansweredRun 1 →
          AfterLastNumber before action →
            ∀ mid, Rust.run (advance true) new before = some mid →
              mid.connection.sessionManager.outgoing.receiverDropped = true) := by
  obtain ⟨manager, outgoing, session, -, hrun⟩ :=
    exists_run_unansweredRun true 1 (by decide)
  exact ⟨_, hrun, neverOverflows_iff hrun⟩

/-- After 127 calls the packet of the next one is the first one numbered 255. -/
theorem exists_run_lastNumber :
    ∃ request taken connection next, request.header.seqNo = 255 ∧
      Rust.run (advance overflowChecks) new
        (unansweredRun 127 ++ (Connection.abandonedCall 127).dropLast.map .owner) =
          some ⟨connection, ∅, ∅, .receiving⟩ ∧
      connection.sessionManager.outgoing.recv = .received request taken ∧
      connection.step .takeOutgoing = some next := by
  obtain ⟨manager, outgoing, session, hidle, hrun⟩ :=
    exists_run_unansweredRun overflowChecks 127 (by decide)
  obtain ⟨request, taken, connection, session', hnumber, hcalls, hrecv, htake, -⟩ :=
    exists_run_abandonedCall overflowChecks hidle manager
  exact ⟨request, taken, connection, _, hnumber,
    run_append_eq_some_iff.mpr ⟨_, hrun, hcalls⟩, hrecv, htake⟩

/-- That packet makes the server panic, or look for a reply under number 0 where overflow is not
checked. -/
theorem unansweredRun_overflows :
    (∃ mock, Rust.run (advance true) new (unansweredRun 127 ++ abandonedCall 127) = some mock ∧
      mock.serving = .ended .panic) ∧
    ∃ mock request,
      Rust.run (advance false) new (unansweredRun 127 ++ abandonedCall 127) = some mock ∧
        mock.serving = .answering request 0 := by
  constructor
  · obtain ⟨request, taken, connection, next, hlast, hcalls, hrecv, htake⟩ :=
      exists_run_lastNumber true
    have hreceive : advance true ⟨connection, ∅, ∅, .receiving⟩ .receive =
        some (endServing ⟨next, ∅, ∅, .receiving⟩ .panic) := by
      simp [advance, step, receive, hrecv, htake, hlast, Outcome.addU8]
    refine ⟨endServing ⟨next, ∅, ∅, .receiving⟩ .panic, ?_, rfl⟩
    rw [abandonedCall, ← List.append_assoc, run_concat_eq_some_iff]
    exact ⟨_, hcalls, hreceive⟩
  · obtain ⟨request, taken, connection, next, hlast, hcalls, hrecv, htake⟩ :=
      exists_run_lastNumber false
    have hreceive : advance false ⟨connection, ∅, ∅, .receiving⟩ .receive =
        some ⟨next, ∅, ∅, .answering request 0⟩ := by
      simp [advance, step, receive, hrecv, htake, hlast, Outcome.addU8]
    refine ⟨⟨next, ∅, ∅, .answering request 0⟩, request, ?_, rfl⟩
    rw [abandonedCall, ← List.append_assoc, run_concat_eq_some_iff]
    exact ⟨_, hcalls, hreceive⟩

end Unanswered

end MockConnection

end TacacsRs.Networking
