import TacacsRs.Tacon.Accounting
import TacacsRs.Networking.AbandonedCalls
import TacacsRs.Networking.Numbering

/-!
# Reuse of obfuscation pads

Under a fixed key and version a pad is that of a session id and a sequence
number. Sessions never share an id, and within a session the numbers of two
draws differ unless the draws are a multiple of 128 apart.
-/

namespace TacacsRs.Networking.Connection

open Rust Messages

/-- The calls of a session that the action makes draw a number. -/
def Action.drawers (session : Nat) : Action → List Nat
  | .poll index call awaited => if index = session then awaited.drawers call else []
  | _ => []

/-- The calls of a session that drew a number, first the first one. -/
def drawers (session : Nat) (actions : List Action) : List Nat :=
  actions.flatMap (Action.drawers session)

theorem drawers_concat (session : Nat) (actions : List Action) (action : Action) :
    drawers session (actions ++ [action]) =
      drawers session actions ++ action.drawers session := by
  simp [drawers]

/-- Every session's numbers are those of its draws, and the registry keeps sessions apart. -/
structure Numbered (actions : List Action) (connection : Connection) : Prop where
  registered : connection.sessionManager.Registered
  ids : connection.sessions.map Session.sessionId = connection.sessionManager.ids
  numbered : ∀ (index : Nat) (session : Session), connection.sessions[index]? = some session →
    session.Numbered (drawers index actions)
  undrawn : ∀ index, connection.sessions.length ≤ index → drawers index actions = []

theorem numbered_new : Numbered [] .new where
  registered := registered_new.registered
  ids := registered_new.ids
  numbered := by simp [new]
  undrawn := fun _ _ => rfl

section Step

variable {actions : List Action} {connection next : Connection} {action : Action}

/-- A step without a draw keeps the sessions as they are, adds new ones or starts a call. -/
theorem Numbered.undrawn_step (h : Numbered actions connection)
    (hdrawers : ∀ index, action.drawers index = []) (hnext : next.Registered)
    (hlength : connection.sessions.length ≤ next.sessions.length)
    (hsessions : ∀ (index : Nat) (session : Session), next.sessions[index]? = some session →
      session.Numbered (drawers index actions)) :
    Numbered (actions ++ [action]) next := by
  have hsame (index : Nat) : drawers index (actions ++ [action]) = drawers index actions := by
    rw [drawers_concat, hdrawers, List.append_nil]
  constructor
  case registered => exact hnext.registered
  case ids => exact hnext.ids
  case numbered =>
    intro index session hsession
    rw [hsame]
    exact hsessions index session hsession
  case undrawn =>
    intro index hindex
    rw [hsame]
    exact h.undrawn index (hlength.trans hindex)

/-- A step that leaves the sessions alone makes no draw. -/
theorem Numbered.managed (h : Numbered actions connection) (hnext : next.Registered)
    (hsessions : next.sessions = connection.sessions)
    (hdrawers : ∀ index, action.drawers index = []) : Numbered (actions ++ [action]) next := by
  refine h.undrawn_step hdrawers hnext ?_ ?_
  · rw [hsessions]
  · rw [hsessions]
    exact h.numbered

theorem Numbered.step (h : Numbered actions connection) (hstep : Step connection action next) :
    Numbered (actions ++ [action]) next := by
  have hnext := Registered.step ⟨h.registered, h.ids⟩ hstep
  cases hstep with
  | manage action manager event hpresent howner hstep =>
      refine h.undrawn_step (fun _ => rfl) hnext ?_ ?_
      · rw [List.length_append]
        exact Nat.le_add_right _ _
      · intro index session hsession
        rw [List.getElem?_append] at hsession
        split at hsession
        · exact h.numbered index session hsession
        · next hlong =>
          rw [h.undrawn index (Nat.le_of_not_lt hlong)]
          obtain ⟨sessionId, -, rfl⟩ := List.mem_map.mp (List.mem_of_getElem? hsession)
          exact Session.numbered_new sessionId
  | start index request session sessionChannel hsession =>
      refine h.undrawn_step (fun _ => rfl) hnext ?_ ?_
      · rw [List.length_set]
      · intro other session' hsession'
        rcases getElem?_set_cases hsession' with ⟨rfl, rfl⟩ | ⟨-, hother⟩
        · exact (h.numbered _ session hsession).sendAccountingRequest request
        · exact h.numbered other session' hother
  | poll index callIndex poll session polled sessionChannel duplexChannel hsession hchannel
      hpoll =>
      obtain ⟨call, hcall, hpolled⟩ := Session.poll_eq_some hpoll
      obtain ⟨call', hcalls, hid, hnumbers⟩ := hpolled.numbers
      constructor
      case registered => exact hnext.registered
      case ids => exact hnext.ids
      case numbered =>
        intro other session' hsession'
        rw [drawers_concat, Action.drawers]
        rcases getElem?_set_cases hsession' with ⟨rfl, rfl⟩ | ⟨hne, hother⟩
        · rw [if_pos rfl]
          exact (h.numbered _ session hsession).polled hcall hcalls hid hnumbers
        · rw [if_neg (Ne.symm hne), List.append_nil]
          exact h.numbered other session' hother
      case undrawn =>
        intro other hlong
        rw [List.length_set] at hlong
        have hne : index ≠ other := by
          have hlt := (List.getElem?_eq_some_iff.mp hsession).1
          omega
        rw [drawers_concat, h.undrawn other hlong, Action.drawers, if_neg hne]
        rfl
  | dropSession | takeOutgoing | closeOutgoing | dropConnection =>
      exact h.managed hnext rfl fun _ => rfl

end Step

/-- The call at the given place of the session at the given place. -/
def callAt (connection : Connection) (session call : Nat) : Option Call :=
  connection.sessions[session]?.bind fun found => found.calls[call]?

section Calls

variable {connection next : Connection} {action : Action} {index callIndex : Nat} {call : Call}

theorem callAt_eq_some_iff : connection.callAt index callIndex = some call ↔
    ∃ session, connection.sessions[index]? = some session ∧
      session.calls[callIndex]? = some call :=
  Option.bind_eq_some_iff

theorem callAt_set {session updated : Session} {calls : List Call}
    (hsession : connection.sessions[index]? = some session)
    (hnext : next.sessions = connection.sessions.set index updated)
    (hcalls : updated.calls = calls) (other : Nat) :
    next.callAt other callIndex =
      if other = index then calls[callIndex]? else connection.callAt other callIndex := by
  rw [callAt, hnext]
  split
  · next heq =>
    subst heq
    rw [getElem?_set_of_some hsession, Option.bind_some, hcalls]
  · next hne =>
    rw [List.getElem?_set_ne (Ne.symm hne)]
    rfl

/-- No step makes a call queue its packet again. -/
theorem Step.callAt_sent (hstep : Step connection action next)
    (hcall : connection.callAt index callIndex = some call)
    (hsent : call.phase.beforeSend = false) :
    ∃ call', next.callAt index callIndex = some call' ∧ call'.phase.beforeSend = false := by
  obtain ⟨session, hsession, hcalls⟩ := callAt_eq_some_iff.mp hcall
  cases hstep with
  | manage action manager event hpresent howner hstep =>
      have hkept := getElem?_append_of_some hsession (event.registeredIds.map Session.new)
      exact ⟨call, callAt_eq_some_iff.mpr ⟨session, hkept, hcalls⟩, hsent⟩
  | start other request started sessionChannel hstarted =>
      refine ⟨call, ?_, hsent⟩
      rw [callAt_set hstarted rfl rfl]
      split
      · next heq =>
        subst heq
        obtain rfl : started = session := Option.some.inj (hstarted.symm.trans hsession)
        exact getElem?_append_of_some hcalls _
      · exact hcall
  | poll other otherCall poll polling polled sessionChannel duplexChannel hpolling hchannel
      hpoll =>
      obtain ⟨running, hrunning, hpolled⟩ := Session.poll_eq_some hpoll
      obtain ⟨call', hcalls', -, hnumbers⟩ := hpolled.numbers
      rw [callAt_set hpolling rfl hcalls']
      split
      · next heq =>
        subst heq
        obtain rfl : polling = session := Option.some.inj (hpolling.symm.trans hsession)
        by_cases hindex : otherCall = callIndex
        · subst hindex
          obtain rfl : running = call := Option.some.inj (hrunning.symm.trans hcalls)
          exact ⟨call', getElem?_set_of_some hrunning call', hnumbers.sent hsent⟩
        · rw [List.getElem?_set_ne hindex]
          exact ⟨call, hcalls, hsent⟩
      · exact ⟨call, hcall, hsent⟩
  | dropSession | takeOutgoing | closeOutgoing | dropConnection => exact ⟨call, hcall, hsent⟩

/-- A step queues nothing, or the packet of a call that then has it behind it. -/
theorem Step.outgoing (hstep : Step connection action next) :
    next.sessionManager.outgoing.sent = connection.sessionManager.outgoing.sent ∨
      ∃ index callIndex call packet call', action = .poll index callIndex .send ∧
        connection.callAt index callIndex = some call ∧
        call.phase = .sending packet ∧ next.callAt index callIndex = some call' ∧
        call'.phase.beforeSend = false ∧ next.sessionManager.outgoing.sent =
          connection.sessionManager.outgoing.sent ++ [packet] := by
  cases hstep with
  | manage action manager event hpresent howner hstep =>
      exact .inl (congrArg Channel.sent hstep.outgoing_eq)
  | start | dropSession | takeOutgoing | closeOutgoing | dropConnection => exact .inl rfl
  | poll index callIndex poll session polled sessionChannel duplexChannel hsession hchannel
      hpoll =>
      obtain ⟨call, hcall, hpolled⟩ := Session.poll_eq_some hpoll
      obtain ⟨call', hcalls, -, hnumbers⟩ := hpolled.numbers
      rcases hnumbers.queued with hsame | ⟨packet, rfl, hphase, hafter, hqueued⟩
      · exact .inl hsame
      · refine .inr ⟨index, callIndex, call, packet, call', rfl,
          callAt_eq_some_iff.mpr ⟨session, hsession, hcall⟩, hphase, ?_, hafter, hqueued⟩
        rw [callAt_set hsession rfl hcalls, if_pos rfl]
        exact getElem?_set_of_some hcall call'

end Calls

/-- A draw of the session at `session`, by its place in the order of the session's draws. -/
structure Draw where
  session : Nat
  place : Nat
  deriving DecidableEq

/-- The packet carries the id of the draw's session and the number that was drawn. -/
def Draw.Numbers (draw : Draw) (ids : List UInt32) (packet : Packet) : Prop :=
  ids[draw.session]? = some packet.header.sessionId ∧
    packet.header.seqNo = drawnNumber draw.place

/-- The call that made the draw has its packet behind it. -/
def Draw.Spent (draw : Draw) (actions : List Action) (connection : Connection) : Prop :=
  ∃ index call, (drawers draw.session actions)[draw.place]? = some index ∧
    connection.callAt draw.session index = some call ∧ call.phase.beforeSend = false

/-- The packets on the outgoing queue are numbered by draws, no two by the same one. -/
structure Accounted (actions : List Action) (connection : Connection) (draws : List Draw) :
    Prop where
  nodup : draws.Nodup
  spent : ∀ draw ∈ draws, draw.Spent actions connection
  numbers : List.Forall₂ (fun draw packet => draw.Numbers connection.sessionManager.ids packet)
    draws connection.sessionManager.outgoing.sent

section Accounts

variable {actions : List Action} {connection next : Connection} {action : Action}
  {draws : List Draw} {draw : Draw}

theorem Draw.Numbers.of_prefix {ids ids' : List UInt32} {packet : Packet}
    (h : draw.Numbers ids packet) (hpre : ids <+: ids') : draw.Numbers ids' packet := by
  obtain ⟨hid, hnumber⟩ := h
  obtain ⟨added, rfl⟩ := hpre
  exact ⟨getElem?_append_of_some hid added, hnumber⟩

theorem getElem?_drawers_concat {session place index : Nat} (action : Action)
    (h : (drawers session actions)[place]? = some index) :
    (drawers session (actions ++ [action]))[place]? = some index := by
  rw [drawers_concat]
  exact getElem?_append_of_some h _

theorem Draw.Spent.step (h : draw.Spent actions connection)
    (hstep : Step connection action next) : draw.Spent (actions ++ [action]) next := by
  obtain ⟨index, call, hdrawer, hcall, hsent⟩ := h
  obtain ⟨call', hcall', hsent'⟩ := hstep.callAt_sent hcall hsent
  exact ⟨index, call', getElem?_drawers_concat action hdrawer, hcall', hsent'⟩

/-- The draw behind the packet that a call has to queue. -/
theorem Numbered.exists_draw (h : Numbered actions connection) {index callIndex : Nat}
    {call : Call} {packet : Packet} (hcall : connection.callAt index callIndex = some call)
    (hphase : call.phase = .sending packet) :
    ∃ draw : Draw, draw.session = index ∧
      (drawers index actions)[draw.place]? = some callIndex ∧
      draw.Numbers connection.sessionManager.ids packet := by
  obtain ⟨session, hsession, hcalls⟩ := callAt_eq_some_iff.mp hcall
  obtain ⟨place, hplace, hid, hnumber⟩ :=
    (h.numbered index session hsession).packet callIndex call packet hcalls hphase
  refine ⟨⟨index, place⟩, rfl, hplace, ?_, hnumber⟩
  rw [← h.ids, List.getElem?_map, hsession, hid]
  rfl

theorem Numbered.nodup_drawers (h : Numbered actions connection) (index : Nat) :
    (drawers index actions).Nodup := by
  cases hsession : connection.sessions[index]? with
  | none =>
      rw [h.undrawn index (List.getElem?_eq_none_iff.mp hsession)]
      exact List.nodup_nil
  | some session => exact (h.numbered index session hsession).nodup

/-- Each call draws once. -/
theorem Numbered.place_unique (h : Numbered actions connection) {index callIndex place place' : Nat}
    (hplace : (drawers index actions)[place]? = some callIndex)
    (hplace' : (drawers index actions)[place']? = some callIndex) : place = place' :=
  List.getElem?_inj (List.getElem?_eq_some_iff.mp hplace).1 (h.nodup_drawers index)
    |>.mp (hplace.trans hplace'.symm)

/-- The number of a packet that is to be queued, by the place of its draw. -/
theorem Numbered.seqNo_eq (h : Numbered actions connection) {index callIndex place : Nat}
    {call : Call} {packet : Packet} (hcall : connection.callAt index callIndex = some call)
    (hphase : call.phase = .sending packet)
    (hplace : (drawers index actions)[place]? = some callIndex) :
    packet.header.seqNo = drawnNumber place := by
  obtain ⟨draw, rfl, hdraw, -, hnumber⟩ := h.exists_draw hcall hphase
  rw [hnumber, h.place_unique hdraw hplace]

/-- A step leaves the account alone, or adds to it the draw behind the packet that it queues. -/
theorem Accounted.step (h : Accounted actions connection draws)
    (hnumbered : Numbered actions connection) (hstep : Step connection action next) :
    Accounted (actions ++ [action]) next draws ∨
      ∃ callIndex call packet draw, action = .poll draw.session callIndex .send ∧
        connection.callAt draw.session callIndex = some call ∧ call.phase = .sending packet ∧
        (drawers draw.session actions)[draw.place]? = some callIndex ∧
        draw.Numbers connection.sessionManager.ids packet ∧
        Accounted (actions ++ [action]) next (draws ++ [draw]) := by
  have hids := hstep.ids_prefix
  have hspent (draw : Draw) (hdraw : draw ∈ draws) : draw.Spent (actions ++ [action]) next :=
    (h.spent draw hdraw).step hstep
  have hnumbers : List.Forall₂ (fun draw packet => draw.Numbers next.sessionManager.ids packet)
      draws connection.sessionManager.outgoing.sent :=
    h.numbers.imp fun draw packet hdraw => hdraw.of_prefix hids
  rcases hstep.outgoing with hsame |
    ⟨index, callIndex, call, packet, call', rfl, hcall, hphase, hcall', hafter, hqueued⟩
  · exact .inl ⟨h.nodup, hspent, hsame ▸ hnumbers⟩
  · obtain ⟨draw, rfl, hplace, hpacket⟩ := hnumbered.exists_draw hcall hphase
    refine .inr ⟨callIndex, call, packet, draw, rfl, hcall, hphase, hplace, hpacket, ?_, ?_, ?_⟩
    · have hfresh : draw ∉ draws := by
        intro hmem
        obtain ⟨other, before, hother, hbefore, hsent⟩ := h.spent draw hmem
        obtain rfl : callIndex = other := Option.some.inj (hplace.symm.trans hother)
        obtain rfl : call = before := Option.some.inj (hcall.symm.trans hbefore)
        rw [hphase] at hsent
        simp [CallPhase.beforeSend] at hsent
      simpa using h.nodup.concat hfresh
    · intro other hother
      rcases List.mem_append.mp hother with hold | hnew
      · exact hspent other hold
      · obtain rfl := List.mem_singleton.mp hnew
        exact ⟨callIndex, call', getElem?_drawers_concat _ hplace, hcall', hafter⟩
    · rw [hqueued]
      exact List.rel_append hnumbers (.cons (hpacket.of_prefix hids) .nil)

end Accounts

section Runs

variable {actions : List Action} {connection : Connection} {draws : List Draw}

theorem accounted_of_run (hrun : run step .new actions = some connection) :
    Numbered actions connection ∧ ∃ draws, Accounted actions connection draws := by
  refine history_of_run (P := fun actions connection =>
    Numbered actions connection ∧ ∃ draws, Accounted actions connection draws) ?_ ?_ hrun
  · exact ⟨numbered_new, [], List.nodup_nil, by simp, .nil⟩
  · rintro before mid action next ⟨hnumbered, draws, haccounted⟩ hstep
    have hstep := step_eq_some hstep
    refine ⟨hnumbered.step hstep, ?_⟩
    rcases haccounted.step hnumbered hstep with hkept | ⟨_, _, _, draw, -, -, -, -, -, hadded⟩
    · exact ⟨draws, hkept⟩
    · exact ⟨draws ++ [draw], hadded⟩

/-- What the pad of a packet depends on under a fixed key and version. -/
def padKey (packet : Packet) : UInt32 × UInt8 := (packet.header.sessionId, packet.header.seqNo)

/-- Two packets share a pad exactly if one session drew their numbers a multiple of 128 draws
apart. -/
theorem Draw.Numbers.padKey_eq_iff {draw draw' : Draw} {ids : List UInt32}
    {packet packet' : Packet} (h : draw.Numbers ids packet) (h' : draw'.Numbers ids packet')
    (hids : ids.Nodup) :
    padKey packet = padKey packet' ↔
      draw.session = draw'.session ∧ draw.place ≡ draw'.place [MOD 128] := by
  obtain ⟨hid, hnumber⟩ := h
  obtain ⟨hid', hnumber'⟩ := h'
  have hlength := (List.getElem?_eq_some_iff.mp hid).1
  rw [padKey, padKey, Prod.mk.injEq, hnumber, hnumber', drawnNumber_eq_iff,
    ← List.getElem?_inj hlength hids]
  rw [hid, hid', Option.some.injEq]

theorem Accounted.numbers_getElem (h : Accounted actions connection draws) {i : Nat} {draw : Draw}
    {packet : Packet} (hdraw : draws[i]? = some draw)
    (hpacket : connection.sessionManager.outgoing.sent[i]? = some packet) :
    draw.Numbers connection.sessionManager.ids packet := by
  obtain ⟨hi, rfl⟩ := List.getElem?_eq_some_iff.mp hdraw
  obtain ⟨hi', rfl⟩ := List.getElem?_eq_some_iff.mp hpacket
  exact h.numbers.get hi hi'

theorem Accounted.place_lt (h : Accounted actions connection draws) {draw : Draw}
    (hdraw : draw ∈ draws) : draw.place < (drawers draw.session actions).length := by
  obtain ⟨index, call, hdrawer, -⟩ := h.spent draw hdraw
  exact (List.getElem?_eq_some_iff.mp hdrawer).1

/-- No pad is reused before some session has drawn more than 128 numbers. -/
theorem Accounted.nodup_padKey (h : Accounted actions connection draws)
    (hids : connection.sessionManager.ids.Nodup)
    (hfew : ∀ session, (drawers session actions).length ≤ 128) :
    (connection.sessionManager.outgoing.sent.map padKey).Nodup := by
  have hlength := h.numbers.length_eq
  rw [List.nodup_iff_getElem?_ne_getElem?]
  intro i j hij hj heq
  rw [List.length_map, ← hlength] at hj
  have hi := hij.trans hj
  have hpacket := List.getElem?_eq_getElem (hlength ▸ hi)
  have hpacket' := List.getElem?_eq_getElem (hlength ▸ hj)
  have hdraw := List.getElem?_eq_getElem hi
  have hdraw' := List.getElem?_eq_getElem hj
  rw [List.getElem?_map, List.getElem?_map, hpacket, hpacket', Option.map_some, Option.map_some,
    Option.some.injEq] at heq
  obtain ⟨hsession, hplace⟩ := ((h.numbers_getElem hdraw hpacket).padKey_eq_iff
    (h.numbers_getElem hdraw' hpacket') hids).mp heq
  have hlt := (h.place_lt (List.getElem_mem hi)).trans_le (hfew _)
  have hlt' := (h.place_lt (List.getElem_mem hj)).trans_le (hfew _)
  have hsame : draws[i] = draws[j] := by
    rw [Draw.mk.injEq]
    exact ⟨hsession, Nat.ModEq.eq_of_lt_of_lt hplace hlt hlt'⟩
  exact Nat.ne_of_lt hij (h.nodup.getElem_inj_iff.mp hsame)

/-- In every run, each queued packet carries the id of a session and the number of one draw of
that session, different packets those of different draws; two packets share a pad exactly if one
session drew their numbers a multiple of 128 draws apart, so none do as long as no session has
drawn more than 128 numbers. -/
theorem pads_shared_iff (hrun : run step .new actions = some connection) :
    (∃ draws, Accounted actions connection draws ∧
      ∀ (i j : Nat) (draw draw' : Draw) (packet packet' : Packet),
        draws[i]? = some draw → connection.sessionManager.outgoing.sent[i]? = some packet →
        draws[j]? = some draw' → connection.sessionManager.outgoing.sent[j]? = some packet' →
          (padKey packet = padKey packet' ↔
            draw.session = draw'.session ∧ draw.place ≡ draw'.place [MOD 128])) ∧
      ((∀ session, (drawers session actions).length ≤ 128) →
        (connection.sessionManager.outgoing.sent.map padKey).Nodup) := by
  obtain ⟨hnumbered, draws, haccounted⟩ := accounted_of_run hrun
  have hids := hnumbered.registered.nodup
  refine ⟨⟨draws, haccounted, ?_⟩, haccounted.nodup_padKey hids⟩
  intro i j draw draw' packet packet' hdraw hpacket hdraw' hpacket'
  exact (haccounted.numbers_getElem hdraw hpacket).padKey_eq_iff
    (haccounted.numbers_getElem hdraw' hpacket') hids

end Runs

/-- The request that the calls of the runs below make. -/
def requestOfCall : AccountingRequest := Tacon.accountingRequest "admin" "tty0" "10.0.0.1" "ls" none

/-- A call on the first session that is abandoned while it waits for its reply; the writer takes
its packet. -/
def abandonedCall (call : Nat) : List Action :=
  .sendAccountingRequest 0 requestOfCall ::
    ([.checkSender, .joinRead, .checkReceiver, .checkComplete, .draw, .send, .joinWrite, .acquire,
      .abandon].map (.poll 0 call) ++ [.takeOutgoing])

/-- A session is created and the given number of calls is made on it, one after the other. -/
def abandoningRun (calls : Nat) : List Action :=
  [.manage .createSession, .manage (.canCreateSessions 0), .manage (.createChannel 0 [7])] ++
    (List.range calls).flatMap abandonedCall

/-- A connection with one session, to which nothing was delivered. -/
def single (manager : SessionManager) (outgoing : PacketChannel) (session : Session) :
    Connection where
  sessionManager := { manager with outgoing, sessions := [⟨7, .new⟩] }
  sessions := [session]
  dropped := false

/-- The session has made the given number of calls, and nothing of them is left. -/
structure Idle (calls : Nat) (outgoing : PacketChannel) (session : Session) : Prop where
  sessionId : session.sessionId = 7
  made : session.calls.length = calls
  current : session.currentSequenceNumber = drawnNumber calls
  lock : session.receiverLock = .new
  incomplete : session.sessionComplete = false
  opened : outgoing.receiverDropped = false
  drained : outgoing.taken = outgoing.sent.length
  padKeys : outgoing.sent.map padKey =
    (List.range calls).map fun place => (7, drawnNumber place)

theorem Idle.next {calls : Nat} {outgoing : PacketChannel} {session : Session} {packet : Packet}
    (h : Idle calls outgoing session) (hroom : outgoing.HasRoom)
    (hnonempty : (outgoing.push packet hroom).taken < (outgoing.push packet hroom).sent.length)
    (hkey : padKey packet = (7, drawnNumber calls)) :
    Idle (calls + 1) ((outgoing.push packet hroom).pop hnonempty) { session with
      currentSequenceNumber := session.currentSequenceNumber + 2
      calls := session.calls ++
        [⟨requestOfCall, some session.currentSequenceNumber, none, .abandoned⟩] } := by
  constructor
  case sessionId => exact h.sessionId
  case made => rw [List.length_append, List.length_singleton, h.made]
  case current => rw [drawnNumber_succ, ← h.current]
  case lock => exact h.lock
  case incomplete => exact h.incomplete
  case opened => exact h.opened
  case drained =>
    change outgoing.taken + 1 = (outgoing.sent ++ [packet]).length
    rw [List.length_append, List.length_singleton, h.drained]
  case padKeys =>
    calc (outgoing.sent ++ [packet]).map padKey
        = outgoing.sent.map padKey ++ [padKey packet] := List.map_append
      _ = (List.range calls).map (fun place => (7, drawnNumber place)) ++
            [(7, drawnNumber calls)] := by rw [h.padKeys, hkey]
      _ = (List.range (calls + 1)).map fun place => (7, drawnNumber place) := by
            rw [List.range_succ, List.map_append]
            rfl

/-- An abandoned call leaves its packet, and nothing else, for the one who takes it. -/
theorem exists_run_abandoned {calls : Nat} {outgoing : PacketChannel} {session : Session}
    (h : Idle calls outgoing session) (manager : SessionManager) :
    ∃ packet queued taken session', padKey packet = (7, drawnNumber calls) ∧
      run step (single manager outgoing session) (abandonedCall calls).dropLast =
        some (single manager queued session') ∧
      queued.recv = .received packet taken ∧
      step (single manager queued session') .takeOutgoing = some (single manager taken session') ∧
      Idle (calls + 1) taken session' := by
  have hroom : outgoing.HasRoom := by
    rw [Channel.HasRoom, h.drained]
    exact Nat.lt_add_of_pos_right (by decide)
  obtain ⟨packet, hpacket, hrun⟩ :=
    session.run_abandoned ⟨outgoing, .new⟩ requestOfCall h.lock h.incomplete h.opened rfl hroom
  obtain ⟨hid, hnumber⟩ := Session.requestPacket_header hpacket
  have hkey : padKey packet = (7, drawnNumber calls) := by
    rw [padKey, hid, hnumber, h.sessionId, h.current]
  obtain ⟨hnonempty, hrecv⟩ := Channel.recv_push_of_drained packet hroom h.drained
  have hstart : step (single manager outgoing session) (.sendAccountingRequest 0 requestOfCall) =
    some (single manager outgoing (session.sendAccountingRequest requestOfCall)) := rfl
  have hsession : (single manager outgoing
      (session.sendAccountingRequest requestOfCall)).sessions[0]? =
        some (session.sendAccountingRequest requestOfCall) := rfl
  have hchannel : (single manager outgoing
      (session.sendAccountingRequest requestOfCall)).sessionManager.sessions[0]? =
        some ⟨7, .new⟩ := rfl
  refine ⟨packet, outgoing.push packet hroom, _, _, hkey, ?_, hrecv, ?_,
    h.next hroom hnonempty hkey⟩
  · rw [← h.made]
    exact (run_cons_of_step hstart _).trans (run_pollInTurn hsession hchannel hrun)
  · have hopened : (outgoing.push packet hroom).receiverDropped = false := h.opened
    simp only [step, takeOutgoing, single, hopened, hrecv]

theorem exists_run_abandonedCall {calls : Nat} {outgoing : PacketChannel} {session : Session}
    (h : Idle calls outgoing session) (manager : SessionManager) :
    ∃ outgoing' session', run step (single manager outgoing session) (abandonedCall calls) =
      some (single manager outgoing' session') ∧ Idle (calls + 1) outgoing' session' := by
  obtain ⟨packet, queued, taken, session', -, hrun, -, htake, hidle⟩ :=
    exists_run_abandoned h manager
  have hparts : abandonedCall calls = (abandonedCall calls).dropLast ++ [.takeOutgoing] := rfl
  refine ⟨taken, session', ?_, hidle⟩
  rw [hparts, run_concat_eq_some_iff]
  exact ⟨_, hrun, htake⟩

theorem exists_run_abandoningRun (calls : Nat) :
    ∃ manager outgoing session, run step .new (abandoningRun calls) =
      some (single manager outgoing session) ∧ Idle calls outgoing session := by
  let manager : SessionManager := { SessionManager.new with
    duplexChannels := SessionManager.new.duplexChannels.insert 7 0
    creations := [.created 7] }
  have hcreate : run step .new [.manage .createSession, .manage (.canCreateSessions 0),
      .manage (.createChannel 0 [7])] = some (single manager .new (.new 7)) := rfl
  refine ⟨manager, ?_⟩
  induction calls with
  | zero =>
      refine ⟨.new, .new 7, ?_, rfl, rfl, rfl, rfl, rfl, rfl, rfl, rfl⟩
      rw [abandoningRun, List.range_zero, List.flatMap_nil, List.append_nil, hcreate]
  | succ calls ih =>
      obtain ⟨outgoing, session, hrun, hidle⟩ := ih
      obtain ⟨outgoing', session', hcall, hidle'⟩ := exists_run_abandonedCall hidle manager
      refine ⟨outgoing', session', ?_, hidle'⟩
      rw [abandoningRun, List.range_succ, List.flatMap_append, List.flatMap_singleton,
        ← List.append_assoc, run_append_eq_some_iff]
      exact ⟨_, hrun, hcall⟩

theorem pads_shared_iff_abandoningRun :
    ∃ connection, run step .new (abandoningRun 2) = some connection ∧
      (∃ draws, Accounted (abandoningRun 2) connection draws ∧
        ∀ (i j : Nat) (draw draw' : Draw) (packet packet' : Packet),
          draws[i]? = some draw → connection.sessionManager.outgoing.sent[i]? = some packet →
          draws[j]? = some draw' → connection.sessionManager.outgoing.sent[j]? = some packet' →
            (padKey packet = padKey packet' ↔
              draw.session = draw'.session ∧ draw.place ≡ draw'.place [MOD 128])) ∧
        ((∀ session, (drawers session (abandoningRun 2)).length ≤ 128) →
          (connection.sessionManager.outgoing.sent.map padKey).Nodup) := by
  obtain ⟨manager, outgoing, session, hrun, -⟩ := exists_run_abandoningRun 2
  exact ⟨_, hrun, pads_shared_iff hrun⟩

/-- The packets of the first call and of the 129th share a pad. -/
theorem abandoningRun_reuses_pad :
    ∃ connection, run step .new (abandoningRun 129) = some connection ∧
      ¬ (connection.sessionManager.outgoing.sent.map padKey).Nodup := by
  obtain ⟨manager, outgoing, session, hrun, hidle⟩ := exists_run_abandoningRun 129
  refine ⟨_, hrun, fun hnodup => ?_⟩
  have hkeys : (single manager outgoing session).sessionManager.outgoing.sent.map padKey =
      (List.range 129).map fun place => (7, drawnNumber place) := hidle.padKeys
  rw [hkeys] at hnodup
  have hagain : (7, drawnNumber 0) = ((7, drawnNumber 128) : UInt32 × UInt8) := by decide
  have hsame := List.inj_on_of_nodup_map hnodup (List.mem_range.mpr (by decide))
    (List.mem_range.mpr (by decide)) hagain
  simp at hsame

end TacacsRs.Networking.Connection
