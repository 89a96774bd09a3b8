import TacacsRs.Networking.PadReuse

/-!
# The order of a session's packets

A call draws its number and queues its packet at two await points under no
common lock, so calls of one session can overtake each other in between. As long
as none does, the packets of a session are queued under odd, increasing numbers.
-/

namespace TacacsRs.Networking

open Rust Messages

theorem drawnNumber_toNat {place : Nat} (h : place < 128) :
    (drawnNumber place).toNat = 1 + 2 * place := by
  rw [drawnNumber, UInt8.toNat_ofNat', Nat.mod_eq_of_lt]
  omega

theorem drawnNumber_lt_iff {place place' : Nat} (h : place < 128) (h' : place' < 128) :
    drawnNumber place < drawnNumber place' ↔ place < place' := by
  rw [UInt8.lt_iff_toNat_lt, drawnNumber_toNat h, drawnNumber_toNat h']
  omega

/-- The calls that have drawn a number and have their packet still to queue, with the number. -/
def Session.unsent (session : Session) : List (Nat × UInt8) :=
  session.calls.zipIdx.filterMap fun (call, index) =>
    match call.phase with
    | .sending packet => some (index, packet.header.seqNo)
    | _ => none

namespace Connection

/-- The numbers drawn in the session at `index` that have not been sent, with their calls. -/
def unsent (connection : Connection) (index : Nat) : List (Nat × UInt8) :=
  (connection.sessions[index]?.map Session.unsent).getD []

/-- A call of the session queues its packet when no other one has a packet with a smaller number
still to queue. -/
def SendsInOrder (index : Nat) (connection : Connection) : Action → Prop
  | .poll session call .send => session = index →
      ∀ sent ∈ connection.unsent index, sent.1 = call →
        ∀ other ∈ connection.unsent index, sent.2 ≤ other.2
  | _ => True

section Step

variable {actions : List Action} {connection next : Connection} {action : Action}
  {index callIndex : Nat} {call : Call} {packet : Packet} {draws : List Draw}

theorem mem_unsent (hcall : connection.callAt index callIndex = some call)
    (hphase : call.phase = .sending packet) :
    (callIndex, packet.header.seqNo) ∈ connection.unsent index := by
  obtain ⟨session, hsession, hcalls⟩ := callAt_eq_some_iff.mp hcall
  rw [unsent, hsession, Option.map_some, Option.getD_some, Session.unsent, List.mem_filterMap]
  refine ⟨(call, callIndex), List.mem_zipIdx_iff_getElem?.mpr hcalls, ?_⟩
  simp only [hphase]

/-- A packet that is to be queued was so before, unless its number has just been drawn. -/
theorem Step.sending_cases (hstep : Step connection action next)
    (hcall : next.callAt index callIndex = some call) (hphase : call.phase = .sending packet) :
    connection.callAt index callIndex = some call ∨
      action = .poll index callIndex .draw ∧ ∃ before,
        connection.callAt index callIndex = some before ∧ before.phase.beforeDraw = true := by
  cases hstep with
  | manage action manager event hpresent howner hstep =>
      obtain ⟨session, hsession, hcalls⟩ := callAt_eq_some_iff.mp hcall
      exact .inl (callAt_eq_some_iff.mpr ⟨session, getElem?_of_call hsession hcalls, hcalls⟩)
  | start other request started sessionChannel hstarted =>
      rw [callAt_set hstarted rfl rfl] at hcall
      split at hcall
      · next heq =>
        subst heq
        rcases getElem?_append_singleton_cases hcall with ⟨-, rfl⟩ | hold
        · simp at hphase
        · exact .inl (callAt_eq_some_iff.mpr ⟨started, hstarted, hold⟩)
      · exact .inl hcall
  | poll other otherCall poll polling polled sessionChannel duplexChannel hpolling hchannel
      hpoll =>
      obtain ⟨running, hrunning, hpolled⟩ := Session.poll_eq_some hpoll
      obtain ⟨call', hcalls', -, hnumbers⟩ := hpolled.numbers
      rw [callAt_set hpolling rfl hcalls'] at hcall
      split at hcall
      · next heq =>
        subst heq
        rcases getElem?_set_cases hcall with ⟨rfl, rfl⟩ | ⟨-, hold⟩
        · obtain ⟨rfl, hbefore⟩ := hnumbers.drawn_of_sending hphase
          exact .inr ⟨rfl, running, callAt_eq_some_iff.mpr ⟨polling, hpolling, hrunning⟩, hbefore⟩
        · exact .inl (callAt_eq_some_iff.mpr ⟨polling, hpolling, hold⟩)
      · exact .inl hcall
  | dropSession | takeOutgoing | closeOutgoing | dropConnection => exact .inl hcall

/-- The session's draws are on the outgoing queue in their order, and before those whose packets
are still to be queued. -/
structure InOrder (index : Nat) (actions : List Action) (connection : Connection)
    (draws : List Draw) : Prop where
  accounted : Accounted actions connection draws
  ascending : (draws.filter fun draw => draw.session = index).Pairwise
    fun draw later => draw.place < later.place
  behind : ∀ (callIndex place : Nat) (call : Call) (packet : Packet),
    connection.callAt index callIndex = some call → call.phase = .sending packet →
      (drawers index actions)[place]? = some callIndex →
        ∀ draw ∈ draws, draw.session = index → draw.place < place

/-- A draw that is added to the session's order comes after all of them. -/
theorem InOrder.behind_step (h : InOrder index actions connection draws)
    (hnumbered : Numbered actions connection) (hstep : Step connection action next) {place : Nat}
    (hcall : next.callAt index callIndex = some call) (hphase : call.phase = .sending packet)
    (hplace : (drawers index (actions ++ [action]))[place]? = some callIndex) {draw : Draw}
    (hdraw : draw ∈ draws) (hsession : draw.session = index) : draw.place < place := by
  rcases hstep.sending_cases hcall hphase with hold | ⟨rfl, before, hbefore, hwaiting⟩
  · obtain ⟨drawn, rfl, hdrawn, -⟩ := hnumbered.exists_draw hold hphase
    have hsame := (hnumbered.step hstep).place_unique (getElem?_drawers_concat action hdrawn) hplace
    exact hsame ▸ h.behind callIndex drawn.place call packet hold hphase hdrawn draw hdraw hsession
  · obtain ⟨session, hfound, hcalls⟩ := callAt_eq_some_iff.mp hbefore
    have hfresh :=
      (hnumbered.numbered index session hfound).waiting callIndex before hcalls hwaiting
    have hlt := hsession ▸ h.accounted.place_lt hdraw
    refine hlt.trans_le (Nat.le_of_not_lt fun hold => hfresh ?_)
    rw [drawers_concat, List.getElem?_append_left hold] at hplace
    exact List.mem_of_getElem? hplace

/-- The draw behind a packet that is queued in order comes before those still to be queued. -/
theorem Numbered.place_lt_of_allowed (h : Numbered actions connection) {draw : Draw}
    {sender place : Nat} {sending : Call} {sent : Packet}
    (hstep : Step connection (.poll draw.session sender .send) next)
    (hallowed : connection.SendsInOrder draw.session (.poll draw.session sender .send))
    (hsending : connection.callAt draw.session sender = some sending)
    (hsent : sending.phase = .sending sent)
    (hdraw : (drawers draw.session actions)[draw.place]? = some sender)
    (hspent : draw.Spent (actions ++ [.poll draw.session sender .send]) next)
    (hcall : next.callAt draw.session callIndex = some call)
    (hphase : call.phase = .sending packet)
    (hplace : (drawers draw.session (actions ++ [.poll draw.session sender .send]))[place]? =
      some callIndex)
    (hfew : (drawers draw.session (actions ++ [.poll draw.session sender .send])).length ≤ 128) :
    draw.place < place := by
  have hnext := h.step hstep
  have hne : place ≠ draw.place := by
    rintro rfl
    obtain ⟨drawer, after, hdrawer, hafter, hsent⟩ := hspent
    obtain rfl : callIndex = drawer := Option.some.inj (hplace.symm.trans hdrawer)
    obtain rfl : call = after := Option.some.inj (hcall.symm.trans hafter)
    rw [hphase] at hsent
    simp [CallPhase.beforeSend] at hsent
  have hle : drawnNumber draw.place ≤ drawnNumber place := by
    rcases hstep.sending_cases hcall hphase with hold | ⟨hdrawing, -⟩
    · rw [← h.seqNo_eq hsending hsent hdraw, ← hnext.seqNo_eq hcall hphase hplace]
      exact hallowed rfl _ (mem_unsent hsending hsent) rfl _ (mem_unsent hold hphase)
    · simp at hdrawing
  have hlt : draw.place < 128 :=
    (List.getElem?_eq_some_iff.mp (getElem?_drawers_concat _ hdraw)).1.trans_le hfew
  have hlt' : place < 128 := (List.getElem?_eq_some_iff.mp hplace).1.trans_le hfew
  refine Nat.lt_of_le_of_ne (Nat.le_of_not_lt fun hafter => ?_) (Ne.symm hne)
  exact UInt8.not_lt.mpr hle ((drawnNumber_lt_iff hlt' hlt).mpr hafter)

theorem InOrder.step (h : InOrder index actions connection draws)
    (hnumbered : Numbered actions connection) (hstep : Step connection action next)
    (hallowed : connection.SendsInOrder index action)
    (hfew : (drawers index (actions ++ [action])).length ≤ 128) :
    ∃ draws', InOrder index (actions ++ [action]) next draws' := by
  rcases h.accounted.step hnumbered hstep with hkept |
    ⟨sender, sending, sent, draw, rfl, hsending, hsent, hplace, -, hadded⟩
  · refine ⟨draws, hkept, h.ascending, ?_⟩
    intro callIndex place call packet hcall hphase hplace draw hdraw hsession
    exact h.behind_step hnumbered hstep hcall hphase hplace hdraw hsession
  by_cases hsession : draw.session = index
  · subst hsession
    refine ⟨draws ++ [draw], hadded, ?_, ?_⟩
    · rw [List.filter_append, List.filter_singleton, List.pairwise_append]
      refine ⟨h.ascending, by simp, ?_⟩
      intro earlier hearlier later hlater
      obtain ⟨hmem, hsame⟩ := List.mem_filter.mp hearlier
      obtain rfl : later = draw := by simpa using hlater
      exact h.behind sender later.place sending sent hsending hsent hplace earlier hmem
        (of_decide_eq_true hsame)
    · intro callIndex place call packet hcall hphase hother earlier hearlier hsame
      rcases List.mem_append.mp hearlier with hold | hnew
      · exact h.behind_step hnumbered hstep hcall hphase hother hold hsame
      · obtain rfl := List.mem_singleton.mp hnew
        exact hnumbered.place_lt_of_allowed hstep hallowed hsending hsent hplace
          (hadded.spent earlier (by simp)) hcall hphase hother hfew
  · refine ⟨draws ++ [draw], hadded, ?_, ?_⟩
    · rw [List.filter_append, List.filter_singleton, decide_eq_false hsession]
      simpa using h.ascending
    · intro callIndex place call packet hcall hphase hother earlier hearlier hsame
      rcases List.mem_append.mp hearlier with hold | hnew
      · exact h.behind_step hnumbered hstep hcall hphase hother hold hsame
      · obtain rfl := List.mem_singleton.mp hnew
        exact absurd hsame hsession

end Step

section Runs

variable {actions : List Action} {connection : Connection} {index : Nat} {session : Session}
  {draws : List Draw}

/-- While the counter has not wrapped, the draws of the session are in order. -/
def InOrderSoFar (index : Nat) (actions : List Action) (connection : Connection) : Prop :=
  Numbered actions connection ∧ ((drawers index actions).length ≤ 128 →
    ∃ draws, InOrder index actions connection draws)

theorem inOrderSoFar_new : InOrderSoFar index [] .new := by
  refine ⟨numbered_new, fun _ => ⟨[], ⟨List.nodup_nil, by simp, .nil⟩, .nil, ?_⟩⟩
  simp

theorem InOrderSoFar.step {next : Connection} {action : Action}
    (h : InOrderSoFar index actions connection) (hallowed : SendsInOrder index connection action)
    (hstep : Step connection action next) : InOrderSoFar index (actions ++ [action]) next := by
  obtain ⟨hnumbered, horder⟩ := h
  refine ⟨hnumbered.step hstep, fun hlength => ?_⟩
  have hbefore : (drawers index actions).length ≤ 128 := by
    rw [drawers_concat, List.length_append] at hlength
    exact (Nat.le_add_right _ _).trans hlength
  obtain ⟨draws, hdraws⟩ := horder hbefore
  exact hdraws.step hnumbered hstep hallowed hlength

theorem inOrder_of_run (hmeets : Meets step (SendsInOrder index) .new actions)
    (hrun : run step .new actions = some connection)
    (hfew : (drawers index actions).length ≤ 128) :
    Numbered actions connection ∧ ∃ draws, InOrder index actions connection draws := by
  have hkept : InOrderSoFar index actions connection := by
    apply invariant_of_history inOrderSoFar_new _ hmeets hrun
    exact fun before mid action next hmid hallowed hnext =>
      hmid.step hallowed (step_eq_some hnext)
  exact ⟨hkept.1, hkept.2 hfew⟩

/-- The packets of the session are those of its draws. -/
theorem Accounted.filter_numbers (h : Accounted actions connection draws)
    (hnumbered : Numbered actions connection)
    (hsession : connection.sessions[index]? = some session) :
    List.Forall₂ (fun draw packet => draw.Numbers connection.sessionManager.ids packet)
      (draws.filter fun draw => draw.session = index)
      (connection.sessionManager.outgoing.sent.filter fun packet =>
        packet.header.sessionId = session.sessionId) := by
  have hid : connection.sessionManager.ids[index]? = some session.sessionId := by
    rw [← hnumbered.ids, List.getElem?_map, hsession, Option.map_some]
  refine List.rel_filter ?_ h.numbers
  rintro draw packet ⟨hdraw, -⟩
  simp only [decide_eq_true_eq]
  constructor
  · rintro rfl
    exact Option.some.inj (hdraw.symm.trans hid)
  · intro hsame
    have hlength := (List.getElem?_eq_some_iff.mp hdraw).1
    rw [hsame, ← hid] at hdraw
    exact (List.getElem?_inj hlength hnumbered.registered.nodup).mp hdraw

theorem Accounted.map_seqNo (h : Accounted actions connection draws)
    (hnumbered : Numbered actions connection)
    (hsession : connection.sessions[index]? = some session) :
    (connection.sessionManager.outgoing.sent.filter fun packet =>
      packet.header.sessionId = session.sessionId).map (fun packet => packet.header.seqNo) =
      (draws.filter fun draw => draw.session = index).map fun draw => drawnNumber draw.place := by
  have hnumbers := h.filter_numbers hnumbered hsession
  have hsame := List.forall₂_map_left_iff.mpr (List.forall₂_map_right_iff.mpr
    (hnumbers.imp fun draw packet hdraw => hdraw.2.symm))
  rw [List.forall₂_eq_eq_eq] at hsame
  exact hsame.symm

/-- In every run in which the session's calls queue their packets in the order of their draws, the
packets of a session with fewer than 128 calls are queued under odd, increasing numbers. -/
theorem sequence_numbers_ascend (hmeets : Meets step (SendsInOrder index) .new actions)
    (hrun : run step .new actions = some connection)
    (hsession : connection.sessions[index]? = some session) (hcalls : session.calls.length < 128) :
    let numbers := (connection.sessionManager.outgoing.sent.filter fun packet =>
      packet.header.sessionId = session.sessionId).map fun packet => packet.header.seqNo
    (∀ number ∈ numbers, number.toNat % 2 = 1) ∧ numbers.Pairwise (· < ·) := by
  intro numbers
  have hlength : (drawers index actions).length < 128 :=
    ((accounted_of_run hrun).1.numbered index session hsession).length_le.trans_lt hcalls
  obtain ⟨hnumbered, draws, horder⟩ := inOrder_of_run hmeets hrun hlength.le
  have hnumbers : numbers = _ := horder.accounted.map_seqNo hnumbered hsession
  have hplace (draw : Draw) (hdraw : draw ∈ draws.filter fun draw => draw.session = index) :
      draw.place < 128 := by
    obtain ⟨hmem, hsame⟩ := List.mem_filter.mp hdraw
    obtain rfl : draw.session = index := of_decide_eq_true hsame
    exact (horder.accounted.place_lt hmem).trans hlength
  rw [hnumbers]
  constructor
  · intro number hnumber
    obtain ⟨draw, hdraw, rfl⟩ := List.mem_map.mp hnumber
    rw [drawnNumber_toNat (hplace draw hdraw)]
    omega
  · rw [List.pairwise_map]
    refine horder.ascending.imp_of_mem fun {draw later} hdraw hlater hlt => ?_
    exact (drawnNumber_lt_iff (hplace draw hdraw) (hplace later hlater)).mpr hlt

end Runs

/-- The steps of the call up to its draw. -/
def drawnCall (call : Nat) : List Action :=
  .sendAccountingRequest 0 requestOfCall ::
    [.checkSender, .joinRead, .checkReceiver, .checkComplete, .draw].map (.poll 0 call)

/-- A session is created, and two calls draw their numbers, one after the other. -/
def drawingRun : List Action :=
  [.manage .createSession, .manage (.canCreateSessions 0), .manage (.createChannel 0 [7])] ++
    drawnCall 0 ++ drawnCall 1

/-- The call that has drawn first sends first. -/
def orderedRun : List Action := drawingRun ++ ([.poll 0 0 .send] ++ [.poll 0 1 .send])

theorem orderedRun_inOrder : Meets step (SendsInOrder 0) .new orderedRun := by
  refine Meets.append (meets_of_forall (by simp [drawingRun, drawnCall, SendsInOrder])) ?_
  intro drawn hdrawn
  have hunsent : (run step .new drawingRun).map (fun connection => connection.unsent 0) =
      some [(0, 1), (1, 3)] := by decide +kernel
  rw [hdrawn, Option.map_some, Option.some.injEq] at hunsent
  refine Meets.append (meets_singleton ?_) fun queued hqueued => meets_singleton ?_
  · intro _ sent hsent hcall other hother
    rw [hunsent] at hsent hother
    grind
  · have hrest : ((run step .new drawingRun).bind fun connection =>
        run step connection [.poll 0 0 .send]).map (fun connection => connection.unsent 0) =
          some [(1, 3)] := by decide +kernel
    rw [hdrawn, Option.bind_some, hqueued, Option.map_some, Option.some.injEq] at hrest
    intro _ sent hsent hcall other hother
    rw [hrest, List.mem_singleton] at hsent hother
    rw [hsent, hother]
    exact UInt8.le_refl _

theorem sequence_numbers_ascend_orderedRun :
    ∃ connection session, run step .new orderedRun = some connection ∧
      connection.sessions[0]? = some session ∧
        let numbers := (connection.sessionManager.outgoing.sent.filter fun packet =>
          packet.header.sessionId = session.sessionId).map fun packet => packet.header.seqNo
        (∀ number ∈ numbers, number.toNat % 2 = 1) ∧ numbers.Pairwise (· < ·) := by
  have hlength : ((run step .new orderedRun).bind fun connection => connection.sessions[0]?).map
      (fun session => session.calls.length) = some 2 := by decide +kernel
  obtain ⟨session, hfound, hcalls⟩ := Option.map_eq_some_iff.mp hlength
  obtain ⟨connection, hrun, hsession⟩ := Option.bind_eq_some_iff.mp hfound
  exact ⟨connection, session, hrun, hsession,
    sequence_numbers_ascend orderedRun_inOrder hrun hsession (by omega)⟩

/-- The second call queues its packet before the first one. -/
def overtakingRun : List Action := drawingRun ++ [.poll 0 1 .send, .poll 0 0 .send]

theorem overtakingRun_descends :
    ∃ connection session, run step .new overtakingRun = some connection ∧
      connection.sessions[0]? = some session ∧ session.calls.length = 2 ∧
        (connection.sessionManager.outgoing.sent.filter fun packet =>
          packet.header.sessionId = session.sessionId).map (fun packet => packet.header.seqNo) =
            [3, 1] := by
  have hnumbers : (run step .new overtakingRun).bind (fun connection =>
      connection.sessions[0]?.map fun session => (session.calls.length,
        (connection.sessionManager.outgoing.sent.filter fun packet =>
          packet.header.sessionId = session.sessionId).map fun packet => packet.header.seqNo)) =
            some (2, [3, 1]) := by decide +kernel
  obtain ⟨connection, hrun, hmap⟩ := Option.bind_eq_some_iff.mp hnumbers
  obtain ⟨session, hsession, hfields⟩ := Option.map_eq_some_iff.mp hmap
  obtain ⟨hlength, hsent⟩ := Prod.mk.inj hfields
  exact ⟨connection, session, hrun, hsession, hlength, hsent⟩

end Connection

end TacacsRs.Networking
