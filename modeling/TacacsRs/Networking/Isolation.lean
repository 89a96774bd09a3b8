import TacacsRs.Networking.Demultiplexing

/-!
# Isolation of sessions

The reader holds the registry's read lock while it waits for room in the channel
of one session. Until the owner of that session takes a packet or drops it, no
other session is served and none is registered.
-/

namespace TacacsRs.Networking.SessionManager

open Rust Messages

/-- A step of the manager, without what it shows. -/
def advance (manager : SessionManager) (action : Action) : Option SessionManager :=
  (manager.step action).map Prod.fst

theorem advance_eq_some {manager next : SessionManager} {action : Action}
    (h : manager.advance action = some next) : ∃ event, Step manager action next event := by
  simp only [advance, Option.map_eq_some_iff, Prod.exists] at h
  obtain ⟨_, event, hstep, rfl⟩ := h
  exact ⟨event, step_eq_some hstep⟩

/-- A send in progress can be finished without a step of any session's owner, and then the
next packet can be dispatched and a waiting creation can register its session. -/
def Unblocked (manager : SessionManager) : Prop :=
  manager.sending.isSome →
    ∃ next, manager.advance .finishSend = some next ∧
      (∀ packet, (next.advance (.sendMessageToSession packet)).isSome) ∧
      ∀ call draws, next.creations[call]? = some .creatingChannel →
        (∃ sessionId ∈ draws, sessionId ∉ next.duplexChannels) →
          (next.advance (.createChannel call draws)).isSome

/-- The session's receiver is gone, or fewer packets than its channel holds are unread. -/
def TakesOneMore (session : SessionChannel) : Prop :=
  session.channel.receiverDropped = true ∨ session.channel.HasRoom

/-- No packet is looked up for a session whose channel is full and whose receiver is there. -/
def FindsRoom (manager : SessionManager) (action : Action) : Prop :=
  ∀ packet, action = .sendMessageToSession packet → manager.sending = none →
    ∀ index session, manager.duplexChannels.lookup packet.header.sessionId = some index →
      manager.sessions[index]? = some session → TakesOneMore session

/-- The session that the reader sends to can take its packet. -/
structure Flowing (manager : SessionManager) : Prop where
  registry : manager.Registered
  sending : ∀ packet index, manager.sending = some (packet, index) →
    ∃ session : SessionChannel, manager.sessions[index]? = some session ∧ TakesOneMore session

theorem flowing_new : Flowing .new where
  registry := consistent_new.registry
  sending := by simp [new]

theorem createChannel_isSome {manager : SessionManager} {call : Nat} {draws : List UInt32}
    (hidle : manager.sending = none)
    (hfresh : ∃ sessionId ∈ draws, sessionId ∉ manager.duplexChannels) :
    (manager.createChannel call draws).isSome := by
  obtain ⟨sessionId, hdraw⟩ := Option.isSome_iff_exists.mp (drawSessionId_isSome hfresh)
  simp [createChannel, hidle, hdraw]

theorem sendMessageToSession_isSome {manager : SessionManager} (packet : Packet)
    (hidle : manager.sending = none) : (manager.sendMessageToSession packet).isSome := by
  unfold sendMessageToSession
  rw [hidle]
  dsimp only
  split <;> rfl

/-- Sending to a session that takes one more packet ends, and frees the reader. -/
theorem finishSend_of_takesOneMore {manager : SessionManager} {packet : Packet} {index : Nat}
    {session : SessionChannel} (hsending : manager.sending = some (packet, index))
    (hsession : manager.sessions[index]? = some session) (h : TakesOneMore session) :
    ∃ next event, manager.finishSend = some (next, event) ∧ next.sending = none := by
  unfold finishSend
  simp only [hsending, hsession]
  cases hsend : session.channel.send packet with
  | pending =>
      obtain ⟨hopen, hfull⟩ := Channel.send_eq_pending_iff.mp hsend
      rcases h with hdropped | hroom
      · rw [hopen] at hdropped
        simp at hdropped
      · exact absurd hroom hfull
  | closed => exact ⟨_, _, rfl, rfl⟩
  | sent channel => exact ⟨_, _, rfl, rfl⟩

theorem Flowing.unblocked {manager : SessionManager} (h : Flowing manager) :
    Unblocked manager := by
  intro hsome
  obtain ⟨⟨packet, index⟩, hsending⟩ := Option.isSome_iff_exists.mp hsome
  obtain ⟨session, hsession, hmore⟩ := h.sending packet index hsending
  obtain ⟨next, event, hfinish, hidle⟩ := finishSend_of_takesOneMore hsending hsession hmore
  refine ⟨next, ?_, ?_, ?_⟩
  · simp only [advance, step, hfinish, Option.map_some]
  · intro packet
    simp only [advance, step, Option.isSome_map]
    exact sendMessageToSession_isSome packet hidle
  · intro call draws hcall hfresh
    simp only [advance, step, hcall, Option.isSome_map]
    exact createChannel_isSome hidle hfresh

/-- Owners only make room: a session that takes one more packet still does. -/
theorem exists_takesOneMore_set {manager : SessionManager} {index target : Nat}
    {session changed : SessionChannel}
    (h : ∃ session : SessionChannel, manager.sessions[target]? = some session ∧
      TakesOneMore session)
    (hsession : manager.sessions[index]? = some session) (hchanged : TakesOneMore changed) :
    ∃ session : SessionChannel, (manager.sessions.set index changed)[target]? = some session ∧
      TakesOneMore session := by
  by_cases htarget : target = index
  · subst htarget
    exact ⟨changed, getElem?_set_of_some hsession changed, hchanged⟩
  · obtain ⟨other, hother, hmore⟩ := h
    exact ⟨other, by rw [List.getElem?_set_ne (Ne.symm htarget), hother], hmore⟩

/-- One step in which the reader finds room keeps the reader able to finish. -/
theorem Flowing.step {manager next : SessionManager} {action : Action} {event : Event}
    (h : Flowing manager) (hroom : FindsRoom manager action)
    (hstep : Step manager action next event) : Flowing next := by
  constructor
  case registry => exact h.registry.step hstep
  case sending =>
    intro packet target hsending
    cases hstep with
    | create | permit | refuse | cancel | disable | reject =>
        exact h.sending packet target hsending
    | register call draws sessionId hcall hidle =>
        rw [hidle] at hsending
        simp at hsending
    | lookup packet' index hidle hlookup =>
        rw [Option.some.injEq, Prod.mk.injEq] at hsending
        obtain ⟨rfl, rfl⟩ := hsending
        have hid := (h.registry _ _).mp hlookup
        rw [ids, List.getElem?_map, Option.map_eq_some_iff] at hid
        obtain ⟨session, hsession, -⟩ := hid
        exact ⟨session, hsession, hroom packet' rfl hidle index session hlookup hsession⟩
    | deliver | fail => simp at hsending
    | receive index session hsession =>
        apply exists_takesOneMore_set (h.sending packet target hsending) hsession
        exact .inr Channel.HasRoom.of_pop
    | drop index session hsession =>
        apply exists_takesOneMore_set (h.sending packet target hsending) hsession
        exact .inl rfl

theorem findsRoom_of_unblocked {manager : SessionManager} {action : Action}
    (h : ∀ next, manager.advance action = some next → Unblocked next) :
    FindsRoom manager action := by
  rintro packet rfl hidle index session hlookup hsession
  have hnext : manager.advance (.sendMessageToSession packet) =
      some { manager with sending := some (packet, index) } := by
    simp only [advance, step, sendMessageToSession, hidle, hlookup, Option.map_some]
  obtain ⟨after, hfinish, -⟩ := h _ hnext rfl
  obtain ⟨event, hstep⟩ := advance_eq_some hfinish
  cases hstep with
  | deliver packet' index' session' hsending hsession' hopen hroom =>
      rw [Option.some.injEq, Prod.mk.injEq] at hsending
      obtain ⟨rfl, rfl⟩ := hsending
      obtain rfl : session = session' := Option.some.inj (hsession.symm.trans hsession')
      exact .inr hroom
  | fail packet' index' session' hsending hsession' hdropped =>
      rw [Option.some.injEq, Prod.mk.injEq] at hsending
      obtain ⟨rfl, rfl⟩ := hsending
      obtain rfl : session = session' := Option.some.inj (hsession.symm.trans hsession')
      exact .inl hdropped

/-- In every run, no session ever stops the reader and the registry if and only if no packet is
looked up for a session that is still there with a full channel. -/
theorem unblocked_throughout_iff (actions : List Action) :
    Throughout advance Unblocked .new actions ↔ Meets advance FindsRoom .new actions := by
  constructor
  · intro h before action hpre mid hmid
    apply findsRoom_of_unblocked
    intro next hnext
    exact h (before ++ [action]) hpre next (run_concat_eq_some_iff.mpr ⟨mid, hmid, hnext⟩)
  · intro h before hpre mid hmid
    apply Flowing.unblocked
    apply invariant_of_meets flowing_new _ (h.of_prefix hpre) hmid
    intro reached action next hreached hroom hstep
    obtain ⟨event, hcases⟩ := advance_eq_some hstep
    exact hreached.step hroom hcases

/-- Thirty-three replies arrive for the only session, whose owner never receives. -/
def unreadRun : List Action :=
  [.createSession, .canCreateSessions 0, .createChannel 0 [7]] ++
    (List.replicate channelCapacity [.sendMessageToSession (replyTo 7), .finishSend]).flatten ++
    [.sendMessageToSession (replyTo 7)]

theorem unreadRun_blocks :
    ∃ manager, run advance .new unreadRun = some manager ∧ ¬ Unblocked manager := by
  have hsome : (run advance .new unreadRun).isSome = true := by decide +kernel
  have hsending : ((run advance .new unreadRun).bind sending).isSome = true := by decide +kernel
  have hstuck : ((run advance .new unreadRun).bind
      fun manager => manager.advance .finishSend).isSome = false := by decide +kernel
  obtain ⟨manager, hrun⟩ := Option.isSome_iff_exists.mp hsome
  refine ⟨manager, hrun, fun h => ?_⟩
  rw [hrun, Option.bind_some] at hsending hstuck
  obtain ⟨next, hfinish, -⟩ := h hsending
  rw [hfinish] at hstuck
  simp at hstuck

end TacacsRs.Networking.SessionManager
