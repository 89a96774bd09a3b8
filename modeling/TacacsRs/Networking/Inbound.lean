import TacacsRs.Rust.Ledger
import TacacsRs.Networking.Wire

/-!
# From the byte stream to the sessions

The read loop takes one packet after the other off the stream and hands it to
the session manager, which looks up its session and waits until there is room.
A session gets the packets with its id that are handed on after it was
registered and before it is dropped. A packet that the reader has in hand while
the session is dropped is lost.
-/

namespace TacacsRs.Networking

open Rust Messages

/-- The session that a packet names. -/
def packetSession (packet : Packet) : UInt32 := packet.header.sessionId

namespace SessionManager

/-- The packets that the action hands to the manager. -/
def Action.hands : Action → List Packet
  | .sendMessageToSession packet => [packet]
  | _ => []

/-- The packet that waits to be sent to the session at `index`. -/
def awaiting (manager : SessionManager) (index : Nat) : List Packet :=
  match manager.sending with
  | some (packet, target) => if target = index then [packet] else []
  | none => []

/-- Of the packets handed on for the session, all but the earlier ones are queued to it, and what
is missing at the end waits to be sent or came too late. -/
def Filed (handed earlier : List Packet) (manager : SessionManager) (index : Nat) : Prop :=
  ∀ session : SessionChannel, manager.sessions[index]? = some session →
    ∃ later, entriesAt packetSession handed session.sessionId =
        entriesAt packetSession earlier session.sessionId ++ session.channel.sent ++ later ∧
      (later = manager.awaiting index ∨ session.channel.receiverDropped = true)

section Step

variable {manager next : SessionManager} {action : Action} {event : Event} {index : Nat}
  {handed earlier : List Packet}

theorem awaiting_of_idle (h : manager.sending = none) : manager.awaiting index = [] := by
  rw [awaiting, h]

theorem awaiting_of_ne {packet : Packet} {target : Nat}
    (h : manager.sending = some (packet, target)) (hne : target ≠ index) :
    manager.awaiting index = [] := by
  rw [awaiting, h]
  exact if_neg hne

theorem awaiting_self {packet : Packet} (h : manager.sending = some (packet, index)) :
    manager.awaiting index = [packet] := by
  rw [awaiting, h]
  exact if_pos rfl

/-- A step that replaces the session's channel by one to which the same was sent. -/
theorem Filed.set (h : Filed handed earlier manager index)
    (hnext : ∀ session : SessionChannel, next.sessions[index]? = some session →
      ∃ before : SessionChannel, manager.sessions[index]? = some before ∧
        session.sessionId = before.sessionId ∧ session.channel.sent = before.channel.sent ∧
        (before.channel.receiverDropped = true → session.channel.receiverDropped = true))
    (hawaiting : next.awaiting index = manager.awaiting index) :
    Filed handed earlier next index := by
  intro session hsession
  obtain ⟨before, hbefore, hid, hsent, hdropped⟩ := hnext session hsession
  obtain ⟨later, hentries, hlater⟩ := h before hbefore
  refine ⟨later, ?_, ?_⟩
  · rw [hid, hsent]
    exact hentries
  · rw [hawaiting]
    exact hlater.imp_right hdropped

/-- A packet that is looked up waits to be sent to the session with its id. -/
theorem Filed.lookup (h : Filed handed earlier manager index) (hregistered : manager.Registered)
    {packet : Packet} {target : Nat} (hidle : manager.sending = none)
    (hlookup : manager.duplexChannels.lookup packet.header.sessionId = some target) :
    Filed (handed ++ [packet]) earlier { manager with sending := some (packet, target) }
      index := by
  intro session hsession
  obtain ⟨later, hentries, hlater⟩ := h session hsession
  rw [awaiting_of_idle hidle] at hlater
  have htarget := (hregistered _ _).mp hlookup
  have hafter : sending { manager with sending := some (packet, target) } =
      some (packet, target) := rfl
  by_cases hid : packetSession packet = session.sessionId
  · obtain rfl : target = index := by
      rw [← packetSession, hid] at htarget
      exact hregistered.index_eq htarget (getElem?_ids hsession)
    refine ⟨later ++ [packet], ?_, ?_⟩
    · rw [entriesAt_concat_self hid, hentries, List.append_assoc]
    · rcases hlater with rfl | hdropped
      · exact .inl (awaiting_self hafter).symm
      · exact .inr hdropped
  · refine ⟨later, ?_, ?_⟩
    · rw [entriesAt_concat_of_ne hid, hentries]
    · have hother : target ≠ index := by
        rintro rfl
        exact hid (Option.some.inj (htarget.symm.trans (getElem?_ids hsession)))
      rw [awaiting_of_ne hafter hother]
      exact hlater

/-- A packet for no session is no session's packet. -/
theorem Filed.reject (h : Filed handed earlier manager index) (hregistered : manager.Registered)
    {packet : Packet}
    (hlookup : manager.duplexChannels.lookup packet.header.sessionId = none) :
    Filed (handed ++ [packet]) earlier manager index := by
  intro session hsession
  obtain ⟨later, hentries, hlater⟩ := h session hsession
  refine ⟨later, ?_, hlater⟩
  have hother : packetSession packet ≠ session.sessionId := by
    intro hid
    have hfound := (hregistered _ _).mpr (getElem?_ids hsession)
    rw [← hid, packetSession, hlookup] at hfound
    simp at hfound
  rw [entriesAt_concat_of_ne hother, hentries]

/-- The packet that waits is queued to its session, or is lost with it. -/
theorem Filed.sent (h : Filed handed earlier manager index) {packet : Packet} {target : Nat}
    {session : SessionChannel} {channel : PacketChannel}
    (hsending : manager.sending = some (packet, target))
    (hsession : manager.sessions[target]? = some session)
    (hsent : channel.sent = session.channel.sent ++ [packet])
    (hopen : session.channel.receiverDropped = false) :
    Filed handed earlier
      { manager with
        sessions := manager.sessions.set target { session with channel }
        sending := none } index := by
  intro after hafter
  rcases getElem?_set_cases hafter with ⟨rfl, rfl⟩ | ⟨hne, hold⟩
  · obtain ⟨later, hentries, hlater⟩ := h session hsession
    obtain rfl : later = [packet] := by
      rcases hlater with hlater | hdropped
      · exact hlater.trans (awaiting_self hsending)
      · simp [hopen] at hdropped
    refine ⟨[], ?_, .inl rfl⟩
    simp only [hsent, hentries, List.append_assoc, List.append_nil]
  · obtain ⟨later, hentries, hlater⟩ := h after hold
    rw [awaiting_of_ne hsending (Ne.symm hne)] at hlater
    exact ⟨later, hentries, hlater⟩

theorem Filed.lost (h : Filed handed earlier manager index) {packet : Packet} {target : Nat}
    {session : SessionChannel} (hsending : manager.sending = some (packet, target))
    (hsession : manager.sessions[target]? = some session)
    (hdropped : session.channel.receiverDropped = true) :
    Filed handed earlier { manager with sending := none } index := by
  intro after hafter
  obtain ⟨later, hentries, hlater⟩ := h after hafter
  refine ⟨later, hentries, ?_⟩
  by_cases htarget : target = index
  · subst htarget
    obtain rfl := Option.some.inj (hsession.symm.trans hafter)
    exact .inr hdropped
  · rw [awaiting_of_ne hsending htarget] at hlater
    exact hlater

/-- Replacing a channel by one to which the same was sent. -/
theorem Filed.replace (h : Filed handed earlier manager index) {target : Nat}
    {session : SessionChannel} {channel : PacketChannel}
    (hsession : manager.sessions[target]? = some session)
    (hsent : channel.sent = session.channel.sent)
    (hdropped : session.channel.receiverDropped = true → channel.receiverDropped = true) :
    Filed handed earlier
      { manager with sessions := manager.sessions.set target { session with channel } } index := by
  refine h.set (fun after hafter => ?_) rfl
  rcases getElem?_set_cases hafter with ⟨rfl, rfl⟩ | ⟨-, hold⟩
  · exact ⟨session, hsession, rfl, hsent, hdropped⟩
  · exact ⟨after, hold, rfl, rfl, id⟩

theorem filed_append_nil_iff :
    Filed (handed ++ []) earlier manager index ↔ Filed handed earlier manager index := by
  rw [List.append_nil]

theorem Filed.step (h : Filed handed earlier manager index) (hregistered : manager.Registered)
    (hindex : index < manager.sessions.length) (hstep : Step manager action next event) :
    Filed (handed ++ action.hands) earlier next index := by
  cases hstep with
  | create | permit | refuse | cancel | disable => exact filed_append_nil_iff.mpr h
  | register call draws sessionId hcall hidle hdraw =>
      apply filed_append_nil_iff.mpr
      refine h.set (fun session hsession => ?_) rfl
      rw [List.getElem?_append_left hindex] at hsession
      exact ⟨session, hsession, rfl, rfl, id⟩
  | lookup packet target hidle hlookup => exact h.lookup hregistered hidle hlookup
  | reject packet hidle hlookup => exact h.reject hregistered hlookup
  | deliver packet target session hsending hsession hopen hroom =>
      apply filed_append_nil_iff.mpr
      exact h.sent hsending hsession rfl hopen
  | fail packet target session hsending hsession hdropped =>
      apply filed_append_nil_iff.mpr
      exact h.lost hsending hsession hdropped
  | receive target session hsession hnonempty =>
      apply filed_append_nil_iff.mpr
      exact h.replace hsession rfl id
  | drop target session hsession hopen =>
      apply filed_append_nil_iff.mpr
      exact h.replace hsession rfl fun _ => rfl

theorem filed_of_unregistered (h : manager.sessions.length ≤ index) :
    Filed handed earlier manager index := by
  intro session hsession
  rw [List.getElem?_eq_none h] at hsession
  simp at hsession

/-- A session starts with an empty channel. -/
theorem Step.filed_of_new (hstep : Step manager action next event)
    (hindex : manager.sessions.length ≤ index) :
    Filed (handed ++ action.hands) handed next index := by
  have hunregistered : manager.sessions[index]? = none := List.getElem?_eq_none hindex
  cases hstep with
  | create | permit | refuse | cancel | disable | lookup | reject | fail =>
      exact filed_of_unregistered hindex
  | register call draws sessionId hcall hidle hdraw =>
      intro session hsession
      rcases getElem?_append_singleton_cases hsession with ⟨-, rfl⟩ | hold
      · refine ⟨[], ?_, .inl (awaiting_of_idle hidle).symm⟩
        simp [Action.hands]
      · rw [hunregistered] at hold
        simp at hold
  | deliver packet target session hsending hsession | receive target session hsession
  | drop target session hsession =>
      apply filed_of_unregistered
      rw [List.length_set]
      exact hindex

end Step

end SessionManager

namespace Connection

open SessionManager (Filed filed_append_nil_iff filed_of_unregistered)

/-- The packet with which the action calls `send_message_to_session`. -/
def Action.hands : Action → List Packet
  | .manage action => action.hands
  | _ => []

theorem Action.hands_of_byOwner {action : Action} (h : action.byOwner = true) :
    action.hands = [] := by
  cases action with
  | manage action =>
      cases action with
      | sendMessageToSession packet => simp [byOwner] at h
      | createSession | canCreateSessions | createChannel | cancelCreation | disableNewSessions
      | finishSend | receive | dropSession => rfl
  | sendAccountingRequest | poll | dropSession | takeOutgoing | closeOutgoing | dropConnection =>
      rfl

section Step

variable {connection next : Connection} {action : Action} {index : Nat}
  {handed earlier : List Packet}

theorem Step.filed (hstep : Step connection action next) (hregistered : connection.Registered)
    (hindex : index < connection.sessionManager.sessions.length)
    (h : Filed handed earlier connection.sessionManager index) :
    Filed (handed ++ action.hands) earlier next.sessionManager index := by
  cases hstep with
  | manage action manager event hpresent howner hstep =>
      exact h.step hregistered.registered hindex hstep
  | start | takeOutgoing | closeOutgoing => exact filed_append_nil_iff.mpr h
  | poll target callIndex poll session polled sessionChannel duplexChannel hsession hchannel
      hpoll =>
      obtain ⟨call, -, hpolled⟩ := Session.poll_eq_some hpoll
      apply filed_append_nil_iff.mpr
      refine h.replace hchannel ?_ ?_
      · rcases hpolled.receiver_cases with hsame | ⟨hnonempty, hpop⟩
        · rw [hsame]
        · rw [hpop]
          rfl
      · rw [hpolled.receiver_ends.2]
        exact id
  | dropSession target session sessionChannel hsession hover hchannel =>
      apply filed_append_nil_iff.mpr
      exact h.replace hchannel rfl fun _ => rfl
  | dropConnection =>
      apply filed_append_nil_iff.mpr
      refine h.set (fun session hsession => ?_) rfl
      rw [List.getElem?_map, Option.map_eq_some_iff] at hsession
      obtain ⟨before, hbefore, rfl⟩ := hsession
      exact ⟨before, hbefore, rfl, rfl, id⟩

theorem Step.filed_of_new (hstep : Step connection action next)
    (hindex : connection.sessionManager.sessions.length ≤ index) :
    Filed (handed ++ action.hands) handed next.sessionManager index := by
  cases hstep with
  | manage action manager event hpresent howner hstep => exact hstep.filed_of_new hindex
  | start | takeOutgoing | closeOutgoing => exact filed_of_unregistered hindex
  | poll | dropSession | dropConnection =>
      apply filed_of_unregistered
      simpa using hindex

theorem Step.length_le (hstep : Step connection action next) :
    connection.sessionManager.sessions.length ≤ next.sessionManager.sessions.length := by
  have hids := hstep.ids_prefix.length_le
  rwa [SessionManager.ids, SessionManager.ids, List.length_map, List.length_map] at hids

end Step

end Connection

/-- Every session has its channel. -/
theorem Connection.Registered.exists_channel {connection : Connection}
    (h : connection.Registered) {index : Nat} {session : Session}
    (hsession : connection.sessions[index]? = some session) :
    ∃ sessionChannel : SessionChannel,
      connection.sessionManager.sessions[index]? = some sessionChannel ∧
        sessionChannel.sessionId = session.sessionId := by
  have hid := congrArg (fun ids => ids[index]?) h.ids
  simp only [List.getElem?_map, hsession, Option.map_some, SessionManager.ids] at hid
  obtain ⟨sessionChannel, hchannel, hsame⟩ := Option.map_eq_some_iff.mp hid.symm
  exact ⟨sessionChannel, hchannel, hsame⟩

namespace RunningConnection

open SessionManager (Filed filed_append_nil_iff filed_of_unregistered)

section Step

variable {md5 : List UInt8 → Digest} {obfuscationKey : Option (List UInt8)}
  {running next : RunningConnection} {action : Action} {index : Nat} {handed earlier : List Packet}

/-- What every step of a connection and its owners keep, given the packets handed on, is kept by
every step of a running connection. -/
theorem Step.history {P : List Packet → Connection → Prop}
    (hstep : ∀ handed connection action next, P handed connection →
      Connection.Step connection action next → P (handed ++ action.hands) next)
    (hcomplete : ∀ handed, Connection.KeptByComplete (P handed))
    (hqueue : ∀ handed, Connection.KeptByQueue (P handed))
    (h : Step md5 obfuscationKey running action next) (hbefore : P handed running.connection) :
    P (handed ++ Wire.hands md5 obfuscationKey action) next.connection := by
  have hquiet {connection next : Connection} {action : Connection.Action}
      (hconnection : P handed connection) (hnext : Connection.Step connection action next)
      (hands : action.hands = []) : P handed next := by
    have hkept := hstep _ _ _ _ hconnection hnext
    rwa [hands, List.append_nil] at hkept
  have hnone (hkept : P handed next.connection)
      (hands : Wire.hands md5 obfuscationKey action = []) :
      P (handed ++ Wire.hands md5 obfuscationKey action) next.connection := by
    rwa [hands, List.append_nil]
  cases h with
  | forward frame packet connection hrunning hidle hround hforward =>
      rw [Wire.hands, hround]
      exact hstep _ _ _ _ hbefore hforward
  | skip frame hrunning hround =>
      refine hnone hbefore ?_
      rw [Wire.hands, hround]
      rfl
  | endRead _ error haction =>
      rcases haction with ⟨rest, rfl⟩ | rfl
      · exact hnone hbefore rfl
      · exact hnone hbefore rfl
  | run | dropArc | written | joinPanicked | join => exact hnone hbefore rfl
  | owner action connection howner harc howned =>
      exact hnone (hquiet hbefore howned (Connection.Action.hands_of_byOwner howner)) rfl
  | completeSession index session hsession => exact hnone (hcomplete _ _ _ _ hbefore hsession) rfl
  | queueRequest index request hopen hroom => exact hnone (hqueue _ _ _ hbefore hopen hroom) rfl
  | finishSend connection hrunning hfinish => exact hnone (hquiet hbefore hfinish rfl) rfl
  | takeOutgoing packet written outgoing connection hreceiving hrecv hwritten htake =>
      exact hnone (hquiet hbefore htake rfl) rfl
  | takePanicked packet outgoing connection hreceiving hrecv hpanicked htake =>
      exact hnone (hquiet (hquiet hbefore htake rfl) .closeOutgoing rfl) rfl
  | outgoingClosed | writeFailed => exact hnone (hquiet hbefore .closeOutgoing rfl) rfl
  | disableNewSessions writeResult readResult connection hdisabling hdisable =>
      exact hnone (hquiet hbefore hdisable rfl) rfl
  | dropConnection connection howned hread hwrite hhandler hdrop =>
      exact hnone (hquiet (hquiet hbefore .closeOutgoing rfl) hdrop rfl) rfl

theorem Step.filed (h : Step md5 obfuscationKey running action next)
    (hregistered : running.connection.Registered)
    (hindex : index < running.connection.sessionManager.sessions.length)
    (hfiled : Filed handed earlier running.connection.sessionManager index) :
    Filed (handed ++ Wire.hands md5 obfuscationKey action) earlier next.connection.sessionManager
      index := by
  have hkept := h.history (P := fun handed connection => connection.Registered ∧
    index < connection.sessionManager.sessions.length ∧
      Filed handed earlier connection.sessionManager index) ?_ ?_ ?_ ⟨hregistered, hindex, hfiled⟩
  · exact hkept.2.2
  · rintro handed connection action next ⟨hregistered, hindex, hfiled⟩ hstep
    exact ⟨hregistered.step hstep, hindex.trans_le hstep.length_le,
      hstep.filed hregistered hindex hfiled⟩
  · rintro handed connection target session ⟨hregistered, hindex, hfiled⟩ hsession
    exact ⟨hregistered.complete hsession, hindex, hfiled⟩
  · rintro handed connection request ⟨hregistered, hindex, hfiled⟩ hopen hroom
    exact ⟨hregistered.queue hroom, hindex, hfiled⟩

/-- A session that is new after a step has got nothing. -/
theorem Step.filed_of_new (h : Step md5 obfuscationKey running action next)
    (hindex : running.connection.sessionManager.sessions.length ≤ index) :
    Filed (handed ++ Wire.hands md5 obfuscationKey action) handed next.connection.sessionManager
      index := by
  cases h with
  | forward frame packet connection hrunning hidle hround hforward =>
      rw [Wire.hands, hround]
      exact hforward.filed_of_new hindex
  | owner action connection howner harc howned =>
      have hnew : Filed (handed ++ action.hands) handed connection.sessionManager index :=
        howned.filed_of_new hindex
      rw [Connection.Action.hands_of_byOwner howner] at hnew
      exact hnew
  | run | dropArc | skip | endRead | written | joinPanicked | join | completeSession
  | queueRequest | outgoingClosed | writeFailed => exact filed_of_unregistered hindex
  | finishSend connection hrunning hfinish => exact hfinish.filed_of_new hindex
  | takeOutgoing packet written outgoing connection hreceiving hrecv hwritten htake =>
      exact htake.filed_of_new hindex
  | takePanicked packet outgoing connection hreceiving hrecv hpanicked htake =>
      exact htake.filed_of_new hindex
  | disableNewSessions writeResult readResult connection hdisabling hdisable =>
      exact hdisable.filed_of_new hindex
  | dropConnection connection howned hread hwrite hhandler hdrop => exact hdrop.filed_of_new hindex

end Step

end RunningConnection

namespace Wire

variable {md5 : List UInt8 → Digest} {obfuscationKey : Option (List UInt8)}
  {actions : List RunningConnection.Action} {action : RunningConnection.Action} {wire next : Wire}
  {index : Nat}

/-- The session manager of the connection on the wire. -/
def sessionManager (wire : Wire) : SessionManager := wire.running.connection.sessionManager

/-- The read loop has come through the bytes consumed with the packets handed on. -/
def Read (md5 : List UInt8 → Digest) (obfuscationKey : Option (List UInt8)) (wire : Wire) : Prop :=
  ∀ more, ((readLoop md5 obfuscationKey).run (wire.consumed ++ more)).outputs =
    wire.handed ++ ((readLoop md5 obfuscationKey).run more).outputs

theorem Read.step (h : wire.Read md5 obfuscationKey)
    (hnext : wire.step md5 obfuscationKey action = some next) : next.Read md5 obfuscationKey := by
  obtain ⟨hstep, -, -, hconsumed, hhanded⟩ := step_eq_some_iff.mp hnext
  intro more
  rw [hconsumed, hhanded]
  generalize next.running = running at hstep
  have hround (frame : List UInt8) (output : Option Packet)
      (hread : readRound md5 obfuscationKey frame = .next output []) :
      ((readLoop md5 obfuscationKey).run (wire.consumed ++ frame ++ more)).outputs =
        wire.handed ++ output.toList ++ ((readLoop md5 obfuscationKey).run more).outputs := by
    have htakes := StreamLoop.Local.outputs_of_round (readLoop_local md5 obfuscationKey) hread more
    rw [List.append_assoc, h, htakes, List.append_assoc]
  cases RunningConnection.step_eq_some hstep with
  | forward frame packet connection hrunning hidle hread =>
      rw [takes, hands, hread]
      exact hround frame _ hread
  | skip frame hrunning hread =>
      rw [takes, hands, hread]
      exact hround frame _ hread
  | endRead _ error haction =>
      rcases haction with ⟨rest, rfl⟩ | rfl
      · simpa [takes, hands] using h more
      · simpa [takes, hands] using h more
  | run | owner | completeSession | queueRequest | dropArc | finishSend | takeOutgoing
  | takePanicked | outgoingClosed | written | writeFailed | joinPanicked | join
  | disableNewSessions | dropConnection =>
      simpa [takes, hands] using h more

/-- The run comes through `before`, and its next step registers the session at `index`. -/
def RegistersAfter (md5 : List UInt8 → Digest) (obfuscationKey : Option (List UInt8))
    (actions : List RunningConnection.Action) (before : Wire) (index : Nat) : Prop :=
  ∃ first action after, first ++ [action] <+: actions ∧
    run (step md5 obfuscationKey) .new first = some before ∧
    before.step md5 obfuscationKey action = some after ∧
    before.sessionManager.sessions.length ≤ index ∧ index < after.sessionManager.sessions.length

theorem RegistersAfter.append {before : Wire}
    (h : RegistersAfter md5 obfuscationKey actions before index)
    (more : List RunningConnection.Action) :
    RegistersAfter md5 obfuscationKey (actions ++ more) before index := by
  obtain ⟨first, action, after, hfirst, hregisters⟩ := h
  exact ⟨first, action, after, hfirst.trans (List.prefix_append _ _), hregisters⟩

theorem length_le_of_run (hrun : run (step md5 obfuscationKey) wire actions = some next) :
    wire.sessionManager.sessions.length ≤ next.sessionManager.sessions.length := by
  refine invariant_of_run (P := fun reached =>
    wire.sessionManager.sessions.length ≤ reached.sessionManager.sessions.length) (Nat.le_refl _)
      ?_ hrun
  intro reached action after hreached hnext
  have hstep := RunningConnection.step_eq_some (step_eq_some_iff.mp hnext).1
  apply hstep.invariant (P := fun connection => wire.sessionManager.sessions.length ≤
    connection.sessionManager.sessions.length) _ _ _ hreached
  · exact fun connection action next hkept hstep => hkept.trans hstep.length_le
  · exact fun connection index session hkept _ => hkept
  · exact fun connection request hkept _ _ => hkept

/-- Once the session is registered it is there. -/
theorem RegistersAfter.lt_of_run {before : Wire} {first : List RunningConnection.Action}
    (hnext : wire.step md5 obfuscationKey action = some next)
    (hindex : index < next.sessionManager.sessions.length)
    (hwire : run (step md5 obfuscationKey) .new first = some wire)
    {later : List RunningConnection.Action} (hlater : first ++ [action] <+: later)
    (hbefore : run (step md5 obfuscationKey) .new later = some before) :
    index < before.sessionManager.sessions.length := by
  obtain ⟨rest, rfl⟩ := hlater
  obtain ⟨mid, hmid, hrest⟩ := run_append_eq_some_iff.mp hbefore
  obtain rfl : next = mid := by
    rw [run_concat_eq_some_iff.mpr ⟨wire, hwire, hnext⟩] at hmid
    exact Option.some.inj hmid
  exact hindex.trans_le (length_le_of_run hrest)

/-- A session is registered once. -/
theorem RegistersAfter.unique {before before' : Wire}
    (h : RegistersAfter md5 obfuscationKey actions before index)
    (h' : RegistersAfter md5 obfuscationKey actions before' index) : before = before' := by
  obtain ⟨first, action, after, hfirst, hrun, hstep, hnone, hregistered⟩ := h
  obtain ⟨first', action', after', hfirst', hrun', hstep', hnone', hregistered'⟩ := h'
  have hstart := (List.prefix_append first [action]).trans hfirst
  have hstart' := (List.prefix_append first' [action']).trans hfirst'
  rcases Nat.lt_trichotomy first.length first'.length with hless | hsame | hmore
  · have hpast : first ++ [action] <+: first' :=
      List.prefix_of_prefix_length_le hfirst hstart' (List.length_append ▸ hless)
    exact absurd (lt_of_run hstep hregistered hrun hpast hrun') (Nat.not_lt.mpr hnone')
  · have hequal : first = first' :=
      (List.prefix_of_prefix_length_le hstart hstart' hsame.le).eq_of_length hsame
    rw [hequal] at hrun
    exact Option.some.inj (hrun.symm.trans hrun')
  · have hpast : first' ++ [action'] <+: first :=
      List.prefix_of_prefix_length_le hfirst' hstart (List.length_append ▸ hmore)
    exact absurd (lt_of_run hstep' hregistered' hrun' hpast hrun) (Nat.not_lt.mpr hnone)

/-- What the read loop has come through, and which packets the sessions have got from it. -/
structure Delivered (md5 : List UInt8 → Digest) (obfuscationKey : Option (List UInt8))
    (actions : List RunningConnection.Action) (wire : Wire) : Prop where
  reached : run (step md5 obfuscationKey) .new actions = some wire
  registered : wire.running.connection.Registered
  read : wire.Read md5 obfuscationKey
  filed : ∀ index < wire.sessionManager.sessions.length, ∃ before,
    RegistersAfter md5 obfuscationKey actions before index ∧
      wire.sessionManager.Filed wire.handed before.handed index

theorem delivered_new : Delivered md5 obfuscationKey [] .new where
  reached := rfl
  registered := Connection.registered_new
  read := fun _ => rfl
  filed := by simp [new, sessionManager, RunningConnection.new, Connection.new, SessionManager.new]

theorem Delivered.step (h : Delivered md5 obfuscationKey actions wire)
    (hnext : wire.step md5 obfuscationKey action = some next) :
    Delivered md5 obfuscationKey (actions ++ [action]) next := by
  obtain ⟨hrunning, -, -, -, hhanded⟩ := step_eq_some_iff.mp hnext
  have hstep := RunningConnection.step_eq_some hrunning
  constructor
  case reached => exact run_concat_eq_some_iff.mpr ⟨wire, h.reached, hnext⟩
  case registered => exact hstep.registered h.registered
  case read => exact h.read.step hnext
  case filed =>
    intro index hindex
    rw [hhanded]
    rcases Nat.lt_or_ge index wire.sessionManager.sessions.length with hold | hnew
    · obtain ⟨before, hregisters, hfiled⟩ := h.filed index hold
      exact ⟨before, hregisters.append _, hstep.filed h.registered hold hfiled⟩
    · refine ⟨wire, ?_, hstep.filed_of_new hnew⟩
      exact ⟨actions, action, next, List.prefix_rfl, h.reached, hnext, hnew, hindex⟩

theorem delivered_of_run (hrun : run (step md5 obfuscationKey) .new actions = some wire) :
    Delivered md5 obfuscationKey actions wire :=
  history_of_run delivered_new (fun _ _ _ _ hmid hnext => hmid.step hnext) hrun

/-- In every run, the packets handed on are those that the read loop gets out of the bytes that it
has consumed, and a session was sent exactly those with its id that came after its registration:
each once, in their order and without a gap, but for one that waits for room and for those that
came when the session was dropped. -/
theorem sessions_get_what_was_read
    (hrun : run (step md5 obfuscationKey) .new actions = some wire) {session : SessionChannel}
    (hsession : wire.sessionManager.sessions[index]? = some session) :
    let read := fun stream => (TcpConnection.readHandler md5 ⟨obfuscationKey⟩ stream).outputs
    (∀ more, read (wire.consumed ++ more) = wire.handed ++ read more) ∧
      ∃ before later, RegistersAfter md5 obfuscationKey actions before index ∧
        entriesAt packetSession wire.handed session.sessionId =
          entriesAt packetSession before.handed session.sessionId ++ session.channel.sent ++ later ∧
        (later = wire.sessionManager.awaiting index ∨ session.channel.receiverDropped = true) := by
  have hdelivered := delivered_of_run hrun
  have hindex := (List.getElem?_eq_some_iff.mp hsession).1
  obtain ⟨before, hregisters, hfiled⟩ := hdelivered.filed index hindex
  obtain ⟨later, hentries, hlater⟩ := hfiled session hsession
  exact ⟨hdelivered.read, before, later, hregisters, hentries, hlater⟩

/-- What the peer of `sendingRun` answers: the session that has asked last comes first, and one
packet is for no session. -/
def answers : List Packet :=
  [SessionManager.replyTo 9, SessionManager.replyTo 11, SessionManager.replyTo 7,
    SessionManager.replyTo 7]

/-- All the requests of `sendingRun` are written and answered. -/
def answeringRun : List RunningConnection.Action :=
  sendingRun ++ [.written, .takeOutgoing, .written,
    .readFrame (SessionManager.replyTo 9).toBytes, .finishSend,
    .readFrame (SessionManager.replyTo 11).toBytes,
    .readFrame (SessionManager.replyTo 7).toBytes, .finishSend,
    .readFrame (SessionManager.replyTo 7).toBytes, .finishSend]

theorem sessions_get_what_was_read_answeringRun :
    ∃ wire, run (step RunningConnection.noDigest (some [107])) .new answeringRun = some wire ∧
      wire.handed = answers ∧
      ∃ session : SessionChannel, wire.sessionManager.sessions[0]? = some session ∧
        session.channel.sent = [SessionManager.replyTo 7, SessionManager.replyTo 7] ∧
        let read := fun stream =>
          (TcpConnection.readHandler RunningConnection.noDigest ⟨some [107]⟩ stream).outputs
        (∀ more, read (wire.consumed ++ more) = wire.handed ++ read more) ∧
          ∃ before later,
            RegistersAfter RunningConnection.noDigest (some [107]) answeringRun before 0 ∧
            entriesAt packetSession wire.handed session.sessionId =
              entriesAt packetSession before.handed session.sessionId ++
                session.channel.sent ++ later ∧
            (later = wire.sessionManager.awaiting 0 ∨
              session.channel.receiverDropped = true) := by
  have hfacts : (run (step RunningConnection.noDigest (some [107])) .new answeringRun).map
      (fun wire => (wire.handed,
        wire.sessionManager.sessions[0]?.map fun session => session.channel.sent)) =
      some (answers, some [SessionManager.replyTo 7, SessionManager.replyTo 7]) := by
    decide +kernel
  obtain ⟨wire, hrun, hfields⟩ := Option.map_eq_some_iff.mp hfacts
  obtain ⟨hhanded, hsessions⟩ := Prod.mk.inj hfields
  obtain ⟨session, hsession, hsent⟩ := Option.map_eq_some_iff.mp hsessions
  exact ⟨wire, hrun, hhanded, session, hsession, hsent, sessions_get_what_was_read hrun hsession⟩

end Wire

end TacacsRs.Networking
