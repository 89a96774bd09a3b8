import TacacsRs.Rust.Lists
import TacacsRs.Networking.SessionManager

/-!
# Demultiplexing by the session manager

What each session's channel ever held is read off the actions alone: which
packets were dispatched, which ids were registered when the packet's id was
looked up, and which receivers were dropped when its send was over. `history`
says so without a look at the manager, and the manager's steps bear it out.
-/

namespace TacacsRs.Networking.SessionManager

open Rust Messages

/-- The manager with all the events it has shown, the latest first. -/
structure Observed where
  manager : SessionManager
  events : List Event

/-- A new manager, which has shown nothing. -/
def Observed.new : Observed := ⟨.new, []⟩

/-- A step of the manager, with what it shows put first. -/
def Observed.step (observed : Observed) (action : Action) : Option Observed :=
  (observed.manager.step action).map fun next => ⟨next.1, next.2 :: observed.events⟩

/-- One call of `send_message_to_session`, with the events before its lookup and, once it has
returned, the events before its return. -/
structure Dispatch where
  packet : Packet
  beforeLookup : List Event
  returned : Option (List Event × Outcome Unit)

/-- The calls of `send_message_to_session` among the events, the latest first. -/
def dispatches : List Event → List Dispatch
  | [] => []
  | event :: past =>
      match event, dispatches past with
      | .lookedUp packet, earlier => ⟨packet, past, none⟩ :: earlier
      | .rejected packet error, earlier => ⟨packet, past, some (past, .err error)⟩ :: earlier
      | .returned result, dispatch :: earlier =>
          { dispatch with returned := some (past, result) } :: earlier
      | _, earlier => earlier

/-- The packet carries this session's id, the id was registered before it was looked up, and
the call was over before the session's receiver was dropped. -/
def deliveredTo (sessionId : UInt32) (dispatch : Dispatch) : Bool :=
  dispatch.packet.header.sessionId = sessionId ∧
    .registered sessionId ∈ dispatch.beforeLookup ∧
    dispatch.returned.any fun ended => .dropped sessionId ∉ ended.1

/-- The packets delivered to a session, in the order of their dispatch. -/
def packetsFor (sessionId : UInt32) (events : List Event) : List Packet :=
  ((dispatches events).filter (deliveredTo sessionId)).reverse.map Dispatch.packet

/-- The ids that a step registers. -/
def Event.registeredIds : Event → List UInt32
  | .registered sessionId => [sessionId]
  | _ => []

/-- The ids registered among the events, in the order of their registration. -/
def registeredIn : List Event → List UInt32
  | [] => []
  | event :: past => registeredIn past ++ event.registeredIds

/-- What an action of a run has to show after these events: a registration of the first draw that
is free, a lookup that finds what is registered, the end of the latest send, which fails if its
receiver is gone, and the id of the session that is dropped. -/
def shows (past : List Event) : Action → Event
  | .createChannel _ draws =>
      match draws.find? fun sessionId => sessionId ∉ registeredIn past with
      | some sessionId => .registered sessionId
      | none => .internal
  | .sendMessageToSession packet =>
      if packet.header.sessionId ∈ registeredIn past then .lookedUp packet
      else .rejected packet noClientChannel
  | .finishSend =>
      match dispatches past with
      | [] => .internal
      | dispatch :: _ =>
          if .dropped dispatch.packet.header.sessionId ∈ past then .returned (.err failedToSend)
          else .returned (.ok ())
  | .dropSession index =>
      match (registeredIn past)[index]? with
      | some sessionId => .dropped sessionId
      | none => .internal
  | .createSession | .canCreateSessions _ | .cancelCreation _ | .disableNewSessions
  | .receive _ => .internal

/-- The events of a run, read off its actions alone, the latest first. -/
def history (actions : List Action) : List Event :=
  actions.foldl (fun past action => shows past action :: past) []

/-- The ids of the sessions, in the order of their registration. -/
def ids (manager : SessionManager) : List UInt32 := manager.sessions.map SessionChannel.sessionId

theorem getElem?_ids {manager : SessionManager} {index : Nat} {session : SessionChannel}
    (h : manager.sessions[index]? = some session) :
    manager.ids[index]? = some session.sessionId := by
  simp [ids, h]

/-- Replacing the channel of a session keeps its id. -/
theorem map_sessionId_set {sessions : List SessionChannel} {index : Nat}
    {session : SessionChannel} (h : sessions[index]? = some session) (channel : PacketChannel) :
    (sessions.set index { session with channel }).map SessionChannel.sessionId =
      sessions.map SessionChannel.sessionId :=
  map_set_of_eq SessionChannel.sessionId h rfl

section Events

variable {events : List Event} {dispatch : Dispatch}

@[simp] theorem dispatches_internal : dispatches (.internal :: events) = dispatches events := by
  simp [dispatches]

@[simp] theorem dispatches_registered (sessionId : UInt32) :
    dispatches (.registered sessionId :: events) = dispatches events := by
  simp [dispatches]

@[simp] theorem dispatches_dropped (sessionId : UInt32) :
    dispatches (.dropped sessionId :: events) = dispatches events := by
  simp [dispatches]

@[simp] theorem dispatches_lookedUp (packet : Packet) :
    dispatches (.lookedUp packet :: events) = ⟨packet, events, none⟩ :: dispatches events := by
  simp [dispatches]

@[simp] theorem dispatches_rejected (packet : Packet) (error : Error) :
    dispatches (.rejected packet error :: events) =
      ⟨packet, events, some (events, .err error)⟩ :: dispatches events := by
  simp [dispatches]

theorem dispatches_returned {earlier : List Dispatch} (result : Outcome Unit)
    (h : dispatches events = dispatch :: earlier) :
    dispatches (.returned result :: events) =
      { dispatch with returned := some (events, result) } :: earlier := by
  simp [dispatches, h]

/-- The events before a lookup are among all the events. -/
theorem beforeLookup_subset (h : dispatch ∈ dispatches events) :
    dispatch.beforeLookup ⊆ events := by
  induction events generalizing dispatch with
  | nil => simp [dispatches] at h
  | cons event past ih =>
      have hpast (d : Dispatch) (hd : d ∈ dispatches past) : d.beforeLookup ⊆ event :: past :=
        List.Subset.trans (ih hd) (List.subset_cons_self event past)
      unfold dispatches at h
      split at h
      · rcases List.mem_cons.mp h with rfl | h
        · exact List.subset_cons_self _ past
        · exact hpast dispatch h
      · rcases List.mem_cons.mp h with rfl | h
        · exact List.subset_cons_self _ past
        · exact hpast dispatch h
      · next first earlier hfirst =>
        rcases List.mem_cons.mp h with rfl | h
        · exact hpast first (by rw [hfirst]; exact List.mem_cons_self ..)
        · exact hpast dispatch (by rw [hfirst]; exact List.mem_cons_of_mem _ h)
      · exact hpast dispatch h

theorem packetsFor_of_dispatches {events' : List Event} (h : dispatches events' = dispatches events)
    (sessionId : UInt32) : packetsFor sessionId events' = packetsFor sessionId events := by
  simp only [packetsFor, h]

theorem packetsFor_cons_of_not {events' : List Event} {sessionId : UInt32}
    (h : dispatches events' = dispatch :: dispatches events)
    (hnot : deliveredTo sessionId dispatch = false) :
    packetsFor sessionId events' = packetsFor sessionId events := by
  simp [packetsFor, h, hnot]

theorem history_concat (actions : List Action) (action : Action) :
    history (actions ++ [action]) = shows (history actions) action :: history actions := by
  rw [history, List.foldl_append]
  rfl

end Events

/-- The registry holds the sender of every session under the id of that session. -/
def Registered (manager : SessionManager) : Prop :=
  ∀ sessionId index,
    manager.duplexChannels.lookup sessionId = some index ↔ manager.ids[index]? = some sessionId

theorem Registered.mem_iff {manager : SessionManager} (h : manager.Registered)
    {sessionId : UInt32} : sessionId ∈ manager.duplexChannels ↔ sessionId ∈ manager.ids := by
  rw [← AList.lookup_isSome, Option.isSome_iff_exists, List.mem_iff_getElem?]
  exact exists_congr fun index => h sessionId index

theorem Registered.index_eq {manager : SessionManager} (h : manager.Registered)
    {sessionId : UInt32} {i j : Nat} (hi : manager.ids[i]? = some sessionId)
    (hj : manager.ids[j]? = some sessionId) : i = j := by
  have hlookup := (h sessionId i).mpr hi
  rw [(h sessionId j).mpr hj, Option.some.injEq] at hlookup
  exact hlookup.symm

theorem Registered.nodup {manager : SessionManager} (h : manager.Registered) :
    manager.ids.Nodup := by
  rw [List.nodup_iff_getElem?_ne_getElem?]
  intro i j hij hj heq
  have hid := List.getElem?_eq_getElem hj
  exact absurd (h.index_eq (heq.trans hid) hid) (Nat.ne_of_lt hij)

theorem Registered.of_ids {manager next : SessionManager} (h : manager.Registered)
    (hregistry : next.duplexChannels = manager.duplexChannels) (hids : next.ids = manager.ids) :
    next.Registered := by
  intro sessionId index
  rw [hregistry, hids]
  exact h sessionId index

/-- Registering a fresh id adds a session behind the others and leaves their senders alone. -/
theorem Registered.register {manager next : SessionManager} {sessionId : UInt32}
    (h : manager.Registered) (hfresh : sessionId ∉ manager.duplexChannels)
    (hregistry : next.duplexChannels =
      manager.duplexChannels.insert sessionId manager.sessions.length)
    (hids : next.ids = manager.ids ++ [sessionId]) : next.Registered := by
  have hlength : manager.ids.length = manager.sessions.length := List.length_map ..
  intro other index
  rw [hregistry, hids]
  by_cases hother : other = sessionId
  · subst hother
    rw [AList.lookup_insert, Option.some.injEq]
    constructor
    · rintro rfl
      rw [← hlength, List.getElem?_concat_length]
    · intro hindex
      rw [List.getElem?_append] at hindex
      split at hindex
      · exact absurd (h.mem_iff.mpr (List.mem_of_getElem? hindex)) hfresh
      · next hlong =>
        rw [List.getElem?_singleton] at hindex
        split at hindex
        · omega
        · simp at hindex
  · rw [AList.lookup_insert_ne hother, h other index, List.getElem?_append]
    split
    · rfl
    · next hlong =>
      rw [List.getElem?_eq_none (Nat.le_of_not_lt hlong), List.getElem?_singleton]
      split
      · simp [Ne.symm hother]
      · rfl

/-- Sessions are only ever added, behind the ones that are there. -/
theorem Step.ids_eq {manager next : SessionManager} {action : Action} {event : Event}
    (h : Step manager action next event) : next.ids = manager.ids ++ event.registeredIds := by
  cases h with
  | register call draws sessionId => exact List.map_append
  | deliver packet index session hsending hsession =>
      rw [ids, ids, map_sessionId_set hsession]
      exact (List.append_nil _).symm
  | receive index session hsession | drop index session hsession =>
      rw [ids, ids, map_sessionId_set hsession]
      exact (List.append_nil _).symm
  | create | permit | refuse | cancel | disable | lookup | reject | fail =>
      exact (List.append_nil _).symm

theorem Step.outgoing_eq {manager next : SessionManager} {action : Action} {event : Event}
    (h : Step manager action next event) : next.outgoing = manager.outgoing := by
  cases h <;> rfl

theorem Registered.step {manager next : SessionManager} {action : Action} {event : Event}
    (h : manager.Registered) (hstep : Step manager action next event) : next.Registered := by
  have hids := hstep.ids_eq
  cases hstep with
  | register call draws sessionId hcall hidle hdraw =>
      exact h.register (drawSessionId_notMem hdraw) rfl hids
  | create | permit | refuse | cancel | disable | lookup | reject | deliver | fail | receive
  | drop =>
      exact h.of_ids rfl (hids.trans (List.append_nil _))

/-- `create_channel` settles on the first draw that is free. -/
theorem Registered.drawSessionId_eq {manager : SessionManager} (h : manager.Registered)
    (draws : List UInt32) : drawSessionId manager.duplexChannels draws =
      draws.find? fun sessionId => sessionId ∉ manager.ids := by
  induction draws with
  | nil => rfl
  | cons draw draws ih =>
      rw [drawSessionId, List.find?_cons, ih]
      by_cases hdraw : draw ∈ manager.ids
      · simp [hdraw, h.mem_iff.mpr hdraw]
      · have hfree : draw ∉ manager.duplexChannels := fun hmem => hdraw (h.mem_iff.mp hmem)
        simp [hdraw, hfree]

/-- The events name the sessions that were registered and those whose receivers are gone. -/
structure Recorded (observed : Observed) : Prop where
  registered : ∀ sessionId, .registered sessionId ∈ observed.events ↔
    sessionId ∈ observed.manager.ids
  dropped : ∀ sessionId, .dropped sessionId ∈ observed.events →
    sessionId ∈ observed.manager.ids
  receiverDropped : ∀ (index : Nat) (session : SessionChannel),
    observed.manager.sessions[index]? = some session →
      (session.channel.receiverDropped = true ↔ .dropped session.sessionId ∈ observed.events)

/-- Channels and results are what the dispatches among the events say. -/
structure Dispatched (observed : Observed) : Prop where
  queued : ∀ (index : Nat) (session : SessionChannel),
    observed.manager.sessions[index]? = some session →
      session.channel.sent = packetsFor session.sessionId observed.events
  waiting : ∀ packet index, observed.manager.sending = some (packet, index) →
    ∃ past earlier, dispatches observed.events = ⟨packet, past, none⟩ :: earlier ∧
      .registered packet.header.sessionId ∈ past ∧
      observed.manager.duplexChannels.lookup packet.header.sessionId = some index
  results : ∀ dispatch ∈ dispatches observed.events, ∀ past result,
    dispatch.returned = some (past, result) →
      ((∃ error, result = .err error) ↔ ∀ sessionId, deliveredTo sessionId dispatch = false)

/-- What ties the registry, the channels and the reader to the events. -/
structure Consistent (observed : Observed) : Prop where
  registry : observed.manager.Registered
  recorded : Recorded observed
  dispatched : Dispatched observed

theorem consistent_new : Consistent .new where
  registry := by
    intro sessionId index
    simp [Observed.new, new, ids]
  recorded := by
    constructor
    case registered => simp [Observed.new, new, ids]
    case dropped => simp [Observed.new]
    case receiverDropped => simp [Observed.new, new]
  dispatched := by
    constructor
    case queued => simp [Observed.new, new]
    case waiting => simp [Observed.new, new]
    case results => simp [Observed.new, dispatches]

/-- A session other than the one at `index`, or that one with its new channel. -/
theorem sessions_set_cases {manager : SessionManager} {index : Nat} {session : SessionChannel}
    (hregistry : manager.Registered) (hsession : manager.sessions[index]? = some session)
    {channel : PacketChannel} {other : Nat} {session' : SessionChannel}
    (h : (manager.sessions.set index { session with channel })[other]? = some session') :
    session' = { session with channel } ∨
      session'.sessionId ≠ session.sessionId ∧ manager.sessions[other]? = some session' := by
  rcases getElem?_set_cases h with ⟨-, rfl⟩ | ⟨hne, hother⟩
  · exact .inl rfl
  · refine .inr ⟨fun hid => hne ?_, hother⟩
    exact hregistry.index_eq (getElem?_ids hother) (hid ▸ getElem?_ids hsession)

section Step

variable {observed : Observed} {next : SessionManager} {action : Action} {event : Event}
  {index : Nat} {session : SessionChannel}

/-- An event that neither registers nor drops a session leaves the records as they are. -/
theorem Recorded.quiet (h : Recorded observed)
    (hregistered : ∀ sessionId, .registered sessionId ≠ event)
    (hdropped : ∀ sessionId, .dropped sessionId ≠ event)
    (hids : next.ids = observed.manager.ids)
    (hsessions : ∀ (index : Nat) (session : SessionChannel), next.sessions[index]? = some session →
      ∃ (position : Nat) (before : SessionChannel),
        observed.manager.sessions[position]? = some before ∧
          before.sessionId = session.sessionId ∧
          before.channel.receiverDropped = session.channel.receiverDropped) :
    Recorded ⟨next, event :: observed.events⟩ where
  registered := by
    intro sessionId
    rw [hids, List.mem_cons, or_iff_right (hregistered sessionId), h.registered sessionId]
  dropped := by
    intro sessionId hmem
    rw [hids]
    exact h.dropped sessionId (List.mem_of_ne_of_mem (hdropped sessionId) hmem)
  receiverDropped := by
    intro index session hsession
    obtain ⟨position, before, hbefore, hid, hkept⟩ := hsessions index session hsession
    rw [← hkept, ← hid, h.receiverDropped position before hbefore, List.mem_cons,
      or_iff_right (hdropped before.sessionId)]

theorem Recorded.register (h : Recorded observed) {sessionId : UInt32}
    (hnew : sessionId ∉ observed.manager.ids)
    (hsessions : next.sessions = observed.manager.sessions ++ [⟨sessionId, .new⟩]) :
    Recorded ⟨next, .registered sessionId :: observed.events⟩ := by
  have hids : next.ids = observed.manager.ids ++ [sessionId] := by simp [ids, hsessions]
  constructor
  case registered =>
    intro other
    rw [hids, List.mem_append, List.mem_singleton, List.mem_cons, Event.registered.injEq,
      h.registered other, or_comm]
  case dropped =>
    intro other hdropped
    rw [hids]
    exact List.mem_append_left _ (h.dropped other (by simpa using hdropped))
  case receiverDropped =>
    intro index session hsession
    rw [hsessions] at hsession
    rcases getElem?_append_singleton_cases hsession with ⟨-, rfl⟩ | hold
    · have hno : .dropped sessionId ∉ observed.events := fun hmem =>
        hnew (h.dropped sessionId hmem)
      simp [hno]
    · rw [h.receiverDropped index session hold]
      simp

theorem Recorded.drop (h : Recorded observed) (hregistry : observed.manager.Registered)
    (hsession : observed.manager.sessions[index]? = some session)
    (hsessions : next.sessions = observed.manager.sessions.set index
      { session with channel := session.channel.dropReceiver }) :
    Recorded ⟨next, .dropped session.sessionId :: observed.events⟩ := by
  have hids : next.ids = observed.manager.ids := by
    rw [ids, hsessions]
    exact map_sessionId_set hsession _
  constructor
  case registered =>
    intro sessionId
    simp [hids, h.registered sessionId]
  case dropped =>
    intro sessionId hmem
    rw [hids]
    rcases List.mem_cons.mp hmem with heq | hmem
    · rw [Event.dropped.injEq] at heq
      rw [heq]
      exact List.mem_of_getElem? (getElem?_ids hsession)
    · exact h.dropped sessionId hmem
  case receiverDropped =>
    intro other session' hsession'
    rw [hsessions] at hsession'
    rcases sessions_set_cases hregistry hsession hsession' with rfl | ⟨hne, hother⟩
    · simp
    · rw [h.receiverDropped other session' hother]
      simp [hne]

theorem Recorded.step (h : Recorded observed) (hregistry : observed.manager.Registered)
    (hstep : Step observed.manager action next event) :
    Recorded ⟨next, event :: observed.events⟩ := by
  cases hstep with
  | create | permit | refuse | cancel | disable | lookup | reject | fail =>
      exact h.quiet (by simp) (by simp) rfl fun index session hs => ⟨index, session, hs, rfl, rfl⟩
  | register call draws sessionId hcall hidle hdraw =>
      apply h.register _ rfl
      rw [← hregistry.mem_iff]
      exact drawSessionId_notMem hdraw
  | deliver packet index session hsending hsession | receive index session hsession =>
      refine h.quiet (by simp) (by simp) ?_ ?_
      · exact map_sessionId_set hsession _
      intro other session' hsession'
      rcases sessions_set_cases hregistry hsession hsession' with rfl | ⟨-, hother⟩
      · exact ⟨index, session, hsession, rfl, rfl⟩
      · exact ⟨other, session', hother, rfl, rfl⟩
  | drop index session hsession => exact h.drop hregistry hsession rfl

/-- An event that is no part of a dispatch leaves what was dispatched as it is. -/
theorem Dispatched.quiet (h : Dispatched observed)
    (hdispatches : dispatches (event :: observed.events) = dispatches observed.events)
    (hsessions : ∀ (index : Nat) (session : SessionChannel), next.sessions[index]? = some session →
      session.channel.sent = packetsFor session.sessionId observed.events)
    (hsending : next.sending = observed.manager.sending)
    (hregistry : next.sending = none ∨
      next.duplexChannels = observed.manager.duplexChannels) :
    Dispatched ⟨next, event :: observed.events⟩ where
  queued := by
    intro index session hsession
    rw [hsessions index session hsession]
    exact (packetsFor_of_dispatches hdispatches _).symm
  waiting := by
    intro packet index hwaiting
    obtain ⟨past, earlier, hold, hregistered, hlookup⟩ :=
      h.waiting packet index (hsending ▸ hwaiting)
    refine ⟨past, earlier, hdispatches.trans hold, hregistered, ?_⟩
    rcases hregistry with hidle | hsame
    · rw [hidle] at hwaiting
      simp at hwaiting
    · rwa [hsame]
  results := by
    rw [hdispatches]
    exact h.results

/-- Replacing a channel by one with the same history keeps every channel's history. -/
theorem Dispatched.queued_set (h : Dispatched observed)
    (hsession : observed.manager.sessions[index]? = some session) (channel : PacketChannel)
    (hsent : channel.sent = session.channel.sent) {other : Nat} {session' : SessionChannel}
    (hother : (observed.manager.sessions.set index { session with channel })[other]? =
      some session') :
    session'.channel.sent = packetsFor session'.sessionId observed.events := by
  rcases getElem?_set_cases hother with ⟨-, rfl⟩ | ⟨-, hold⟩
  · exact hsent.trans (h.queued index session hsession)
  · exact h.queued other session' hold

/-- Nothing was delivered to an id that is not registered. -/
theorem Recorded.packetsFor_eq_nil (h : Recorded observed) {sessionId : UInt32}
    (hnew : sessionId ∉ observed.manager.ids) : packetsFor sessionId observed.events = [] := by
  have hnone : (dispatches observed.events).filter (deliveredTo sessionId) = [] := by
    rw [List.filter_eq_nil_iff]
    intro dispatch hdispatch hdelivered
    simp only [deliveredTo, decide_eq_true_eq] at hdelivered
    have hmem := beforeLookup_subset hdispatch hdelivered.2.1
    exact hnew ((h.registered sessionId).mp hmem)
  rw [packetsFor, hnone]
  rfl

theorem Dispatched.register (h : Dispatched observed) (hrecorded : Recorded observed)
    {sessionId : UInt32} (hnew : sessionId ∉ observed.manager.ids)
    (hsessions : next.sessions = observed.manager.sessions ++ [⟨sessionId, .new⟩])
    (hidle : next.sending = none) (hsending : next.sending = observed.manager.sending) :
    Dispatched ⟨next, .registered sessionId :: observed.events⟩ := by
  refine h.quiet (dispatches_registered sessionId) ?_ hsending (.inl hidle)
  intro index session hsession
  rw [hsessions] at hsession
  rcases getElem?_append_singleton_cases hsession with ⟨-, rfl⟩ | hold
  · exact (hrecorded.packetsFor_eq_nil hnew).symm
  · exact h.queued index session hold

theorem Dispatched.lookup (h : Dispatched observed) (hrecorded : Recorded observed)
    (hregistry : observed.manager.Registered) {packet : Packet}
    (hlookup : observed.manager.duplexChannels.lookup packet.header.sessionId = some index) :
    Dispatched ⟨{ observed.manager with sending := some (packet, index) },
      .lookedUp packet :: observed.events⟩ := by
  have hundelivered (sessionId : UInt32) :
      deliveredTo sessionId ⟨packet, observed.events, none⟩ = false := by
    simp [deliveredTo]
  have hmem : packet.header.sessionId ∈ observed.manager.ids :=
    List.mem_of_getElem? ((hregistry _ _).mp hlookup)
  constructor
  case queued =>
    intro index session hsession
    rw [packetsFor_cons_of_not (dispatches_lookedUp packet) (hundelivered _)]
    exact h.queued index session hsession
  case waiting =>
    intro packet' index' hwaiting
    rw [Option.some.injEq, Prod.mk.injEq] at hwaiting
    obtain ⟨rfl, rfl⟩ := hwaiting
    exact ⟨observed.events, dispatches observed.events, dispatches_lookedUp packet,
      (hrecorded.registered _).mpr hmem, hlookup⟩
  case results =>
    rw [dispatches_lookedUp]
    intro dispatch hdispatch
    rcases List.mem_cons.mp hdispatch with rfl | hdispatch
    · simp
    · exact h.results dispatch hdispatch

theorem Dispatched.reject (h : Dispatched observed) (hrecorded : Recorded observed)
    (hregistry : observed.manager.Registered) {packet : Packet} (error : Error)
    (hlookup : observed.manager.duplexChannels.lookup packet.header.sessionId = none)
    (hidle : observed.manager.sending = none) :
    Dispatched ⟨observed.manager, .rejected packet error :: observed.events⟩ := by
  have hundelivered (sessionId : UInt32) : deliveredTo sessionId
      ⟨packet, observed.events, some (observed.events, .err error)⟩ = false := by
    rw [deliveredTo, decide_eq_false_iff_not]
    rintro ⟨rfl, hregistered, -⟩
    have hmem := hregistry.mem_iff.mpr ((hrecorded.registered _).mp hregistered)
    exact absurd hmem (AList.lookup_eq_none.mp hlookup)
  constructor
  case queued =>
    intro index session hsession
    rw [packetsFor_cons_of_not (dispatches_rejected packet error) (hundelivered _)]
    exact h.queued index session hsession
  case waiting =>
    intro packet' index' hwaiting
    simp [hidle] at hwaiting
  case results =>
    rw [dispatches_rejected]
    intro dispatch hdispatch past result hreturned
    rcases List.mem_cons.mp hdispatch with rfl | hdispatch
    · rw [Option.some.injEq, Prod.mk.injEq] at hreturned
      obtain ⟨rfl, rfl⟩ := hreturned
      exact ⟨fun _ => hundelivered, fun _ => ⟨error, rfl⟩⟩
    · exact h.results dispatch hdispatch past result hreturned

/-- The packet of the call that returns is delivered if its receiver is still there. -/
theorem Consistent.deliveredTo_returned (h : Consistent observed) {packet : Packet}
    (hsending : observed.manager.sending = some (packet, index))
    (hsession : observed.manager.sessions[index]? = some session) (result : Outcome Unit) :
    ∃ dispatch earlier, dispatches observed.events = dispatch :: earlier ∧
      dispatch.packet = packet ∧ packet.header.sessionId = session.sessionId ∧
      (∀ sessionId, deliveredTo sessionId dispatch = false) ∧
      ∀ sessionId,
        deliveredTo sessionId { dispatch with returned := some (observed.events, result) } =
          decide (sessionId = session.sessionId ∧ session.channel.receiverDropped = false) := by
  obtain ⟨past, earlier, hdispatches, hregistered, hlookup⟩ :=
    h.dispatched.waiting packet index hsending
  have hindex := (h.registry _ _).mp hlookup
  rw [getElem?_ids hsession, Option.some.injEq] at hindex
  refine ⟨⟨packet, past, none⟩, earlier, hdispatches, rfl, hindex.symm, by simp [deliveredTo], ?_⟩
  intro sessionId
  have hdropped := h.recorded.receiverDropped index session hsession
  rw [deliveredTo, decide_eq_decide, ← Bool.not_eq_true, hdropped]
  simp only [Option.any_some, decide_eq_true_eq]
  constructor
  · rintro ⟨rfl, -, hopen⟩
    exact ⟨hindex.symm, hindex ▸ hopen⟩
  · rintro ⟨rfl, hopen⟩
    exact ⟨hindex.symm, hindex ▸ hregistered, hopen⟩

/-- The end of a send, whether its packet was queued or not. -/
theorem Consistent.returned (h : Consistent observed) {packet : Packet} {result : Outcome Unit}
    (hsending : observed.manager.sending = some (packet, index))
    (hsession : observed.manager.sessions[index]? = some session)
    (hresult : (∃ error, result = .err error) ↔ session.channel.receiverDropped = true)
    (hsessions : ∀ (other : Nat) (session' : SessionChannel),
      next.sessions[other]? = some session' →
        ∃ (position : Nat) (before : SessionChannel),
          observed.manager.sessions[position]? = some before ∧
            before.sessionId = session'.sessionId ∧
            session'.channel.sent = before.channel.sent ++
              if session'.sessionId = session.sessionId ∧
                session.channel.receiverDropped = false then [packet] else [])
    (hidle : next.sending = none) :
    Dispatched ⟨next, .returned result :: observed.events⟩ := by
  obtain ⟨dispatch, earlier, hdispatches, rfl, hid, hbefore, hafter⟩ :=
    h.deliveredTo_returned hsending hsession result
  have hreturned := dispatches_returned result hdispatches
  constructor
  case queued =>
    intro other session' hsession'
    obtain ⟨position, before, hposition, hsame, hsent⟩ := hsessions other session' hsession'
    have hold := h.dispatched.queued position before hposition
    rw [hsame] at hold
    simp only [packetsFor, hdispatches, List.filter_cons, hbefore, Bool.false_eq_true,
      if_false] at hold
    rw [hsent, hold]
    simp only [packetsFor, hreturned, List.filter_cons, hafter, decide_eq_true_eq]
    split <;> simp
  case waiting =>
    intro packet' index' hwaiting
    simp [hidle] at hwaiting
  case results =>
    rw [hreturned]
    intro call hcall past result' hresult'
    rcases List.mem_cons.mp hcall with rfl | hcall
    · rw [Option.some.injEq, Prod.mk.injEq] at hresult'
      obtain ⟨rfl, rfl⟩ := hresult'
      rw [hresult]
      simp [hafter]
    · exact h.dispatched.results call (hdispatches ▸ List.mem_cons_of_mem _ hcall) past result'
        hresult'

end Step

/-- One step keeps the registry, the channels and the reader tied to the events. -/
theorem Consistent.step {observed : Observed} {action : Action} {next : SessionManager}
    {event : Event} (h : Consistent observed)
    (hstep : Step observed.manager action next event) :
    Consistent ⟨next, event :: observed.events⟩ := by
  refine ⟨h.registry.step hstep, h.recorded.step h.registry hstep, ?_⟩
  have hqueued := h.dispatched.queued
  cases hstep with
  | create | permit | refuse | cancel | disable =>
      exact h.dispatched.quiet dispatches_internal hqueued rfl (.inr rfl)
  | register call draws sessionId hcall hidle hdraw =>
      have hnew : sessionId ∉ observed.manager.ids := by
        rw [← h.registry.mem_iff]
        exact drawSessionId_notMem hdraw
      exact h.dispatched.register h.recorded hnew rfl hidle rfl
  | lookup packet index hidle hlookup =>
      exact h.dispatched.lookup h.recorded h.registry hlookup
  | reject packet hidle hlookup =>
      exact h.dispatched.reject h.recorded h.registry noClientChannel hlookup hidle
  | deliver packet index session hsending hsession hopen hroom =>
      refine h.returned hsending hsession (by simp [hopen]) ?_ rfl
      intro other session' hsession'
      rcases sessions_set_cases h.registry hsession hsession' with rfl | ⟨hne, hother⟩
      · exact ⟨index, session, hsession, rfl, by simp [hopen, Channel.push]⟩
      · exact ⟨other, session', hother, rfl, by simp [hne]⟩
  | fail packet index session hsending hsession hdropped =>
      refine h.returned hsending hsession (by simp [hdropped]) ?_ rfl
      intro other session' hsession'
      exact ⟨other, session', hsession', rfl, by simp [hdropped]⟩
  | receive index session hsession hnonempty =>
      exact h.dispatched.quiet dispatches_internal
        (fun _ _ hother =>
          h.dispatched.queued_set hsession (session.channel.pop hnonempty) rfl hother)
        rfl (.inr rfl)
  | drop index session hsession hopen =>
      exact h.dispatched.quiet (dispatches_dropped session.sessionId)
        (fun _ _ hother =>
          h.dispatched.queued_set hsession session.channel.dropReceiver rfl hother)
        rfl (.inr rfl)

theorem Observed.step_eq_some_iff {observed next : Observed} {action : Action} :
    observed.step action = some next ↔
      ∃ event, observed.manager.step action = some (next.manager, event) ∧
        next.events = event :: observed.events := by
  obtain ⟨manager, events⟩ := next
  simp only [Observed.step, Option.map_eq_some_iff, Observed.mk.injEq, Prod.exists]
  constructor
  · rintro ⟨next, event, hstep, rfl, rfl⟩
    exact ⟨event, hstep, rfl⟩
  · rintro ⟨event, hstep, rfl⟩
    exact ⟨manager, event, hstep, rfl, rfl⟩

theorem consistent_of_run {actions : List Action} {observed : Observed}
    (h : run Observed.step .new actions = some observed) : Consistent observed := by
  apply invariant_of_run consistent_new _ h
  intro mid action next hmid hstep
  obtain ⟨event, hmanager, hevents⟩ := Observed.step_eq_some_iff.mp hstep
  obtain ⟨manager, events⟩ := next
  simp only at hevents hmanager
  rw [hevents]
  exact hmid.step (step_eq_some hmanager)

theorem ids_prefix_of_run {actions : List Action} {mid observed : Observed}
    (h : run Observed.step mid actions = some observed) :
    mid.manager.ids <+: observed.manager.ids := by
  refine invariant_of_run (P := fun reached => mid.manager.ids <+: reached.manager.ids)
    List.prefix_rfl ?_ h
  intro before action next hbefore hstep
  obtain ⟨event, hmanager, -⟩ := Observed.step_eq_some_iff.mp hstep
  exact hbefore.trans ⟨_, (step_eq_some hmanager).ids_eq.symm⟩

/-- A step shows what its action has to show after the events so far. -/
theorem Consistent.event_eq {observed : Observed} {action : Action} {next : SessionManager}
    {event : Event} (h : Consistent observed)
    (hids : observed.manager.ids = registeredIn observed.events)
    (hstep : Step observed.manager action next event) : event = shows observed.events action := by
  have hregistered (sessionId : UInt32) :
      sessionId ∈ observed.manager.duplexChannels ↔ sessionId ∈ registeredIn observed.events := by
    rw [h.registry.mem_iff, hids]
  have hends {packet : Packet} {index : Nat} {session : SessionChannel}
      (hsending : observed.manager.sending = some (packet, index))
      (hsession : observed.manager.sessions[index]? = some session) :
      (∃ past earlier, dispatches observed.events = ⟨packet, past, none⟩ :: earlier) ∧
        (session.channel.receiverDropped = true ↔
          .dropped packet.header.sessionId ∈ observed.events) := by
    obtain ⟨past, earlier, hdispatches, -, hlookup⟩ :=
      h.dispatched.waiting packet index hsending
    have hindex := (h.registry _ _).mp hlookup
    rw [getElem?_ids hsession, Option.some.injEq] at hindex
    exact ⟨⟨past, earlier, hdispatches⟩,
      hindex ▸ h.recorded.receiverDropped index session hsession⟩
  cases hstep with
  | create | permit | refuse | cancel | disable | receive => rfl
  | register call draws sessionId hcall hidle hdraw =>
      rw [h.registry.drawSessionId_eq, hids] at hdraw
      rw [shows, hdraw]
  | lookup packet index hidle hlookup =>
      have hmem : packet.header.sessionId ∈ observed.manager.duplexChannels :=
        AList.lookup_isSome.mp (by simp [hlookup])
      rw [shows, if_pos ((hregistered _).mp hmem)]
  | reject packet hidle hlookup =>
      rw [shows, if_neg fun hmem => AList.lookup_eq_none.mp hlookup ((hregistered _).mpr hmem)]
  | deliver packet index session hsending hsession hopen hroom =>
      obtain ⟨⟨past, earlier, hdispatches⟩, hdropped⟩ := hends hsending hsession
      simp [shows, hdispatches, ← hdropped, hopen]
  | fail packet index session hsending hsession hclosed =>
      obtain ⟨⟨past, earlier, hdispatches⟩, hdropped⟩ := hends hsending hsession
      simp [shows, hdispatches, ← hdropped, hclosed]
  | drop index session hsession hopen =>
      rw [shows, ← hids, getElem?_ids hsession]

/-- What a run shows, and which ids it registers, its actions tell. -/
theorem history_of_actions {actions : List Action} {observed : Observed}
    (hrun : run Observed.step .new actions = some observed) :
    observed.events = history actions ∧ observed.manager.ids = registeredIn (history actions) := by
  have hkept : Consistent observed ∧ observed.events = history actions ∧
      observed.manager.ids = registeredIn observed.events := by
    refine history_of_run (P := fun actions observed => Consistent observed ∧
      observed.events = history actions ∧ observed.manager.ids = registeredIn observed.events)
      ⟨consistent_new, rfl, rfl⟩ ?_ hrun
    rintro before mid action next ⟨hconsistent, hevents, hids⟩ hnext
    obtain ⟨event, hmanager, hshown⟩ := Observed.step_eq_some_iff.mp hnext
    have hstep := step_eq_some hmanager
    obtain ⟨manager, events⟩ := next
    simp only at hshown hstep
    subst hshown
    refine ⟨hconsistent.step hstep, ?_, ?_⟩
    · rw [history_concat, hconsistent.event_eq hids hstep, hevents]
    · rw [registeredIn, ← hids]
      exact hstep.ids_eq
  obtain ⟨-, hevents, hids⟩ := hkept
  exact ⟨hevents, hevents ▸ hids⟩

/-- In every run, what the actions tell is what the manager shows and registers; sessions have
distinct ids and a registered sender stays the one registered under its id; each session's channel
was given exactly the packets delivered to the session, in the order of their dispatch; and a call
of `send_message_to_session` that returned failed exactly when its packet was delivered to no
session. -/
theorem demultiplexing_exact {actions : List Action} {observed : Observed}
    (hrun : run Observed.step .new actions = some observed) :
    (observed.events = history actions ∧
      observed.manager.ids = registeredIn (history actions)) ∧
    (observed.manager.ids.Nodup ∧
      ∀ before mid, before <+: actions → run Observed.step .new before = some mid →
        ∀ sessionId index, mid.manager.duplexChannels.lookup sessionId = some index →
          observed.manager.duplexChannels.lookup sessionId = some index ∧
            observed.manager.ids[index]? = some sessionId) ∧
      (∀ session ∈ observed.manager.sessions,
        session.channel.sent = packetsFor session.sessionId (history actions)) ∧
      ∀ dispatch ∈ dispatches (history actions), ∀ past result,
        dispatch.returned = some (past, result) →
          ((∃ error, result = .err error) ↔
            ∀ sessionId ∈ observed.manager.ids, deliveredTo sessionId dispatch = false) := by
  have hconsistent := consistent_of_run hrun
  obtain ⟨hevents, hids⟩ := history_of_actions hrun
  refine ⟨⟨hevents, hids⟩, ⟨hconsistent.registry.nodup, ?_⟩, ?_, ?_⟩
  · rintro before mid ⟨after, rfl⟩ hbefore sessionId index hlookup
    obtain ⟨mid', hmid', hafter⟩ := run_append_eq_some_iff.mp hrun
    obtain rfl : mid = mid' := Option.some.inj (hbefore.symm.trans hmid')
    have hindex := ((consistent_of_run hbefore).registry sessionId index).mp hlookup
    obtain ⟨added, hadded⟩ := ids_prefix_of_run hafter
    have hkept : observed.manager.ids[index]? = some sessionId :=
      hadded ▸ getElem?_append_of_some hindex added
    exact ⟨(hconsistent.registry sessionId index).mpr hkept, hkept⟩
  · intro session hsession
    obtain ⟨index, hindex⟩ := List.mem_iff_getElem?.mp hsession
    exact hevents ▸ hconsistent.dispatched.queued index session hindex
  · rw [← hevents]
    intro dispatch hdispatch past result hreturned
    rw [hconsistent.dispatched.results dispatch hdispatch past result hreturned]
    constructor
    · exact fun hnowhere sessionId _ => hnowhere sessionId
    · intro hnowhere sessionId
      by_contra hdelivered
      have hlookedUp := hdelivered
      simp only [deliveredTo, Bool.not_eq_false, decide_eq_true_eq] at hlookedUp
      have hmem := beforeLookup_subset hdispatch hlookedUp.2.1
      exact hdelivered (hnowhere sessionId ((hconsistent.recorded.registered sessionId).mp hmem))

/-- The second session draws the id of the first one again before it draws its own; packets
arrive for both, for no session, and for the first one after it was dropped. -/
def collidingRun : List Action :=
  [.createSession, .createSession, .canCreateSessions 0, .canCreateSessions 1,
    .createChannel 0 [7], .createChannel 1 [7, 9], .sendMessageToSession (replyTo 9), .finishSend,
    .sendMessageToSession (replyTo 8), .sendMessageToSession (replyTo 7), .finishSend,
    .dropSession 0, .sendMessageToSession (replyTo 7), .finishSend, .receive 1]

theorem demultiplexing_exact_collidingRun :
    ∃ observed, run Observed.step .new collidingRun = some observed ∧
      observed.manager.sessions.map (fun session => (session.sessionId, session.channel.sent)) =
        [(7, [replyTo 7]), (9, [replyTo 9])] ∧
      (observed.events = history collidingRun ∧
        observed.manager.ids = registeredIn (history collidingRun)) ∧
      (observed.manager.ids.Nodup ∧
        ∀ before mid, before <+: collidingRun → run Observed.step .new before = some mid →
          ∀ sessionId index, mid.manager.duplexChannels.lookup sessionId = some index →
            observed.manager.duplexChannels.lookup sessionId = some index ∧
              observed.manager.ids[index]? = some sessionId) ∧
        (∀ session ∈ observed.manager.sessions,
          session.channel.sent = packetsFor session.sessionId (history collidingRun)) ∧
        ∀ dispatch ∈ dispatches (history collidingRun), ∀ past result,
          dispatch.returned = some (past, result) →
            ((∃ error, result = .err error) ↔
              ∀ sessionId ∈ observed.manager.ids, deliveredTo sessionId dispatch = false) := by
  have hfacts : (run Observed.step .new collidingRun).map (fun observed =>
      observed.manager.sessions.map fun session => (session.sessionId, session.channel.sent)) =
      some [(7, [replyTo 7]), (9, [replyTo 9])] := by decide +kernel
  obtain ⟨observed, hrun, hqueued⟩ := Option.map_eq_some_iff.mp hfacts
  exact ⟨observed, hrun, hqueued, demultiplexing_exact hrun⟩

end TacacsRs.Networking.SessionManager
