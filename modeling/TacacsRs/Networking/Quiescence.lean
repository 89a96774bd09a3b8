import TacacsRs.Networking.Isolation
import TacacsRs.Networking.HandleConnection

/-!
# Connections at rest

Some steps the tasks and the handler of a connection take by themselves; the
others wait for the network or for the owner. A write that is going on counts as
a step of the first kind: it ends in one way or the other.
-/

namespace TacacsRs.Networking

open Rust Messages

namespace SessionManager

/-- The send that is in progress has room, or nobody to receive it. -/
def CanFinishSend (manager : SessionManager) : Prop :=
  ∃ packet index, manager.sending = some (packet, index) ∧
    ∃ session : SessionChannel, manager.sessions[index]? = some session ∧ TakesOneMore session

theorem Step.canFinishSend {manager next : SessionManager} {event : Event}
    (h : Step manager .finishSend next event) : manager.CanFinishSend := by
  cases h with
  | deliver packet index session hsending hsession hopen hroom =>
      exact ⟨packet, index, hsending, session, hsession, .inr hroom⟩
  | fail packet index session hsending hsession hdropped =>
      exact ⟨packet, index, hsending, session, hsession, .inl hdropped⟩

theorem CanFinishSend.step_isSome {manager : SessionManager} (h : manager.CanFinishSend) :
    (manager.step .finishSend).isSome = true := by
  obtain ⟨packet, index, hsending, session, hsession, hmore⟩ := h
  obtain ⟨next, event, hfinish, -⟩ := finishSend_of_takesOneMore hsending hsession hmore
  rw [step, hfinish]
  rfl

end SessionManager

namespace RunningConnection

/-- A step of the tasks, of the handler or of the last `Arc`, which needs neither the peer nor an
owner. -/
def Action.isInternal : Action → Bool
  | .finishSend => true
  | .takeOutgoing => true
  | .written => true
  | .writeFailed _ => true
  | .join => true
  | .disableNewSessions => true
  | .dropConnection => true
  | _ => false

/-- No task and no handler has a step left to take by itself. -/
def Quiescent (md5 : List UInt8 → Digest) (obfuscationKey : Option (List UInt8))
    (running : RunningConnection) : Prop :=
  ∀ action, action.isInternal = true → running.step md5 obfuscationKey action = none

/-- The tasks are spawned with the handler, and new sessions are disabled at their end only. -/
structure Consistent (running : RunningConnection) : Prop where
  spawned : running.handler ≠ .notCalled →
    running.readTask ≠ .notSpawned ∧ running.writeTask ≠ .notSpawned
  notSpawned : running.handler = .notCalled →
    running.readTask = .notSpawned ∧ running.writeTask = .notSpawned
  readResult : ∀ result, running.readTask = .ended result → ∃ error, result = .err error
  writeResult : ∀ result, running.writeTask = .ended result →
    result = .panic ∨ ∃ error, result = .err error
  sending : running.readTask ≠ .running → running.connection.sessionManager.sending = none
  keepsSender : running.connection.sessionManager.outgoing.sendersDropped = false
  keepsReceiver : (running.writeTask.isOver = false ∨
    running.handler = .notCalled ∧ running.connection.dropped = false) →
      running.connection.sessionManager.outgoing.receiverDropped = false
  present : (running.readTask.isOver = false ∨ running.writeTask.isOver = false ∨
    running.handler.isOver = false) → running.connection.dropped = false
  joined : ∀ writeResult readResult, running.handler = .disabling writeResult readResult →
    running.writeTask = .ended writeResult ∧ running.readTask = .ended readResult
  accepting : running.connection.sessionManager.canAcceptNewSessions = false →
    (∃ result, running.handler = .returned result) ∧
      (∃ result, running.writeTask = .ended result) ∧ ∃ result, running.readTask = .ended result
  unborrowed : running.owned = false →
    ∀ creation ∈ running.connection.sessionManager.creations, creation.isOver = true

theorem consistent_new : Consistent new := by
  constructor <;> simp [new, Connection.new, SessionManager.new, Channel.new]

section Step

variable {md5 : List UInt8 → Digest} {obfuscationKey : Option (List UInt8)}
  {running next : RunningConnection} {action : Action}

/-- A step of the connection that no task and no handler has a part in. -/
theorem Consistent.set_connection (h : running.Consistent) {connection : Connection}
    (hsending : running.readTask ≠ .running → connection.sessionManager.sending = none)
    (hkeepsSender : connection.sessionManager.outgoing.sendersDropped =
      running.connection.sessionManager.outgoing.sendersDropped)
    (hkeepsReceiver : connection.sessionManager.outgoing.receiverDropped =
      running.connection.sessionManager.outgoing.receiverDropped)
    (hdropped : connection.dropped = running.connection.dropped)
    (haccepting : connection.sessionManager.canAcceptNewSessions =
      running.connection.sessionManager.canAcceptNewSessions)
    (hunborrowed : running.owned = false →
      ∀ creation ∈ connection.sessionManager.creations, creation.isOver = true) :
    Consistent { running with connection } where
  spawned := h.spawned
  notSpawned := h.notSpawned
  readResult := h.readResult
  writeResult := h.writeResult
  sending := hsending
  keepsSender := hkeepsSender.trans h.keepsSender
  keepsReceiver := by
    rw [hkeepsReceiver, hdropped]
    exact h.keepsReceiver
  present := by
    rw [hdropped]
    exact h.present
  joined := h.joined
  accepting := by
    rw [haccepting]
    exact h.accepting
  unborrowed := hunborrowed

theorem ne_of_byOwner {action other : Connection.Action} (h : action.byOwner = true)
    (hother : other.byOwner = false) : action ≠ other := by
  rintro rfl
  simp [h] at hother

/-- The owner has no part in the outgoing queue's ends, in the sends of the reader and in the
permission to create sessions. -/
theorem Consistent.owner_step (h : running.Consistent) {action : Connection.Action}
    {connection : Connection} (howner : action.byOwner = true)
    (harc : running.owned = true ∨ action.borrowsArc = false)
    (hstep : Connection.Step running.connection action connection) :
    Consistent { running with connection } := by
  apply h.set_connection
  · exact fun hread => hstep.sending_eq_none (h.sending hread) fun packet =>
      ne_of_byOwner howner rfl
  · exact hstep.outgoing_sendersDropped_eq
  · exact hstep.outgoing_receiverDropped_eq (ne_of_byOwner howner rfl)
  · exact hstep.dropped_eq (ne_of_byOwner howner rfl)
  · exact hstep.canAcceptNewSessions_eq (ne_of_byOwner howner rfl)
  · intro hdropped
    refine hstep.creations_isOver (h.unborrowed hdropped) ?_
    rintro rfl
    simp [hdropped, Connection.Action.borrowsArc] at harc

/-- The write task ends while new sessions are still accepted. -/
theorem Consistent.endWrite (h : running.Consistent) (hwrite : running.writeTask.isOver = false)
    {result : Outcome Unit} (hresult : result = .panic ∨ ∃ error, result = .err error) :
    (running.endWrite result).Consistent := by
  have hnotEnded (other : Outcome Unit) : running.writeTask ≠ .ended other := by
    intro hended
    simp [hended, WriteTask.isOver] at hwrite
  constructor
  case spawned =>
    exact fun hhandler => ⟨(h.spawned hhandler).1, by simp [RunningConnection.endWrite]⟩
  case notSpawned =>
    intro hhandler
    simp [(h.notSpawned hhandler).2, WriteTask.isOver] at hwrite
  case readResult => exact h.readResult
  case writeResult =>
    intro other hother
    obtain rfl := WriteTask.ended.inj hother
    exact hresult
  case sending => exact h.sending
  case keepsSender => exact h.keepsSender
  case keepsReceiver =>
    rintro (hover | ⟨hhandler, -⟩)
    · simp [RunningConnection.endWrite, WriteTask.isOver] at hover
    · simp [(h.notSpawned hhandler).2, WriteTask.isOver] at hwrite
  case present => exact fun _ => h.present (.inr (.inl hwrite))
  case joined =>
    intro writeResult readResult hdisabling
    exact absurd (h.joined writeResult readResult hdisabling).1 (hnotEnded writeResult)
  case accepting =>
    intro hclosed
    obtain ⟨-, ⟨other, hother⟩, -⟩ := h.accepting hclosed
    exact absurd hother (hnotEnded other)
  case unborrowed => exact h.unborrowed

theorem Consistent.accepting_of_joining (h : running.Consistent)
    (hjoining : running.handler = .joining) :
    running.connection.sessionManager.canAcceptNewSessions ≠ false := by
  intro hclosed
  obtain ⟨⟨result, hreturned⟩, -⟩ := h.accepting hclosed
  simp [hjoining] at hreturned

theorem Consistent.takeOutgoing (h : running.Consistent) {connection : Connection}
    (hstep : Connection.Step running.connection .takeOutgoing connection) :
    Consistent { running with connection } := by
  apply h.set_connection
  · exact fun hread => hstep.sending_eq_none (h.sending hread) (by simp)
  · exact hstep.outgoing_sendersDropped_eq
  · exact hstep.outgoing_receiverDropped_eq (by simp)
  · exact hstep.dropped_eq (by simp)
  · exact hstep.canAcceptNewSessions_eq (by simp)
  · exact fun hdropped => hstep.creations_isOver (h.unborrowed hdropped) (by simp)

/-- The handler moves on. -/
theorem Consistent.set_handler (h : running.Consistent) {handler : Handler}
    (hbefore : running.handler = .joining) (hafter : handler ≠ .notCalled)
    (hjoined : ∀ writeResult readResult, handler = .disabling writeResult readResult →
      running.writeTask = .ended writeResult ∧ running.readTask = .ended readResult) :
    Consistent { running with handler } where
  spawned := fun _ => h.spawned (by simp [hbefore])
  notSpawned := fun hhandler => absurd hhandler hafter
  readResult := h.readResult
  writeResult := h.writeResult
  sending := h.sending
  keepsSender := h.keepsSender
  keepsReceiver := by
    rintro (hwrite | ⟨hhandler, -⟩)
    · exact h.keepsReceiver (.inl hwrite)
    · exact absurd hhandler hafter
  present := fun _ => h.present (.inr (.inr (by rw [hbefore]; rfl)))
  joined := hjoined
  accepting := fun hclosed => absurd hclosed (h.accepting_of_joining hbefore)
  unborrowed := h.unborrowed

/-- The write task gets on with its loop. -/
theorem Consistent.set_writeTask (h : running.Consistent)
    (hbefore : running.writeTask.isOver = false) {writeTask : WriteTask}
    (hafter : writeTask.isOver = false) : Consistent { running with writeTask } := by
  have hnotEnded {result : Outcome Unit} : running.writeTask ≠ .ended result := by
    intro hended
    simp [hended, WriteTask.isOver] at hbefore
  have hnotEnded' {result : Outcome Unit} : writeTask ≠ .ended result := by
    intro hended
    simp [hended, WriteTask.isOver] at hafter
  constructor
  case spawned =>
    refine fun hhandler => ⟨(h.spawned hhandler).1, ?_⟩
    rintro rfl
    simp [WriteTask.isOver] at hafter
  case notSpawned =>
    intro hhandler
    simp [(h.notSpawned hhandler).2, WriteTask.isOver] at hbefore
  case readResult => exact h.readResult
  case writeResult => exact fun result hended => absurd hended hnotEnded'
  case sending => exact h.sending
  case keepsSender => exact h.keepsSender
  case keepsReceiver => exact fun _ => h.keepsReceiver (.inl hbefore)
  case present => exact fun _ => h.present (.inr (.inl hbefore))
  case joined =>
    intro writeResult readResult hdisabling
    exact absurd (h.joined writeResult readResult hdisabling).1 hnotEnded
  case accepting =>
    intro hclosed
    obtain ⟨-, ⟨result, hended⟩, -⟩ := h.accepting hclosed
    exact absurd hended hnotEnded
  case unborrowed => exact h.unborrowed

/-- The read task ends while new sessions are still accepted. -/
theorem Consistent.endRead (h : running.Consistent) (hrunning : running.readTask = .running)
    (hidle : running.connection.sessionManager.sending = none) (error : Error) :
    Consistent { running with readTask := .ended (.err error) } := by
  constructor
  case spawned => exact fun hhandler => ⟨by simp, (h.spawned hhandler).2⟩
  case notSpawned =>
    intro hhandler
    have hread := (h.notSpawned hhandler).1
    simp [hrunning] at hread
  case readResult => exact fun result hended => ⟨error, (ReadTask.ended.inj hended).symm⟩
  case writeResult => exact h.writeResult
  case sending => exact fun _ => hidle
  case keepsSender => exact h.keepsSender
  case keepsReceiver => exact h.keepsReceiver
  case present => exact fun _ => h.present (.inl (by rw [hrunning]; rfl))
  case joined =>
    intro writeResult readResult hdisabling
    have hread := (h.joined writeResult readResult hdisabling).2
    simp [hrunning] at hread
  case accepting =>
    intro hclosed
    obtain ⟨-, -, result, hended⟩ := h.accepting hclosed
    simp [hrunning] at hended
  case unborrowed => exact h.unborrowed

/-- New sessions are disabled when both tasks are over. -/
theorem Consistent.disable (h : running.Consistent) {writeResult readResult result : Outcome Unit}
    {connection : Connection} (hdisabling : running.handler = .disabling writeResult readResult)
    (hstep : Connection.Step running.connection (.manage .disableNewSessions) connection) :
    Consistent { running with connection, handler := .returned result } := by
  obtain ⟨hwrite, hread⟩ := h.joined writeResult readResult hdisabling
  constructor
  case spawned => exact fun _ => h.spawned (by simp [hdisabling])
  case notSpawned => simp
  case readResult => exact h.readResult
  case writeResult => exact h.writeResult
  case sending => exact fun hread => hstep.sending_eq_none (h.sending hread) (by simp)
  case keepsSender => exact hstep.outgoing_sendersDropped_eq.trans h.keepsSender
  case keepsReceiver => simp [hwrite, WriteTask.isOver]
  case present => simp [hwrite, hread, WriteTask.isOver, ReadTask.isOver, Handler.isOver]
  case joined => simp
  case accepting => exact fun _ => ⟨⟨_, rfl⟩, ⟨_, hwrite⟩, ⟨_, hread⟩⟩
  case unborrowed =>
    exact fun hdropped => hstep.creations_isOver (h.unborrowed hdropped) (by simp)

theorem Consistent.drop (h : running.Consistent) {connection : Connection}
    (hread : running.readTask.isOver = true) (hwrite : running.writeTask.isOver = true)
    (hhandler : running.handler.isOver = true)
    (hstep : Connection.Step running.connection.closeOutgoing .dropConnection connection) :
    Consistent { running with connection } := by
  have hnotRunning : running.readTask ≠ .running := by
    intro hrunning
    simp [hrunning, ReadTask.isOver] at hread
  constructor
  case spawned => exact h.spawned
  case notSpawned => exact h.notSpawned
  case readResult => exact h.readResult
  case writeResult => exact h.writeResult
  case sending => exact fun _ => hstep.sending_eq_none (h.sending hnotRunning) (by simp)
  case keepsSender => exact hstep.outgoing_sendersDropped_eq.trans h.keepsSender
  case keepsReceiver =>
    rintro (hnotOver | ⟨-, hpresent⟩)
    · simp [hwrite] at hnotOver
    · cases hstep with
      | dropConnection => simp at hpresent
  case present => simp [hread, hwrite, hhandler]
  case joined => exact h.joined
  case accepting =>
    intro hclosed
    rw [hstep.canAcceptNewSessions_eq (by simp)] at hclosed
    exact h.accepting hclosed
  case unborrowed =>
    exact fun hdropped => hstep.creations_isOver (h.unborrowed hdropped) (by simp)

theorem Consistent.step (h : running.Consistent)
    (hstep : Step md5 obfuscationKey running action next) : next.Consistent := by
  cases hstep with
  | run hhandler howned hpresent =>
      have hnotClosed : running.connection.sessionManager.canAcceptNewSessions ≠ false := by
        intro hclosed
        obtain ⟨⟨result, hreturned⟩, -⟩ := h.accepting hclosed
        simp [hhandler] at hreturned
      constructor
      case keepsSender => exact h.keepsSender
      case keepsReceiver => exact fun _ => h.keepsReceiver (.inr ⟨hhandler, hpresent⟩)
      case present => exact fun _ => hpresent
      case accepting => exact fun hclosed => absurd hclosed hnotClosed
      case unborrowed => exact h.unborrowed
      all_goals simp
  | owner action connection howner harc howned => exact h.owner_step howner harc howned
  | completeSession => exact h.set_connection h.sending rfl rfl rfl rfl h.unborrowed
  | queueRequest => exact h.set_connection h.sending rfl rfl rfl rfl h.unborrowed
  | dropArc howned hover => exact { h with unborrowed := fun _ => hover }
  | forward frame packet connection hrunning hidle hround hforward =>
      exact h.set_connection (absurd hrunning) hforward.outgoing_sendersDropped_eq
        (hforward.outgoing_receiverDropped_eq (by simp)) (hforward.dropped_eq (by simp))
        (hforward.canAcceptNewSessions_eq (by simp))
        fun hdropped => hforward.creations_isOver (h.unborrowed hdropped) (by simp)
  | skip => exact h
  | endRead _ error haction hrunning hidle => exact h.endRead hrunning hidle error
  | finishSend connection hrunning hfinish =>
      exact h.set_connection (absurd hrunning) hfinish.outgoing_sendersDropped_eq
        (hfinish.outgoing_receiverDropped_eq (by simp)) (hfinish.dropped_eq (by simp))
        (hfinish.canAcceptNewSessions_eq (by simp))
        fun hdropped => hfinish.creations_isOver (h.unborrowed hdropped) (by simp)
  | takeOutgoing packet written outgoing connection hreceiving hrecv hwritten htake =>
      exact (h.takeOutgoing htake).set_writeTask (by rw [hreceiving]; rfl) rfl
  | takePanicked packet outgoing connection hreceiving hrecv hpanicked htake =>
      exact (h.takeOutgoing htake).endWrite (by rw [hreceiving]; rfl) (.inl rfl)
  | outgoingClosed hreceiving hclosed =>
      have hdropped := (Channel.recv_eq_closed_iff.mp hclosed).2
      simp [h.keepsSender] at hdropped
  | written bytes hwriting => exact h.set_writeTask (by rw [hwriting]; rfl) rfl
  | writeFailed bytes error hwriting =>
      exact h.endWrite (by rw [hwriting]; rfl) (.inr ⟨error, rfl⟩)
  | joinPanicked hjoining hpanicked =>
      exact h.set_handler hjoining (by simp) (by simp)
  | join writeResult readResult hjoining hwrite hread =>
      refine h.set_handler hjoining (by simp) ?_
      intro writeResult' readResult' hdisabling
      obtain ⟨rfl, rfl⟩ := Handler.disabling.inj hdisabling
      exact ⟨hwrite, hread⟩
  | disableNewSessions writeResult readResult connection hdisabling hdisable =>
      exact h.disable hdisabling hdisable
  | dropConnection connection howned hread hwrite hhandler hdrop =>
      exact h.drop hread hwrite hhandler hdrop

/-- The tasks are consistent in every run. -/
theorem consistent_of_run {actions : List Action}
    (hrun : Rust.run (RunningConnection.step md5 obfuscationKey) new actions = some running) :
    running.Consistent := by
  apply invariant_of_run consistent_new _ hrun
  exact fun mid action next hmid hnext => hmid.step (step_eq_some hnext)

end Step

/-- What the tasks and the handler wait for when none of them has a step left. -/
structure AtRest (running : RunningConnection) : Prop where
  finishSend : running.readTask = .running → ¬ running.connection.sessionManager.CanFinishSend
  takeOutgoing : running.writeTask = .receiving →
    running.connection.sessionManager.outgoing.queue = []
  written : ∀ bytes, running.writeTask ≠ .writing bytes
  join : running.handler = .joining → running.writeTask ≠ .ended .panic ∧
    ∀ writeResult readResult, running.writeTask = .ended writeResult →
      running.readTask ≠ .ended readResult
  disable : ∀ writeResult readResult, running.handler ≠ .disabling writeResult readResult
  free : running.unheld = true → running.connection.dropped = true

section AtRest

variable {md5 : List UInt8 → Digest} {obfuscationKey : Option (List UInt8)}
  {running : RunningConnection}

theorem Consistent.finishSend_isSome (h : running.Consistent)
    (hrunning : running.readTask = .running)
    (hcan : running.connection.sessionManager.CanFinishSend) :
    (running.step md5 obfuscationKey .finishSend).isSome = true := by
  have hpresent := h.present (.inl (by rw [hrunning]; rfl))
  have hfinish := hcan.step_isSome
  simp [RunningConnection.step, finishSend, hrunning, Connection.step, Connection.manage, hpresent,
    SessionManager.Action.byOwner, hfinish]

theorem Consistent.takeOutgoing_isSome (h : running.Consistent)
    (hreceiving : running.writeTask = .receiving)
    (hqueue : running.connection.sessionManager.outgoing.queue ≠ []) :
    (running.step md5 obfuscationKey .takeOutgoing).isSome = true := by
  have hopen := h.keepsReceiver (.inl (by rw [hreceiving]; rfl))
  have hnonempty : running.connection.sessionManager.outgoing.taken <
      running.connection.sessionManager.outgoing.sent.length := by
    simpa [Channel.queue] using hqueue
  obtain ⟨packet, hrecv⟩ := Channel.exists_recv_eq_received hnonempty
  simp [RunningConnection.step, RunningConnection.takeOutgoing, hreceiving, hrecv,
    Connection.step, Connection.takeOutgoing, hopen]

theorem Consistent.disable_isSome (h : running.Consistent) {writeResult readResult : Outcome Unit}
    (hdisabling : running.handler = .disabling writeResult readResult) :
    (running.step md5 obfuscationKey .disableNewSessions).isSome = true := by
  have hpresent := h.present (.inr (.inr (by rw [hdisabling]; rfl)))
  simp [RunningConnection.step, disableNewSessions, hdisabling, Connection.step, Connection.manage,
    hpresent, SessionManager.Action.byOwner, SessionManager.step]

theorem join_isSome {writeResult readResult : Outcome Unit} (hjoining : running.handler = .joining)
    (hwrite : running.writeTask = .ended writeResult)
    (hread : running.readTask = .ended readResult) :
    (running.step md5 obfuscationKey .join).isSome = true := by
  simp only [step, join, hjoining, hwrite, hread]
  split <;> simp_all

theorem join_isSome_of_panic (hjoining : running.handler = .joining)
    (hwrite : running.writeTask = .ended .panic) :
    (running.step md5 obfuscationKey .join).isSome = true := by
  simp [step, join, hjoining, hwrite]

/-- A connection that nobody holds is freed. -/
theorem Consistent.dropConnection_isSome (h : running.Consistent)
    (hunheld : running.unheld = true) (hpresent : running.connection.dropped = false) :
    (running.step md5 obfuscationKey .dropConnection).isSome = true := by
  have hends := hunheld
  simp only [unheld, Bool.and_eq_true, Bool.not_eq_true'] at hends
  have hidle : running.connection.sessionManager.sending = none := by
    apply h.sending
    intro hrunning
    simp [hrunning, ReadTask.isOver] at hends
  have hover : running.connection.sessionManager.creations.any (fun creation =>
      !creation.isOver) = false := by
    simpa using h.unborrowed hends.1.1.1
  simp [RunningConnection.step, dropConnection, hunheld, Connection.free, Connection.step,
    Connection.dropConnection, Connection.closeOutgoing, hpresent, hidle, hover]

theorem Consistent.quiescent_iff (h : running.Consistent) :
    running.Quiescent md5 obfuscationKey ↔ running.AtRest := by
  constructor
  · intro hquiescent
    have hnone (action : Action) (hinternal : action.isInternal = true) :
        ¬ (running.step md5 obfuscationKey action).isSome = true := by
      simp [hquiescent action hinternal]
    constructor
    case finishSend => exact fun hrunning hcan => hnone _ rfl (h.finishSend_isSome hrunning hcan)
    case takeOutgoing =>
      intro hreceiving
      by_contra hqueue
      exact hnone _ rfl (h.takeOutgoing_isSome hreceiving hqueue)
    case written =>
      intro bytes hwriting
      exact hnone .written rfl (by simp [RunningConnection.step, written, hwriting])
    case join =>
      intro hjoining
      refine ⟨fun hpanicked => hnone _ rfl (join_isSome_of_panic hjoining hpanicked), ?_⟩
      exact fun writeResult readResult hwrite hread =>
        hnone _ rfl (join_isSome hjoining hwrite hread)
    case disable =>
      exact fun writeResult readResult hdisabling => hnone _ rfl (h.disable_isSome hdisabling)
    case free =>
      intro hunheld
      by_contra hpresent
      exact hnone _ rfl (h.dropConnection_isSome hunheld (Bool.eq_false_iff.mpr hpresent))
  · intro hrest action hinternal
    by_contra hsome
    obtain ⟨next, hnext⟩ := Option.ne_none_iff_exists'.mp hsome
    cases step_eq_some hnext with
    | finishSend connection hrunning hfinish =>
        cases hfinish with
        | manage _ manager event hpresent howner hfinish =>
            exact hrest.finishSend hrunning hfinish.canFinishSend
    | takeOutgoing packet written outgoing connection hreceiving hrecv
    | takePanicked packet outgoing connection hreceiving hrecv =>
        obtain ⟨-, hqueue, -⟩ := Channel.recv_eq_received_iff.mp hrecv
        simp [hrest.takeOutgoing hreceiving] at hqueue
    | outgoingClosed hreceiving hclosed =>
        have hdropped := (Channel.recv_eq_closed_iff.mp hclosed).2
        simp [h.keepsSender] at hdropped
    | written bytes hwriting => exact hrest.written bytes hwriting
    | writeFailed bytes error hwriting => exact hrest.written bytes hwriting
    | joinPanicked hjoining hpanicked =>
        rcases hpanicked with hwrite | hread
        · exact (hrest.join hjoining).1 hwrite
        · obtain ⟨error, herror⟩ := h.readResult _ hread
          simp at herror
    | join writeResult readResult hjoining hwrite hread =>
        exact (hrest.join hjoining).2 writeResult readResult hwrite hread
    | disableNewSessions writeResult readResult connection hdisabling =>
        exact hrest.disable writeResult readResult hdisabling
    | endRead _ error haction =>
        rcases haction with ⟨rest, rfl⟩ | rfl <;> simp [Action.isInternal] at hinternal
    | dropConnection connection howned hread hwrite hhandler hdrop =>
        have hgone := hrest.free (by simp [unheld, howned, hread, hwrite, hhandler])
        cases hdrop with
        | dropConnection hpresent => exact Bool.false_ne_true (hpresent.symm.trans hgone)
    | run | owner | completeSession | queueRequest | dropArc | forward | skip =>
        simp [Action.isInternal] at hinternal

/-- The reader is over and the writer waits on its empty queue. -/
theorem Consistent.atRest_of_idleWriter (h : running.Consistent) {result : Outcome Unit}
    (hread : running.readTask = .ended result) (hwrite : running.writeTask = .receiving)
    (hqueue : running.connection.sessionManager.outgoing.queue = []) : running.AtRest := by
  constructor
  case takeOutgoing => exact fun _ => hqueue
  case disable =>
    intro writeResult readResult hdisabling
    have hended := (h.joined writeResult readResult hdisabling).1
    simp [hwrite] at hended
  case free => simp [unheld, hwrite, WriteTask.isOver]
  all_goals simp [hread, hwrite]

end AtRest

end RunningConnection

end TacacsRs.Networking
