import TacacsRs.Networking.Closing
import TacacsRs.Networking.Quiescence

/-!
# New sessions on a dead connection

New sessions are disabled after both tasks are joined. The write task waits on a
queue that the manager itself keeps open, so when the reader is over nothing but
a write that fails ends the writer, and nothing but the network ends the reader
when the writer is over. A task that panics ends the handler at once.
-/

namespace TacacsRs.Networking

open Rust Messages

namespace SessionManager

/-- `can_create_sessions` is false, and every call of `create_session` that starts from now on
returns an error, unless its future is dropped. -/
def Refusing (manager : SessionManager) : Prop :=
  manager.canAcceptNewSessions = false ∧
    ∀ actions final, Rust.run advance manager actions = some final →
      ∀ (call : Nat) (creation : Creation), manager.creations.length ≤ call →
        final.creations[call]? = some creation → creation = .cancelled ∨ final.Refuses call

/-- The calls from the given one on have not got past their check. -/
structure ClosedFrom (first : Nat) (manager : SessionManager) : Prop where
  closed : manager.canAcceptNewSessions = false
  started : first ≤ manager.creations.length
  creations : ∀ (call : Nat) (creation : Creation), first ≤ call →
    manager.creations[call]? = some creation →
      creation = .cancelled ∨ (∃ error, creation = .refused error) ∨
        creation = .checkingPermission

section ClosedFrom

variable {first : Nat} {manager next : SessionManager} {action : Action} {event : Event}

theorem ClosedFrom.set (h : ClosedFrom first manager) {call : Nat} {creation : Creation}
    (hover : first ≤ call → creation = .cancelled ∨ ∃ error, creation = .refused error)
    (hclosed : next.canAcceptNewSessions = manager.canAcceptNewSessions)
    (hcreations : next.creations = manager.creations.set call creation) :
    ClosedFrom first next where
  closed := hclosed.trans h.closed
  started := by
    rw [hcreations, List.length_set]
    exact h.started
  creations := by
    intro other changed hfirst hchanged
    rw [hcreations] at hchanged
    rcases getElem?_set_cases hchanged with ⟨rfl, rfl⟩ | ⟨-, hold⟩
    · exact (hover hfirst).imp_right .inl
    · exact h.creations other changed hfirst hold

theorem ClosedFrom.step (h : ClosedFrom first manager) (hstep : Step manager action next event) :
    ClosedFrom first next := by
  cases hstep with
  | create =>
      refine ⟨h.closed, ?_, ?_⟩
      · rw [List.length_append]
        exact Nat.le_add_right_of_le h.started
      · intro call creation hfirst hcall
        rcases getElem?_append_singleton_cases hcall with ⟨-, rfl⟩ | hold
        · exact .inr (.inr rfl)
        · exact h.creations call creation hfirst hold
  | permit call hcall haccepting =>
      rw [h.closed] at haccepting
      simp at haccepting
  | refuse call => exact h.set (fun _ => .inr ⟨notAccepting, rfl⟩) rfl rfl
  | cancel call => exact h.set (fun _ => .inl rfl) rfl rfl
  | register call draws sessionId hcall =>
      refine h.set (fun hfirst => ?_) rfl rfl
      have hbefore := h.creations call _ hfirst hcall
      simp at hbefore
  | disable => exact ⟨rfl, h.started, h.creations⟩
  | lookup | reject | deliver | fail | receive | drop => exact ⟨h.closed, h.started, h.creations⟩

end ClosedFrom

theorem refusing_iff {manager : SessionManager} :
    manager.Refusing ↔ manager.canAcceptNewSessions = false := by
  refine ⟨And.left, fun hclosed => ⟨hclosed, ?_⟩⟩
  intro actions final hrun call creation hfirst hcall
  have hfrom : ClosedFrom manager.creations.length final := by
    apply invariant_of_run _ _ hrun
    · refine ⟨hclosed, Nat.le_refl _, fun other creation hother hcreation => ?_⟩
      exact absurd (List.getElem?_eq_some_iff.mp hcreation).1 (Nat.not_lt.mpr hother)
    · intro mid action next hmid hnext
      obtain ⟨event, hstep⟩ := advance_eq_some hnext
      exact hmid.step hstep
  rcases hfrom.creations call creation hfirst hcall with rfl | ⟨error, rfl⟩ | rfl
  · exact .inl rfl
  · exact .inr (.inl ⟨error, hcall⟩)
  · exact .inr (refuses_of_checking hfrom.closed hcall)

end SessionManager

namespace Connection

/-- The owners of the sessions only make room. -/
theorem Step.canFinishSend {connection next : Connection} {action : Action}
    (hstep : Step connection action next) (howner : action.byOwner = true)
    (h : connection.sessionManager.CanFinishSend) : next.sessionManager.CanFinishSend := by
  obtain ⟨packet, target, hsending, htarget⟩ := h
  cases hstep with
  | manage action manager event hpresent _ hstep =>
      cases hstep with
      | create | permit | refuse | cancel => exact ⟨packet, target, hsending, htarget⟩
      | register call draws sessionId hcall hidle => simp [hidle] at hsending
      | disable | lookup | reject | deliver | fail | receive | drop =>
          simp [Action.byOwner] at howner
  | start => exact ⟨packet, target, hsending, htarget⟩
  | poll index callIndex poll session polled sessionChannel duplexChannel hsession hchannel
      hpoll =>
      refine ⟨packet, target, hsending, ?_⟩
      obtain ⟨call, -, hpolled⟩ := Session.poll_eq_some hpoll
      rcases hpolled.receiver_cases with hsame | ⟨hnonempty, hpop⟩
      · rw [hsame, set_eq_self_of_some hchannel]
        exact htarget
      · apply SessionManager.exists_takesOneMore_set htarget hchannel
        rw [hpop]
        exact .inr Channel.HasRoom.of_pop
  | dropSession index session sessionChannel hsession hover hchannel =>
      exact ⟨packet, target, hsending,
        SessionManager.exists_takesOneMore_set htarget hchannel (.inl rfl)⟩
  | takeOutgoing | closeOutgoing | dropConnection => simp [Action.byOwner] at howner

end Connection

namespace RunningConnection

variable {md5 : List UInt8 → Digest} {obfuscationKey : Option (List UInt8)}
  {running next : RunningConnection} {action : Action}

/-- `handle_connection` has returned, or one of its tasks is over and nothing goes on by
itself. -/
def Dead (md5 : List UInt8 → Digest) (obfuscationKey : Option (List UInt8))
    (running : RunningConnection) : Prop :=
  (∃ result, running.handler = .returned result) ∨
    ((∃ result, running.readTask = .ended result) ∨ ∃ result, running.writeTask = .ended result) ∧
      running.Quiescent md5 obfuscationKey

/-- A dead connection refuses new sessions. -/
def RefusesWhenDead (md5 : List UInt8 → Digest) (obfuscationKey : Option (List UInt8))
    (running : RunningConnection) : Prop :=
  running.Dead md5 obfuscationKey → running.connection.sessionManager.Refusing

/-- The step leaves the rest of the connection something to end by: the writer does not panic,
when the reader is over there is always something to write, and the writer fails only when the
reader is over or still has a packet to send, which then stays unsent. -/
def LeadsOn (running : RunningConnection) : Action → Prop
  | .readEnd _ => running.writeTask = .receiving →
      running.connection.sessionManager.outgoing.queue ≠ []
  | .readFailed _ => running.writeTask = .receiving →
      running.connection.sessionManager.outgoing.queue ≠ []
  | .written => running.readTask = .running ∨
      running.connection.sessionManager.outgoing.queue ≠ []
  | .writeFailed _ => running.readTask = .running →
      running.connection.sessionManager.CanFinishSend
  | .finishSend => ∀ error, running.writeTask ≠ .ended (.err error)
  | .join => running.writeTask ≠ .ended .panic
  | _ => True

/-- Every such step that is taken does so. -/
def NoticesEnd (md5 : List UInt8 → Digest) (obfuscationKey : Option (List UInt8))
    (running : RunningConnection) (action : Action) : Prop :=
  (running.step md5 obfuscationKey action).isSome = true → running.LeadsOn action

/-- The end of one task still leads to the end of the other one. -/
structure Ending (running : RunningConnection) : Prop where
  consistent : running.Consistent
  returned : ∀ result, running.handler = .returned result →
    running.connection.sessionManager.canAcceptNewSessions = false
  writing : ∀ result, running.readTask = .ended result → running.writeTask = .receiving →
    running.connection.sessionManager.outgoing.queue ≠ []
  sending : ∀ error, running.writeTask = .ended (.err error) → running.readTask = .running →
    running.connection.sessionManager.CanFinishSend

theorem ending_new : Ending new := by
  constructor
  case consistent => exact consistent_new
  all_goals simp [new]

theorem Ending.refusesWhenDead (h : running.Ending) :
    running.RefusesWhenDead md5 obfuscationKey := by
  rintro (⟨result, hreturned⟩ | ⟨hended, hquiescent⟩)
  · exact SessionManager.refusing_iff.mpr (h.returned result hreturned)
  have hrest := h.consistent.quiescent_iff.mp hquiescent
  cases hhandler : running.handler with
  | notCalled =>
      obtain ⟨hread, hwrite⟩ := h.consistent.notSpawned hhandler
      simp [hread, hwrite] at hended
  | joining =>
      obtain ⟨hnoPanic, hnotBoth⟩ := hrest.join hhandler
      obtain ⟨hreadSpawned, hwriteSpawned⟩ := h.consistent.spawned (by simp [hhandler])
      rcases hended with ⟨readResult, hread⟩ | ⟨writeResult, hwrite⟩
      · cases hwrite : running.writeTask with
        | notSpawned => exact absurd hwrite hwriteSpawned
        | receiving => exact absurd (hrest.takeOutgoing hwrite) (h.writing readResult hread hwrite)
        | writing bytes => exact absurd hwrite (hrest.written bytes)
        | ended writeResult => exact absurd hread (hnotBoth writeResult readResult hwrite)
      · cases hread : running.readTask with
        | notSpawned => exact absurd hread hreadSpawned
        | running =>
            rcases h.consistent.writeResult writeResult hwrite with rfl | ⟨error, rfl⟩
            · exact absurd hwrite hnoPanic
            · exact absurd (h.sending error hwrite hread) (hrest.finishSend hread)
        | ended readResult => exact absurd hread (hnotBoth writeResult readResult hwrite)
  | disabling writeResult readResult => exact absurd hhandler (hrest.disable _ _)
  | returned result => exact SessionManager.refusing_iff.mpr (h.returned result hhandler)

/-- A step of the connection's inside, with the tasks where they are. -/
theorem Ending.set_connection (h : running.Ending) {connection : Connection}
    (hconsistent : Consistent { running with connection })
    (haccepting : connection.sessionManager.canAcceptNewSessions =
      running.connection.sessionManager.canAcceptNewSessions)
    (hwriting : running.connection.sessionManager.outgoing.queue ≠ [] →
      connection.sessionManager.outgoing.queue ≠ [])
    (hsending : ∀ error, running.writeTask = .ended (.err error) → running.readTask = .running →
      running.connection.sessionManager.CanFinishSend →
        connection.sessionManager.CanFinishSend) : Ending { running with connection } where
  consistent := hconsistent
  returned := fun result hreturned => haccepting.trans (h.returned result hreturned)
  writing := fun result hread hwrite => hwriting (h.writing result hread hwrite)
  sending := fun error hwrite hread => hsending error hwrite hread (h.sending error hwrite hread)

theorem Ending.step (h : running.Ending) (hleads : running.LeadsOn action)
    (hstep : Step md5 obfuscationKey running action next) : next.Ending := by
  have hconsistent := h.consistent.step hstep
  cases hstep with
  | run hhandler howned hpresent => exact ⟨hconsistent, by simp, by simp, by simp⟩
  | owner action connection howner harc howned =>
      apply h.set_connection hconsistent
      · exact howned.canAcceptNewSessions_eq (ne_of_byOwner howner rfl)
      · exact howned.outgoing_queue_ne_nil (ne_of_byOwner howner rfl)
      · exact fun _ _ _ => howned.canFinishSend howner
  | completeSession | dropArc => exact ⟨hconsistent, h.returned, h.writing, h.sending⟩
  | queueRequest index request hopen hroom =>
      refine ⟨hconsistent, h.returned, fun result hread hwrite => ?_, h.sending⟩
      rw [Channel.queue_push]
      simp
  | forward frame packet connection hrunning hidle hround hforward =>
      apply h.set_connection hconsistent
      · exact hforward.canAcceptNewSessions_eq (by simp)
      · exact hforward.outgoing_queue_ne_nil (by simp)
      · rintro error - - ⟨other, index, hsending, -⟩
        simp [hidle] at hsending
  | skip => exact h
  | endRead _ error haction hrunning hidle =>
      have hbusy : running.writeTask = .receiving →
          running.connection.sessionManager.outgoing.queue ≠ [] := by
        rcases haction with ⟨rest, rfl⟩ | rfl
        · exact hleads
        · exact hleads
      exact ⟨hconsistent, h.returned, fun _ _ => hbusy, by simp⟩
  | finishSend connection hrunning hfinish =>
      apply h.set_connection hconsistent
      · exact hfinish.canAcceptNewSessions_eq (by simp)
      · exact hfinish.outgoing_queue_ne_nil (by simp)
      · exact fun error hwrite => absurd hwrite (hleads error)
  | takeOutgoing packet written outgoing connection hreceiving hrecv hwritten htake =>
      have haccepting := htake.canAcceptNewSessions_eq (by simp)
      exact ⟨hconsistent, fun result hreturned => haccepting.trans (h.returned result hreturned),
        by simp, by simp⟩
  | takePanicked packet outgoing connection hreceiving hrecv hpanicked htake =>
      have haccepting := htake.canAcceptNewSessions_eq (by simp)
      exact ⟨hconsistent, fun result hreturned => haccepting.trans (h.returned result hreturned),
        by simp [endWrite], by simp [endWrite]⟩
  | outgoingClosed hreceiving hclosed =>
      have hdropped := (Channel.recv_eq_closed_iff.mp hclosed).2
      simp [h.consistent.keepsSender] at hdropped
  | written bytes hwriting =>
      refine ⟨hconsistent, h.returned, fun result hread _ => ?_, by simp⟩
      rcases hleads with hrunning | hqueue
      · exact absurd (hrunning.symm.trans hread) (by simp)
      · exact hqueue
  | writeFailed bytes error hwriting =>
      exact ⟨hconsistent, h.returned, by simp [endWrite], fun _ _ hread => hleads hread⟩
  | joinPanicked hjoining hpanicked =>
      rcases hpanicked with hwrite | hread
      · exact absurd hwrite hleads
      · obtain ⟨error, herror⟩ := h.consistent.readResult _ hread
        simp at herror
  | join writeResult readResult hjoining hwrite hread hnoPanic =>
      exact ⟨hconsistent, by simp, h.writing, h.sending⟩
  | disableNewSessions writeResult readResult connection hdisabling hdisable =>
      obtain ⟨hwrite, hread⟩ := h.consistent.joined writeResult readResult hdisabling
      refine ⟨hconsistent, fun _ _ => ?_, by simp [hwrite], by simp [hread]⟩
      cases hdisable with
      | manage _ manager event hpresent howner hdisable =>
          cases hdisable with
          | disable => rfl
  | dropConnection connection howned hread hwrite hhandler hdrop =>
      have haccepting := hdrop.canAcceptNewSessions_eq (by simp)
      refine ⟨hconsistent, fun result hreturned => haccepting.trans (h.returned result hreturned),
        fun result _ hreceiving => ?_, fun error _ hrunning => ?_⟩
      · simp [show running.writeTask = .receiving from hreceiving, WriteTask.isOver] at hwrite
      · simp [show running.readTask = .running from hrunning, ReadTask.isOver] at hread

theorem Consistent.not_refusesWhenDead_of_idleWriter (h : running.Consistent)
    {result : Outcome Unit} (hread : running.readTask = .ended result)
    (hwrite : running.writeTask = .receiving)
    (hqueue : running.connection.sessionManager.outgoing.queue = []) :
    ¬ running.RefusesWhenDead md5 obfuscationKey := by
  intro hrefuses
  have hrest := h.atRest_of_idleWriter hread hwrite hqueue
  obtain ⟨hclosed, -⟩ := hrefuses (.inr ⟨.inl ⟨result, hread⟩, h.quiescent_iff.mpr hrest⟩)
  obtain ⟨-, ⟨other, hended⟩, -⟩ := h.accepting hclosed
  simp [hwrite] at hended

/-- The writer has failed, and the reader waits for the network or for room. -/
theorem Consistent.not_refusesWhenDead_of_idleReader (h : running.Consistent) {error : Error}
    (hwrite : running.writeTask = .ended (.err error)) (hread : running.readTask = .running)
    (hcannot : ¬ running.connection.sessionManager.CanFinishSend) :
    ¬ running.RefusesWhenDead md5 obfuscationKey := by
  intro hrefuses
  have hrest : running.AtRest := by
    constructor
    case finishSend => exact fun _ => hcannot
    case disable =>
      intro writeResult readResult hdisabling
      have hended := (h.joined writeResult readResult hdisabling).2
      simp [hread] at hended
    case free => simp [unheld, hread, ReadTask.isOver]
    all_goals simp [hread, hwrite]
  obtain ⟨hclosed, -⟩ := hrefuses (.inr ⟨.inr ⟨_, hwrite⟩, h.quiescent_iff.mpr hrest⟩)
  obtain ⟨-, -, other, hended⟩ := h.accepting hclosed
  simp [hread] at hended

/-- A step after which the connection is not dead, or refuses new sessions, leads on. -/
theorem Consistent.leadsOn (h : running.Consistent)
    (hnext : running.step md5 obfuscationKey action = some next)
    (hrefuses : next.RefusesWhenDead md5 obfuscationKey) : running.LeadsOn action := by
  have hstep := step_eq_some hnext
  have hconsistent := h.step hstep
  cases hstep with
  | endRead _ error haction hrunning hidle =>
      have hbusy : running.writeTask = .receiving →
          running.connection.sessionManager.outgoing.queue ≠ [] := by
        intro hwrite hqueue
        exact hconsistent.not_refusesWhenDead_of_idleWriter rfl hwrite hqueue hrefuses
      rcases haction with ⟨rest, rfl⟩ | rfl
      · exact hbusy
      · exact hbusy
  | finishSend connection hrunning hfinish =>
      intro error hwrite
      refine hconsistent.not_refusesWhenDead_of_idleReader hwrite hrunning ?_ hrefuses
      rintro ⟨packet, index, hsending, -⟩
      cases hfinish with
      | manage _ manager event hpresent howner hfinish =>
          cases hfinish with
          | deliver | fail => simp at hsending
  | written bytes hwriting =>
      cases hread : running.readTask with
      | notSpawned =>
          have hnotCalled : running.handler = .notCalled := by
            by_contra hcalled
            exact (h.spawned hcalled).1 hread
          simp [(h.notSpawned hnotCalled).2] at hwriting
      | running => exact .inl hread
      | ended result =>
          refine .inr fun hqueue => ?_
          exact hconsistent.not_refusesWhenDead_of_idleWriter hread rfl hqueue hrefuses
  | writeFailed bytes error hwriting =>
      intro hread
      by_contra hcannot
      exact hconsistent.not_refusesWhenDead_of_idleReader rfl hread hcannot hrefuses
  | joinPanicked hjoining hpanicked =>
      intro _
      obtain ⟨hclosed, -⟩ := hrefuses (.inl ⟨_, rfl⟩)
      exact h.accepting_of_joining hjoining hclosed
  | join writeResult readResult hjoining hwrite hread hnoPanic =>
      intro hpanicked
      exact hnoPanic (WriteTask.ended.inj (hwrite.symm.trans hpanicked))
  | run | owner | completeSession | queueRequest | dropArc | forward | skip | takeOutgoing
  | takePanicked | outgoingClosed | disableNewSessions | dropConnection => trivial

/-- In every run, a connection that is dead refuses new sessions in every state if and only if
every step leads on. -/
theorem refuses_when_dead_throughout_iff (actions : List Action) :
    Throughout (step md5 obfuscationKey) (RefusesWhenDead md5 obfuscationKey) new actions ↔
      Meets (step md5 obfuscationKey) (NoticesEnd md5 obfuscationKey) new actions := by
  constructor
  · intro h before action hpre mid hmid hsome
    obtain ⟨next, hnext⟩ := Option.isSome_iff_exists.mp hsome
    apply (consistent_of_run hmid).leadsOn hnext
    exact h (before ++ [action]) hpre next (run_concat_eq_some_iff.mpr ⟨mid, hmid, hnext⟩)
  · intro h before hpre mid hmid
    apply Ending.refusesWhenDead
    apply invariant_of_meets ending_new _ (h.of_prefix hpre) hmid
    intro reached action next hreached hnotices hnext
    exact hreached.step (hnotices (by simp [hnext])) (step_eq_some hnext)

/-- The peer closes a connection on which nothing is to be written. -/
def closedByPeerRun : List Action := [.run, .readEnd []]

/-- The reader is over, nothing goes on, and a session is created. -/
theorem closedByPeerRun_accepts :
    ∃ running, Rust.run (step noDigest none) new closedByPeerRun = some running ∧
      (∃ result, running.readTask = .ended result) ∧ running.Quiescent noDigest none ∧
        running.connection.sessionManager.canAcceptNewSessions = true ∧
          ∃ next, Rust.run (step noDigest none) running
            [.owner (.manage .createSession), .owner (.manage (.canCreateSessions 0)),
              .owner (.manage (.createChannel 0 [7]))] = some next ∧
            next.connection.sessionManager.creations = [.created 7] := by
  have hsome : (Rust.run (step noDigest none) new closedByPeerRun).isSome = true := rfl
  obtain ⟨running, hrun⟩ := Option.isSome_iff_exists.mp hsome
  have hconsistent := consistent_of_run hrun
  obtain rfl := Option.some.inj hrun
  exact ⟨_, rfl, ⟨_, rfl⟩, hconsistent.quiescent_iff.mpr
    (hconsistent.atRest_of_idleWriter rfl rfl rfl), rfl, _, rfl, rfl⟩

end RunningConnection

end TacacsRs.Networking
