import TacacsRs.Networking.HandleConnection
import TacacsRs.Networking.SessionView
import TacacsRs.Networking.SingleUse

/-!
# Completion is absorbing

`is_complete` looks at three things, one after the other: whether the outgoing
queue is closed, whether the session's channel is, and the flag, which a call
sets when it succeeds and the session's owner may set with `complete`. Each of
them stays as it is once it is set. `is_complete` runs at the start of every
call; one that runs alone is a call that is abandoned once it has its answer.

The second look takes the lock on the receiver, which a call keeps while it
waits for its reply.

At the end, the session stands in a running connection, of which it sees a run
of its own.
-/

namespace TacacsRs.Networking

open Rust Messages

/-- The call's `is_complete` has returned true. -/
def Call.FoundComplete (call : Call) : Prop :=
  call.phase = .returned (.err Session.alreadyComplete) ∧ call.sequenceNumber = none

namespace LiveSession

/-- What `is_complete` would find if it ran without a break. -/
def IsComplete (live : LiveSession) : Prop :=
  live.duplexChannel.senderClosed = true ∨ live.duplexChannel.receiverClosed = true ∨
    live.session.sessionComplete = true

/-- A call at this point has not found the session incomplete, and will find it complete. -/
def Refused (live : LiveSession) : CallPhase → Prop
  | .checkingSender => live.IsComplete
  | .joiningRead => live.duplexChannel.receiverClosed = true ∨ live.session.sessionComplete = true
  | .checkingReceiver =>
      live.duplexChannel.receiverClosed = true ∨ live.session.sessionComplete = true
  | .checkingComplete => live.session.sessionComplete = true
  | .returned result => result = .err Session.alreadyComplete
  | .abandoned => True
  | _ => False

/-- What made a session complete lasts. -/
structure Lasts (live next : LiveSession) : Prop where
  sender : live.duplexChannel.senderClosed = true → next.duplexChannel.senderClosed = true
  receiver : live.duplexChannel.receiverClosed = true → next.duplexChannel.receiverClosed = true
  flag : live.session.sessionComplete = true → next.session.sessionComplete = true

section Lasts

variable {live next : LiveSession}

theorem Lasts.isComplete (h : Lasts live next) (hcomplete : live.IsComplete) : next.IsComplete :=
  hcomplete.imp h.sender (Or.imp h.receiver h.flag)

theorem Lasts.refused (h : Lasts live next) {phase : CallPhase} (hrefused : live.Refused phase) :
    next.Refused phase := by
  cases phase with
  | checkingSender => exact h.isComplete hrefused
  | joiningRead | checkingReceiver => exact hrefused.imp h.receiver h.flag
  | checkingComplete => exact h.flag hrefused
  | returned result => exact hrefused
  | abandoned => trivial
  | drawing | sending | joiningWrite | acquiring | receiving | completing => exact hrefused.elim

end Lasts

end LiveSession

namespace Session

variable {session next : Session} {duplexChannel duplexChannel' : DuplexChannel} {index : Nat}
  {call : Call} {poll : Poll}

theorem Polled.lasts (h : Polled session duplexChannel index call poll next duplexChannel') :
    LiveSession.Lasts ⟨session, duplexChannel⟩ ⟨next, duplexChannel'⟩ := by
  have hsender : duplexChannel'.senderClosed = duplexChannel.senderClosed := by
    rcases h.sender_cases with hsame | ⟨packet, hsend⟩
    · exact congrArg Channel.receiverDropped hsame
    · obtain ⟨-, hroom, hpush⟩ := Channel.send_eq_sent_iff.mp hsend
      rw [DuplexChannel.senderClosed, hpush]
      rfl
  obtain ⟨call', -, hcompletes⟩ := h.completes
  constructor
  case sender => exact fun hclosed => hsender.trans hclosed
  case receiver => exact fun hclosed => h.receiver_ends.1.trans hclosed
  case flag =>
    intro hcomplete
    cases hcompletes with
    | succeed reply hphase hreturned hnow => exact hnow
    | other _ hsame => exact hsame.trans hcomplete

/-- A call that will find the session complete touches nothing but the lock. -/
theorem Polled.refused (h : Polled session duplexChannel index call poll next duplexChannel')
    (hrefused : LiveSession.Refused ⟨session, duplexChannel⟩ call.phase) :
    ∃ call', next.calls = session.calls.set index call' ∧
      call'.sequenceNumber = call.sequenceNumber ∧ call'.response = call.response ∧
        LiveSession.Refused ⟨next, duplexChannel'⟩ call'.phase ∧
          duplexChannel' = duplexChannel ∧
            next.currentSequenceNumber = session.currentSequenceNumber := by
  cases h with
  | senderClosed | receiverClosed | complete => exact ⟨_, rfl, rfl, rfl, rfl, rfl, rfl⟩
  | abandon => exact ⟨_, rfl, rfl, rfl, trivial, rfl, rfl⟩
  | senderOpen hphase hopen =>
      rw [hphase] at hrefused
      refine ⟨_, rfl, rfl, rfl, ?_, rfl, rfl⟩
      exact hrefused.resolve_left (by simp [hopen])
  | joinRead hphase =>
      rw [hphase] at hrefused
      exact ⟨_, rfl, rfl, rfl, hrefused, rfl, rfl⟩
  | receiverOpen hphase hcan hopen =>
      rw [hphase] at hrefused
      refine ⟨_, rfl, rfl, rfl, ?_, rfl, rfl⟩
      exact hrefused.resolve_left (by simp [hopen])
  | incomplete hphase hcomplete =>
      rw [hphase] at hrefused
      exact absurd (hcomplete.symm.trans hrefused) (by simp)
  | draw phase hphase | queue packet hphase | queueClosed packet hphase | joinWrite hphase
  | acquire hphase | closed hphase | reply response receiver reply hphase
  | malformed response receiver result hphase | succeed reply hphase =>
      rw [hphase] at hrefused
      exact hrefused.elim

/-- No poll takes anything from an empty channel. -/
theorem Polled.receiver_eq (h : Polled session duplexChannel index call poll next duplexChannel')
    (hpending : duplexChannel.receiver.recv = .pending) :
    duplexChannel'.receiver = duplexChannel.receiver := by
  rcases h.receiver_cases with hsame | ⟨hnonempty, -⟩
  · exact hsame
  · obtain ⟨value, hrecv⟩ := Channel.exists_recv_eq_received hnonempty
    simp [hpending] at hrecv

/-- A call that waits for a reply is not polled before there is one, or none can come. -/
theorem Polled.ne_receiving (h : Polled session duplexChannel index call poll next duplexChannel')
    (hpending : duplexChannel.receiver.recv = .pending) (hpoll : poll ≠ .abandon) :
    call.phase ≠ .receiving := by
  cases h with
  | closed hphase hempty hclosed =>
      simp [Channel.recv_eq_closed_iff.mpr ⟨hempty, hclosed⟩] at hpending
  | reply response receiver reply hphase hrecv => simp [hpending] at hrecv
  | malformed response receiver result hphase hrecv => simp [hpending] at hrecv
  | abandon => exact absurd rfl hpoll
  | senderClosed hphase | senderOpen hphase | joinRead hphase | receiverClosed hphase
  | receiverOpen hphase | complete hphase | incomplete hphase | draw phase hphase
  | queue packet hphase | queueClosed packet hphase | joinWrite hphase | acquire hphase
  | succeed reply hphase => simp [hphase]

/-- A call that waits for the lock at its check is not polled before it can have it. -/
theorem Polled.ne_checkingReceiver
    (h : Polled session duplexChannel index call poll next duplexChannel')
    (hcannot : ¬ session.receiverLock.CanRead index) (hpoll : poll ≠ .abandon) :
    call.phase ≠ .checkingReceiver := by
  cases h with
  | receiverClosed hphase hcan | receiverOpen hphase hcan => exact absurd hcan hcannot
  | abandon => exact absurd rfl hpoll
  | senderClosed hphase | senderOpen hphase | joinRead hphase | complete hphase | incomplete hphase
  | draw phase hphase | queue packet hphase | queueClosed packet hphase | joinWrite hphase
  | acquire hphase | closed hphase | reply response receiver reply hphase
  | malformed response receiver result hphase | succeed reply hphase => simp [hphase]

end Session

namespace LiveSession

/-- What happens to a session whose owner may also call `complete`. -/
inductive OwnerAction where
  | session (action : Action)
  | complete
  deriving DecidableEq

/-- A step of the session, or its owner completes it. -/
def ownerStep (live : LiveSession) : OwnerAction → Option LiveSession
  | .session action => live.step action
  | .complete => some { live with session := live.session.complete }

section Step

variable {live next : LiveSession} {action : Action}

theorem queueOther_eq_some {packet : Packet} (h : live.step (.queueOther packet) = some next) :
    ∃ sender, live.duplexChannel.sender.send packet = .sent sender ∧
      next = ⟨live.session, ⟨sender, live.duplexChannel.receiver⟩⟩ := by
  simp only [step] at h
  split at h
  · next sender hsend => exact ⟨sender, hsend, (Option.some.inj h).symm⟩
  · simp at h

theorem takeOutgoing_eq_some (h : live.step .takeOutgoing = some next) :
    ∃ packet sender, live.duplexChannel.sender.recv = .received packet sender ∧
      next = ⟨live.session, ⟨sender, live.duplexChannel.receiver⟩⟩ := by
  simp only [step] at h
  split at h
  · next packet sender _ hrecv => exact ⟨packet, sender, hrecv, (Option.some.inj h).symm⟩
  · simp at h

theorem lasts_of_step (h : live.step action = some next) : Lasts live next := by
  cases action with
  | sendAccountingRequest request =>
      obtain rfl := Option.some.inj h
      exact ⟨id, id, id⟩
  | poll index poll =>
      obtain ⟨⟨session, duplexChannel⟩, hpoll, rfl⟩ := Option.map_eq_some_iff.mp h
      obtain ⟨call, -, hpolled⟩ := Session.poll_eq_some hpoll
      exact hpolled.lasts
  | deliver packet =>
      simp only [step] at h
      split at h
      · next receiver _ hsend =>
        obtain rfl := Option.some.inj h
        obtain ⟨-, hroom, rfl⟩ := Channel.send_eq_sent_iff.mp hsend
        exact ⟨id, id, id⟩
      · simp at h
  | disconnect =>
      obtain rfl := Option.some.inj h
      exact ⟨id, fun _ => rfl, id⟩
  | queueOther packet =>
      obtain ⟨sender, hsend, rfl⟩ := queueOther_eq_some h
      obtain ⟨-, hroom, rfl⟩ := Channel.send_eq_sent_iff.mp hsend
      exact ⟨id, id, id⟩
  | takeOutgoing =>
      obtain ⟨packet, sender, hrecv, rfl⟩ := takeOutgoing_eq_some h
      obtain ⟨-, -, rfl⟩ := Channel.recv_eq_received_iff.mp hrecv
      exact ⟨id, id, id⟩
  | closeOutgoing =>
      obtain rfl := Option.some.inj h
      exact ⟨fun _ => rfl, id, id⟩

theorem lasts_of_ownerStep {action : OwnerAction} (h : live.ownerStep action = some next) :
    Lasts live next := by
  cases action with
  | session action => exact lasts_of_step h
  | complete =>
      obtain rfl := Option.some.inj h
      exact ⟨id, id, fun _ => rfl⟩

/-- A call without a number that is past its check has found the session complete. -/
def Checked (live : LiveSession) : Prop :=
  ∀ (index : Nat) (call : Call), live.session.calls[index]? = some call →
    call.sequenceNumber = none → call.phase.beforeDraw = true ∨ call.phase = .abandoned ∨
      call.phase = .returned (.err Session.alreadyComplete) ∧ live.IsComplete

theorem checked_new (sessionId : UInt32) : Checked (.new sessionId) := by
  simp [Checked, new, Session.new]

theorem Checked.of_calls_eq (h : Checked live) (hlasts : Lasts live next)
    (hcalls : next.session.calls = live.session.calls) : Checked next := by
  intro index call hcall hnone
  rw [hcalls] at hcall
  exact (h index call hcall hnone).imp_right (Or.imp_right (And.imp_right hlasts.isComplete))

/-- A poll leaves a call without a number only where it was before its draw. -/
theorem Checked.polled (h : Checked live) {index : Nat} {call : Call} {poll : Poll}
    {session : Session} {duplexChannel : DuplexChannel}
    (hcall : live.session.calls[index]? = some call)
    (hpolled : Session.Polled live.session live.duplexChannel index call poll session
      duplexChannel) : Checked ⟨session, duplexChannel⟩ := by
  have hlasts := hpolled.lasts
  have hset {call' : Call} (hcalls : session.calls = live.session.calls.set index call')
      (hcall' : call'.sequenceNumber = none → call'.phase.beforeDraw = true ∨
        call'.phase = .abandoned ∨ call'.phase = .returned (.err Session.alreadyComplete) ∧
          live.IsComplete) : Checked ⟨session, duplexChannel⟩ := by
    intro other changed hchanged hnone
    rw [hcalls] at hchanged
    rcases getElem?_set_cases hchanged with ⟨-, rfl⟩ | ⟨-, hold⟩
    · exact (hcall' hnone).imp_right (Or.imp_right (And.imp_right hlasts.isComplete))
    · exact (h other changed hold hnone).imp_right
        (Or.imp_right (And.imp_right hlasts.isComplete))
  have hdrawn (hphase : call.phase.beforeDraw = false) (habandoned : call.phase ≠ .abandoned)
      (hreturned : call.phase ≠ .returned (.err Session.alreadyComplete)) :
      call.sequenceNumber ≠ none := by
    intro hnone
    rcases h index call hcall hnone with hbefore | hend | ⟨hend, -⟩
    · simp [hphase] at hbefore
    · exact habandoned hend
    · exact hreturned hend
  cases hpolled with
  | senderClosed hphase hclosed => exact hset rfl fun _ => .inr (.inr ⟨rfl, .inl hclosed⟩)
  | receiverClosed hphase hcan hclosed =>
      exact hset rfl fun _ => .inr (.inr ⟨rfl, .inr (.inl hclosed)⟩)
  | complete hphase hcomplete =>
      exact hset rfl fun _ => .inr (.inr ⟨rfl, .inr (.inr hcomplete)⟩)
  | senderOpen | joinRead | receiverOpen | incomplete => exact hset rfl fun _ => .inl rfl
  | abandon => exact hset rfl fun _ => .inr (.inl rfl)
  | draw => exact hset rfl (by simp)
  | queue packet hphase | queueClosed packet hphase | joinWrite hphase | acquire hphase
  | closed hphase | reply response receiver reply hphase
  | malformed response receiver result hphase | succeed reply hphase =>
      have hnumber := hdrawn (by rw [hphase]; rfl) (by simp [hphase]) (by simp [hphase])
      exact hset rfl fun hnone => absurd hnone hnumber

theorem Checked.step (h : Checked live) (hnext : live.step action = some next) :
    Checked next := by
  have hlasts := lasts_of_step hnext
  cases step_eq_some hnext with
  | start request =>
      intro index call hcall hnone
      rcases getElem?_append_singleton_cases hcall with ⟨-, rfl⟩ | hold
      · exact .inl rfl
      · exact (h index call hold hnone).imp_right
          (Or.imp_right (And.imp_right hlasts.isComplete))
  | poll index poll call session duplexChannel hcall hpolled => exact h.polled hcall hpolled
  | deliver | environment => exact h.of_calls_eq hlasts rfl

theorem Checked.ownerStep (h : Checked live) {action : OwnerAction}
    (hnext : live.ownerStep action = some next) : Checked next := by
  cases action with
  | session action => exact h.step hnext
  | complete =>
      have hlasts := lasts_of_ownerStep hnext
      obtain rfl := Option.some.inj hnext
      exact h.of_calls_eq hlasts rfl

theorem Checked.isComplete (h : Checked live) {index : Nat} {call : Call}
    (hcall : live.session.calls[index]? = some call) (hfound : call.FoundComplete) :
    live.IsComplete := by
  obtain ⟨hphase, hnone⟩ := hfound
  rcases h index call hcall hnone with hdraw | hend | ⟨-, hend⟩
  · simp [hphase, CallPhase.beforeDraw] at hdraw
  · simp [hphase] at hend
  · exact hend

/-- The calls from the given one on have drawn no number and taken no packet, and find the
session complete. -/
structure Absorbed (first : Nat) (live : LiveSession) : Prop where
  complete : live.IsComplete
  started : first ≤ live.session.calls.length
  calls : ∀ (index : Nat) (call : Call), first ≤ index → live.session.calls[index]? = some call →
    call.sequenceNumber = none ∧ call.response = none ∧ live.Refused call.phase

theorem absorbed_start (h : live.IsComplete) : Absorbed live.session.calls.length live where
  complete := h
  started := Nat.le_refl _
  calls := by
    intro index call hfirst hcall
    exact absurd (List.getElem?_eq_some_iff.mp hcall).1 (Nat.not_lt.mpr hfirst)

/-- A call that has not moved finds the session complete as before. -/
theorem Absorbed.call_of_lasts {first index : Nat} {call : Call} (h : Absorbed first live)
    (hlasts : Lasts live next) (hfirst : first ≤ index)
    (hcall : live.session.calls[index]? = some call) :
    call.sequenceNumber = none ∧ call.response = none ∧ next.Refused call.phase := by
  obtain ⟨hnumber, hresponse, hrefused⟩ := h.calls index call hfirst hcall
  exact ⟨hnumber, hresponse, hlasts.refused hrefused⟩

theorem Absorbed.step {first : Nat} (h : Absorbed first live)
    (hnext : live.step action = some next) : Absorbed first next := by
  have hlasts := lasts_of_step hnext
  refine ⟨hlasts.isComplete h.complete, ?_, ?_⟩
  · cases step_eq_some hnext with
    | start request =>
        rw [Session.sendAccountingRequest, List.length_append]
        exact Nat.le_add_right_of_le h.started
    | poll index poll call session duplexChannel hcall hpolled =>
        obtain ⟨call', hcalls, -⟩ := hpolled.move
        rw [hcalls, List.length_set]
        exact h.started
    | deliver | environment => exact h.started
  · intro index call hfirst hcall
    cases step_eq_some hnext with
    | start request =>
        rcases getElem?_append_singleton_cases hcall with ⟨-, rfl⟩ | hbefore
        · exact ⟨rfl, rfl, h.complete⟩
        · exact h.call_of_lasts hlasts hfirst hbefore
    | poll other poll polled session duplexChannel hpolling hpolled =>
        obtain ⟨moved, hcalls, -⟩ := hpolled.move
        by_cases hother : index = other
        · subst hother
          obtain ⟨hnumber, hresponse, hrefused⟩ := h.calls _ polled hfirst hpolling
          obtain ⟨call', hcalls', hnumber', hresponse', hrefused', -⟩ := hpolled.refused hrefused
          rw [hcalls', getElem?_set_of_some hpolling] at hcall
          obtain rfl := Option.some.inj hcall
          exact ⟨hnumber'.trans hnumber, hresponse'.trans hresponse, hrefused'⟩
        · rw [hcalls, List.getElem?_set_ne (Ne.symm hother)] at hcall
          exact h.call_of_lasts hlasts hfirst hcall
    | deliver | environment => exact h.call_of_lasts hlasts hfirst hcall

theorem Absorbed.ownerStep {first : Nat} {action : OwnerAction} (h : Absorbed first live)
    (hnext : live.ownerStep action = some next) : Absorbed first next := by
  cases action with
  | session action => exact h.step hnext
  | complete =>
      have hlasts := lasts_of_ownerStep hnext
      obtain rfl := Option.some.inj hnext
      exact ⟨hlasts.isComplete h.complete, h.started, fun _ _ => h.call_of_lasts hlasts⟩

/-- The polls of such a call leave the channels and the counter as they are. -/
theorem Absorbed.poll_eq {first index : Nat} {poll : Poll} (h : Absorbed first live)
    (hfirst : first ≤ index) (hnext : live.step (.poll index poll) = some next) :
    next.duplexChannel = live.duplexChannel ∧
      next.session.currentSequenceNumber = live.session.currentSequenceNumber := by
  cases step_eq_some hnext with
  | poll _ _ call session duplexChannel hcall hpolled =>
      obtain ⟨-, -, hrefused⟩ := h.calls index call hfirst hcall
      obtain ⟨-, -, -, -, -, hchannel, hnumber⟩ := hpolled.refused hrefused
      exact ⟨hchannel, hnumber⟩
  | environment _ _ _ _ haction => simp at haction

end Step

/-- The call stands at one of the checks of `is_complete`, and its next poll can be taken unless
it waits there for the lock on the receiver. -/
def AtCheck (live : LiveSession) (index : Nat) (call : Call) : Prop :=
  call.phase.beforeDraw = true ∧ call.phase ≠ .drawing ∧
    ((∃ poll next, poll ≠ .abandon ∧ live.step (.poll index poll) = some next) ∨
      call.phase = .checkingReceiver ∧ ¬ live.session.receiverLock.CanRead index)

theorem Refused.cases {live : LiveSession} {index : Nat} {call : Call}
    (hcall : live.session.calls[index]? = some call) (h : live.Refused call.phase) :
    call.phase = .returned (.err Session.alreadyComplete) ∨ call.phase = .abandoned ∨
      live.AtCheck index call := by
  have hcheck (poll : Poll) (hpoll : poll ≠ .abandon) (hbefore : call.phase.beforeDraw = true)
      (hdraw : call.phase ≠ .drawing)
      (hsome : (live.session.poll live.duplexChannel index poll).isSome = true) :
      live.AtCheck index call := by
    obtain ⟨next, hnext⟩ := Option.isSome_iff_exists.mp hsome
    refine ⟨hbefore, hdraw, .inl ⟨poll, ⟨next.1, next.2⟩, hpoll, ?_⟩⟩
    rw [step, hnext, Option.map_some]
  cases hphase : call.phase with
  | checkingSender =>
      refine .inr (.inr (hcheck .checkSender (by simp) ?_ ?_ ?_))
      all_goals simp [hphase, CallPhase.beforeDraw, Session.poll, hcall]
  | joiningRead =>
      refine .inr (.inr (hcheck .joinRead (by simp) ?_ ?_ ?_))
      all_goals simp [hphase, CallPhase.beforeDraw, Session.poll, hcall]
  | checkingReceiver =>
      by_cases hcan : live.session.receiverLock.CanRead index
      · refine .inr (.inr (hcheck .checkReceiver (by simp) ?_ ?_ ?_))
        · simp [hphase, CallPhase.beforeDraw]
        · simp [hphase]
        · simp only [Session.poll, hcall, hphase, Session.pollCheckReceiver, if_pos hcan]
          split <;> rfl
      · exact .inr (.inr ⟨by rw [hphase]; rfl, by simp [hphase], .inr ⟨hphase, hcan⟩⟩)
  | checkingComplete =>
      refine .inr (.inr (hcheck .checkComplete (by simp) ?_ ?_ ?_))
      all_goals simp [hphase, CallPhase.beforeDraw, Session.poll, hcall]
  | returned result =>
      rw [hphase] at h
      exact .inl (congrArg CallPhase.returned h)
  | abandoned => exact .inr (.inl rfl)
  | drawing | sending | joiningWrite | acquiring | receiving | completing =>
      rw [hphase] at h
      exact h.elim

/-- Once `is_complete` has returned true, no call that starts later gets past its own check: it
returns the error, is abandoned, or stands at a check, where nothing but the lock on the receiver
can hold it up. It draws no number, queues no packet and takes none. -/
theorem completion_absorbing {sessionId : UInt32} {before after : List OwnerAction}
    {mid live : LiveSession} (hbefore : run ownerStep (.new sessionId) before = some mid)
    (hcomplete : ∃ call ∈ mid.session.calls, call.FoundComplete)
    (hafter : run ownerStep mid after = some live) :
    ∀ (index : Nat) (call : Call), mid.session.calls.length ≤ index →
      live.session.calls[index]? = some call →
        call.sequenceNumber = none ∧ call.response = none ∧
          (call.phase = .returned (.err Session.alreadyComplete) ∨ call.phase = .abandoned ∨
            live.AtCheck index call) ∧
          ∀ poll next, live.step (.poll index poll) = some next →
            next.duplexChannel = live.duplexChannel ∧
              next.session.currentSequenceNumber = live.session.currentSequenceNumber := by
  have hchecked : Checked mid := by
    apply invariant_of_run (checked_new sessionId) _ hbefore
    exact fun reached action next hreached hnext => hreached.ownerStep hnext
  obtain ⟨found, hmem, hcomplete⟩ := hcomplete
  obtain ⟨place, hfound⟩ := List.mem_iff_getElem?.mp hmem
  have hmid := hchecked.isComplete hfound hcomplete
  have habsorbed : Absorbed mid.session.calls.length live := by
    apply invariant_of_run (absorbed_start hmid) _ hafter
    exact fun reached action next hreached hnext => hreached.ownerStep hnext
  intro index call hfirst hcall
  obtain ⟨hnumber, hresponse, hrefused⟩ := habsorbed.calls index call hfirst hcall
  exact ⟨hnumber, hresponse, hrefused.cases hcall,
    fun poll next hnext => habsorbed.poll_eq hfirst hnext⟩

/-- The owner completes the session, and a call finds it complete. -/
def completedRun : List OwnerAction :=
  .complete :: ((pollsToSend 0).take 5).map .session

theorem completion_absorbing_completedRun :
    ∃ mid live, run ownerStep (.new 7) completedRun = some mid ∧
      run ownerStep mid (((pollsToSend 1).take 5).map .session) = some live ∧
      ∀ (index : Nat) (call : Call), mid.session.calls.length ≤ index →
        live.session.calls[index]? = some call →
          call.sequenceNumber = none ∧ call.response = none ∧
            (call.phase = .returned (.err Session.alreadyComplete) ∨ call.phase = .abandoned ∨
              live.AtCheck index call) ∧
            ∀ poll next, live.step (.poll index poll) = some next →
              next.duplexChannel = live.duplexChannel ∧
                next.session.currentSequenceNumber = live.session.currentSequenceNumber := by
  have hfound : (run ownerStep (.new 7) completedRun).map (fun mid => mid.session.calls[0]?) =
      some (some ⟨Tacon.accountingRequest "admin" "tty0" "10.0.0.1" "ls" none, none, none,
        .returned (.err Session.alreadyComplete)⟩) := by decide +kernel
  obtain ⟨mid, hbefore, hcall⟩ := Option.map_eq_some_iff.mp hfound
  have hsome : (run ownerStep (.new 7) (completedRun ++
      ((pollsToSend 1).take 5).map .session)).isSome = true := by decide +kernel
  obtain ⟨live, hrun⟩ := Option.isSome_iff_exists.mp hsome
  obtain ⟨mid', hmid, hafter⟩ := run_append_eq_some_iff.mp hrun
  obtain rfl := Option.some.inj (hbefore.symm.trans hmid)
  exact ⟨mid, live, hbefore, hafter, completion_absorbing hbefore
    ⟨_, List.mem_of_getElem? hcall, rfl, rfl⟩ hafter⟩

/-- One call waits for a reply and keeps the lock on the receiver, for which another one waits at
its check. -/
structure Held (waiter held : Nat) (live : LiveSession) : Prop where
  inside : live.session.receiverLock.writer = some waiter
  waiting : ∃ call, live.session.calls[waiter]? = some call ∧ call.phase = .receiving
  unanswered : live.duplexChannel.receiver.recv = .pending
  checking : ∃ call, live.session.calls[held]? = some call ∧ call.phase = .checkingReceiver

/-- What does not end the wait of either call: no packet comes for the session, its sender is not
dropped, and neither call is abandoned. -/
def LeavesWaiting (waiter held : Nat) (action : OwnerAction) : Prop :=
  (∀ packet, action ≠ .session (.deliver packet)) ∧ action ≠ .session .disconnect ∧
    action ≠ .session (.poll waiter .abandon) ∧ action ≠ .session (.poll held .abandon)

section Held

variable {live next : LiveSession} {waiter held : Nat}

/-- A poll of another call leaves both where they are. -/
theorem Held.polled_other (h : Held waiter held live) {index : Nat} {call : Call} {poll : Poll}
    {session : Session} {duplexChannel : DuplexChannel} (hwaiter : index ≠ waiter)
    (hheld : index ≠ held)
    (hpolled : Session.Polled live.session live.duplexChannel index call poll session
      duplexChannel) : Held waiter held ⟨session, duplexChannel⟩ := by
  obtain ⟨call', hcalls, hmove⟩ := hpolled.move
  have hother {other : Nat} (hne : index ≠ other) :
      session.calls[other]? = live.session.calls[other]? := by
    rw [hcalls, List.getElem?_set_ne hne]
  constructor
  case inside => exact hmove.writer_eq h.inside hwaiter
  case waiting =>
    obtain ⟨waiting, hwaiting, hphase⟩ := h.waiting
    exact ⟨waiting, (hother hwaiter).trans hwaiting, hphase⟩
  case unanswered => exact (hpolled.receiver_eq h.unanswered).symm ▸ h.unanswered
  case checking =>
    obtain ⟨checking, hchecking, hphase⟩ := h.checking
    exact ⟨checking, (hother hheld).trans hchecking, hphase⟩

/-- The only poll that either call could take is its end. -/
theorem Held.ne_of_polled (h : Held waiter held live) {index : Nat} {call : Call} {poll : Poll}
    {session : Session} {duplexChannel : DuplexChannel}
    (hcall : live.session.calls[index]? = some call)
    (hpolled : Session.Polled live.session live.duplexChannel index call poll session
      duplexChannel) (hpoll : poll ≠ .abandon) : index ≠ waiter ∧ index ≠ held := by
  constructor
  · rintro rfl
    obtain ⟨waiting, hwaiting, hphase⟩ := h.waiting
    obtain rfl := Option.some.inj (hwaiting.symm.trans hcall)
    exact hpolled.ne_receiving h.unanswered hpoll hphase
  · rintro rfl
    obtain ⟨checking, hchecking, hphase⟩ := h.checking
    obtain rfl := Option.some.inj (hchecking.symm.trans hcall)
    refine hpolled.ne_checkingReceiver ?_ hpoll hphase
    simp [RwLock.CanRead, h.inside]

theorem Held.ownerStep {action : OwnerAction} (h : Held waiter held live)
    (hleaves : LeavesWaiting waiter held action) (hnext : live.ownerStep action = some next) :
    Held waiter held next := by
  obtain ⟨hdeliver, hdisconnect, hwaiter, hheld⟩ := hleaves
  have hkeep (sender : PacketChannel) : Held waiter held
      ⟨live.session, ⟨sender, live.duplexChannel.receiver⟩⟩ :=
    ⟨h.inside, h.waiting, h.unanswered, h.checking⟩
  cases action with
  | complete =>
      obtain rfl := Option.some.inj hnext
      exact ⟨h.inside, h.waiting, h.unanswered, h.checking⟩
  | session action =>
      cases action with
      | sendAccountingRequest request =>
          obtain rfl := Option.some.inj hnext
          obtain ⟨waiting, hwaiting, hreceiving⟩ := h.waiting
          obtain ⟨checking, hchecking, hphase⟩ := h.checking
          exact ⟨h.inside, ⟨waiting, getElem?_append_of_some hwaiting _, hreceiving⟩,
            h.unanswered, ⟨checking, getElem?_append_of_some hchecking _, hphase⟩⟩
      | poll index poll =>
          obtain ⟨⟨session, duplexChannel⟩, hpoll, rfl⟩ := Option.map_eq_some_iff.mp hnext
          obtain ⟨call, hcall, hpolled⟩ := Session.poll_eq_some hpoll
          by_cases habandon : poll = .abandon
          · subst habandon
            refine h.polled_other ?_ ?_ hpolled
            · rintro rfl
              exact hwaiter rfl
            · rintro rfl
              exact hheld rfl
          · obtain ⟨hne, hne'⟩ := h.ne_of_polled hcall hpolled habandon
            exact h.polled_other hne hne' hpolled
      | deliver packet => exact absurd rfl (hdeliver packet)
      | disconnect => exact absurd rfl hdisconnect
      | queueOther packet =>
          obtain ⟨sender, -, rfl⟩ := queueOther_eq_some hnext
          exact hkeep sender
      | takeOutgoing =>
          obtain ⟨packet, sender, -, rfl⟩ := takeOutgoing_eq_some hnext
          exact hkeep sender
      | closeOutgoing =>
          obtain rfl := Option.some.inj hnext
          exact hkeep _

end Held

/-- The session is complete, and a call finds it so while another one, which has made its check
before, has its number still to draw. -/
def foundCompleteRun : List Action := completingRun ++ (pollsToSend 2).take 5

/-- That other call sends its request and waits for a reply; a new call starts. -/
def heldRun : List Action :=
  [.poll 1 .draw, .poll 1 .send, .poll 1 .joinWrite, .poll 1 .acquire] ++ (pollsToSend 3).take 3

/-- The new call does not return as long as no packet comes for the other one. -/
theorem heldRun_never_returns :
    ∃ mid live, run ownerStep (.new 7) (foundCompleteRun.map .session) = some mid ∧
      (∃ call ∈ mid.session.calls, call.FoundComplete) ∧ mid.session.calls.length = 3 ∧
        run ownerStep mid (heldRun.map .session) = some live ∧
          ∀ actions final, (∀ action ∈ actions, LeavesWaiting 1 3 action) →
            run ownerStep live actions = some final →
              ∃ call, final.session.calls[3]? = some call ∧ call.phase = .checkingReceiver := by
  have hfound : (run ownerStep (.new 7) (foundCompleteRun.map .session)).map (fun mid =>
      (mid.session.calls[2]?.map fun call => (call.phase, call.sequenceNumber),
        mid.session.calls.length)) =
      some (some (.returned (.err Session.alreadyComplete), none), 3) := by decide +kernel
  obtain ⟨mid, hmid, hcalls⟩ := Option.map_eq_some_iff.mp hfound
  obtain ⟨hcall, hlength⟩ := Prod.mk.inj hcalls
  obtain ⟨call, hcall, hfields⟩ := Option.map_eq_some_iff.mp hcall
  obtain ⟨hphase, hnone⟩ := Prod.mk.inj hfields
  have hlive : (run ownerStep (.new 7) ((foundCompleteRun ++ heldRun).map .session)).map
      (fun live => (live.session.receiverLock.writer,
        live.session.calls[1]?.map Call.phase, live.session.calls[3]?.map Call.phase,
        live.duplexChannel.receiver.queue, live.duplexChannel.receiver.sendersDropped)) =
      some (some 1, some .receiving, some .checkingReceiver, [], false) := by decide +kernel
  obtain ⟨live, hrun, hfields⟩ := Option.map_eq_some_iff.mp hlive
  simp only [Prod.mk.injEq] at hfields
  obtain ⟨hinside, hwaiting, hchecking, hempty, hconnected⟩ := hfields
  rw [List.map_append] at hrun
  obtain ⟨mid', hmid', hafter⟩ := run_append_eq_some_iff.mp hrun
  obtain rfl := Option.some.inj (hmid.symm.trans hmid')
  refine ⟨mid, live, hmid, ⟨call, List.mem_of_getElem? hcall, hphase, hnone⟩, hlength, hafter, ?_⟩
  have hheld : Held 1 3 live := ⟨hinside, Option.map_eq_some_iff.mp hwaiting,
    Channel.recv_eq_pending_iff.mpr ⟨hempty, hconnected⟩, Option.map_eq_some_iff.mp hchecking⟩
  intro actions final hleaves hfinal
  have hkept : Held 1 3 final := by
    apply invariant_of_meets hheld _ (meets_of_forall fun action hmem _ => hleaves action hmem)
      hfinal
    exact fun reached action next hreached hallowed hnext => hreached.ownerStep hallowed hnext
  exact hkept.checking

end LiveSession

namespace Connection

variable {connection next : Connection} {action : Action} {index : Nat} {sessionId : UInt32}

/-- The session at `index` has come to where it is by a run of its own. -/
structure OwnRun (index : Nat) (sessionId : UInt32) (connection : Connection) : Prop where
  matched : connection.Matched
  reached : connection.HasId index sessionId →
    ∃ seen, run LiveSession.ownerStep (.new sessionId) seen =
      some (connection.view index sessionId)

theorem ownRun_new (index : Nat) (sessionId : UInt32) : OwnRun index sessionId .new where
  matched := matched_new
  reached := fun _ => ⟨[], rfl⟩

theorem OwnRun.step (h : connection.OwnRun index sessionId)
    (hstep : Step connection action next) : next.OwnRun index sessionId where
  matched := h.matched.step hstep
  reached := by
    intro hid
    obtain ⟨before, hbefore⟩ := h.reached (hid.of_step hstep)
    obtain ⟨after, hafter⟩ := h.matched.visible_step hstep hid
    refine ⟨before ++ after.map .session, run_append_eq_some_iff.mpr ⟨_, hbefore, ?_⟩⟩
    exact (run_map LiveSession.OwnerAction.session fun _ _ => rfl).trans hafter

theorem OwnRun.complete (h : connection.OwnRun index sessionId) {other : Nat} {session : Session}
    (hsession : connection.sessions[other]? = some session) :
    OwnRun index sessionId
      { connection with sessions := connection.sessions.set other session.complete } where
  matched := h.matched.complete hsession
  reached := by
    intro hid
    obtain ⟨before, hbefore⟩ := h.reached hid
    by_cases hother : other = index
    · subst hother
      refine ⟨before ++ [.complete], run_concat_eq_some_iff.mpr ⟨_, hbefore, ?_⟩⟩
      simp [LiveSession.ownerStep, view, hsession, getElem?_set_of_some hsession]
    · have hsame : (connection.sessions.set other session.complete)[index]? =
          connection.sessions[index]? := List.getElem?_set_ne hother
      refine ⟨before, hbefore.trans (congrArg some ?_)⟩
      simp only [view, hsame]

theorem OwnRun.queue (h : connection.OwnRun index sessionId) {request : Packet}
    (hopen : connection.sessionManager.outgoing.receiverDropped = false)
    (hroom : connection.sessionManager.outgoing.HasRoom) :
    OwnRun index sessionId { connection with sessionManager := { connection.sessionManager with
      outgoing := connection.sessionManager.outgoing.push request hroom } } where
  matched := h.matched.queue hroom
  reached := by
    intro hid
    obtain ⟨before, hbefore⟩ := h.reached hid
    refine ⟨before ++ [.session (.queueOther request)],
      run_concat_eq_some_iff.mpr ⟨_, hbefore, ?_⟩⟩
    have hsend : connection.sessionManager.outgoing.send request =
        .sent (connection.sessionManager.outgoing.push request hroom) :=
      Channel.send_eq_sent_iff.mpr ⟨hopen, hroom, rfl⟩
    simp [LiveSession.ownerStep, LiveSession.step, view, hsend]

end Connection

namespace RunningConnection

variable {md5 : List UInt8 → Digest} {obfuscationKey : Option (List UInt8)}
  {actions : List Action} {running : RunningConnection} {index : Nat} {session : Session}

/-- In every run, what a session has seen is a run of that session and its owner alone. -/
theorem exists_run_view (hrun : Rust.run (step md5 obfuscationKey) new actions = some running)
    (hsession : running.connection.sessions[index]? = some session) :
    ∃ seen, Rust.run LiveSession.ownerStep (.new session.sessionId) seen =
      some (running.connection.view index session.sessionId) := by
  have hown : running.connection.OwnRun index session.sessionId := by
    refine connection_invariant_of_run (Connection.ownRun_new index session.sessionId) ?_ ?_ ?_
      hrun
    · exact fun connection action next h hstep => h.step hstep
    · exact fun connection other completed h hcompleted => h.complete hcompleted
    · exact fun connection request h hopen hroom => h.queue hopen hroom
  apply hown.reached
  intro id hid
  rw [← hown.matched.ids, List.getElem?_map, hsession] at hid
  exact (Option.some.inj hid).symm

end RunningConnection

end TacacsRs.Networking
