import TacacsRs.Networking.Progress
import TacacsRs.Networking.ReplyOrigin
import TacacsRs.Networking.ReplyPairing

/-!
# In which order the calls of a session take packets

A call that has queued its request joins the line for the receiver once, and
the lock lets the line in first come, first served. So the packets of a session
go to its calls in the order in which they have joined, whatever the reader, the
writer and the owners do in between; a call that gives up leaves the others
their places.
-/

namespace TacacsRs.Networking

open Rust Messages

namespace Session

variable {session next : Session} {duplexChannel duplexChannel' : DuplexChannel} {index : Nat}
  {call : Call} {poll : Poll}

/-- No poll sends a call back. -/
theorem Polled.remaining_le
    (h : Polled session duplexChannel index call poll next duplexChannel') :
    ∃ call', next.calls = session.calls.set index call' ∧
      call'.phase.remaining ≤ call.phase.remaining := by
  by_cases habandon : poll = .abandon
  · subst habandon
    cases h with
    | abandon => exact ⟨_, rfl, Nat.zero_le _⟩
  · obtain ⟨call', hcalls, hless⟩ := h.remaining_lt habandon
    exact ⟨call', hcalls, hless.le⟩

/-- A poll puts its call at the end of the line, or takes it out, or leaves the line alone. -/
theorem Polled.expecting_cases
    (h : Polled session duplexChannel index call poll next duplexChannel')
    (htracked : session.Tracked) (hcall : session.calls[index]? = some call) :
    (poll = .joinWrite ∧ call.phase = .joiningWrite ∧
        next.expecting = session.expecting ++ [index]) ∨
      (poll ≠ .joinWrite ∧ call.phase ≠ .receiving ∧ next.expecting = session.expecting) ∨
      (poll ≠ .joinWrite ∧
        next.expecting = session.expecting.filter fun other => other ≠ index) := by
  have hleave := RwLock.line_leave session.receiverLock index
  cases h with
  | joinWrite hphase =>
      exact .inl ⟨rfl, hphase, expecting_of_join htracked hcall (by rw [hphase]; rfl) rfl
        (RwLock.line_join_write _ _) rfl⟩
  | senderClosed hphase | senderOpen hphase | complete hphase | incomplete hphase
  | queue packet hphase | queueClosed packet hphase =>
      exact .inr (.inl ⟨by simp, by simp [hphase],
        expecting_of_same hcall rfl rfl (by rw [hphase]; rfl)⟩)
  | draw phase hphase hnext =>
      have hawaits : phase.awaitsReply = false := by
        rcases hnext with ⟨packet, rfl, -⟩ | ⟨error, rfl⟩ | rfl <;> rfl
      exact .inr (.inl ⟨by simp, by simp [hphase],
        expecting_of_same hcall rfl rfl (by rw [hphase]; exact hawaits)⟩)
  | joinRead hphase =>
      exact .inr (.inl ⟨by simp, by simp [hphase],
        expecting_of_same hcall rfl (RwLock.line_join_read _ _) (by rw [hphase]; rfl)⟩)
  | acquire hphase hcan =>
      exact .inr (.inl ⟨by simp, by simp [hphase],
        expecting_of_same hcall rfl (RwLock.line_acquire hcan) (by rw [hphase]; rfl)⟩)
  | reply response receiver reply hphase =>
      exact .inr (.inr ⟨by simp, expecting_of_done hcall rfl (.inl rfl) rfl⟩)
  | receiverClosed | receiverOpen | closed | malformed | succeed | abandon =>
      exact .inr (.inr ⟨by simp, expecting_of_done hcall rfl (.inr hleave) rfl⟩)

theorem expecting_sendAccountingRequest (session : Session) (request : AccountingRequest) :
    (session.sendAccountingRequest request).expecting = session.expecting := by
  have hawaits : (session.sendAccountingRequest request).awaitsReply = session.awaitsReply :=
    getD_map_append _ rfl
  rw [expecting, hawaits]
  rfl

end Session

namespace LiveSession

/-- The call that the action puts in line for the receiver. -/
def OwnerAction.joins : OwnerAction → List Nat
  | .session (.poll index .joinWrite) => [index]
  | _ => []

/-- The calls that have joined the line, in their order. -/
def joined (actions : List OwnerAction) : List Nat := actions.flatMap OwnerAction.joins

theorem joined_concat (actions : List OwnerAction) (action : OwnerAction) :
    joined (actions ++ [action]) = joined actions ++ action.joins := by
  simp [joined]

theorem joins_eq_nil {action : Action} (h : ∀ index poll, action ≠ .poll index poll) :
    (OwnerAction.session action).joins = [] := by
  cases action with
  | poll index poll => exact absurd rfl (h index poll)
  | _ => rfl

/-- Each call joins the line once, behind its request. -/
structure JoinedOnce (joined : List Nat) (session : Session) : Prop where
  nodup : joined.Nodup
  behind : ∀ index ∈ joined, ∃ call, session.calls[index]? = some call ∧
    call.phase.remaining ≤ CallPhase.acquiring.remaining

/-- The calls have taken packets, and are going to, in the order in which they have joined. -/
structure InTurn (joined takers : List Nat) (live : LiveSession) : Prop where
  answered : Answered takers live
  tracked : live.session.Tracked
  once : JoinedOnce joined live.session
  turns : List.Sublist (takers ++ live.session.expecting) joined

theorem inTurn_new (sessionId : UInt32) : InTurn [] [] (.new sessionId) where
  answered := answered_new sessionId
  tracked := Session.tracked_new sessionId
  once := ⟨List.nodup_nil, by simp⟩
  turns := by simp [new, Session.new, Session.expecting, RwLock.new, RwLock.line]

section Step

variable {live next : LiveSession} {session : Session} {duplexChannel : DuplexChannel}
  {line takers : List Nat} {index : Nat} {call : Call} {poll : Poll}

theorem JoinedOnce.calls (h : JoinedOnce line live.session)
    (hcalls : ∀ (index : Nat) (call : Call), live.session.calls[index]? = some call →
      ∃ call' : Call, session.calls[index]? = some call' ∧
        call'.phase.remaining ≤ call.phase.remaining) : JoinedOnce line session where
  nodup := h.nodup
  behind := by
    intro index hmem
    obtain ⟨call, hcall, hbehind⟩ := h.behind index hmem
    obtain ⟨call', hcall', hless⟩ := hcalls index call hcall
    exact ⟨call', hcall', hless.trans hbehind⟩

theorem JoinedOnce.polled (h : JoinedOnce line live.session)
    (hcall : live.session.calls[index]? = some call)
    (hpolled : Session.Polled live.session live.duplexChannel index call poll session
      duplexChannel) : JoinedOnce line session := by
  obtain ⟨call', hcalls, hless⟩ := hpolled.remaining_le
  refine h.calls fun other before hbefore => ?_
  rw [hcalls]
  by_cases hother : other = index
  · subst hother
    obtain rfl := Option.some.inj (hcall.symm.trans hbefore)
    exact ⟨call', getElem?_set_of_some hcall call', hless⟩
  · rw [List.getElem?_set_ne (Ne.symm hother)]
    exact ⟨before, hbefore, Nat.le_refl _⟩

theorem JoinedOnce.join (h : JoinedOnce line live.session)
    (hcall : live.session.calls[index]? = some call) (hphase : call.phase = .joiningWrite)
    (hpolled : Session.Polled live.session live.duplexChannel index call .joinWrite session
      duplexChannel) : JoinedOnce (line ++ [index]) session where
  nodup := by
    have hfresh : index ∉ line := by
      intro hmem
      obtain ⟨before, hbefore, hbehind⟩ := h.behind index hmem
      obtain rfl := Option.some.inj (hcall.symm.trans hbefore)
      rw [hphase] at hbehind
      exact absurd hbehind (by decide)
    exact List.nodup_append_comm.mp (List.nodup_cons.mpr ⟨hfresh, h.nodup⟩)
  behind := by
    intro other hmem
    rcases List.mem_append.mp hmem with hold | hnew
    · exact (h.polled hcall hpolled).behind other hold
    · obtain rfl := List.mem_singleton.mp hnew
      cases hpolled with
      | joinWrite => exact ⟨_, getElem?_set_of_some hcall _, Nat.le_refl _⟩

theorem InTurn.polled (h : InTurn line takers live)
    (hcall : live.session.calls[index]? = some call)
    (hpolled : Session.Polled live.session live.duplexChannel index call poll session
      duplexChannel) :
    ∃ takers', InTurn (line ++ (OwnerAction.session (.poll index poll)).joins) takers'
      ⟨session, duplexChannel⟩ := by
  have htracked : session.Tracked := h.tracked.polled hcall hpolled
  have honce := h.once.polled hcall hpolled
  have hnone (hpoll : poll ≠ .joinWrite) :
      line ++ (OwnerAction.session (.poll index poll)).joins = line := by
    cases poll with
    | joinWrite => exact absurd rfl hpoll
    | _ => exact List.append_nil line
  rcases hpolled.expecting_cases h.tracked hcall with
    ⟨rfl, hphase, hexpecting⟩ | ⟨hpoll, hphase, hexpecting⟩ | ⟨hpoll, hexpecting⟩
  · rcases h.answered.polled hcall hpolled with hsame | ⟨hreceiving, -⟩
    · refine ⟨takers, hsame, htracked, h.once.join hcall hphase hpolled, ?_⟩
      rw [hexpecting, ← List.append_assoc]
      exact h.turns.append (List.Sublist.refl [index])
    · simp [hphase] at hreceiving
  · rcases h.answered.polled hcall hpolled with hsame | ⟨hreceiving, -⟩
    · rw [hnone hpoll]
      refine ⟨takers, hsame, htracked, honce, ?_⟩
      rw [hexpecting]
      exact h.turns
    · exact absurd hreceiving hphase
  · rw [hnone hpoll]
    rcases h.answered.polled hcall hpolled with hsame | ⟨hreceiving, hmore⟩
    · refine ⟨takers, hsame, htracked, honce, ?_⟩
      rw [hexpecting]
      exact (List.filter_sublist.append_left takers).trans h.turns
    · -- the call that takes a packet was first in line
      obtain ⟨rest, hfirst, hrest⟩ := Session.expecting_of_receiving h.tracked hcall hreceiving
      refine ⟨takers ++ [index], hmore, htracked, honce, ?_⟩
      rw [hexpecting, hrest, List.append_assoc, List.singleton_append, ← hfirst]
      exact h.turns

theorem InTurn.ownerStep (h : InTurn line takers live) {action : OwnerAction}
    (hnext : live.ownerStep action = some next) :
    ∃ takers', InTurn (line ++ action.joins) takers' next := by
  have hsame (hnone : action.joins = []) (hanswered : Answered takers next)
      (htracked : next.session.Tracked)
      (hcalls : ∀ (index : Nat) (call : Call), live.session.calls[index]? = some call →
        next.session.calls[index]? = some call)
      (hexpecting : next.session.expecting = live.session.expecting) :
      ∃ takers', InTurn (line ++ action.joins) takers' next := by
    refine ⟨takers, hanswered, htracked, ?_, ?_⟩
    · rw [hnone, List.append_nil]
      exact h.once.calls fun index call hcall => ⟨call, hcalls index call hcall, Nat.le_refl _⟩
    · rw [hnone, List.append_nil, hexpecting]
      exact h.turns
  cases action with
  | complete =>
      obtain rfl := Option.some.inj hnext
      exact hsame rfl (h.answered.quiet rfl rfl) h.tracked (fun _ _ => id) rfl
  | session action =>
      have htracked := (step_eq_some hnext).tracked h.tracked
      rcases step_cases hnext with ⟨request, rfl, rfl⟩ | ⟨index, call, poll, rfl, hcall, hpolled⟩ |
        ⟨hpoll, hsession, hreceived⟩
      · exact hsame rfl (h.answered.start request) htracked
          (fun index call hcall => getElem?_append_of_some hcall _)
          (Session.expecting_sendAccountingRequest live.session request)
      · exact h.polled hcall hpolled
      · have hanswered := h.answered.quiet (congrArg Session.calls hsession) hreceived
        exact hsame (joins_eq_nil hpoll) hanswered htracked (fun _ _ => hsession ▸ id)
          (congrArg Session.expecting hsession)

/-- In every run of a session, whatever its environment does, the packets that it has received went
to its calls in the order in which the calls have joined the line for the receiver, one to each,
and the calls that are still in line come behind all of these, in the same order. -/
theorem packets_are_taken_in_turn {sessionId : UInt32} {actions : List OwnerAction}
    (hrun : run ownerStep (.new sessionId) actions = some live) :
    (joined actions).Nodup ∧
      ∃ takers, List.Sublist (takers ++ live.session.expecting) (joined actions) ∧
        Attributed (fun index packet => live.session.responseOf index = some packet) takers
          live.duplexChannel.receiver.received ∧
        ∀ index, live.session.responseOf index ≠ none → index ∈ takers := by
  have hturns : ∃ takers, InTurn (joined actions) takers live := by
    refine history_of_run (P := fun actions live => ∃ takers, InTurn (joined actions) takers live)
      ⟨[], inTurn_new sessionId⟩ ?_ hrun
    rintro before mid action next ⟨takers, hmid⟩ hnext
    rw [joined_concat]
    exact hmid.ownerStep hnext
  obtain ⟨takers, hturns⟩ := hturns
  exact ⟨hturns.once.nodup, takers, hturns.turns, hturns.answered.taken, hturns.answered.takers⟩

/-- The first call gives up its place before the reply comes, and the second one takes it. -/
theorem packets_are_taken_in_turn_staleReplyRun :
    ∃ live, run ownerStep (.new 7) (staleReplyRun.map .session) = some live ∧
      joined (staleReplyRun.map .session) = [0, 1] ∧
      live.duplexChannel.receiver.received = [SessionManager.replyTo 7] ∧
      (joined (staleReplyRun.map .session)).Nodup ∧
      ∃ takers,
        List.Sublist (takers ++ live.session.expecting) (joined (staleReplyRun.map .session)) ∧
        Attributed (fun index packet => live.session.responseOf index = some packet) takers
          live.duplexChannel.receiver.received ∧
        ∀ index, live.session.responseOf index ≠ none → index ∈ takers := by
  have hfacts : (run ownerStep (.new 7) (staleReplyRun.map .session)).map
      (fun live => live.duplexChannel.receiver.received) =
        some [SessionManager.replyTo 7] := by decide +kernel
  obtain ⟨live, hrun, hreceived⟩ := Option.map_eq_some_iff.mp hfacts
  exact ⟨live, hrun, by decide, hreceived, packets_are_taken_in_turn hrun⟩

end Step

end LiveSession

end TacacsRs.Networking
