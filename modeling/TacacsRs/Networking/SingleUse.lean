import TacacsRs.Networking.Numbering
import TacacsRs.Networking.ReplyPairing

/-!
# One success for each session

A call checks at its start that the session is not complete and marks it
complete at its end, with its send and its wait for the network in between. What
other calls that have made their check by then do is not looked at any more.
-/

namespace TacacsRs.Networking

open Rust Messages

/-- The call has found the session incomplete and is not over. -/
def CallPhase.admitted : CallPhase → Bool
  | .drawing => true
  | .sending _ => true
  | .joiningWrite => true
  | .acquiring => true
  | .receiving => true
  | .completing _ => true
  | _ => false

namespace Session

/-- What a poll means for the completion of the session: a call succeeds and completes it, or the
call stays or becomes admitted, the latter in an incomplete session only. -/
inductive Completes (session next : Session) (call call' : Call) : Poll → Prop where
  | succeed (reply : AccountingReply) (hphase : call.phase = .completing reply)
      (hreturned : call'.phase = .returned (.ok reply)) (hcomplete : next.sessionComplete = true) :
      Completes session next call call' .complete
  | other (poll : Poll) (hcomplete : next.sessionComplete = session.sessionComplete)
      (hreturned : ∀ reply, call'.phase ≠ .returned (.ok reply))
      (hadmitted : call'.phase.admitted = true →
        call.phase.admitted = true ∨ session.sessionComplete = false) :
      Completes session next call call' poll

theorem Polled.completes {session next : Session} {duplexChannel duplexChannel' : DuplexChannel}
    {index : Nat} {call : Call} {poll : Poll}
    (h : Polled session duplexChannel index call poll next duplexChannel') :
    ∃ call', next.calls = session.calls.set index call' ∧
      Completes session next call call' poll := by
  cases h with
  | senderClosed | senderOpen | joinRead | receiverClosed | receiverOpen | complete | queueClosed
  | closed | abandon =>
      exact ⟨_, rfl, .other _ rfl (by simp) (by simp [CallPhase.admitted])⟩
  | incomplete hphase hcomplete => exact ⟨_, rfl, .other _ rfl (by simp) fun _ => .inr hcomplete⟩
  | draw phase hphase hnext =>
      refine ⟨_, rfl, .other _ rfl ?_ fun _ => .inl (by rw [hphase]; rfl)⟩
      rcases hnext with ⟨packet, rfl, -⟩ | ⟨error, rfl⟩ | rfl <;> simp
  | queue packet hphase | joinWrite hphase | acquire hphase
  | reply response receiver reply hphase =>
      exact ⟨_, rfl, .other _ rfl (by simp) fun _ => .inl (by rw [hphase]; rfl)⟩
  | malformed response receiver result hphase hrecv hmalformed hresult =>
      exact ⟨_, rfl, .other _ rfl (by simpa using hresult) (by simp [CallPhase.admitted])⟩
  | succeed reply hphase => exact ⟨_, rfl, .succeed reply hphase rfl rfl⟩

end Session

namespace LiveSession

/-- A call that marks the session complete is the only one that is admitted. -/
def CompletesAlone (live : LiveSession) : Action → Prop
  | .poll index .complete => ∀ (other : Nat) (call : Call),
      live.session.calls[other]? = some call → call.phase.admitted = true → other = index
  | _ => True

instance decidableCompletesAlone (live : LiveSession) :
    ∀ action, Decidable (CompletesAlone live action)
  | .poll index .complete => decidable_of_iff
      (∀ other < live.session.calls.length, ∀ call ∈ live.session.calls[other]?,
        call.phase.admitted = true → other = index) <| by
      constructor
      · intro h other call hcall
        exact h other (List.getElem?_eq_some_iff.mp hcall).1 call hcall
      · exact fun h other _ call hcall => h other call hcall
  | .poll _ .checkSender | .poll _ .joinRead | .poll _ .checkReceiver | .poll _ .checkComplete
  | .poll _ .draw | .poll _ .send | .poll _ .joinWrite | .poll _ .acquire | .poll _ .receive
  | .poll _ .abandon | .sendAccountingRequest _ | .deliver _ | .disconnect | .queueOther _
  | .takeOutgoing | .closeOutgoing => .isTrue trivial

/-- A complete session has no admitted call, and only one call has completed it. -/
structure UsedOnce (live : LiveSession) : Prop where
  complete : ∀ (index : Nat) (call : Call) (reply : AccountingReply),
    live.session.calls[index]? = some call → call.phase = .returned (.ok reply) →
      live.session.sessionComplete = true
  admitted : live.session.sessionComplete = true → ∀ (index : Nat) (call : Call),
    live.session.calls[index]? = some call → call.phase.admitted = false
  unique : ∀ (index index' : Nat) (call call' : Call) (reply reply' : AccountingReply),
    live.session.calls[index]? = some call → call.phase = .returned (.ok reply) →
      live.session.calls[index']? = some call' → call'.phase = .returned (.ok reply') →
        index = index'

theorem usedOnce_new (sessionId : UInt32) : UsedOnce (.new sessionId) where
  complete := by simp [new, Session.new]
  admitted := by simp [new, Session.new]
  unique := by simp [new, Session.new]

section Step

variable {live next : LiveSession} {action : Action}

/-- The first success completes a session that no other call is admitted to. -/
theorem UsedOnce.succeed (h : UsedOnce live) {index : Nat} {call call' : Call}
    {reply : AccountingReply} {session : Session}
    (halone : live.CompletesAlone (.poll index .complete))
    (hcall : live.session.calls[index]? = some call) (hphase : call.phase = .completing reply)
    (hcalls : session.calls = live.session.calls.set index call')
    (hreturned : call'.phase = .returned (.ok reply)) (hcomplete : session.sessionComplete = true)
    (duplexChannel : DuplexChannel) : UsedOnce ⟨session, duplexChannel⟩ := by
  have hincomplete : live.session.sessionComplete ≠ true := by
    intro hbefore
    have hnone := h.admitted hbefore index call hcall
    rw [hphase] at hnone
    simp [CallPhase.admitted] at hnone
  have hfirst (other : Nat) (changed : Call) (reply' : AccountingReply)
      (hchanged : session.calls[other]? = some changed)
      (hok : changed.phase = .returned (.ok reply')) : other = index := by
    rw [hcalls] at hchanged
    rcases getElem?_set_cases hchanged with ⟨hother, -⟩ | ⟨-, hold⟩
    · exact hother
    · exact absurd (h.complete other changed reply' hold hok) hincomplete
  constructor
  case complete => exact fun _ _ _ _ _ => hcomplete
  case admitted =>
    intro _ other changed hchanged
    rw [hcalls] at hchanged
    rcases getElem?_set_cases hchanged with ⟨-, rfl⟩ | ⟨hne, hold⟩
    · rw [hreturned]
      rfl
    · by_contra hadmitted
      exact hne (halone other changed hold (Bool.not_eq_false _ ▸ hadmitted))
  case unique =>
    intro i j callI callJ replyI replyJ hi hokI hj hokJ
    exact (hfirst i callI replyI hi hokI).trans (hfirst j callJ replyJ hj hokJ).symm

/-- Any other change of a call keeps the session used at most once. -/
theorem UsedOnce.keep (h : UsedOnce live) {index : Nat} {call call' : Call} {session : Session}
    (hcall : live.session.calls[index]? = some call)
    (hcalls : session.calls = live.session.calls.set index call')
    (hcomplete : session.sessionComplete = live.session.sessionComplete)
    (hreturned : ∀ reply, call'.phase ≠ .returned (.ok reply))
    (hadmitted : call'.phase.admitted = true →
      call.phase.admitted = true ∨ live.session.sessionComplete = false)
    (duplexChannel : DuplexChannel) : UsedOnce ⟨session, duplexChannel⟩ := by
  have hbefore (other : Nat) (changed : Call) (reply : AccountingReply)
      (hchanged : session.calls[other]? = some changed)
      (hok : changed.phase = .returned (.ok reply)) :
      live.session.calls[other]? = some changed := by
    rw [hcalls] at hchanged
    rcases getElem?_set_cases hchanged with ⟨-, rfl⟩ | ⟨-, hold⟩
    · exact absurd hok (hreturned reply)
    · exact hold
  constructor
  case complete =>
    intro other changed reply hchanged hok
    exact hcomplete.trans (h.complete other changed reply (hbefore _ _ _ hchanged hok) hok)
  case admitted =>
    intro hnow other changed hchanged
    have hthen : live.session.sessionComplete = true := hcomplete ▸ hnow
    rw [hcalls] at hchanged
    rcases getElem?_set_cases hchanged with ⟨-, rfl⟩ | ⟨-, hold⟩
    · by_contra hagain
      rcases hadmitted (Bool.not_eq_false _ ▸ hagain) with hstill | hincomplete
      · rw [h.admitted hthen index call hcall] at hstill
        simp at hstill
      · simp [hthen] at hincomplete
    · exact h.admitted hthen other changed hold
  case unique =>
    intro i j callI callJ replyI replyJ hi hokI hj hokJ
    exact h.unique i j callI callJ replyI replyJ (hbefore _ _ _ hi hokI) hokI
      (hbefore _ _ _ hj hokJ) hokJ

theorem UsedOnce.step (h : UsedOnce live) (halone : live.CompletesAlone action)
    (hstep : Step live action next) : UsedOnce next := by
  cases hstep with
  | start request =>
      have hbefore (index : Nat) (call : Call) (reply : AccountingReply)
          (hcall : (live.session.sendAccountingRequest request).calls[index]? = some call)
          (hok : call.phase = .returned (.ok reply)) :
          live.session.calls[index]? = some call := by
        rcases getElem?_append_singleton_cases hcall with ⟨-, rfl⟩ | hold
        · simp at hok
        · exact hold
      constructor
      case complete =>
        intro index call reply hcall hok
        exact h.complete index call reply (hbefore _ _ _ hcall hok) hok
      case admitted =>
        intro hcomplete index call hcall
        rcases getElem?_append_singleton_cases hcall with ⟨-, rfl⟩ | hold
        · rfl
        · exact h.admitted hcomplete index call hold
      case unique =>
        intro i j callI callJ replyI replyJ hi hokI hj hokJ
        exact h.unique i j callI callJ replyI replyJ (hbefore _ _ _ hi hokI) hokI
          (hbefore _ _ _ hj hokJ) hokJ
  | poll index poll call session duplexChannel hcall hpolled =>
      obtain ⟨call', hcalls, hcompletes⟩ := hpolled.completes
      cases hcompletes with
      | succeed reply hphase hreturned hcomplete =>
          exact h.succeed halone hcall hphase hcalls hreturned hcomplete duplexChannel
      | other _ hcomplete hreturned hadmitted =>
          exact h.keep hcall hcalls hcomplete hreturned hadmitted duplexChannel
  | deliver | environment => exact ⟨h.complete, h.admitted, h.unique⟩

/-- No call of a complete session queues a packet. -/
theorem UsedOnce.sent_eq (h : UsedOnce live) (hcomplete : live.session.sessionComplete = true)
    {index : Nat} {poll : Poll} (hnext : live.step (.poll index poll) = some next) :
    next.duplexChannel.sender.sent = live.duplexChannel.sender.sent := by
  cases step_eq_some hnext with
  | poll _ _ call session duplexChannel hcall hpolled =>
      obtain ⟨call', -, -, hnumbers⟩ := hpolled.numbers
      rcases hnumbers.queued with hsame | ⟨packet, -, hphase, -⟩
      · exact hsame
      · have hnone := h.admitted hcomplete index call hcall
        rw [hphase] at hnone
        simp [CallPhase.admitted] at hnone
  | environment _ _ _ _ haction => simp at haction

end Step

/-- In every run in which each call that completes the session is then the only admitted one, at
most one call ever returns a reply, and no call queues a packet once the session is complete. -/
theorem used_up_by_one_success {sessionId : UInt32} {actions : List Action} {live : LiveSession}
    (hmeets : Meets step CompletesAlone (.new sessionId) actions)
    (hrun : run step (.new sessionId) actions = some live) :
    (∀ (index index' : Nat) (call call' : Call) (reply reply' : AccountingReply),
      live.session.calls[index]? = some call → call.phase = .returned (.ok reply) →
        live.session.calls[index']? = some call' → call'.phase = .returned (.ok reply') →
          index = index') ∧
      ∀ before index poll, before ++ [.poll index poll] <+: actions →
        ∀ mid next, run step (.new sessionId) before = some mid →
          mid.session.sessionComplete = true → mid.step (.poll index poll) = some next →
            next.duplexChannel.sender.sent = mid.duplexChannel.sender.sent := by
  have hused (before : List Action) (hpre : before <+: actions) (mid : LiveSession)
      (hmid : run step (.new sessionId) before = some mid) : UsedOnce mid := by
    apply invariant_of_meets (usedOnce_new sessionId) _ (hmeets.of_prefix hpre) hmid
    intro reached action next hreached halone hstep
    exact hreached.step halone (step_eq_some hstep)
  refine ⟨(hused actions List.prefix_rfl live hrun).unique, ?_⟩
  intro before index poll hpre mid next hmid hcomplete hnext
  have hbefore : before <+: actions := (List.prefix_append before _).trans hpre
  exact (hused before hbefore mid hmid).sent_eq hcomplete hnext

/-- Two calls begin, the first one gets its reply and succeeds, and the second one makes its check
then. -/
def usedUpRun : List Action :=
  pollsToSend 0 ++ (pollsToSend 1).take 2 ++ [.poll 0 .joinWrite, .poll 0 .acquire,
    .deliver (SessionManager.replyTo 7), .poll 0 .receive, .poll 0 .complete] ++
    ((pollsToSend 1).take 5).drop 2

theorem used_up_by_one_success_usedUpRun :
    ∃ live, run step (.new 7) usedUpRun = some live ∧
      (live.session.calls.map Call.phase =
          [.returned (.ok ⟨.tacPlusAcctStatusSuccess, "", ""⟩),
            .returned (.err (.msg "Session is already complete"))] ∧
        live.duplexChannel.sender.sent.length = 1) ∧
      (∀ (index index' : Nat) (call call' : Call) (reply reply' : AccountingReply),
        live.session.calls[index]? = some call → call.phase = .returned (.ok reply) →
          live.session.calls[index']? = some call' → call'.phase = .returned (.ok reply') →
            index = index') ∧
        ∀ before index poll, before ++ [.poll index poll] <+: usedUpRun →
          ∀ mid next, run step (.new 7) before = some mid →
            mid.session.sessionComplete = true → mid.step (.poll index poll) = some next →
              next.duplexChannel.sender.sent = mid.duplexChannel.sender.sent := by
  have hmeets : Meets step CompletesAlone (.new 7) usedUpRun := by decide +kernel
  have hcalls : (run step (.new 7) usedUpRun).map (fun live =>
      (live.session.calls.map Call.phase, live.duplexChannel.sender.sent.length)) =
        some ([.returned (.ok ⟨.tacPlusAcctStatusSuccess, "", ""⟩),
          .returned (.err (.msg "Session is already complete"))], 1) := by decide +kernel
  obtain ⟨live, hrun, hlive⟩ := Option.map_eq_some_iff.mp hcalls
  exact ⟨live, hrun, Prod.mk.inj hlive, used_up_by_one_success hmeets hrun⟩

/-- The second call makes its check before the first one, which has sent its request, takes the
receiver; the first one succeeds. -/
def completingRun : List Action :=
  pollsToSend 0 ++ (pollsToSend 1).take 5 ++ [.poll 0 .joinWrite, .poll 0 .acquire,
    .deliver (SessionManager.replyTo 7), .poll 0 .receive, .poll 0 .complete]

/-- The first call has completed the session; the second one sends its request, gets a reply and
succeeds as well. -/
def overlappingRun : List Action :=
  completingRun ++ [.poll 1 .draw, .poll 1 .send, .poll 1 .joinWrite, .poll 1 .acquire,
    .deliver (SessionManager.replyTo 7), .poll 1 .receive, .poll 1 .complete]

theorem overlappingRun_succeeds_twice :
    (∃ completed, run step (.new 7) completingRun = some completed ∧
        completed.session.sessionComplete = true ∧
          completed.duplexChannel.sender.sent.length = 1) ∧
      ∃ live, run step (.new 7) overlappingRun = some live ∧
        live.duplexChannel.sender.sent.length = 2 ∧
          live.session.calls.map Call.phase =
            [.returned (.ok ⟨.tacPlusAcctStatusSuccess, "", ""⟩),
              .returned (.ok ⟨.tacPlusAcctStatusSuccess, "", ""⟩)] := by
  have hcompleted : (run step (.new 7) completingRun).map (fun completed =>
      (completed.session.sessionComplete, completed.duplexChannel.sender.sent.length)) =
        some (true, 1) := by decide +kernel
  have hlive : (run step (.new 7) overlappingRun).map (fun live =>
      (live.duplexChannel.sender.sent.length, live.session.calls.map Call.phase)) =
        some (2, [.returned (.ok ⟨.tacPlusAcctStatusSuccess, "", ""⟩),
          .returned (.ok ⟨.tacPlusAcctStatusSuccess, "", ""⟩)]) := by decide +kernel
  obtain ⟨completed, hbefore, hfirst⟩ := Option.map_eq_some_iff.mp hcompleted
  obtain ⟨live, hrun, hsecond⟩ := Option.map_eq_some_iff.mp hlive
  obtain ⟨hcomplete, hsent⟩ := Prod.mk.inj hfirst
  obtain ⟨hsent', hphases⟩ := Prod.mk.inj hsecond
  exact ⟨⟨completed, hbefore, hcomplete, hsent⟩, live, hrun, hsent', hphases⟩

end LiveSession

end TacacsRs.Networking
