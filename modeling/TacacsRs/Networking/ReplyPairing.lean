import TacacsRs.Tacon.Accounting
import TacacsRs.Networking.LiveSession

/-!
# Pairing of replies with requests

A call takes whatever packet is at the front of the session's channel; neither
its type nor its sequence number is looked at. Calls take packets in the order
in which they line up for the receiver, so a call gets its own reply exactly if
the packets and the calls line up.
-/

namespace TacacsRs.Networking

open Rust Messages

/-- A packet that decodes as a reply is an accounting packet with the number after
`sequenceNumber`. -/
def Fits (sequenceNumber : Option UInt8) (packet : Packet) : Prop :=
  ∀ reply, AccountingReply.fromBytes packet.body = .ok reply →
    packet.header.tacacsType = .tacPlusAccounting ∧
      ∃ number, sequenceNumber = some number ∧ packet.header.seqNo.toNat = number.toNat + 1

instance decidableFits (sequenceNumber : Option UInt8) (packet : Packet) :
    Decidable (Fits sequenceNumber packet) :=
  match hreply : AccountingReply.fromBytes packet.body with
  | .ok _ => decidable_of_iff
      (packet.header.tacacsType = .tacPlusAccounting ∧
        ∃ number ∈ sequenceNumber, packet.header.seqNo.toNat = number.toNat + 1)
      (by simp [Fits, hreply])
  | .err _ | .panic => .isTrue (by simp [Fits, hreply])

/-- Each queued packet fits the call at the same place in the line. -/
def Aligned (sequenceNumbers : Nat → Option UInt8) (callers : List Nat) (queue : List Packet) :
    Prop :=
  ∀ (place index : Nat) (packet : Packet), callers[place]? = some index →
    queue[place]? = some packet → Fits (sequenceNumbers index) packet

namespace Aligned

variable {sequenceNumbers sequenceNumbers' : Nat → Option UInt8} {callers : List Nat}
  {queue : List Packet} {index : Nat} {packet : Packet}

theorem iff_forall_mem_zip : Aligned sequenceNumbers callers queue ↔
    ∀ pair ∈ callers.zip queue, Fits (sequenceNumbers pair.1) pair.2 := by
  constructor
  · intro h pair hpair
    obtain ⟨place, hplace⟩ := List.mem_iff_getElem?.mp hpair
    obtain ⟨hindex, hpacket⟩ := List.getElem?_zip_eq_some.mp hplace
    exact h place pair.1 pair.2 hindex hpacket
  · intro h place index packet hindex hpacket
    exact h (index, packet)
      (List.mem_of_getElem? (List.getElem?_zip_eq_some.mpr ⟨hindex, hpacket⟩))

instance decidable : Decidable (Aligned sequenceNumbers callers queue) :=
  decidable_of_iff _ iff_forall_mem_zip.symm

theorem nil_queue : Aligned sequenceNumbers callers [] := by
  intro place index packet _ hpacket
  simp at hpacket

theorem congr (h : Aligned sequenceNumbers callers queue)
    (heq : ∀ index ∈ callers, sequenceNumbers' index = sequenceNumbers index) :
    Aligned sequenceNumbers' callers queue := by
  intro place index packet hindex hpacket
  rw [heq index (List.mem_of_getElem? hindex)]
  exact h place index packet hindex hpacket

theorem head (h : Aligned sequenceNumbers (index :: callers) (packet :: queue)) :
    Fits (sequenceNumbers index) packet := h 0 index packet rfl rfl

theorem tail (h : Aligned sequenceNumbers (index :: callers) (packet :: queue)) :
    Aligned sequenceNumbers callers queue := by
  intro place other packet' hother hpacket'
  exact h (place + 1) other packet' (by simpa using hother) (by simpa using hpacket')

/-- A packet queued behind the others only has to fit the call at its place. -/
theorem deliver (h : Aligned sequenceNumbers callers queue)
    (hfits : ∀ index, callers[queue.length]? = some index → Fits (sequenceNumbers index) packet) :
    Aligned sequenceNumbers callers (queue ++ [packet]) := by
  intro place index packet' hindex hpacket'
  rcases getElem?_append_singleton_cases hpacket' with ⟨rfl, rfl⟩ | hold
  · exact hfits index hindex
  · exact h place index packet' hindex hold

/-- A call that joins the line only has to fit the packet at its place. -/
theorem join (h : Aligned sequenceNumbers callers queue)
    (hfits : ∀ packet, queue[callers.length]? = some packet → Fits (sequenceNumbers index) packet) :
    Aligned sequenceNumbers (callers ++ [index]) queue := by
  intro place other packet hother hpacket
  rcases getElem?_append_singleton_cases hother with ⟨rfl, rfl⟩ | hold
  · exact hfits packet hpacket
  · exact h place other packet hold hpacket

end Aligned

/-- The call stands in line for a packet. -/
def CallPhase.awaitsReply : CallPhase → Bool
  | .acquiring => true
  | .receiving => true
  | _ => false

namespace Session

/-- The call at `index` stands in line for a packet. -/
def awaitsReply (session : Session) (index : Nat) : Bool :=
  (session.calls.map fun call => call.phase.awaitsReply).getD index false

/-- The number that the call at `index` has drawn. -/
def sequenceNumbers (session : Session) (index : Nat) : Option UInt8 :=
  (session.calls.map Call.sequenceNumber).getD index none

/-- The calls that will take the next packets, in the order in which they will. -/
def expecting (session : Session) : List Nat :=
  session.receiverLock.line.filter session.awaitsReply

theorem awaitsReply_of_mem_expecting {session : Session} {index : Nat}
    (h : index ∈ session.expecting) : session.awaitsReply index = true :=
  (List.mem_filter.mp h).2

section Polled

variable {session next : Session} {index : Nat} {call call' : Call}

theorem awaitsReply_setCall (hcall : session.calls[index]? = some call)
    (hnext : next.calls = session.calls.set index call') :
    next.awaitsReply = Function.update session.awaitsReply index call'.phase.awaitsReply := by
  unfold awaitsReply
  rw [hnext]
  exact getD_map_set _ _ hcall call'

theorem sequenceNumbers_setCall (hcall : session.calls[index]? = some call)
    (hnext : next.calls = session.calls.set index call') :
    next.sequenceNumbers = Function.update session.sequenceNumbers index call'.sequenceNumber := by
  unfold sequenceNumbers
  rw [hnext]
  exact getD_map_set _ _ hcall call'

theorem sequenceNumbers_of_same (hcall : session.calls[index]? = some call)
    (hnext : next.calls = session.calls.set index call')
    (hnumber : call'.sequenceNumber = call.sequenceNumber) :
    next.sequenceNumbers = session.sequenceNumbers := by
  have hold : session.sequenceNumbers index = call.sequenceNumber := getD_map_eq _ _ hcall
  rw [sequenceNumbers_setCall hcall hnext, hnumber, ← hold, Function.update_eq_self]

theorem awaitsReply_eq (hcall : session.calls[index]? = some call) :
    session.awaitsReply index = call.phase.awaitsReply := getD_map_eq _ _ hcall

/-- A call that stands in line, or in the same way outside of it, keeps the line. -/
theorem expecting_of_same (hcall : session.calls[index]? = some call)
    (hnext : next.calls = session.calls.set index call')
    (hline : next.receiverLock.line = session.receiverLock.line)
    (hawaits : call'.phase.awaitsReply = call.phase.awaitsReply) :
    next.expecting = session.expecting := by
  rw [expecting, expecting, hline, awaitsReply_setCall hcall hnext, hawaits,
    ← awaitsReply_eq hcall, Function.update_eq_self]

/-- A call that stops waiting for a packet is gone from the line. -/
theorem expecting_of_done (hcall : session.calls[index]? = some call)
    (hnext : next.calls = session.calls.set index call')
    (hline : next.receiverLock.line = session.receiverLock.line ∨
      next.receiverLock.line = session.receiverLock.line.filter fun other => other ≠ index)
    (hawaits : call'.phase.awaitsReply = false) :
    next.expecting = session.expecting.filter fun other => other ≠ index := by
  have hupdate : next.awaitsReply =
      fun other => decide (other ≠ index) && session.awaitsReply other := by
    rw [awaitsReply_setCall hcall hnext, hawaits]
    funext other
    by_cases hother : other = index
    · simp [hother]
    · simp [hother]
  rw [expecting, expecting, List.filter_filter, hupdate]
  rcases hline with hline | hline
  · rw [hline]
  · rw [hline, List.filter_filter]
    congr 1
    funext other
    by_cases hother : other = index
    · simp [hother]
    · simp [hother]

theorem expecting_filter_of_not (h : session.awaitsReply index = false) :
    (session.expecting.filter fun other => other ≠ index) = session.expecting := by
  rw [List.filter_eq_self]
  intro other hother
  rw [decide_eq_true_eq]
  rintro rfl
  rw [awaitsReply_of_mem_expecting hother] at h
  simp at h

/-- A call that has queued its request joins the line at its end. -/
theorem expecting_of_join (htracked : session.Tracked)
    (hcall : session.calls[index]? = some call) (hstake : call.phase.stake = .outside)
    (hnext : next.calls = session.calls.set index call')
    (hline : next.receiverLock.line = session.receiverLock.line ++ [index])
    (hawaits : call'.phase.awaitsReply = true) :
    next.expecting = session.expecting ++ [index] := by
  have hnew : index ∉ session.receiverLock.line := by
    rw [htracked.mem_line_iff]
    have hindex : session.stakes index = .outside := hstake ▸ getD_map_eq _ _ hcall
    simp [hindex]
  have hupdate := awaitsReply_setCall hcall hnext
  rw [expecting, hline, List.filter_append, expecting]
  congr 1
  · apply List.filter_congr
    intro other hother
    rw [hupdate, Function.update_of_ne]
    rintro rfl
    exact hnew hother
  · simp [hupdate, hawaits]

/-- The call that holds the receiver and waits for a packet is first in line. -/
theorem expecting_of_receiving (htracked : session.Tracked)
    (hcall : session.calls[index]? = some call) (hphase : call.phase = .receiving) :
    ∃ rest, session.expecting = index :: rest ∧
      (session.expecting.filter fun other => other ≠ index) = rest := by
  have hstake : session.stakes index = .writing := by
    rw [stakes, getD_map_eq _ _ hcall, hphase]
    rfl
  obtain ⟨rest, hline⟩ := RwLock.line_of_writer ((htracked.writer index).mpr hstake)
  have hnodup := htracked.nodup_line
  rw [hline, List.nodup_cons] at hnodup
  have hawaits : session.awaitsReply index = true := by
    rw [awaitsReply_eq hcall, hphase]
    rfl
  have hexpecting : session.expecting = index :: rest.filter session.awaitsReply := by
    rw [expecting, hline, List.filter_cons_of_pos hawaits]
  refine ⟨_, hexpecting, ?_⟩
  rw [hexpecting, List.filter_cons_of_neg (by simp), List.filter_eq_self]
  intro other hother
  rw [decide_eq_true_eq]
  rintro rfl
  exact hnodup.1 (List.mem_of_mem_filter hother)

end Polled

end Session

/-- The call has taken a packet that decodes to the reply, is of type accounting and has the
number after the one that the call has drawn. -/
def AnsweredBy (call : Call) (reply : AccountingReply) : Prop :=
  ∃ response number, call.response = some response ∧ call.sequenceNumber = some number ∧
    AccountingReply.fromBytes response.body = .ok reply ∧
    response.header.tacacsType = .tacPlusAccounting ∧
    response.header.seqNo.toNat = number.toNat + 1

namespace LiveSession

/-- The packets and the calls keep lined up when a packet arrives, when a call joins the line
behind its request, and when a call in line is abandoned. -/
def KeepsAlignment (live : LiveSession) : Action → Prop
  | .deliver packet => ∀ index,
      live.session.expecting[live.duplexChannel.receiver.queue.length]? = some index →
        Fits (live.session.sequenceNumbers index) packet
  | .poll index .joinWrite => ∀ packet,
      live.duplexChannel.receiver.queue[live.session.expecting.length]? = some packet →
        Fits (live.session.sequenceNumbers index) packet
  | .poll index .abandon => Aligned live.session.sequenceNumbers
      (live.session.expecting.filter fun other => other ≠ index)
      live.duplexChannel.receiver.queue
  | _ => True

instance decidableKeepsAlignment (live : LiveSession) :
    ∀ action, Decidable (KeepsAlignment live action)
  | .deliver packet => inferInstanceAs (Decidable
      (∀ index ∈ live.session.expecting[live.duplexChannel.receiver.queue.length]?,
        Fits (live.session.sequenceNumbers index) packet))
  | .poll index .joinWrite => inferInstanceAs (Decidable
      (∀ packet ∈ live.duplexChannel.receiver.queue[live.session.expecting.length]?,
        Fits (live.session.sequenceNumbers index) packet))
  | .poll index .abandon => inferInstanceAs (Decidable (Aligned live.session.sequenceNumbers
      (live.session.expecting.filter fun other => other ≠ index)
      live.duplexChannel.receiver.queue))
  | .poll _ .checkSender | .poll _ .joinRead | .poll _ .checkReceiver | .poll _ .checkComplete
  | .poll _ .draw | .poll _ .send | .poll _ .acquire | .poll _ .receive | .poll _ .complete
  | .sendAccountingRequest _ | .disconnect | .queueOther _ | .takeOutgoing | .closeOutgoing =>
      .isTrue trivial

/-- Calls that have an answer have the right one, and those in line will get the right one. -/
structure Pairing (live : LiveSession) : Prop where
  tracked : live.session.Tracked
  aligned : Aligned live.session.sequenceNumbers live.session.expecting
    live.duplexChannel.receiver.queue
  answered : ∀ (index : Nat) (call : Call), live.session.calls[index]? = some call → ∀ reply,
    call.phase = .completing reply ∨ call.phase = .returned (.ok reply) → AnsweredBy call reply

theorem pairing_new (sessionId : UInt32) : Pairing (.new sessionId) where
  tracked := Session.tracked_new sessionId
  aligned := Aligned.nil_queue
  answered := by simp [LiveSession.new, Session.new]

section Poll

variable {live : LiveSession} {next : Session} {duplexChannel : DuplexChannel} {index : Nat}
  {call call' : Call} {poll : Poll}

theorem Pairing.answered_setCall (h : Pairing live)
    (hnext : next.calls = live.session.calls.set index call')
    (hcall' : ∀ reply, call'.phase = .completing reply ∨ call'.phase = .returned (.ok reply) →
      AnsweredBy call' reply) :
    ∀ (other : Nat) (changed : Call), next.calls[other]? = some changed → ∀ reply,
      changed.phase = .completing reply ∨ changed.phase = .returned (.ok reply) →
        AnsweredBy changed reply := by
  intro other changed hchanged
  rw [hnext] at hchanged
  rcases getElem?_set_cases hchanged with ⟨-, rfl⟩ | ⟨-, hother⟩
  · exact hcall'
  · exact h.answered other changed hother

/-- A poll of a call that stays as it is in line, or outside of it. -/
theorem Pairing.polled_same (h : Pairing live) (hcall : live.session.calls[index]? = some call)
    (hpolled : Session.Polled live.session live.duplexChannel index call poll next duplexChannel)
    (hnext : next.calls = live.session.calls.set index call')
    (hcall' : ∀ reply, call'.phase = .completing reply ∨ call'.phase = .returned (.ok reply) →
      AnsweredBy call' reply)
    (hnumber : call'.sequenceNumber = call.sequenceNumber)
    (hline : next.receiverLock.line = live.session.receiverLock.line)
    (hawaits : call'.phase.awaitsReply = call.phase.awaitsReply)
    (hqueue : duplexChannel.receiver = live.duplexChannel.receiver) :
    Pairing ⟨next, duplexChannel⟩ where
  tracked := h.tracked.polled hcall hpolled
  aligned := by
    rw [Session.expecting_of_same hcall hnext hline hawaits, hqueue,
      Session.sequenceNumbers_of_same hcall hnext hnumber]
    exact h.aligned
  answered := h.answered_setCall hnext hcall'

/-- A poll after which the call is not in line, whether it was or not. -/
theorem Pairing.polled_done (h : Pairing live) (hcall : live.session.calls[index]? = some call)
    (hpolled : Session.Polled live.session live.duplexChannel index call poll next duplexChannel)
    (hnext : next.calls = live.session.calls.set index call')
    (hcall' : ∀ reply, call'.phase = .completing reply ∨ call'.phase = .returned (.ok reply) →
      AnsweredBy call' reply)
    (hnumber : call'.sequenceNumber = call.sequenceNumber)
    (hline : next.receiverLock.line = live.session.receiverLock.line ∨
      next.receiverLock.line = live.session.receiverLock.line.filter fun other => other ≠ index)
    (hawaits : call'.phase.awaitsReply = false)
    (haligned : Aligned live.session.sequenceNumbers
      (live.session.expecting.filter fun other => other ≠ index) duplexChannel.receiver.queue) :
    Pairing ⟨next, duplexChannel⟩ where
  tracked := h.tracked.polled hcall hpolled
  aligned := by
    rw [Session.expecting_of_done hcall hnext hline hawaits,
      Session.sequenceNumbers_of_same hcall hnext hnumber]
    exact haligned
  answered := h.answered_setCall hnext hcall'

/-- The number of a call outside of the line may change. -/
theorem Pairing.aligned_of_outside (h : Pairing live)
    (hcall : live.session.calls[index]? = some call)
    (hnext : next.calls = live.session.calls.set index call')
    (hline : next.receiverLock.line = live.session.receiverLock.line)
    (hbefore : call.phase.awaitsReply = false) (hafter : call'.phase.awaitsReply = false) :
    Aligned next.sequenceNumbers next.expecting live.duplexChannel.receiver.queue := by
  rw [Session.expecting_of_same hcall hnext hline (hafter.trans hbefore.symm)]
  apply h.aligned.congr
  intro other hother
  rw [Session.sequenceNumbers_setCall hcall hnext, Function.update_of_ne]
  rintro rfl
  have hwaiting := Session.awaitsReply_of_mem_expecting hother
  rw [Session.awaitsReply_eq hcall, hbefore] at hwaiting
  simp at hwaiting

theorem Pairing.aligned_of_join (h : Pairing live)
    (hcall : live.session.calls[index]? = some call)
    (hnext : next.calls = live.session.calls.set index call')
    (hstake : call.phase.stake = .outside)
    (hnumber : call'.sequenceNumber = call.sequenceNumber)
    (hline : next.receiverLock.line = live.session.receiverLock.line ++ [index])
    (hawaits : call'.phase.awaitsReply = true)
    (hkeeps : live.KeepsAlignment (.poll index .joinWrite)) :
    Aligned next.sequenceNumbers next.expecting live.duplexChannel.receiver.queue := by
  rw [Session.expecting_of_join h.tracked hcall hstake hnext hline hawaits,
    Session.sequenceNumbers_of_same hcall hnext hnumber]
  exact h.aligned.join hkeeps

/-- The packet that a call receives is aligned with it, and those behind it with the others. -/
theorem Pairing.aligned_of_received (h : Pairing live)
    (hcall : live.session.calls[index]? = some call) (hphase : call.phase = .receiving)
    {response : Packet} {receiver : PacketChannel}
    (hrecv : live.duplexChannel.receiver.recv = .received response receiver) :
    Aligned live.session.sequenceNumbers
      (index :: live.session.expecting.filter fun other => other ≠ index)
      (response :: receiver.queue) := by
  obtain ⟨rest, hexpecting, hrest⟩ := Session.expecting_of_receiving h.tracked hcall hphase
  obtain ⟨-, hqueue, -⟩ := Channel.recv_eq_received_iff.mp hrecv
  have haligned := h.aligned
  rw [hqueue] at haligned
  rw [hrest, ← hexpecting]
  exact haligned

/-- One poll that keeps the alignment keeps the pairing. -/
theorem Pairing.polled (h : Pairing live) (hcall : live.session.calls[index]? = some call)
    (hkeeps : live.KeepsAlignment (.poll index poll))
    (hpolled : Session.Polled live.session live.duplexChannel index call poll next
      duplexChannel) : Pairing ⟨next, duplexChannel⟩ := by
  have hout (hphase : call.phase.awaitsReply = false) :
      Aligned live.session.sequenceNumbers
        (live.session.expecting.filter fun other => other ≠ index)
        live.duplexChannel.receiver.queue := by
    rw [Session.expecting_filter_of_not ((Session.awaitsReply_eq hcall).trans hphase)]
    exact h.aligned
  have hleave := RwLock.line_leave live.session.receiverLock index
  have hresult := hpolled
  cases hresult with
  | senderClosed hphase | senderOpen hphase | complete hphase | incomplete hphase =>
      exact h.polled_same hcall hpolled rfl (by simp) rfl rfl (by rw [hphase]; rfl) rfl
  | queue packet hphase | queueClosed packet hphase =>
      exact h.polled_same hcall hpolled rfl (by simp) rfl rfl (by rw [hphase]; rfl) rfl
  | joinRead hphase =>
      exact h.polled_same hcall hpolled rfl (by simp) rfl (RwLock.line_join_read _ _)
        (by rw [hphase]; rfl) rfl
  | acquire hphase hcan =>
      exact h.polled_same hcall hpolled rfl (by simp) rfl (RwLock.line_acquire hcan)
        (by rw [hphase]; rfl) rfl
  | receiverClosed hphase | receiverOpen hphase =>
      exact h.polled_done hcall hpolled rfl (by simp) rfl (.inr hleave) rfl
        (hout (by rw [hphase]; rfl))
  | draw phase hphase hnext =>
      have hawaits : phase.awaitsReply = false := by
        rcases hnext with ⟨packet, rfl, -⟩ | ⟨error, rfl⟩ | rfl <;> rfl
      refine ⟨h.tracked.polled hcall hpolled, ?_, h.answered_setCall rfl ?_⟩
      · exact h.aligned_of_outside hcall rfl rfl (by rw [hphase]; rfl) hawaits
      · rcases hnext with ⟨packet, rfl, -⟩ | ⟨error, rfl⟩ | rfl <;> simp
  | joinWrite hphase =>
      refine ⟨h.tracked.polled hcall hpolled, ?_, h.answered_setCall rfl (by simp)⟩
      exact h.aligned_of_join hcall rfl (by rw [hphase]; rfl) rfl (RwLock.line_join_write _ _) rfl
        hkeeps
  | closed hphase hempty =>
      refine h.polled_done hcall hpolled rfl (by simp) rfl (.inr hleave) rfl ?_
      rw [hempty]
      exact Aligned.nil_queue
  | reply response receiver reply hphase hrecv hreply =>
      have haligned := h.aligned_of_received hcall hphase hrecv
      refine h.polled_done hcall hpolled rfl ?_ rfl (.inl rfl) rfl haligned.tail
      intro reply' hreply'
      obtain rfl : reply = reply' := by simpa using hreply'
      obtain ⟨htype, number, hnumber, hseq⟩ := haligned.head reply hreply
      have hcallNumber : live.session.sequenceNumbers index = call.sequenceNumber :=
        getD_map_eq _ _ hcall
      exact ⟨response, number, rfl, hcallNumber ▸ hnumber, hreply, htype, hseq⟩
  | malformed response receiver result hphase hrecv hmalformed hresult =>
      have haligned := h.aligned_of_received hcall hphase hrecv
      refine h.polled_done hcall hpolled rfl ?_ rfl (.inr hleave) rfl haligned.tail
      intro reply hreply
      exact absurd (by simpa using hreply) (hresult reply)
  | succeed reply hphase =>
      refine h.polled_done hcall hpolled rfl ?_ rfl (.inr hleave) rfl
        (hout (by rw [hphase]; rfl))
      intro reply' hreply'
      obtain rfl : reply = reply' := by simpa using hreply'
      exact h.answered index call hcall reply (.inl hphase)
  | abandon => exact h.polled_done hcall hpolled rfl (by simp) rfl (.inr hleave) rfl hkeeps

end Poll

/-- One step that keeps the alignment keeps the pairing. -/
theorem Pairing.step {live next : LiveSession} {action : Action} (h : Pairing live)
    (hkeeps : live.KeepsAlignment action) (hstep : Step live action next) : Pairing next := by
  cases hstep with
  | start request =>
      have hnumbers : (live.session.sendAccountingRequest request).sequenceNumbers =
          live.session.sequenceNumbers :=
        getD_map_append _ rfl
      have hawaits : (live.session.sendAccountingRequest request).awaitsReply =
          live.session.awaitsReply :=
        getD_map_append _ rfl
      have hexpecting : (live.session.sendAccountingRequest request).expecting =
          live.session.expecting := by
        rw [Session.expecting, hawaits]
        rfl
      refine ⟨?_, ?_, ?_⟩
      · rw [Session.Tracked, Session.stakes_sendAccountingRequest]
        exact h.tracked
      · rw [hnumbers, hexpecting]
        exact h.aligned
      · intro index call hcall
        rcases getElem?_append_singleton_cases hcall with ⟨-, rfl⟩ | hold
        · simp
        · exact h.answered index call hold
  | poll index poll call session duplexChannel hcall hpolled =>
      exact h.polled hcall hkeeps hpolled
  | deliver packet hroom =>
      refine ⟨h.tracked, ?_, h.answered⟩
      dsimp only
      rw [Channel.queue_push]
      exact h.aligned.deliver hkeeps
  | environment action sender receiver hqueue =>
      refine ⟨h.tracked, ?_, h.answered⟩
      dsimp only
      rw [hqueue]
      exact h.aligned

/-- In every run that keeps packets and calls lined up, a call that returns a reply returns the
decoding of an accounting packet with the number after the one that the call itself sent. -/
theorem replies_match_requests {sessionId : UInt32} {actions : List Action} {live : LiveSession}
    (hmeets : Meets step KeepsAlignment (.new sessionId) actions)
    (hrun : run step (.new sessionId) actions = some live) :
    ∀ call ∈ live.session.calls, ∀ reply, call.phase = .returned (.ok reply) →
      ∃ response number, call.response = some response ∧ call.sequenceNumber = some number ∧
        AccountingReply.fromBytes response.body = .ok reply ∧
        response.header.tacacsType = .tacPlusAccounting ∧
        response.header.seqNo.toNat = number.toNat + 1 := by
  have hpairing : Pairing live := by
    apply invariant_of_meets (pairing_new sessionId) _ hmeets hrun
    intro mid action next hmid hkeeps hstep
    exact hmid.step hkeeps (step_eq_some hstep)
  intro call hmem reply hreply
  obtain ⟨index, hcall⟩ := List.mem_iff_getElem?.mp hmem
  exact hpairing.answered index call hcall reply (.inr hreply)

/-- A request and the polls of the call at `index` up to its send. -/
def pollsToSend (index : Nat) : List Action :=
  [.sendAccountingRequest (Tacon.accountingRequest "admin" "tty0" "10.0.0.1" "ls" none),
    .poll index .checkSender, .poll index .joinRead, .poll index .checkReceiver,
    .poll index .checkComplete, .poll index .draw, .poll index .send]

/-- The reply to a second request. -/
def secondReplyTo (sessionId : UInt32) : Packet :=
  { SessionManager.replyTo sessionId with
    header := { (SessionManager.replyTo sessionId).header with seqNo := 4 } }

/-- The first call is abandoned while it waits for its reply, which does not come. The second one
sends its request, and its reply arrives. -/
def abandonedThenAnsweredRun : List Action :=
  pollsToSend 0 ++ [.poll 0 .joinWrite, .poll 0 .acquire, .poll 0 .abandon] ++ pollsToSend 1 ++
    [.poll 1 .joinWrite, .deliver (secondReplyTo 7), .poll 1 .acquire, .poll 1 .receive,
      .poll 1 .complete]

theorem replies_match_requests_abandonedThenAnsweredRun :
    ∃ live, run step (.new 7) abandonedThenAnsweredRun = some live ∧
      (live.session.calls.map fun call => (call.sequenceNumber, call.phase)) =
        [(some 1, .abandoned), (some 3, .returned (.ok ⟨.tacPlusAcctStatusSuccess, "", ""⟩))] ∧
      ∀ call ∈ live.session.calls, ∀ reply, call.phase = .returned (.ok reply) →
        ∃ response number, call.response = some response ∧ call.sequenceNumber = some number ∧
          AccountingReply.fromBytes response.body = .ok reply ∧
          response.header.tacacsType = .tacPlusAccounting ∧
          response.header.seqNo.toNat = number.toNat + 1 := by
  have hmeets : Meets step KeepsAlignment (.new 7) abandonedThenAnsweredRun := by decide +kernel
  have hcalls : (run step (.new 7) abandonedThenAnsweredRun).map (fun live =>
      live.session.calls.map fun call => (call.sequenceNumber, call.phase)) =
        some [(some 1, .abandoned),
          (some 3, .returned (.ok ⟨.tacPlusAcctStatusSuccess, "", ""⟩))] := by decide +kernel
  obtain ⟨live, hrun, hlive⟩ := Option.map_eq_some_iff.mp hcalls
  exact ⟨live, hrun, hlive, replies_match_requests hmeets hrun⟩

/-- The first call is abandoned while it waits for its reply, which then arrives; the second
call sends its own request and takes that reply. -/
def staleReplyRun : List Action :=
  pollsToSend 0 ++ [.poll 0 .joinWrite, .poll 0 .acquire, .poll 0 .abandon,
    .deliver (SessionManager.replyTo 7)] ++
  pollsToSend 1 ++ [.poll 1 .joinWrite, .poll 1 .acquire, .poll 1 .receive, .poll 1 .complete]

/-- The second call sent number 3 and returns the reply with number 2. -/
theorem staleReplyRun_mismatch :
    ∃ live, run step (.new 7) staleReplyRun = some live ∧
      ∃ call ∈ live.session.calls, ∃ reply response, call.phase = .returned (.ok reply) ∧
        call.response = some response ∧ call.sequenceNumber = some 3 ∧
        response.header.seqNo = 2 := by
  have hcall : ((run step (.new 7) staleReplyRun).bind fun live => live.session.calls[1]?) =
      some ⟨Tacon.accountingRequest "admin" "tty0" "10.0.0.1" "ls" none, some 3,
        some (SessionManager.replyTo 7),
        .returned (.ok ⟨.tacPlusAcctStatusSuccess, "", ""⟩)⟩ := by decide +kernel
  obtain ⟨live, hrun, hlive⟩ := Option.bind_eq_some_iff.mp hcall
  exact ⟨live, hrun, _, List.mem_of_getElem? hlive, _, _, rfl, rfl, rfl, rfl⟩

end LiveSession

end TacacsRs.Networking
