import Mathlib.Data.Nat.ModEq
import TacacsRs.Rust.Lists
import TacacsRs.Networking.Session

/-!
# The sequence numbers of a session

Each call draws at most one number, and queues at most one packet, under the
number that it has drawn. The numbers are those of the places in the order of
the draws; the counter has eight bits and wraps.
-/

namespace TacacsRs.Networking

open Rust Messages

/-- The number handed out by the draw at the given place. -/
def drawnNumber (place : Nat) : UInt8 := UInt8.ofNat (1 + 2 * place)

theorem drawnNumber_succ (place : Nat) : drawnNumber (place + 1) = drawnNumber place + 2 := by
  have hsum : 1 + 2 * (place + 1) = 1 + 2 * place + 2 := by omega
  rw [drawnNumber, hsum, UInt8.ofNat_add]
  rfl

/-- Numbers come back after 128 draws, and not before. -/
theorem drawnNumber_eq_iff {place place' : Nat} :
    drawnNumber place = drawnNumber place' ↔ place ≡ place' [MOD 128] := by
  rw [← UInt8.toNat_inj, drawnNumber, drawnNumber, UInt8.toNat_ofNat', UInt8.toNat_ofNat',
    Nat.ModEq]
  omega

namespace CallPhase

/-- The call has its number still to draw. -/
def beforeDraw : CallPhase → Bool
  | .checkingSender => true
  | .joiningRead => true
  | .checkingReceiver => true
  | .checkingComplete => true
  | .drawing => true
  | _ => false

/-- The call has its packet still to queue. -/
def beforeSend : CallPhase → Bool
  | .sending _ => true
  | phase => phase.beforeDraw

theorem beforeSend_of_beforeDraw {phase : CallPhase} (h : phase.beforeDraw = true) :
    phase.beforeSend = true := by
  cases phase with
  | sending packet => rfl
  | checkingSender | joiningRead | checkingReceiver | checkingComplete | drawing => rfl
  | joiningWrite | acquiring | receiving | completing | returned | abandoned => exact h

theorem beforeSend_cases {phase : CallPhase} (h : phase.beforeSend = true) :
    phase.beforeDraw = true ∨ ∃ packet, phase = .sending packet := by
  cases phase with
  | sending packet => exact .inr ⟨packet, rfl⟩
  | checkingSender | joiningRead | checkingReceiver | checkingComplete | drawing => exact .inl rfl
  | joiningWrite | acquiring | receiving | completing | returned | abandoned => exact .inl h

end CallPhase

/-- The calls that a poll makes draw a number. -/
def Poll.drawers (index : Nat) : Poll → List Nat
  | .draw => [index]
  | _ => []

theorem Poll.drawers_of_ne {poll : Poll} (h : poll ≠ .draw) (index : Nat) :
    poll.drawers index = [] := by
  cases poll with
  | draw => exact absurd rfl h
  | checkSender | joinRead | checkReceiver | checkComplete | send | joinWrite | acquire | receive
  | complete | abandon => rfl

namespace Session

theorem requestPacket_header {session : Session} {sequenceNumber : UInt8}
    {request : AccountingRequest} {packet : Packet}
    (h : session.requestPacket sequenceNumber request = .ok packet) :
    packet.header.sessionId = session.sessionId ∧ packet.header.seqNo = sequenceNumber := by
  obtain ⟨-, rfl⟩ := Packet.new_eq_ok_iff.mp h
  exact ⟨rfl, rfl⟩

/-- What a poll does to the session's numbers and to the outgoing queue. -/
inductive Numbers (session : Session) (sender : PacketChannel) (call : Call) :
    Poll → Session → PacketChannel → Call → Prop where
  | draw (next : Session) (call' : Call) (hphase : call.phase = .drawing)
      (hcurrent : next.currentSequenceNumber = session.currentSequenceNumber + 2)
      (hdrawn : call'.phase.beforeDraw = false)
      (hpacket : ∀ packet, call'.phase = .sending packet →
        packet.header.sessionId = session.sessionId ∧
          packet.header.seqNo = session.currentSequenceNumber) :
      Numbers session sender call .draw next sender call'
  | queue (packet : Packet) (next : Session) (sender' : PacketChannel) (call' : Call)
      (hphase : call.phase = .sending packet)
      (hcurrent : next.currentSequenceNumber = session.currentSequenceNumber)
      (hqueued : sender'.sent = sender.sent ++ [packet])
      (hafter : call'.phase.beforeSend = false) :
      Numbers session sender call .send next sender' call'
  | other (poll : Poll) (next : Session) (call' : Call) (hpoll : poll ≠ .draw)
      (hcurrent : next.currentSequenceNumber = session.currentSequenceNumber)
      (hbefore : call'.phase.beforeDraw = true → call.phase.beforeDraw = true)
      (hsending : ∀ packet, call'.phase ≠ .sending packet) :
      Numbers session sender call poll next sender call'

theorem Polled.numbers {session next : Session} {duplexChannel duplexChannel' : DuplexChannel}
    {index : Nat} {call : Call} {poll : Poll}
    (h : Polled session duplexChannel index call poll next duplexChannel') :
    ∃ call', next.calls = session.calls.set index call' ∧ next.sessionId = session.sessionId ∧
      Numbers session duplexChannel.sender call poll next duplexChannel'.sender call' := by
  cases h with
  | senderClosed hphase | complete hphase =>
      exact ⟨_, rfl, rfl, .other _ _ _ (by simp) rfl (by simp [CallPhase.beforeDraw]) (by simp)⟩
  | receiverClosed hphase | closed hphase | joinWrite hphase | acquire hphase =>
      exact ⟨_, rfl, rfl, .other _ _ _ (by simp) rfl (by simp [CallPhase.beforeDraw]) (by simp)⟩
  | senderOpen hphase | joinRead hphase | receiverOpen hphase | incomplete hphase =>
      refine ⟨_, rfl, rfl, .other _ _ _ (by simp) rfl (fun _ => ?_) (by simp)⟩
      rw [hphase]
      rfl
  | draw phase hphase hnext =>
      refine ⟨_, rfl, rfl, .draw _ _ hphase rfl ?_ ?_⟩
      · rcases hnext with ⟨packet, rfl, -⟩ | ⟨error, rfl⟩ | rfl <;> rfl
      · intro packet hpacket
        rcases hnext with ⟨packet', rfl, hnew⟩ | ⟨error, rfl⟩ | rfl
        · obtain rfl : packet' = packet := by simpa using hpacket
          exact requestPacket_header hnew
        · simp at hpacket
        · simp at hpacket
  | queue packet hphase => exact ⟨_, rfl, rfl, .queue packet _ _ _ hphase rfl rfl rfl⟩
  | queueClosed packet hphase =>
      exact ⟨_, rfl, rfl, .other _ _ _ (by simp) rfl (by simp [CallPhase.beforeDraw]) (by simp)⟩
  | reply response receiver reply hphase =>
      exact ⟨_, rfl, rfl, .other _ _ _ (by simp) rfl (by simp [CallPhase.beforeDraw]) (by simp)⟩
  | malformed response receiver result hphase =>
      exact ⟨_, rfl, rfl, .other _ _ _ (by simp) rfl (by simp [CallPhase.beforeDraw]) (by simp)⟩
  | succeed reply hphase =>
      exact ⟨_, rfl, rfl, .other _ _ _ (by simp) rfl (by simp [CallPhase.beforeDraw]) (by simp)⟩
  | abandon =>
      exact ⟨_, rfl, rfl, .other _ _ _ (by simp) rfl (by simp [CallPhase.beforeDraw]) (by simp)⟩

/-- A call that has its packet behind it keeps it there. -/
theorem Numbers.sent {session next : Session} {sender sender' : PacketChannel}
    {call call' : Call} {poll : Poll} (h : Numbers session sender call poll next sender' call')
    (hsent : call.phase.beforeSend = false) : call'.phase.beforeSend = false := by
  cases h with
  | draw _ _ hphase =>
      rw [hphase] at hsent
      simp [CallPhase.beforeSend, CallPhase.beforeDraw] at hsent
  | queue packet _ _ _ hphase =>
      rw [hphase] at hsent
      simp [CallPhase.beforeSend] at hsent
  | other _ _ _ hpoll hcurrent hbefore hsending =>
      by_contra hagain
      rcases CallPhase.beforeSend_cases (Bool.not_eq_false _ ▸ hagain) with
        hagain | ⟨packet, hagain⟩
      · rw [CallPhase.beforeSend_of_beforeDraw (hbefore hagain)] at hsent
        simp at hsent
      · exact hsending packet hagain

/-- A poll queues nothing, or the packet of a call that then has it behind it. -/
theorem Numbers.queued {session next : Session} {sender sender' : PacketChannel}
    {call call' : Call} {poll : Poll} (h : Numbers session sender call poll next sender' call') :
    sender'.sent = sender.sent ∨
      ∃ packet, poll = .send ∧ call.phase = .sending packet ∧ call'.phase.beforeSend = false ∧
        sender'.sent = sender.sent ++ [packet] := by
  cases h with
  | draw => exact .inl rfl
  | queue packet _ _ _ hphase hcurrent hqueued hafter =>
      exact .inr ⟨packet, rfl, hphase, hafter, hqueued⟩
  | other => exact .inl rfl

/-- A call has its packet to queue right after its draw. -/
theorem Numbers.drawn_of_sending {session next : Session} {sender sender' : PacketChannel}
    {call call' : Call} {poll : Poll} {packet : Packet}
    (h : Numbers session sender call poll next sender' call')
    (hsending : call'.phase = .sending packet) :
    poll = .draw ∧ call.phase.beforeDraw = true := by
  cases h with
  | draw _ _ hphase =>
      rw [hphase]
      exact ⟨rfl, rfl⟩
  | queue _ _ _ _ _ hcurrent hqueued hafter =>
      rw [hsending] at hafter
      simp [CallPhase.beforeSend] at hafter
  | other _ _ _ hpoll hcurrent hbefore hnone => exact absurd hsending (hnone packet)

/-- The calls in `order` are those that have drawn a number, first the first one. -/
structure Numbered (session : Session) (order : List Nat) : Prop where
  nodup : order.Nodup
  calls : ∀ index ∈ order, index < session.calls.length
  current : session.currentSequenceNumber = drawnNumber order.length
  waiting : ∀ (index : Nat) (call : Call), session.calls[index]? = some call →
    call.phase.beforeDraw = true → index ∉ order
  packet : ∀ (index : Nat) (call : Call) (packet : Packet), session.calls[index]? = some call →
    call.phase = .sending packet → ∃ place, order[place]? = some index ∧
      packet.header.sessionId = session.sessionId ∧ packet.header.seqNo = drawnNumber place

theorem numbered_new (sessionId : UInt32) : (new sessionId).Numbered [] where
  nodup := List.nodup_nil
  calls := by simp
  current := rfl
  waiting := by simp
  packet := by simp [new]

theorem Numbered.length_le {session : Session} {order : List Nat} (h : session.Numbered order) :
    order.length ≤ session.calls.length := by
  have hsub : order ⊆ List.range session.calls.length :=
    fun index hindex => List.mem_range.mpr (h.calls index hindex)
  simpa using (List.subperm_of_subset h.nodup hsub).length_le

/-- A call that has not started has drawn nothing. -/
theorem Numbered.sendAccountingRequest {session : Session} {order : List Nat}
    (h : session.Numbered order) (request : AccountingRequest) :
    (session.sendAccountingRequest request).Numbered order where
  nodup := h.nodup
  calls := by
    intro index hindex
    rw [Session.sendAccountingRequest, List.length_append]
    exact Nat.lt_add_right _ (h.calls index hindex)
  current := h.current
  waiting := by
    intro index call hcall hbefore
    rcases getElem?_append_singleton_cases hcall with ⟨rfl, rfl⟩ | hold
    · exact fun hmem => absurd (h.calls _ hmem) (Nat.lt_irrefl _)
    · exact h.waiting index call hold hbefore
  packet := by
    intro index call packet hcall hphase
    rcases getElem?_append_singleton_cases hcall with ⟨rfl, rfl⟩ | hold
    · simp at hphase
    · exact h.packet index call packet hold hphase

section Poll

variable {session next : Session} {order : List Nat} {index : Nat} {call call' : Call}

/-- A call that draws its number ends the order. -/
theorem Numbered.draw (h : session.Numbered order) (hcall : session.calls[index]? = some call)
    (hcalls : next.calls = session.calls.set index call')
    (hid : next.sessionId = session.sessionId) (hbefore : call.phase.beforeDraw = true)
    (hcurrent : next.currentSequenceNumber = session.currentSequenceNumber + 2)
    (hdrawn : call'.phase.beforeDraw = false)
    (hpacket : ∀ packet, call'.phase = .sending packet →
      packet.header.sessionId = session.sessionId ∧
        packet.header.seqNo = session.currentSequenceNumber) :
    next.Numbered (order ++ [index]) := by
  have hfresh : index ∉ order := h.waiting index call hcall hbefore
  constructor
  case nodup => exact List.nodup_append.mpr ⟨h.nodup, List.nodup_singleton index, by grind⟩
  case calls =>
    intro other hother
    rw [hcalls, List.length_set]
    rcases List.mem_append.mp hother with hold | hnew
    · exact h.calls other hold
    · obtain rfl := List.mem_singleton.mp hnew
      exact (List.getElem?_eq_some_iff.mp hcall).1
  case current =>
    rw [hcurrent, h.current, List.length_append, List.length_singleton, drawnNumber_succ]
  case waiting =>
    intro other changed hchanged hwaiting
    rw [hcalls] at hchanged
    rcases getElem?_set_cases hchanged with ⟨rfl, rfl⟩ | ⟨hne, hold⟩
    · rw [hdrawn] at hwaiting
      simp at hwaiting
    · simpa using ⟨h.waiting other changed hold hwaiting, hne⟩
  case packet =>
    intro other changed packet hchanged hsending
    rw [hcalls] at hchanged
    rw [hid]
    rcases getElem?_set_cases hchanged with ⟨rfl, rfl⟩ | ⟨-, hold⟩
    · obtain ⟨hpacketId, hseqNo⟩ := hpacket packet hsending
      refine ⟨order.length, List.getElem?_concat_length, hpacketId, ?_⟩
      rw [hseqNo, h.current]
    · obtain ⟨place, hplace, hnumber⟩ := h.packet other changed packet hold hsending
      exact ⟨place, getElem?_append_of_some hplace [index], hnumber⟩

/-- Any other change of a call keeps the order. -/
theorem Numbered.keep (h : session.Numbered order) (hcall : session.calls[index]? = some call)
    (hcalls : next.calls = session.calls.set index call')
    (hid : next.sessionId = session.sessionId)
    (hcurrent : next.currentSequenceNumber = session.currentSequenceNumber)
    (hbefore : call'.phase.beforeDraw = true → call.phase.beforeDraw = true)
    (hsending : ∀ packet, call'.phase ≠ .sending packet) : next.Numbered order := by
  constructor
  case nodup => exact h.nodup
  case calls =>
    rw [hcalls, List.length_set]
    exact h.calls
  case current => exact hcurrent.trans h.current
  case waiting =>
    intro other changed hchanged hwaiting
    rw [hcalls] at hchanged
    rcases getElem?_set_cases hchanged with ⟨rfl, rfl⟩ | ⟨-, hold⟩
    · exact h.waiting _ call hcall (hbefore hwaiting)
    · exact h.waiting other changed hold hwaiting
  case packet =>
    intro other changed packet hchanged hphase
    rw [hcalls] at hchanged
    rw [hid]
    rcases getElem?_set_cases hchanged with ⟨rfl, rfl⟩ | ⟨-, hold⟩
    · exact absurd hphase (hsending packet)
    · exact h.packet other changed packet hold hphase

/-- A poll extends the order by the call that it makes draw. -/
theorem Numbered.polled {sender sender' : PacketChannel} {poll : Poll} (h : session.Numbered order)
    (hcall : session.calls[index]? = some call)
    (hcalls : next.calls = session.calls.set index call')
    (hid : next.sessionId = session.sessionId)
    (hnumbers : Numbers session sender call poll next sender' call') :
    next.Numbered (order ++ poll.drawers index) := by
  cases hnumbers with
  | draw _ _ hphase hcurrent hdrawn hpacket =>
      exact h.draw hcall hcalls hid (by rw [hphase]; rfl) hcurrent hdrawn hpacket
  | queue packet _ _ _ hphase hcurrent hqueued hafter =>
      rw [Poll.drawers_of_ne (by simp), List.append_nil]
      refine h.keep hcall hcalls hid hcurrent (fun hbefore => ?_) ?_
      · rw [CallPhase.beforeSend_of_beforeDraw hbefore] at hafter
        simp at hafter
      · rintro packet' hsending
        rw [hsending] at hafter
        simp [CallPhase.beforeSend] at hafter
  | other _ _ _ hpoll hcurrent hbefore hsending =>
      rw [Poll.drawers_of_ne hpoll, List.append_nil]
      exact h.keep hcall hcalls hid hcurrent hbefore hsending

end Poll

end Session

end TacacsRs.Networking
