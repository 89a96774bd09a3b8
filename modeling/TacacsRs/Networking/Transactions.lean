import TacacsRs.Networking.Inbound

/-!
# One call at a time

A session takes the next packet that comes for it, whichever call waits for it.
Where no call of a session sends while another one has its request out, and none
gives up in between, there is one request or reply of the session underway at
most, and what comes next is the reply to the request that is out.
-/

namespace TacacsRs.Networking

open Rust Messages

/-- The call has its request out and no packet in hand. -/
def CallPhase.isOutstanding : CallPhase → Bool
  | .joiningWrite => true
  | .acquiring => true
  | .receiving => true
  | _ => false

theorem CallPhase.beforeSend_of_isOutstanding {phase : CallPhase}
    (h : phase.isOutstanding = true) : phase.beforeSend = false := by
  cases phase with
  | joiningWrite | acquiring | receiving => rfl
  | checkingSender | joiningRead | checkingReceiver | checkingComplete | drawing | sending
  | completing | returned | abandoned => simp [isOutstanding] at h

theorem CallPhase.isOver_of_isOutstanding {phase : CallPhase} (h : phase.isOutstanding = true) :
    phase.isOver = false := by
  cases phase with
  | joiningWrite | acquiring | receiving => rfl
  | checkingSender | joiningRead | checkingReceiver | checkingComplete | drawing | sending
  | completing | returned | abandoned => simp [isOutstanding] at h

/-- A request or a reply on its way. -/
inductive Item where
  | request (packet : Packet)
  | reply (packet : Packet)
  deriving DecidableEq

/-- The packet that is under way. -/
def Item.packet : Item → Packet
  | .request packet => packet
  | .reply packet => packet

/-- The session that the packet names. -/
def itemSession (item : Item) : UInt32 := packetSession item.packet

/-- What a poll of a call does to what is underway for its session. -/
inductive Transacts (call call' : Call) (trail trail' : List Item) : Poll → Prop where
  | quiet (poll : Poll)
      (houtstanding : call'.phase.isOutstanding = call.phase.isOutstanding)
      (hresponse : call'.response = call.response) (htrail : trail' = trail) :
      Transacts call call' trail trail' poll
  | send (packet : Packet) (hphase : call.phase = .sending packet)
      (houtstanding : call'.phase.isOutstanding = true)
      (hresponse : call'.response = call.response)
      (htrail : trail' = trail ++ [.request packet]) :
      Transacts call call' trail trail' .send
  | take (packet : Packet) (hphase : call.phase = .receiving)
      (houtstanding : call'.phase.isOutstanding = false)
      (hresponse : call'.response = some packet) (htrail : trail = .reply packet :: trail') :
      Transacts call call' trail trail' .receive
  | fail (hphase : call.phase = .receiving)
      (houtstanding : call'.phase.isOutstanding = false)
      (hresponse : call'.response = call.response) (htrail : trail' = trail)
      (hnone : trail = []) : Transacts call call' trail trail' .receive
  | abandon (houtstanding : call'.phase.isOutstanding = false)
      (hresponse : call'.response = call.response) (htrail : trail' = trail) :
      Transacts call call' trail trail' .abandon

/-- What is underway for a session: in its channel, on its way there, or among the rest. -/
def trailOf (channel : PacketChannel) (awaiting : List Packet) (rest : List Item) : List Item :=
  channel.queue.map .reply ++ (awaiting.map .reply ++ rest)

namespace Session

variable {session next : Session} {duplexChannel duplexChannel' : DuplexChannel} {index : Nat}
  {call : Call} {poll : Poll} {awaiting : List Packet} {rest rest' : List Item}

/-- The rest gets the packet that the poll queues, and keeps the others. -/
theorem Polled.transacts (h : Polled session duplexChannel index call poll next duplexChannel')
    (hsame : duplexChannel'.sender = duplexChannel.sender → rest' = rest)
    (hqueue : ∀ packet hroom, call.phase = .sending packet →
      duplexChannel.sender.receiverDropped = false →
        duplexChannel'.sender = duplexChannel.sender.push packet hroom →
          rest' = rest ++ [.request packet])
    (hclosed : duplexChannel.receiver.sendersDropped = true → awaiting = [] ∧ rest = []) :
    ∃ call', next.calls = session.calls.set index call' ∧
      Transacts call call' (trailOf duplexChannel.receiver awaiting rest)
        (trailOf duplexChannel'.receiver awaiting rest') poll := by
  cases h with
  | senderClosed hphase | senderOpen hphase | joinRead hphase | receiverClosed hphase
  | receiverOpen hphase | complete hphase | incomplete hphase | queueClosed packet hphase
  | joinWrite hphase | acquire hphase | succeed reply hphase =>
      refine ⟨_, rfl, .quiet _ ?_ rfl ?_⟩
      · rw [hphase]
        rfl
      · rw [hsame rfl]
  | draw phase hphase hnext =>
      refine ⟨_, rfl, .quiet _ ?_ rfl ?_⟩
      · rw [hphase]
        rcases hnext with ⟨packet, rfl, -⟩ | ⟨error, rfl⟩ | rfl
        · rfl
        · rfl
        · rfl
      · rw [hsame rfl]
  | queue packet hphase hopen hroom =>
      refine ⟨_, rfl, .send packet hphase rfl rfl ?_⟩
      simp only [trailOf, hqueue packet hroom hphase hopen rfl, List.append_assoc]
  | closed hphase hempty hdropped =>
      obtain ⟨rfl, rfl⟩ := hclosed hdropped
      refine ⟨_, rfl, .fail hphase rfl rfl ?_ ?_⟩
      · rw [hsame rfl]
      · simp [trailOf, hempty]
  | reply response receiver reply hphase hrecv =>
      obtain ⟨_, hreceived, -⟩ := Channel.recv_eq_received_iff.mp hrecv
      refine ⟨_, rfl, .take response hphase rfl rfl ?_⟩
      simp only [trailOf, hreceived, hsame rfl, List.map_cons, List.cons_append]
  | malformed response receiver result hphase hrecv =>
      obtain ⟨_, hreceived, -⟩ := Channel.recv_eq_received_iff.mp hrecv
      refine ⟨_, rfl, .take response hphase rfl rfl ?_⟩
      simp only [trailOf, hreceived, hsame rfl, List.map_cons, List.cons_append]
  | abandon hreturned habandoned =>
      refine ⟨_, rfl, .abandon rfl rfl ?_⟩
      rw [hsame rfl]

end Session

/-- Whose requests are known, which reply was found for which request, and for which none was. -/
structure Account where
  wrote : Nat → Packet → Prop
  answered : Packet → Packet → Prop
  unanswered : Packet → Prop
  closed : Prop

/-- What one account knows, the other one knows too. -/
structure Account.Extends (account account' : Account) : Prop where
  wrote : ∀ index packet, account.wrote index packet → account'.wrote index packet
  answered : ∀ request reply, account.answered request reply → account'.answered request reply
  unanswered : ∀ request, account.unanswered request → account'.unanswered request
  closed : account.closed → account'.closed

/-- What is underway belongs to the call. -/
def Account.Owns (account : Account) (index : Nat) : Item → Prop
  | .request packet => account.wrote index packet
  | .reply packet => ∃ request, account.wrote index request ∧ account.answered request packet

/-- One call of the session at most has its request out. What is underway is its request or the
reply to it; when nothing is, no reply was found or the queue is closed. What the other calls took
was the reply to their own request. -/
structure Transaction (account : Account) (calls : List Call) (trail : List Item) : Prop where
  unique : ∀ (index other : Nat) (call found : Call), calls[index]? = some call →
    calls[other]? = some found → call.phase.isOutstanding = true →
      found.phase.isOutstanding = true → index = other
  underway : trail = [] ∨ ∃ (item : Item) (index : Nat) (call : Call), trail = [item] ∧
    calls[index]? = some call ∧ call.phase.isOutstanding = true ∧ account.Owns index item
  settled : ∀ (index : Nat) (call : Call) (response : Packet), calls[index]? = some call →
    call.response = some response → account.Owns index (.reply response)
  waiting : ∀ (index : Nat) (call : Call), calls[index]? = some call →
    call.phase.isOutstanding = true → trail = [] →
      account.closed ∨ ∃ request, account.wrote index request ∧ account.unanswered request

/-- No call has its request out. -/
def Quiet (calls : List Call) : Prop := ∀ call ∈ calls, call.phase.isOutstanding = false

instance decidableQuiet (calls : List Call) : Decidable (Quiet calls) :=
  inferInstanceAs (Decidable (∀ call ∈ calls, call.phase.isOutstanding = false))

theorem quiet_of_over {calls : List Call} (h : calls.all fun call => call.phase.isOver) :
    Quiet calls := by
  intro call hcall
  by_contra hout
  rw [Bool.not_eq_false] at hout
  have hover := List.all_eq_true.mp h call hcall
  rw [CallPhase.isOver_of_isOutstanding hout] at hover
  exact Bool.false_ne_true hover

namespace Transaction

variable {account account' : Account} {calls : List Call} {trail trail' : List Item}
  {index : Nat} {call call' : Call} {poll : Poll}

theorem owns_of_extends (hextends : account.Extends account') {item : Item}
    (h : account.Owns index item) : account'.Owns index item := by
  cases item with
  | request packet => exact hextends.wrote index packet h
  | reply packet =>
      obtain ⟨request, hwrote, hanswered⟩ := h
      exact ⟨request, hextends.wrote index request hwrote,
        hextends.answered request packet hanswered⟩

theorem extend (h : Transaction account calls trail) (hextends : account.Extends account') :
    Transaction account' calls trail where
  unique := h.unique
  underway := by
    rcases h.underway with hnone | ⟨item, index, call, htrail, hcall, hout, howns⟩
    · exact .inl hnone
    · exact .inr ⟨item, index, call, htrail, hcall, hout, owns_of_extends hextends howns⟩
  settled := fun index call response hcall hresponse =>
    owns_of_extends hextends (h.settled index call response hcall hresponse)
  waiting := by
    intro index call hcall hout hnone
    rcases h.waiting index call hcall hout hnone with hclosed | ⟨request, hwrote, hunanswered⟩
    · exact .inl (hextends.closed hclosed)
    · exact .inr ⟨request, hextends.wrote index request hwrote,
        hextends.unanswered request hunanswered⟩

/-- One request or one reply is underway at most. -/
theorem length_le (h : Transaction account calls trail) : trail.length ≤ 1 := by
  rcases h.underway with rfl | ⟨item, -, -, rfl, -⟩
  · exact Nat.zero_le 1
  · exact Nat.le_refl 1

/-- A session in which no call has its request out has nothing underway. -/
theorem trail_eq_nil (h : Transaction account calls trail) (hquiet : Quiet calls) :
    trail = [] := by
  rcases h.underway with hnone | ⟨item, index, call, -, hcall, hout, -⟩
  · exact hnone
  · simp [hquiet call (List.mem_of_getElem? hcall)] at hout

/-- What is underway is there alone, and belongs to a call that has its request out. -/
theorem exists_owner (h : Transaction account calls trail) {item : Item} {before after : List Item}
    (htrail : trail = before ++ item :: after) :
    before = [] ∧ after = [] ∧ ∃ (index : Nat) (call : Call), calls[index]? = some call ∧
      call.phase.isOutstanding = true ∧ account.Owns index item := by
  rcases h.underway with hnone | ⟨found, index, call, hsingle, hcall, hout, howns⟩
  · simp [hnone] at htrail
  · rw [hsingle, eq_comm, List.append_eq_singleton_iff] at htrail
    rcases htrail with ⟨rfl, hitem⟩ | ⟨-, hitem⟩
    · obtain ⟨rfl, rfl⟩ := List.cons.inj hitem
      exact ⟨rfl, rfl, index, call, hcall, hout, howns⟩
    · simp at hitem

theorem new : Transaction account [] [] := by
  constructor <;> simp

/-- Nothing is underway any more: the queue is closed, or no call is left to wait. -/
theorem lose (h : Transaction account calls trail) (htrail : trail'.Sublist trail)
    (hlost : account.closed ∨ Quiet calls) : Transaction account calls trail' where
  unique := h.unique
  underway := by
    rcases h.underway with rfl | ⟨item, index, call, rfl, hcall, hout, howns⟩
    · exact .inl (List.sublist_nil.mp htrail)
    · rcases List.sublist_singleton.mp htrail with hnone | hsame
      · exact .inl hnone
      · exact .inr ⟨item, index, call, hsame, hcall, hout, howns⟩
  settled := h.settled
  waiting := by
    intro index call hcall hout hnone
    rcases hlost with hclosed | hquiet
    · exact .inl hclosed
    · simp [hquiet call (List.mem_of_getElem? hcall)] at hout

/-- The server finds the reply to the request. -/
theorem answer (h : Transaction account calls trail) {request reply : Packet}
    {before after : List Item} (hanswered : account.answered request reply)
    (htrail : trail = before ++ .request request :: after) :
    Transaction account calls (before ++ .reply reply :: after) := by
  obtain ⟨rfl, rfl, index, call, hcall, hout, hwrote⟩ := h.exists_owner htrail
  exact ⟨h.unique, .inr ⟨.reply reply, index, call, rfl, hcall, hout, request, hwrote, hanswered⟩,
    h.settled, by simp⟩

/-- The server finds no reply to the request. -/
theorem giveUp (h : Transaction account calls trail) {request : Packet}
    {before after : List Item} (hunanswered : account.unanswered request)
    (htrail : trail = before ++ .request request :: after) :
    Transaction account calls (before ++ after) := by
  obtain ⟨rfl, rfl, index, call, hcall, hout, hwrote⟩ := h.exists_owner htrail
  refine ⟨h.unique, .inl rfl, h.settled, ?_⟩
  intro other found hfound hother _
  obtain rfl := h.unique other index found call hfound hcall hother hout
  exact .inr ⟨request, hwrote, hunanswered⟩

/-- A new call has nothing out. -/
theorem start (h : Transaction account calls trail) (request : AccountingRequest) :
    Transaction account (calls ++ [⟨request, none, none, .checkingSender⟩]) trail := by
  have hold {index : Nat} {call : Call}
      (hcall : (calls ++ [⟨request, none, none, .checkingSender⟩])[index]? = some call)
      (hnew : call.phase.isOutstanding = true ∨ call.response ≠ none) :
      calls[index]? = some call := by
    rcases getElem?_append_singleton_cases hcall with ⟨-, rfl⟩ | hold
    · simp [CallPhase.isOutstanding] at hnew
    · exact hold
  constructor
  case unique =>
    intro index other call found hcall hfound hout hother
    exact h.unique index other call found (hold hcall (.inl hout)) (hold hfound (.inl hother))
      hout hother
  case underway =>
    rcases h.underway with hnone | ⟨item, index, call, htrail, hcall, hout, howns⟩
    · exact .inl hnone
    · exact .inr ⟨item, index, call, htrail, getElem?_append_of_some hcall _, hout, howns⟩
  case settled =>
    intro index call response hcall hresponse
    exact h.settled index call response (hold hcall (.inr (by simp [hresponse]))) hresponse
  case waiting =>
    intro index call hcall hout hnone
    exact h.waiting index call (hold hcall (.inl hout)) hout hnone

/-- A call goes on as it was, whether it has its request out or not. -/
theorem keep (h : Transaction account calls trail) (hcall : calls[index]? = some call)
    (hout : call'.phase.isOutstanding = call.phase.isOutstanding)
    (hresponse : call'.response = call.response) :
    Transaction account (calls.set index call') trail := by
  have hbefore {other : Nat} {found : Call}
      (hfound : (calls.set index call')[other]? = some found) :
      ∃ before, calls[other]? = some before ∧
        found.phase.isOutstanding = before.phase.isOutstanding ∧
        found.response = before.response := by
    rcases getElem?_set_cases hfound with ⟨rfl, rfl⟩ | ⟨-, hold⟩
    · exact ⟨call, hcall, hout, hresponse⟩
    · exact ⟨found, hold, rfl, rfl⟩
  constructor
  case unique =>
    intro first second one two hone htwo hfirst hsecond
    obtain ⟨one', hone', houtOne, -⟩ := hbefore hone
    obtain ⟨two', htwo', houtTwo, -⟩ := hbefore htwo
    exact h.unique first second one' two' hone' htwo' (houtOne ▸ hfirst) (houtTwo ▸ hsecond)
  case underway =>
    rcases h.underway with hnone | ⟨item, owner, found, htrail, hfound, howner, howns⟩
    · exact .inl hnone
    · right
      by_cases hsame : owner = index
      · subst hsame
        obtain rfl := Option.some.inj (hcall.symm.trans hfound)
        exact ⟨item, owner, call', htrail, getElem?_set_of_some hcall call', hout.trans howner,
          howns⟩
      · exact ⟨item, owner, found, htrail, (List.getElem?_set_ne (Ne.symm hsame)).trans hfound,
          howner, howns⟩
  case settled =>
    intro other found response hfound hresponded
    obtain ⟨before, hold, -, hsame⟩ := hbefore hfound
    exact h.settled other before response hold (hsame ▸ hresponded)
  case waiting =>
    intro other found hfound hother hnone
    obtain ⟨before, hold, hsame, -⟩ := hbefore hfound
    exact h.waiting other before hold (hsame ▸ hother) hnone

/-- The only call that has its request out gets the packet that is underway, or nothing. -/
theorem finish (h : Transaction account calls trail) (hcall : calls[index]? = some call)
    (hout : call.phase.isOutstanding = true) (hdone : call'.phase.isOutstanding = false)
    (hresponse : ∀ response, call'.response = some response →
      account.Owns index (.reply response)) :
    Transaction account (calls.set index call') [] := by
  have hothers {other : Nat} {found : Call}
      (hfound : (calls.set index call')[other]? = some found) :
      found.phase.isOutstanding = false := by
    rcases getElem?_set_cases hfound with ⟨-, rfl⟩ | ⟨hne, hold⟩
    · exact hdone
    · by_contra hother
      rw [Bool.not_eq_false] at hother
      exact hne (h.unique other index found call hold hcall hother hout)
  constructor
  case unique =>
    intro first second one two hone htwo hfirst
    simp [hothers hone] at hfirst
  case underway => exact .inl rfl
  case settled =>
    intro other found response hfound hresponded
    rcases getElem?_set_cases hfound with ⟨rfl, rfl⟩ | ⟨-, hold⟩
    · exact hresponse response hresponded
    · exact h.settled other found response hold hresponded
  case waiting =>
    intro other found hfound hother
    simp [hothers hfound] at hother

/-- A call sends its request while no other one is out. -/
theorem send (h : Transaction account calls trail) (hquiet : Quiet calls)
    (hcall : calls[index]? = some call) (hout : call'.phase.isOutstanding = true)
    (hresponse : call'.response = call.response) {packet : Packet}
    (hwrote : account.wrote index packet) :
    Transaction account (calls.set index call') (trail ++ [.request packet]) := by
  obtain rfl := h.trail_eq_nil hquiet
  have honly {other : Nat} {found : Call} (hfound : (calls.set index call')[other]? = some found)
      (hother : found.phase.isOutstanding = true) : other = index := by
    rcases getElem?_set_cases hfound with ⟨rfl, -⟩ | ⟨-, hold⟩
    · rfl
    · simp [hquiet found (List.mem_of_getElem? hold)] at hother
  constructor
  case unique =>
    intro first second one two hone htwo hfirst hsecond
    exact (honly hone hfirst).trans (honly htwo hsecond).symm
  case underway =>
    exact .inr ⟨_, index, call', rfl, getElem?_set_of_some hcall call', hout, hwrote⟩
  case settled =>
    intro other found response hfound hresponded
    rcases getElem?_set_cases hfound with ⟨rfl, rfl⟩ | ⟨-, hold⟩
    · exact h.settled other call response hcall (hresponse ▸ hresponded)
    · exact h.settled other found response hold hresponded
  case waiting => simp

theorem polled (h : Transaction account calls trail) (hcall : calls[index]? = some call)
    (htransacts : Transacts call call' trail trail' poll)
    (hsend : poll = .send → Quiet calls)
    (habandon : poll = .abandon → call.phase.isOutstanding = false)
    (hwrote : ∀ packet, poll = .send → call.phase = .sending packet →
      call'.phase.isOutstanding = true → account.wrote index packet) :
    Transaction account (calls.set index call') trail' := by
  cases htransacts with
  | quiet _ houtstanding hresponse htrail =>
      rw [htrail]
      exact h.keep hcall houtstanding hresponse
  | send packet hphase houtstanding hresponse htrail =>
      rw [htrail]
      exact h.send (hsend rfl) hcall houtstanding hresponse
        (hwrote packet rfl hphase houtstanding)
  | take packet hphase houtstanding hresponse htrail =>
      have hout : call.phase.isOutstanding = true := by
        rw [hphase]
        rfl
      have hfirst : trail = [] ++ .reply packet :: trail' := htrail
      obtain ⟨-, rfl, owner, found, hfound, hother, howns⟩ := h.exists_owner hfirst
      obtain rfl := h.unique owner index found call hfound hcall hother hout
      refine h.finish hcall hout houtstanding fun response hresponded => ?_
      obtain rfl := Option.some.inj (hresponse.symm.trans hresponded)
      exact howns
  | fail hphase houtstanding hresponse htrail hnone =>
      have hout : call.phase.isOutstanding = true := by
        rw [hphase]
        rfl
      rw [htrail, hnone]
      refine h.finish hcall hout houtstanding fun response hresponded => ?_
      exact h.settled index call response hcall (hresponse ▸ hresponded)
  | abandon houtstanding hresponse htrail =>
      rw [htrail]
      exact h.keep hcall (houtstanding.trans (habandon rfl).symm) hresponse

end Transaction

end TacacsRs.Networking
