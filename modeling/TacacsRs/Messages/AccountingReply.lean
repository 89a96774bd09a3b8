import TacacsRs.Rust.Decoder
import TacacsRs.Messages.Packet

/-!
# Accounting replies

Two 16-bit lengths and a status byte, then the two texts. `fromPacket` checks
the declared size before it decodes; `fromBytes` alone is what a session calls.
-/

namespace TacacsRs.Messages

open Rust PrimitiveEnum

/-- The shared `read_string` of the accounting bodies. -/
def readString (len : Nat) : Decoder String := do
  let remainingBuffer ← Decoder.remaining
  if remainingBuffer < len then
    Decoder.lift (.err (.msg "Not enough data to read string. Remaining buffer too short"))
  else do
    let buffer ← (Decoder.readExact len).withContext
      ("Unable to read " ++ len.repr ++ " bytes from cursor")
    Decoder.lift ((fromUtf8 buffer).withContext "Unable to read data into UTF8 formatted string")

/-- A text is read when its bytes are next on the cursor, and only then. -/
theorem readString_exact (n : Nat) : (readString n).Exact (fun s => len s = n) asBytes := by
  intro cursor s rest
  simp only [readString, Decoder.bind_eq_ok_iff, Decoder.remaining_eq_ok_iff]
  constructor
  · rintro ⟨_, _, ⟨rfl, rfl⟩, h⟩
    split at h
    · simp at h
    · simp only [Decoder.bind_eq_ok_iff, Decoder.withContext_eq_ok_iff,
        Decoder.readExact_eq_ok_iff, Decoder.lift_eq_ok_iff, Outcome.withContext_eq_ok_iff,
        fromUtf8_eq_ok_iff] at h
      obtain ⟨_, _, ⟨hlength, rfl⟩, rfl, rfl⟩ := h
      exact ⟨hlength, rfl⟩
  · rintro ⟨rfl, rfl⟩
    refine ⟨_, _, ⟨rfl, rfl⟩, ?_⟩
    rw [if_neg (by simp [len])]
    simp only [Decoder.bind_eq_ok_iff, Decoder.withContext_eq_ok_iff,
      Decoder.readExact_eq_ok_iff, Decoder.lift_eq_ok_iff, Outcome.withContext_eq_ok_iff,
      fromUtf8_eq_ok_iff]
    exact ⟨asBytes s, rest, ⟨rfl, rfl⟩, rfl, rfl⟩

theorem readString_total (n : Nat) : (readString n).Total := by
  apply Decoder.remaining_total.bind
  intro remainingBuffer
  split
  · exact Decoder.Total.lift trivial
  · apply (Decoder.readExact_total n).withContext.bind
    intro buffer
    exact Decoder.Total.lift (Outcome.safe_withContext.mpr (safe_fromUtf8 buffer))

/-- The fixed part of a reply: two lengths of two bytes and the status. -/
def tacacsAccountingReplyMinLength : Nat := 5

/-- The reply of a server to an accounting request. -/
structure AccountingReply where
  status : TacacsAccountingStatus
  serverMsg : String
  data : String
  deriving DecidableEq, Repr

namespace AccountingReply

/-- The size that the two length fields declare, read in front of the texts. -/
def sizeFromBytes (data : List UInt8) : Outcome Nat :=
  Decoder.value (α := Nat) (do
    let serverMsgLen ← Decoder.readU16.withContext "Unable to read server_msg_len"
    let dataLen ← Decoder.readU16.withContext "Unable to read data_len"
    pure (tacacsAccountingReplyMinLength + serverMsgLen.toNat + dataLen.toNat)) data

/-- The body of `fromBytes`, on a cursor over the whole input. -/
def decoder : Decoder AccountingReply := do
  let serverMsgLen ← Decoder.readU16.withContext "Unable to read server_msg_len"
  let dataLen ← Decoder.readU16.withContext "Unable to read data_len"
  let status ← Decoder.readU8.withContext "Unable to read status"
  let status ← Decoder.lift ((tryFromPrimitive status).withContext
    "Unable to convert status to TacacsAccountingStatus")
  let serverMsg ← (readString serverMsgLen.toNat).withContext "Unable to read server_msg"
  let data ← (readString dataLen.toNat).withContext "Unable to read data"
  pure { status, serverMsg, data }

/-- The reply that `decoder` reads; bytes behind it are left. -/
def fromBytes (bytes : List UInt8) : Outcome AccountingReply := decoder.value bytes

/-- The length of the body is checked before the body is decoded. -/
def fromPacket (packet : Packet) : Outcome AccountingReply := do
  let expectedLength ← (sizeFromBytes packet.body).withContext
    "Unable to determine expected length of packet"
  if packet.body.length < expectedLength then
    .err (.msg ("Packet body length does not match expected length. Expected: " ++
      expectedLength.repr ++ ", Actual: " ++ packet.body.length.repr))
  else
    (fromBytes packet.body).withContext "Unable to convert packet body to Reply"

/-- The lengths in two bytes each, the status and the texts; a longer length is cut to its low
bytes. -/
def toBytes (reply : AccountingReply) : List UInt8 :=
  [UInt8.ofNat (len reply.serverMsg >>> 8), UInt8.ofNat (len reply.serverMsg),
    UInt8.ofNat (len reply.data >>> 8), UInt8.ofNat (len reply.data),
    discriminant reply.status] ++ asBytes reply.serverMsg ++ asBytes reply.data

/-- Both lengths fit the two bytes they are written to. -/
def Representable (reply : AccountingReply) : Prop :=
  len reply.serverMsg ≤ 65535 ∧ len reply.data ≤ 65535

/-- The decoder reads the encodings of the representable replies and nothing else. -/
theorem decoder_exact : decoder.Exact Representable toBytes := by
  intro cursor reply rest
  obtain ⟨status, serverMsg, data⟩ := reply
  simp only [decoder, Decoder.bind_eq_ok_iff, Decoder.withContext_eq_ok_iff,
    Decoder.readU16_eq_ok_iff, Decoder.readU8_eq_ok_iff, Decoder.lift_eq_ok_iff,
    Outcome.withContext_eq_ok_iff, tryFromPrimitive_eq_ok_iff, readString_exact _ _ _ _,
    Decoder.pure_apply, Outcome.ok.injEq, Prod.mk.injEq, mk.injEq, Representable, toBytes,
    Nat.shiftRight_eq_div_pow]
  constructor
  · rintro ⟨_, _, ⟨a, b, rfl, rfl⟩, _, _, ⟨c, d, rfl, rfl⟩, _, _, rfl, _, _, ⟨rfl, rfl⟩,
      _, _, ⟨hmsg, rfl⟩, _, _, ⟨hdata, rfl⟩, ⟨rfl, rfl, rfl⟩, rfl⟩
    obtain ⟨hmsgBound, rfl, rfl⟩ := u16FromBeBytes_toNat_eq_iff.mp hmsg.symm
    obtain ⟨hdataBound, rfl, rfl⟩ := u16FromBeBytes_toNat_eq_iff.mp hdata.symm
    exact ⟨⟨by omega, by omega⟩, by simp⟩
  · rintro ⟨⟨hmsg, hdata⟩, rfl⟩
    have hmsgLen := u16FromBeBytes_toNat_eq_iff.mpr
      ⟨Nat.lt_succ_of_le hmsg, rfl, rfl⟩
    have hdataLen := u16FromBeBytes_toNat_eq_iff.mpr
      ⟨Nat.lt_succ_of_le hdata, rfl, rfl⟩
    exact ⟨_, _, ⟨_, _, rfl, rfl⟩, _, _, ⟨_, _, rfl, rfl⟩, _, _, rfl, _, _, ⟨rfl, rfl⟩,
      _, _, ⟨hmsgLen.symm, by simp⟩, _, _, ⟨hdataLen.symm, rfl⟩, ⟨rfl, rfl, rfl⟩, rfl⟩

theorem fromBytes_eq_ok_iff {bytes : List UInt8} {reply : AccountingReply} :
    fromBytes bytes = .ok reply ↔
      reply.Representable ∧ ∃ trailing, bytes = reply.toBytes ++ trailing := by
  simp only [fromBytes, Decoder.value_eq_ok_iff, decoder_exact _ _ _, exists_and_left]

@[simp] theorem length_toBytes (reply : AccountingReply) :
    reply.toBytes.length = 5 + len reply.serverMsg + len reply.data := by
  simp only [toBytes, List.length_append, List.length_cons, List.length_nil, len]

/-- The declared size of an encoded reply is the number of bytes of its encoding. -/
theorem sizeFromBytes_toBytes_append {reply : AccountingReply} (h : reply.Representable)
    (trailing : List UInt8) :
    sizeFromBytes (reply.toBytes ++ trailing) = .ok reply.toBytes.length := by
  obtain ⟨hmsg, hdata⟩ := h
  have hmsgLen := u16FromBeBytes_toNat_eq_iff.mpr ⟨Nat.lt_succ_of_le hmsg, rfl, rfl⟩
  have hdataLen := u16FromBeBytes_toNat_eq_iff.mpr ⟨Nat.lt_succ_of_le hdata, rfl, rfl⟩
  rw [length_toBytes]
  simp only [sizeFromBytes, Decoder.value_eq_ok_iff, Decoder.bind_eq_ok_iff,
    Decoder.withContext_eq_ok_iff, Decoder.readU16_eq_ok_iff, Decoder.pure_apply,
    Outcome.ok.injEq, Prod.mk.injEq, tacacsAccountingReplyMinLength, toBytes,
    Nat.shiftRight_eq_div_pow]
  refine ⟨_, _, _, ⟨_, _, rfl, rfl⟩, _, _, ⟨_, _, rfl, rfl⟩, ?_, rfl⟩
  rw [hmsgLen, hdataLen]

/-- The size check of `fromPacket` refuses nothing that `fromBytes` would accept. -/
theorem fromPacket_eq_ok_iff {packet : Packet} {reply : AccountingReply} :
    fromPacket packet = .ok reply ↔ fromBytes packet.body = .ok reply := by
  simp only [fromPacket, Outcome.bind_def, Outcome.bind_eq_ok_iff,
    Outcome.withContext_eq_ok_iff]
  constructor
  · rintro ⟨expectedLength, -, h⟩
    split at h
    · simp at h
    · simpa using h
  · intro h
    obtain ⟨hrepresentable, trailing, hbody⟩ := fromBytes_eq_ok_iff.mp h
    have hsize := sizeFromBytes_toBytes_append hrepresentable trailing
    rw [← hbody] at hsize
    have hlong : ¬ packet.body.length < reply.toBytes.length := by
      rw [hbody, List.length_append]
      omega
    exact ⟨_, hsize, by rw [if_neg hlong, h]; rfl⟩

theorem decoder_total : decoder.Total := by
  apply Decoder.readU16_total.withContext.bind
  intro serverMsgLen
  apply Decoder.readU16_total.withContext.bind
  intro dataLen
  apply Decoder.readU8_total.withContext.bind
  intro status
  apply (Decoder.Total.lift (Outcome.safe_withContext.mpr (safe_tryFromPrimitive status))).bind
  intro status
  apply (readString_total _).withContext.bind
  intro serverMsg
  apply (readString_total _).withContext.bind
  intro data
  exact Decoder.Total.pure _

theorem safe_fromBytes (bytes : List UInt8) : (fromBytes bytes).Safe :=
  decoder_total.value bytes

theorem safe_sizeFromBytes (bytes : List UInt8) : (sizeFromBytes bytes).Safe := by
  apply Decoder.Total.value
  apply Decoder.readU16_total.withContext.bind
  intro serverMsgLen
  apply Decoder.readU16_total.withContext.bind
  intro dataLen
  exact Decoder.Total.pure _

theorem safe_fromPacket (packet : Packet) : (fromPacket packet).Safe := by
  apply Outcome.Safe.bind (Outcome.safe_withContext.mpr (safe_sizeFromBytes packet.body))
  intro expectedLength _
  split
  · trivial
  · exact Outcome.safe_withContext.mpr (safe_fromBytes packet.body)

/-- Both entry points accept exactly the encodings of the representable replies, with any
trailing bytes, decode them to the same reply, and panic on no body. -/
theorem decodes_exactly_encodings (header : Header) (bytes : List UInt8)
    (reply : AccountingReply) :
    (fromPacket ⟨header, bytes⟩ = .ok reply ↔ fromBytes bytes = .ok reply) ∧
      (fromBytes bytes = .ok reply ↔
        len reply.serverMsg ≤ 65535 ∧ len reply.data ≤ 65535 ∧
          ∃ trailing, bytes = reply.toBytes ++ trailing) ∧
      fromPacket ⟨header, bytes⟩ ≠ .panic ∧ fromBytes bytes ≠ .panic := by
  refine ⟨fromPacket_eq_ok_iff, ?_, ?_, ?_⟩
  · rw [fromBytes_eq_ok_iff, Representable, and_assoc]
  · exact Outcome.safe_iff.mp (safe_fromPacket ⟨header, bytes⟩)
  · exact Outcome.safe_iff.mp (safe_fromBytes bytes)

end AccountingReply

end TacacsRs.Messages
