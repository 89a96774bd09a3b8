import TacacsRs.Messages.RequestBody

/-!
# Bytes behind the declared texts

Both bodies declare the lengths of their texts. `from_packet` of either compares
the declared size with the length of the body in one direction only, and the
decoders stop behind the last text, so bytes behind it are not noticed.
-/

namespace TacacsRs.Messages

open Rust PrimitiveEnum

/-- A kind of bodies that declare the lengths of the texts at their end. -/
structure BodyFormat where
  Body : Type
  bytes : Body → List UInt8
  bytes_injective : Function.Injective bytes
  textSizes : Body → List Nat
  text : Body → List UInt8
  Valid : Body → Prop

namespace BodyFormat

variable (format : BodyFormat) {data : List UInt8}

/-- The data is what stands in front of the texts and the texts that it declares. -/
def IsExact (data : List UInt8) : Prop :=
  ∃ body, data = format.bytes body ∧ (format.text body).length = (format.textSizes body).sum

/-- The data is a valid body with bytes behind the texts that it declares. -/
def Overlong (data : List UInt8) : Prop :=
  ∃ body, data = format.bytes body ∧ format.Valid body ∧
    (format.textSizes body).sum < (format.text body).length

/-- A decoder that accepts the valid bodies with enough text accepts no others than exact ones
when the data is not overlong, and only then. -/
theorem isExact_of_accepted_iff {accepted : Prop} (haccepted : accepted ↔
      ∃ body, data = format.bytes body ∧ format.Valid body ∧
        (format.textSizes body).sum ≤ (format.text body).length) :
    (accepted → format.IsExact data) ↔ ¬ format.Overlong data := by
  constructor
  · rintro hexact ⟨body, rfl, hvalid, hlong⟩
    obtain ⟨body', hsame, hlength⟩ :=
      hexact (haccepted.mpr ⟨body, rfl, hvalid, Nat.le_of_lt hlong⟩)
    obtain rfl := format.bytes_injective hsame
    exact absurd hlength (Nat.ne_of_gt hlong)
  · intro hoverlong hdata
    obtain ⟨body, rfl, hvalid, hlength⟩ := haccepted.mp hdata
    have hnone : ¬ (format.textSizes body).sum < (format.text body).length :=
      fun hlong => hoverlong ⟨body, rfl, hvalid, hlong⟩
    exact ⟨body, rfl, Nat.le_antisymm (Nat.le_of_not_lt hnone) hlength⟩

end BodyFormat

namespace RequestBody

theorem bytes_injective : Function.Injective bytes := by
  rintro ⟨a, b, c, d, e, f, g, h, argCnt, argSizes, text, hsizes⟩
    ⟨a', b', c', d', e', f', g', h', argCnt', argSizes', text', hsizes'⟩ hbytes
  simp only [bytes, List.cons_append, List.nil_append, List.cons.injEq] at hbytes
  obtain ⟨rfl, rfl, rfl, rfl, rfl, rfl, rfl, rfl, rfl, hrest⟩ := hbytes
  obtain ⟨rfl, rfl⟩ := List.append_inj hrest (hsizes.trans hsizes'.symm)
  rfl

/-- The bodies of accounting requests. -/
def format : BodyFormat where
  Body := RequestBody
  bytes := bytes
  bytes_injective := bytes_injective
  textSizes := textSizes
  text := text
  Valid := Valid

theorem exists_fromPacket_iff (packet : Packet) :
    (∃ request, AccountingRequest.fromPacket packet = .ok request) ↔
      ∃ body : RequestBody, packet.body = body.bytes ∧ body.Valid ∧
        body.textSizes.sum ≤ body.text.length := by
  simp only [AccountingRequest.fromPacket_eq_ok_iff]
  constructor
  · rintro ⟨request, hrequest⟩
    have hsafe : AccountingRequest.fromPacket packet ≠ .panic := by
      rw [AccountingRequest.fromPacket_eq_ok_iff.mpr hrequest]
      simp
    rw [Ne, AccountingRequest.fromPacket_eq_panic_iff, not_not, ← exists_bytes_eq_iff] at hsafe
    obtain ⟨body, hbody⟩ := hsafe
    rw [hbody] at hrequest
    exact ⟨body, hbody, exists_fromBytes_bytes_iff.mp ⟨request, hrequest⟩⟩
  · rintro ⟨body, hbody, haccepted⟩
    rw [hbody]
    exact exists_fromBytes_bytes_iff.mpr haccepted

end RequestBody

/-- The bytes of a reply's body in front of its texts, by name, and those behind. -/
structure ReplyBody where
  serverMsgLenHigh : UInt8
  serverMsgLenLow : UInt8
  dataLenHigh : UInt8
  dataLenLow : UInt8
  status : UInt8
  text : List UInt8

namespace ReplyBody

/-- The bytes of the body, its fixed part first. -/
def bytes (body : ReplyBody) : List UInt8 :=
  [body.serverMsgLenHigh, body.serverMsgLenLow, body.dataLenHigh, body.dataLenLow, body.status] ++
    body.text

/-- The sizes that the fixed part declares for the two texts. -/
def textSizes (body : ReplyBody) : List Nat :=
  [(u16FromBeBytes body.serverMsgLenHigh body.serverMsgLenLow).toNat,
    (u16FromBeBytes body.dataLenHigh body.dataLenLow).toNat]

/-- The status is a declared one, and the texts, as far as the body has them, valid UTF-8. -/
structure Valid (body : ReplyBody) : Prop where
  status : ∃ status : TacacsAccountingStatus, discriminant status = body.status
  texts : ∀ slice ∈ body.textSizes.splitLengths body.text, ValidUtf8 slice

theorem bytes_injective : Function.Injective bytes := by
  rintro ⟨a, b, c, d, e, text⟩ ⟨a', b', c', d', e', text'⟩ hbytes
  simp only [bytes, List.cons_append, List.nil_append, List.cons.injEq] at hbytes
  obtain ⟨rfl, rfl, rfl, rfl, rfl, rfl⟩ := hbytes
  rfl

/-- The bodies of accounting replies. -/
def format : BodyFormat where
  Body := ReplyBody
  bytes := bytes
  bytes_injective := bytes_injective
  textSizes := textSizes
  text := text
  Valid := Valid

/-- A body that starts with the encoding of a reply declares the lengths of its texts. -/
theorem bytes_eq_toBytes_append_iff {body : ReplyBody} {reply : AccountingReply}
    {trailing : List UInt8} :
    reply.Representable ∧ body.bytes = reply.toBytes ++ trailing ↔
      [len reply.serverMsg, len reply.data] = body.textSizes ∧
        discriminant reply.status = body.status ∧
        body.text = asBytes reply.serverMsg ++ (asBytes reply.data ++ trailing) := by
  have hmsg := u16FromBeBytes_toNat_eq_iff (a := body.serverMsgLenHigh)
    (b := body.serverMsgLenLow) (n := len reply.serverMsg)
  have hdata := u16FromBeBytes_toNat_eq_iff (a := body.dataLenHigh) (b := body.dataLenLow)
    (n := len reply.data)
  simp only [AccountingReply.Representable, AccountingReply.toBytes, bytes, textSizes,
    List.cons_append, List.nil_append, List.append_assoc, List.cons.injEq,
    Nat.shiftRight_eq_div_pow, and_true]
  rw [eq_comm (a := len reply.serverMsg), eq_comm (a := len reply.data), hmsg, hdata]
  constructor
  · rintro ⟨⟨hmsgLe, hdataLe⟩, ha, hb, hc, hd, hstatus, htext⟩
    exact ⟨⟨⟨Nat.lt_succ_of_le hmsgLe, ha, hb⟩, Nat.lt_succ_of_le hdataLe, hc, hd⟩, hstatus.symm,
      htext⟩
  · rintro ⟨⟨⟨hmsgLt, ha, hb⟩, hdataLt, hc, hd⟩, hstatus, htext⟩
    exact ⟨⟨Nat.le_of_lt_succ hmsgLt, Nat.le_of_lt_succ hdataLt⟩, ha, hb, hc, hd, hstatus.symm,
      htext⟩

theorem fromBytes_bytes_eq_ok_iff {body : ReplyBody} {reply : AccountingReply} :
    AccountingReply.fromBytes body.bytes = .ok reply ↔
      discriminant reply.status = body.status ∧ body.textSizes.sum ≤ body.text.length ∧
        [reply.serverMsg, reply.data].map asBytes = body.textSizes.splitLengths body.text := by
  rw [AccountingReply.fromBytes_eq_ok_iff, ← exists_and_left]
  simp only [bytes_eq_toBytes_append_iff]
  constructor
  · rintro ⟨trailing, hsizes, hstatus, htext⟩
    have hlength : body.textSizes.sum ≤ body.text.length := by
      rw [htext, ← hsizes]
      simp only [List.sum_cons, List.sum_nil, List.length_append, length_asBytes]
      omega
    refine ⟨hstatus, hlength, (eq_splitLengths_iff hlength).mpr ⟨hsizes, trailing, ?_⟩⟩
    simp [htext]
  · rintro ⟨hstatus, hlength, htexts⟩
    obtain ⟨hsizes, trailing, htext⟩ := (eq_splitLengths_iff hlength).mp htexts
    exact ⟨trailing, hsizes, hstatus, by simpa using htext⟩

theorem exists_fromPacket_iff (packet : Packet) :
    (∃ reply, AccountingReply.fromPacket packet = .ok reply) ↔
      ∃ body : ReplyBody, packet.body = body.bytes ∧ body.Valid ∧
        body.textSizes.sum ≤ body.text.length := by
  simp only [AccountingReply.fromPacket_eq_ok_iff]
  constructor
  · rintro ⟨reply, hreply⟩
    obtain ⟨-, trailing, hbody⟩ := AccountingReply.fromBytes_eq_ok_iff.mp hreply
    obtain ⟨body, hbytes⟩ : ∃ body : ReplyBody, packet.body = body.bytes :=
      ⟨⟨_, _, _, _, _, _⟩, hbody⟩
    rw [hbytes] at hreply
    obtain ⟨hstatus, hlength, htexts⟩ := fromBytes_bytes_eq_ok_iff.mp hreply
    exact ⟨body, hbytes, ⟨⟨_, hstatus⟩, exists_map_asBytes_eq_iff.mp ⟨_, htexts⟩⟩, hlength⟩
  · rintro ⟨body, hbytes, ⟨⟨status, hstatus⟩, hvalid⟩, hlength⟩
    obtain ⟨texts, htexts⟩ := exists_map_asBytes_eq_iff.mpr hvalid
    have hcount := congrArg List.length htexts
    match texts with
    | [] => simp [textSizes] at hcount
    | [_] => simp [textSizes] at hcount
    | [serverMsg, data] =>
        refine ⟨⟨status, serverMsg, data⟩, ?_⟩
        rw [hbytes]
        exact fromBytes_bytes_eq_ok_iff.mpr ⟨hstatus, hlength, htexts⟩
    | _ :: _ :: _ :: _ => simp [textSizes] at hcount

end ReplyBody

/-- From a packet, requests and replies are accepted from exact bodies only if and only if its
body is neither a valid request's nor a valid reply's with bytes behind the declared texts. -/
theorem accepted_bodies_exact_iff (packet : Packet) :
    ((∀ request, AccountingRequest.fromPacket packet = .ok request →
          RequestBody.format.IsExact packet.body) ∧
        ∀ reply, AccountingReply.fromPacket packet = .ok reply →
          ReplyBody.format.IsExact packet.body) ↔
      ¬ RequestBody.format.Overlong packet.body ∧ ¬ ReplyBody.format.Overlong packet.body := by
  have hrequest := RequestBody.format.isExact_of_accepted_iff
    (RequestBody.exists_fromPacket_iff packet)
  have hreply := ReplyBody.format.isExact_of_accepted_iff (ReplyBody.exists_fromPacket_iff packet)
  rw [← hrequest, ← hreply, exists_imp, exists_imp]

/-- A reply without texts, and one byte behind it. -/
def replyAndByte : Packet :=
  ⟨{ majorVersion := .tacacsPlusMajor1, minorVersion := .tacacsPlusMinorVerDefault,
     tacacsType := .tacPlusAccounting, seqNo := 2, flags := TacacsFlags.tacPlusUnencryptedFlag,
     sessionId := 7, length := 6 }, [0, 0, 0, 0, 1, 255]⟩

theorem replyAndByte_accepted :
    Packet.new replyAndByte.header replyAndByte.body = .ok replyAndByte ∧
      AccountingReply.fromPacket replyAndByte =
        .ok ⟨.tacPlusAcctStatusSuccess, "", ""⟩ ∧
      ¬ ReplyBody.format.IsExact replyAndByte.body := by
  refine ⟨by decide, by decide, ?_⟩
  rintro ⟨⟨a, b, c, d, e, text⟩, hbytes, hlength⟩
  simp only [replyAndByte, ReplyBody.format, ReplyBody.bytes, List.cons_append, List.nil_append,
    List.cons.injEq] at hbytes
  obtain ⟨rfl, rfl, rfl, rfl, rfl, rfl⟩ := hbytes
  exact absurd hlength (by decide)

end TacacsRs.Messages
