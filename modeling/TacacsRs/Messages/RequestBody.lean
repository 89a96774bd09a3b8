import TacacsRs.Messages.LengthWrap

/-!
# Bodies of accounting requests, taken apart

A body that contains its fixed part and the argument lengths that it declares,
with any bytes behind them. Such a body is accepted when its codes are those of
some request and the declared lengths cut texts from the bytes behind.
-/

namespace TacacsRs.Messages

open Rust PrimitiveEnum

/-- The bytes of a body up to the end of its argument lengths, by name, and those behind. -/
structure RequestBody where
  flags : UInt8
  authenMethod : UInt8
  privLvl : UInt8
  authenType : UInt8
  authenService : UInt8
  userLen : UInt8
  portLen : UInt8
  remAddrLen : UInt8
  argCnt : UInt8
  argSizes : List UInt8
  text : List UInt8
  length_argSizes : argSizes.length = argCnt.toNat

namespace RequestBody

/-- The bytes of the body: the fixed part, the argument lengths and what follows. -/
def bytes (body : RequestBody) : List UInt8 :=
  [body.flags, body.authenMethod, body.privLvl, body.authenType, body.authenService, body.userLen,
    body.portLen, body.remAddrLen, body.argCnt] ++ (body.argSizes ++ body.text)

/-- The lengths of the texts that the body declares, in their order. -/
def textSizes (body : RequestBody) : List Nat :=
  [body.userLen.toNat, body.portLen.toNat, body.remAddrLen.toNat] ++ body.argSizes.map UInt8.toNat

/-- The codes in front of the lengths are those of the request. -/
structure HasCodes (body : RequestBody) (request : AccountingRequest) : Prop where
  flags : body.flags = request.flags.bits
  authenMethod : body.authenMethod = discriminant request.authenMethod
  privLvl : body.privLvl = request.privLvl
  authenType : body.authenType = discriminant request.authenType
  authenService : body.authenService = discriminant request.authenService

/-- The codes are declared ones, and the texts, as far as the body has them, valid UTF-8. -/
structure Valid (body : RequestBody) : Prop where
  codes : ∃ request, body.HasCodes request ∧ request.flags.IsDeclared
  texts : ∀ slice ∈ body.textSizes.splitLengths body.text, ValidUtf8 slice

variable {body : RequestBody}

theorem length_bytes (body : RequestBody) :
    body.bytes.length =
      tacacsAccountingRequestMinLength + body.argCnt.toNat + body.text.length := by
  simp only [bytes, List.length_append, List.length_cons, List.length_nil, body.length_argSizes,
    tacacsAccountingRequestMinLength]
  omega

theorem containsArgSizes_bytes (body : RequestBody) :
    AccountingRequest.ContainsArgSizes body.bytes := by
  refine ⟨body.argCnt, rfl, ?_⟩
  rw [length_bytes]
  exact Nat.le_add_right _ _

/-- Taking a body apart asks for nothing but its fixed part and its argument lengths. -/
theorem exists_bytes_eq_iff {data : List UInt8} :
    (∃ body : RequestBody, data = body.bytes) ↔ AccountingRequest.ContainsArgSizes data := by
  constructor
  · rintro ⟨body, rfl⟩
    exact body.containsArgSizes_bytes
  · rintro ⟨argCnt, hcount, hlength⟩
    match data with
    | b0 :: b1 :: b2 :: b3 :: b4 :: b5 :: b6 :: b7 :: b8 :: rest =>
        obtain rfl : b8 = argCnt := Option.some.inj hcount
        have hsizes : (rest.take b8.toNat).length = b8.toNat := by
          rw [List.length_take, Nat.min_eq_left]
          simp only [tacacsAccountingArgSizeOffset, List.length_cons] at hlength
          omega
        refine ⟨⟨b0, b1, b2, b3, b4, b5, b6, b7, b8, _, rest.drop b8.toNat, hsizes⟩, ?_⟩
        simp [bytes]

/-- The declared size leaves out the argument lengths themselves. -/
theorem sizeFromBytes_bytes (body : RequestBody) :
    AccountingRequest.sizeFromBytes body.bytes =
      .ok (tacacsAccountingRequestMinLength + body.textSizes.sum) := by
  have hcount : body.bytes[8]? = some body.argCnt := rfl
  have hsizes : tacacsAccountingArgSizeOffset + body.argCnt.toNat ≤ body.bytes.length := by
    rw [length_bytes]
    exact Nat.le_add_right _ _
  obtain ⟨userLen, portLen, remAddrLen, huser, hport, hrem, hsize⟩ :=
    AccountingRequest.sizeFromBytes_of_containsArgSizes hcount hsizes
  obtain rfl : body.userLen = userLen := Option.some.inj huser
  obtain rfl : body.portLen = portLen := Option.some.inj hport
  obtain rfl : body.remAddrLen = remAddrLen := Option.some.inj hrem
  have hargs : (body.bytes.drop 9).take body.argCnt.toNat = body.argSizes :=
    List.take_left' body.length_argSizes
  rw [hsize, hargs]
  simp only [textSizes, List.sum_append, List.sum_cons, List.sum_nil,
    tacacsAccountingRequestMinLength, Outcome.ok.injEq]
  omega

/-- A body in the layout of a request, with any bytes behind it. -/
theorem bytes_eq_append_iff {request : AccountingRequest}
    {layout : AccountingRequest.Layout request} {rest : List UInt8}
    (hcount : layout.argSizes.length = layout.argCnt.toNat) :
    body.bytes = layout.bytes ++ rest ↔
      body.HasCodes request ∧ (layout.userLen = body.userLen ∧ layout.portLen = body.portLen ∧
        layout.remAddrLen = body.remAddrLen ∧ layout.argCnt = body.argCnt ∧
        layout.argSizes = body.argSizes) ∧ body.text = request.texts.flatMap asBytes ++ rest := by
  have htext : layout.bytes ++ rest =
      [request.flags.bits, discriminant request.authenMethod, request.privLvl,
        discriminant request.authenType, discriminant request.authenService, layout.userLen,
        layout.portLen, layout.remAddrLen, layout.argCnt] ++
      (layout.argSizes ++ (request.texts.flatMap asBytes ++ rest)) := by
    simp [AccountingRequest.Layout.bytes, AccountingRequest.texts]
  rw [htext]
  constructor
  · intro h
    simp only [bytes, List.cons_append, List.nil_append, List.cons.injEq] at h
    obtain ⟨hflags, hmethod, hpriv, htype, hservice, huser, hport, hrem, hcnt, hrest⟩ := h
    have hlength : body.argSizes.length = layout.argSizes.length := by
      rw [body.length_argSizes, hcount, hcnt]
    obtain ⟨hsizes, hbehind⟩ := List.append_inj hrest hlength
    exact ⟨⟨hflags, hmethod, hpriv, htype, hservice⟩,
      ⟨huser.symm, hport.symm, hrem.symm, hcnt.symm, hsizes.symm⟩, hbehind⟩
  · rintro ⟨⟨hflags, hmethod, hpriv, htype, hservice⟩, ⟨huser, hport, hrem, hcnt, hsizes⟩, hbehind⟩
    rw [bytes, hflags, hmethod, hpriv, htype, hservice, huser, hport, hrem, hcnt, hsizes, hbehind]

/-- What is decoded from a body: its codes, and the texts that its lengths cut. -/
theorem fromBytes_bytes_eq_ok_iff {request : AccountingRequest} :
    AccountingRequest.fromBytes body.bytes = .ok request ↔
      request.flags.IsDeclared ∧ body.HasCodes request ∧
        body.textSizes.sum ≤ body.text.length ∧
        request.texts.map asBytes = body.textSizes.splitLengths body.text := by
  have hlong : ¬ body.bytes.length < tacacsAccountingRequestMinLength := by
    rw [length_bytes]
    omega
  have hlens : (request.texts.map asBytes).map List.length = request.texts.map len := by
    rw [List.map_map]
    rfl
  rw [AccountingRequest.fromBytes, if_neg hlong, Decoder.value_eq_ok_iff]
  simp only [AccountingRequest.decoder_eq_ok_iff]
  constructor
  · rintro ⟨rest, hflags, layout, hmatches, hbytes⟩
    obtain ⟨hcount, hsizes⟩ := AccountingRequest.Layout.matches_iff.mp hmatches
    obtain ⟨hcodes, ⟨huser, hport, hrem, -, hargs⟩, htext⟩ := (bytes_eq_append_iff hcount).mp hbytes
    have hsame : request.texts.map len = body.textSizes := by
      rw [hsizes, huser, hport, hrem, hargs, textSizes]
    have hlength : body.textSizes.sum ≤ body.text.length := by
      rw [htext, ← hsame, ← hlens, List.flatMap_def, List.length_append, List.length_flatten]
      exact Nat.le_add_right _ _
    refine ⟨hflags, hcodes, hlength,
      (eq_splitLengths_iff hlength).mpr ⟨hlens.trans hsame, rest, ?_⟩⟩
    rw [htext, List.flatMap_def]
  · rintro ⟨hflags, hcodes, hlength, htexts⟩
    obtain ⟨hsame, rest, htext⟩ := (eq_splitLengths_iff hlength).mp htexts
    let layout : AccountingRequest.Layout request :=
      ⟨body.userLen, body.portLen, body.remAddrLen, body.argCnt, body.argSizes⟩
    refine ⟨rest, hflags, layout,
      AccountingRequest.Layout.matches_iff.mpr ⟨body.length_argSizes, hlens ▸ hsame⟩, ?_⟩
    rw [bytes_eq_append_iff body.length_argSizes, List.flatMap_def]
    exact ⟨hcodes, ⟨rfl, rfl, rfl, rfl, rfl⟩, htext⟩

/-- A body is accepted when it is valid and has all the text that it declares. -/
theorem exists_fromBytes_bytes_iff :
    (∃ request, AccountingRequest.fromBytes body.bytes = .ok request) ↔
      body.Valid ∧ body.textSizes.sum ≤ body.text.length := by
  simp only [fromBytes_bytes_eq_ok_iff]
  constructor
  · rintro ⟨request, hflags, hcodes, hlength, htexts⟩
    exact ⟨⟨⟨request, hcodes, hflags⟩, exists_map_asBytes_eq_iff.mp ⟨_, htexts⟩⟩, hlength⟩
  · rintro ⟨⟨⟨coded, hcodes, hflags⟩, hvalid⟩, hlength⟩
    obtain ⟨texts, htexts⟩ := exists_map_asBytes_eq_iff.mpr hvalid
    have hcount := congrArg List.length htexts
    match texts with
    | [] => simp [textSizes] at hcount
    | [_] => simp [textSizes] at hcount
    | [_, _] => simp [textSizes] at hcount
    | user :: port :: remAddress :: args =>
        refine ⟨{ coded with user, port, remAddress, args }, hflags, ?_, hlength, htexts⟩
        exact ⟨hcodes.flags, hcodes.authenMethod, hcodes.privLvl, hcodes.authenType,
          hcodes.authenService⟩

end RequestBody

end TacacsRs.Messages
