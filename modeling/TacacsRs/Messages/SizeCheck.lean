import TacacsRs.Messages.RequestBody

/-!
# The size check of accounting requests

`size_from_bytes` adds up the fixed part and the lengths of the texts, but not
the argument lengths that stand between them, so the size that `from_packet`
compares with the body is short by one byte for each argument.
-/

namespace TacacsRs.Messages

open Rust PrimitiveEnum

/-- What `read_string` reports when the cursor has fewer bytes than asked for. -/
def notEnoughData : Error :=
  .msg "Not enough data to read string. Remaining buffer too short"

theorem readString_of_lt {n : Nat} {cursor : List UInt8} (h : cursor.length < n) :
    readString n cursor = .err notEnoughData := by
  simp [readString, Decoder.remaining, h, Decoder.lift, notEnoughData]

theorem exists_readString_eq_ok {n : Nat} {cursor : List UInt8} (h : n ≤ cursor.length)
    (hvalid : ValidUtf8 (cursor.take n)) :
    ∃ s, readString n cursor = .ok (s, cursor.drop n) := by
  obtain ⟨s, hs⟩ := validUtf8_iff.mp hvalid
  refine ⟨s, (readString_exact n cursor s _).mpr ⟨?_, ?_⟩⟩
  · change (asBytes s).length = n
    rw [hs, List.length_take, Nat.min_eq_left h]
  · rw [hs, List.take_append_drop]

/-- Bytes that are there but are no text are reported as such. -/
theorem readString_of_invalid {n : Nat} {cursor : List UInt8} (h : n ≤ cursor.length)
    (hinvalid : ¬ ValidUtf8 (cursor.take n)) :
    readString n cursor = .err (.context "Unable to read data into UTF8 formatted string"
      .invalidUtf8) := by
  have hlong : ¬ cursor.length < n := Nat.not_lt.mpr h
  have htext : fromUtf8 (cursor.take n) = .err .invalidUtf8 := by
    cases htext : fromUtf8 (cursor.take n) with
    | ok s => exact absurd (validUtf8_iff.mpr ⟨s, fromUtf8_eq_ok_iff.mp htext⟩) hinvalid
    | err e =>
        unfold fromUtf8 at htext
        split at htext
        · simp at htext
        · exact htext.symm
    | panic => exact absurd (safe_fromUtf8 (cursor.take n)) (by simp [htext, Outcome.Safe])
  simp [readString, Decoder.remaining, hlong, Decoder.withContext, Decoder.readExact, Decoder.lift,
    Outcome.withContext, htext]

/-- The decoder reports that it runs out of data while it reads a text. -/
def RunsOutOfText {α : Type} (d : Decoder α) (cursor : List UInt8) : Prop :=
  ∃ text, d cursor = .err (.context text notEnoughData)

/-- On this cursor the decoder runs out of data when slices of the given sizes do and those that
are complete are texts. -/
def ReadsTexts {α : Type} (d : Decoder α) (sizes : List Nat) (cursor : List UInt8) : Prop :=
  RunsOutOfText d cursor ↔
    (∀ slice ∈ completeSlices sizes cursor, ValidUtf8 slice) ∧ RunsOut sizes cursor

section Texts

variable {α : Type} {cursor : List UInt8}

theorem readsTexts_pure (a : α) : ReadsTexts (pure a) [] cursor := by
  simp [ReadsTexts, RunsOutOfText, RunsOut]

/-- One more text in front. -/
theorem ReadsTexts.readString_bind {k : String → Decoder α} {size : Nat} {sizes : List Nat}
    (text : String) (hrest : ∀ s, ReadsTexts (k s) sizes (cursor.drop size)) :
    ReadsTexts ((readString size).withContext text >>= k) (size :: sizes) cursor := by
  rw [ReadsTexts]
  rcases Nat.lt_or_ge cursor.length size with hshort | hlong
  · have hread : ((readString size).withContext text >>= k) cursor =
        .err (.context text notEnoughData) := by
      simp [Decoder.withContext, readString_of_lt hshort, Outcome.withContext]
    have hnone : completeSlices (size :: sizes) cursor = [] := if_pos hshort
    rw [hnone]
    exact ⟨fun _ => ⟨by simp, .inl hshort⟩, fun _ => ⟨text, hread⟩⟩
  · have hruns : RunsOut (size :: sizes) cursor ↔ RunsOut sizes (cursor.drop size) :=
      or_iff_right (Nat.not_lt.mpr hlong)
    rw [completeSlices_cons hlong, List.forall_mem_cons, hruns]
    by_cases hvalid : ValidUtf8 (cursor.take size)
    · obtain ⟨s, hs⟩ := exists_readString_eq_ok hlong hvalid
      have hread : ((readString size).withContext text >>= k) cursor = k s (cursor.drop size) := by
        simp [Decoder.withContext, hs, Outcome.withContext]
      rw [RunsOutOfText, hread, and_iff_right hvalid]
      exact hrest s
    · simp [RunsOutOfText, hvalid, Decoder.withContext, readString_of_invalid hlong hvalid,
        Outcome.withContext, notEnoughData]

/-- The loop over the arguments. -/
theorem readsTexts_forEach {sizes : List UInt8} (text : String) (result : List String → α) :
    ReadsTexts (Decoder.forEach sizes (fun size => (readString size.toNat).withContext text) >>=
      fun texts => pure (result texts)) (sizes.map UInt8.toNat) cursor := by
  induction sizes generalizing cursor result with
  | nil => exact readsTexts_pure (result [])
  | cons size sizes ih =>
      rw [Decoder.forEach_cons_bind]
      apply ReadsTexts.readString_bind text
      intro s
      exact ih fun texts => result (s :: texts)

/-- A conversion that fails otherwise comes before the texts. -/
theorem RunsOutOfText.of_lift {β : Type} {x : Outcome β} {k : β → Decoder α}
    (h : RunsOutOfText (Decoder.lift x >>= k) cursor)
    (hother : ∀ text, x ≠ .err (.context text notEnoughData)) :
    ∃ b, x = .ok b ∧ RunsOutOfText (k b) cursor := by
  obtain ⟨text, htext⟩ := h
  cases x with
  | ok b => exact ⟨b, rfl, text, htext⟩
  | err e => exact absurd (Outcome.err.inj htext ▸ rfl) (hother text)
  | panic => simp [Decoder.lift] at htext

theorem ofOption_ne_notEnoughData (message : String) (x : Option α) (text : String) :
    Outcome.ofOption message x ≠ .err (.context text notEnoughData) := by
  cases x <;> simp [Outcome.ofOption]

theorem tryFromPrimitive_ne_notEnoughData [PrimitiveEnum α] (message : String) (number : UInt8)
    (text : String) : ((tryFromPrimitive number : Outcome α).withContext message) ≠
      .err (.context text notEnoughData) := by
  unfold tryFromPrimitive
  split <;> simp [Outcome.withContext, notEnoughData]

end Texts

namespace RequestBody

/-- The part of the decoder behind the argument lengths, for a body with the request's codes. -/
def textDecoder (body : RequestBody) (coded : AccountingRequest) : Decoder AccountingRequest := do
  let user ← (readString body.userLen.toNat).withContext "Invalid user. Unable to read data"
  let port ← (readString body.portLen.toNat).withContext "Invalid port. Unable to read data"
  let remAddress ← (readString body.remAddrLen.toNat).withContext
    "Invalid rem_address. Unable to read data"
  let args ← Decoder.forEach body.argSizes fun argSize =>
    (readString argSize.toNat).withContext "Invalid arg. Unable to read data"
  pure { coded with user, port, remAddress, args }

/-- The flags and the codes of the body are declared ones. -/
def Coded (body : RequestBody) : Prop :=
  ∃ request, body.HasCodes request ∧ request.flags.IsDeclared

/-- The texts that the body has before it runs out of data are valid UTF-8. -/
def Readable (body : RequestBody) : Prop :=
  ∀ slice ∈ completeSlices body.textSizes body.text, ValidUtf8 slice

/-- The decoder gets behind the argument lengths of a body with declared codes. -/
theorem decoder_bytes {body : RequestBody} {coded : AccountingRequest}
    (hcodes : body.HasCodes coded) (hflags : coded.flags.IsDeclared) :
    AccountingRequest.decoder body.bytes = body.textDecoder coded body.text := by
  have hsizes : (Decoder.forEach (List.range body.argCnt.toNat) fun _ =>
      Decoder.readU8.withContext "Invalid arg_size. Unable to read data")
        (body.argSizes ++ body.text) = .ok (body.argSizes, body.text) := by
    have hexact : (Decoder.forEach (List.range body.argCnt.toNat) fun _ =>
        Decoder.readU8.withContext "Invalid arg_size. Unable to read data").Exact
          (List.Forall₂ (fun _ _ => True) (List.range body.argCnt.toNat))
          fun sizes => sizes.flatMap ([·]) :=
      Decoder.forEach_exact fun _ cursor size rest => by simp
    apply (hexact _ _ _).mpr
    rw [AccountingRequest.forall₂_const_left, List.length_range]
    exact ⟨body.length_argSizes, by simp⟩
  have hbyte (text : String) (byte : UInt8) (rest : List UInt8) :
      Decoder.readU8.withContext text (byte :: rest) = .ok (byte, rest) := rfl
  have hflag (text : String) (rest : List UInt8) :
      Decoder.lift (Outcome.ofOption text (BitFlags.fromBits body.flags)) rest =
        .ok (coded.flags, rest) :=
    Decoder.lift_eq_ok_iff.mpr ⟨Outcome.ofOption_eq_ok_iff.mpr
      (BitFlags.fromBits_eq_some_iff.mpr ⟨hflags, hcodes.flags⟩), rfl⟩
  have hcode {α : Type} [PrimitiveEnum α] {byte : UInt8} {code : α}
      (h : byte = discriminant code) (text : String) (rest : List UInt8) :
      Decoder.lift ((tryFromPrimitive byte).withContext text) rest = .ok (code, rest) :=
    Decoder.lift_eq_ok_iff.mpr ⟨Outcome.withContext_eq_ok_iff.mpr
      (tryFromPrimitive_eq_ok_iff.mpr h.symm), rfl⟩
  rw [AccountingRequest.decoder, bytes]
  simp only [List.cons_append, List.nil_append]
  rw [Decoder.bind_of_ok (hbyte _ _ _), Decoder.bind_of_ok (hflag _ _),
    Decoder.bind_of_ok (hbyte _ _ _), Decoder.bind_of_ok (hcode hcodes.authenMethod _ _),
    Decoder.bind_of_ok (hbyte _ _ _), Decoder.bind_of_ok (hbyte _ _ _),
    Decoder.bind_of_ok (hcode hcodes.authenType _ _), Decoder.bind_of_ok (hbyte _ _ _),
    Decoder.bind_of_ok (hcode hcodes.authenService _ _), Decoder.bind_of_ok (hbyte _ _ _),
    Decoder.bind_of_ok (hbyte _ _ _), Decoder.bind_of_ok (hbyte _ _ _),
    Decoder.bind_of_ok (hbyte _ _ _), Decoder.bind_of_ok hsizes, textDecoder, hcodes.privLvl]

/-- The decoder gets to the texts of no other body. -/
theorem coded_of_runsOutOfText {body : RequestBody}
    (h : RunsOutOfText AccountingRequest.decoder body.bytes) : body.Coded := by
  have hbyte {α : Type} {text : String} {byte : UInt8} {rest : List UInt8}
      {k : UInt8 → Decoder α}
      (h : RunsOutOfText (Decoder.readU8.withContext text >>= k) (byte :: rest)) :
      RunsOutOfText (k byte) rest := h
  rw [AccountingRequest.decoder, bytes] at h
  simp only [List.cons_append, List.nil_append] at h
  obtain ⟨flags, hflags, h⟩ := (hbyte h).of_lift (ofOption_ne_notEnoughData _ _)
  obtain ⟨authenMethod, hmethod, h⟩ := (hbyte h).of_lift (tryFromPrimitive_ne_notEnoughData _ _)
  replace h := hbyte h
  obtain ⟨authenType, htype, h⟩ := (hbyte h).of_lift (tryFromPrimitive_ne_notEnoughData _ _)
  obtain ⟨authenService, hservice, -⟩ :=
    (hbyte h).of_lift (tryFromPrimitive_ne_notEnoughData _ _)
  obtain ⟨hdeclared, hbits⟩ :=
    BitFlags.fromBits_eq_some_iff.mp (Outcome.ofOption_eq_ok_iff.mp hflags)
  have hcode {α : Type} [PrimitiveEnum α] {byte : UInt8} {code : α} {text : String}
      (h : (tryFromPrimitive byte).withContext text = .ok code) : byte = discriminant code :=
    (tryFromPrimitive_eq_ok_iff.mp (Outcome.withContext_eq_ok_iff.mp h)).symm
  exact ⟨⟨flags, authenMethod, body.privLvl, authenType, authenService, "", "", "", []⟩,
    ⟨hbits, hcode hmethod, rfl, hcode htype, hcode hservice⟩, hdeclared⟩

theorem readsTexts_textDecoder (body : RequestBody) (coded : AccountingRequest) :
    ReadsTexts (body.textDecoder coded) body.textSizes body.text := by
  apply ReadsTexts.readString_bind
  intro user
  apply ReadsTexts.readString_bind
  intro port
  apply ReadsTexts.readString_bind
  intro remAddress
  exact readsTexts_forEach _ fun args => { coded with user, port, remAddress, args }

/-- `from_bytes` runs out of data while it reads the texts of the body. -/
def LacksText (body : RequestBody) : Prop :=
  ∃ text, AccountingRequest.fromBytes body.bytes = .err (.context text notEnoughData)

theorem lacksText_iff_decoder (body : RequestBody) :
    body.LacksText ↔ RunsOutOfText AccountingRequest.decoder body.bytes := by
  have hlong : ¬ body.bytes.length < tacacsAccountingRequestMinLength := by
    rw [length_bytes]
    omega
  rw [LacksText, RunsOutOfText, AccountingRequest.fromBytes, if_neg hlong,
    Decoder.value]
  cases AccountingRequest.decoder body.bytes <;> simp

/-- `from_bytes` runs out of data while it reads the texts when some of their bytes are missing and
it gets there: the codes are declared and the texts before are valid UTF-8. -/
theorem lacksText_iff (body : RequestBody) :
    body.LacksText ↔ (body.Coded ∧ body.Readable) ∧ body.text.length < body.textSizes.sum := by
  rw [lacksText_iff_decoder, and_assoc, ← runsOut_iff]
  have hcoded (h : body.Coded) : RunsOutOfText AccountingRequest.decoder body.bytes ↔
      body.Readable ∧ RunsOut body.textSizes body.text := by
    obtain ⟨coded, hcodes, hflags⟩ := h
    rw [RunsOutOfText, decoder_bytes hcodes hflags]
    exact body.readsTexts_textDecoder coded
  constructor
  · intro h
    have hcodes := coded_of_runsOutOfText h
    exact ⟨hcodes, (hcoded hcodes).mp h⟩
  · rintro ⟨hcodes, hshort⟩
    exact (hcoded hcodes).mpr hshort

/-- `from_packet` refuses the body for its size. -/
def RefusedForSize (body : RequestBody) : Prop :=
  ∃ size, AccountingRequest.sizeFromBytes body.bytes = .ok size ∧ body.bytes.length < size

/-- The size check lets a body through that lacks at most one byte for each argument. -/
theorem refusedForSize_iff (body : RequestBody) :
    body.RefusedForSize ↔ body.text.length + body.argCnt.toNat < body.textSizes.sum := by
  rw [RefusedForSize, sizeFromBytes_bytes, length_bytes]
  constructor
  · rintro ⟨size, hsize, hshort⟩
    obtain rfl := Outcome.ok.inj hsize
    omega
  · intro hshort
    exact ⟨_, rfl, by omega⟩

/-- The size check agrees with the codec when the texts are all there, when the codec gets to the
missing text and more bytes are missing than the body declares arguments, and when it gets to no
missing text and no more are. -/
theorem refusedForSize_iff_lacksText_iff (body : RequestBody) :
    (body.RefusedForSize ↔ body.LacksText) ↔
      body.textSizes.sum ≤ body.text.length ∨
        (body.text.length + body.argCnt.toNat < body.textSizes.sum ∧
          body.Coded ∧ body.Readable) ∨
        (body.textSizes.sum ≤ body.text.length + body.argCnt.toNat ∧
          ¬ (body.Coded ∧ body.Readable)) := by
  rw [refusedForSize_iff, lacksText_iff]
  by_cases hgets : body.Coded ∧ body.Readable
  · rw [and_iff_right hgets, and_iff_left hgets]
    simp only [hgets, and_self, not_true_eq_false, and_false, or_false]
    omega
  · simp only [hgets, false_and, iff_false, and_false, not_false_eq_true, and_true, false_or]
    omega

end RequestBody

namespace AccountingRequest

theorem sizeFromBytes_toBytes_iff {request : AccountingRequest} (h : request.Representable) :
    sizeFromBytes request.toBytes = .ok request.toBytes.length ↔ request.args = [] := by
  obtain ⟨-, hsize⟩ := sizeFromBytes_toBytes_append h []
  rw [List.append_nil] at hsize
  rw [hsize, length_toBytes, Outcome.ok.injEq, ← List.length_eq_zero_iff]
  omega

/-- The size read from the encoding of a request is the length of the encoding if and only if the
request has no arguments. On a body that contains its argument lengths, the size check fires
exactly when `from_bytes` reports that it runs out of data while it reads the texts, if and only if
the texts are all there, or more bytes of them are missing than the body declares arguments and
`from_bytes` gets to the missing text, or no more are missing and it fails before. -/
theorem size_check_agrees_iff (request : AccountingRequest) (body : RequestBody) :
    (request.Representable →
        (sizeFromBytes request.toBytes = .ok request.toBytes.length ↔ request.args = [])) ∧
      ((body.RefusedForSize ↔
          ∃ text, fromBytes body.bytes = .err (.context text notEnoughData)) ↔
        body.textSizes.sum ≤ body.text.length ∨
          (body.text.length + body.argCnt.toNat < body.textSizes.sum ∧
            body.Coded ∧ body.Readable) ∨
          (body.textSizes.sum ≤ body.text.length + body.argCnt.toNat ∧
            ¬ (body.Coded ∧ body.Readable))) :=
  ⟨sizeFromBytes_toBytes_iff, body.refusedForSize_iff_lacksText_iff⟩

/-- A request with an argument of one byte and no other text. -/
def requestWithArgument : AccountingRequest :=
  ⟨⟨2⟩, .tacPlusAuthenMethodNone, 0, .tacPlusAuthenTypeNotSet, .tacPlusAuthenSvcNone, "", "", "",
    ["a"]⟩

/-- A body that ends before its only argument. -/
def bodyWithoutArgument : RequestBody := ⟨2, 1, 0, 0, 0, 0, 0, 0, 1, [1], [], rfl⟩

/-- A body that ends before a user of 255 bytes. -/
def bodyWithoutUser (flags : UInt8) : RequestBody := ⟨flags, 1, 0, 0, 0, 255, 0, 0, 0, [], [], rfl⟩

/-- The check agrees on the body without a user, as its flags are declared ones. -/
theorem size_check_agrees_iff_withArgument :
    requestWithArgument.Representable ∧
      (sizeFromBytes requestWithArgument.toBytes = .ok requestWithArgument.toBytes.length ↔
        requestWithArgument.args = []) ∧
      ((bodyWithoutUser 2).RefusedForSize ↔
        ∃ text, fromBytes (bodyWithoutUser 2).bytes = .err (.context text notEnoughData)) := by
  have hrep : requestWithArgument.Representable :=
    ⟨by decide, by decide, by decide, by decide, by decide⟩
  have hcodes : (bodyWithoutUser 2).HasCodes requestWithArgument := ⟨rfl, rfl, rfl, rfl, rfl⟩
  have hreadable : (bodyWithoutUser 2).Readable := by
    unfold RequestBody.Readable
    decide
  obtain ⟨hsize, hcheck⟩ := size_check_agrees_iff requestWithArgument (bodyWithoutUser 2)
  refine ⟨hrep, hsize hrep, hcheck.mpr (.inr (.inl ⟨by decide, ?_, hreadable⟩))⟩
  exact ⟨requestWithArgument, hcodes, by decide⟩

theorem size_check_misses_argument_lengths :
    (requestWithArgument.Representable ∧ sizeFromBytes requestWithArgument.toBytes = .ok 10 ∧
        requestWithArgument.toBytes.length = 11) ∧
      ¬ (bodyWithoutArgument.RefusedForSize ↔
        ∃ text, fromBytes bodyWithoutArgument.bytes = .err (.context text notEnoughData)) ∧
      fromBytes bodyWithoutArgument.bytes =
        .err (.context "Invalid arg. Unable to read data" notEnoughData) := by
  have hrep : requestWithArgument.Representable :=
    ⟨by decide, by decide, by decide, by decide, by decide⟩
  have hlacks : fromBytes bodyWithoutArgument.bytes =
      .err (.context "Invalid arg. Unable to read data" notEnoughData) := by decide
  refine ⟨⟨hrep, by decide, by decide⟩, fun hagrees => ?_, hlacks⟩
  have hrefused := hagrees.mpr ⟨_, hlacks⟩
  rw [RequestBody.refusedForSize_iff] at hrefused
  exact absurd hrefused (by decide)

/-- A body is refused for its size although the decoder fails on its flags and gets to no text. -/
example : (bodyWithoutUser 255).RefusedForSize ∧
    fromBytes (bodyWithoutUser 255).bytes =
      .err (.msg "Invalid flags. Conversion failed with error") :=
  ⟨⟨264, by decide, by decide⟩, by decide⟩

end AccountingRequest

end TacacsRs.Messages
