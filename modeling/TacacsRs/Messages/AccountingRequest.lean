import TacacsRs.Messages.AccountingReply

/-!
# Accounting requests

Nine fixed bytes, one length byte per argument, then the texts. Every length is
written with `as u8`, so `toBytes` is faithful on representable requests only.
-/

namespace TacacsRs.Messages

open Rust PrimitiveEnum

/-- The fixed part of a request: four codes, the privilege level and four counts. -/
def tacacsAccountingRequestMinLength : Nat := 9

/-- Where the lengths of the arguments begin. -/
def tacacsAccountingArgSizeOffset : Nat := 9

/-- A record of what a user did, sent to an accounting server. -/
structure AccountingRequest where
  flags : TacacsAccountingFlags
  authenMethod : TacacsAuthenticationMethod
  privLvl : UInt8
  authenType : TacacsAuthenticationType
  authenService : TacacsAuthenticationService
  user : String
  port : String
  remAddress : String
  args : List String
  deriving DecidableEq, Repr

namespace AccountingRequest

/-- The cursor part of `fromBytes`, after its check of the minimal length. -/
def decoder : Decoder AccountingRequest := do
  let a ← Decoder.readU8.withContext "Invalid flags. Unable to read data"
  let flags ← Decoder.lift (Outcome.ofOption "Invalid flags. Conversion failed with error"
    (BitFlags.fromBits a))
  let a ← Decoder.readU8.withContext "Invalid authen_method. Unable to read data"
  let authenMethod ← Decoder.lift ((tryFromPrimitive a).withContext
    "Invalid authen_method. Conversion failed with error")
  let privLvl ← Decoder.readU8.withContext "Invalid priv_lvl. Unable to read data"
  let a ← Decoder.readU8.withContext "Invalid authen_type. Unable to read data: \x7b\x7d"
  let authenType ← Decoder.lift ((tryFromPrimitive a).withContext
    "Invalid authen_type. Conversion failed with error")
  let a ← Decoder.readU8.withContext "Invalid authen_service. Unable to read data"
  let authenService ← Decoder.lift ((tryFromPrimitive a).withContext
    "Invalid authen_service. Conversion failed with error")
  let userLen ← Decoder.readU8.withContext "Invalid user_len. Unable to read data"
  let portLen ← Decoder.readU8.withContext "Invalid port_len. Unable to read data"
  let remAddrLen ← Decoder.readU8.withContext "Invalid rem_addr_len. Unable to read data"
  let argCnt ← Decoder.readU8.withContext "Invalid arg_cnt. Unable to read data"
  let argSizes ← Decoder.forEach (List.range argCnt.toNat) fun _ =>
    Decoder.readU8.withContext "Invalid arg_size. Unable to read data"
  let user ← (readString userLen.toNat).withContext "Invalid user. Unable to read data"
  let port ← (readString portLen.toNat).withContext "Invalid port. Unable to read data"
  let remAddress ← (readString remAddrLen.toNat).withContext
    "Invalid rem_address. Unable to read data"
  let args ← Decoder.forEach argSizes fun argSize =>
    (readString argSize.toNat).withContext "Invalid arg. Unable to read data"
  pure { flags, authenMethod, privLvl, authenType, authenService, user, port, remAddress, args }

/-- A body without its fixed part is refused before anything is read. -/
def fromBytes (data : List UInt8) : Outcome AccountingRequest :=
  if data.length < tacacsAccountingRequestMinLength then
    .err (.msg "Data too short")
  else
    decoder.value data

/-- The fixed part, the argument lengths and the texts; every count is cut to its low byte. -/
def toBytes (request : AccountingRequest) : List UInt8 :=
  [request.flags.bits, discriminant request.authenMethod, request.privLvl,
    discriminant request.authenType, discriminant request.authenService,
    UInt8.ofNat (len request.user), UInt8.ofNat (len request.port),
    UInt8.ofNat (len request.remAddress), UInt8.ofNat request.args.length] ++
  request.args.map (fun arg => UInt8.ofNat (len arg)) ++
  asBytes request.user ++ asBytes request.port ++ asBytes request.remAddress ++
  request.args.flatMap asBytes

/-- The declared size of a body, read by raw index. The argument-length array itself is not
counted. -/
def sizeFromBytes (data : List UInt8) : Outcome Nat := do
  let length := tacacsAccountingRequestMinLength
  let userLen ← Outcome.index data 5
  let portLen ← Outcome.index data 6
  let remAddrLen ← Outcome.index data 7
  let length := length + userLen.toNat
  let length := length + portLen.toNat
  let length := length + remAddrLen.toNat
  let argCnt ← Outcome.index data 8
  (List.range' 0 argCnt.toNat).foldlM (fun length i => do
    let argLen ← Outcome.index data (tacacsAccountingArgSizeOffset + i)
    pure (length + argLen.toNat)) length

/-- The length of the body is checked before the body is decoded. -/
def fromPacket (packet : Packet) : Outcome AccountingRequest := do
  let expectedLength ← sizeFromBytes packet.body
  if packet.body.length < expectedLength then
    .err (.msg ("Invalid body length. Expected: " ++ expectedLength.repr ++
      ", Actual: " ++ packet.body.length.repr))
  else
    match fromBytes packet.body with
    | .ok accountingRequest => pure accountingRequest
    | .err e => .err (.context
        ("Invalid TACACS+ AccountingRequest. Conversion failed with error: " ++ e.toString) e)
    | .panic => .panic

/-- Every length fits the byte it is written to. -/
structure Representable (request : AccountingRequest) : Prop where
  user : len request.user ≤ 255
  port : len request.port ≤ 255
  remAddress : len request.remAddress ≤ 255
  args : request.args.length ≤ 255
  arg : ∀ arg ∈ request.args, len arg ≤ 255

/-- Some bytes in the layout of a request, with the lengths as they stand there. -/
structure Layout (request : AccountingRequest) where
  userLen : UInt8
  portLen : UInt8
  remAddrLen : UInt8
  argCnt : UInt8
  argSizes : List UInt8

namespace Layout

variable {request : AccountingRequest}

/-- The body that the layout stands for. -/
def bytes (layout : Layout request) : List UInt8 :=
  [request.flags.bits, discriminant request.authenMethod, request.privLvl,
    discriminant request.authenType, discriminant request.authenService,
    layout.userLen, layout.portLen, layout.remAddrLen, layout.argCnt] ++ layout.argSizes ++
  asBytes request.user ++ asBytes request.port ++ asBytes request.remAddress ++
  request.args.flatMap asBytes

/-- The lengths in the layout are those of the texts of the request. -/
structure Matches (layout : Layout request) : Prop where
  user : len request.user = layout.userLen.toNat
  port : len request.port = layout.portLen.toNat
  remAddress : len request.remAddress = layout.remAddrLen.toNat
  args : layout.argSizes.length = layout.argCnt.toNat
  arg : List.Forall₂ (fun size arg => len arg = size.toNat) layout.argSizes request.args

end Layout

/-- A byte counts `n` exactly when it is `n` cast to a byte and nothing was cut off. -/
theorem eq_toNat_iff {n : Nat} {size : UInt8} :
    n = size.toNat ↔ n ≤ 255 ∧ size = UInt8.ofNat n := by
  have hsize := size.toNat_lt
  rw [← UInt8.toNat_inj, UInt8.toNat_ofNat']
  omega

theorem len_eq_toNat_iff {s : String} {size : UInt8} :
    len s = size.toNat ↔ len s ≤ 255 ∧ size = UInt8.ofNat (len s) := eq_toNat_iff

theorem forall₂_const_left {α β : Type} {xs : List α} {ys : List β} :
    List.Forall₂ (fun _ _ => True) xs ys ↔ ys.length = xs.length := by
  induction xs generalizing ys with
  | nil => simp
  | cons x xs ih => cases ys <;> simp [ih]

/-- What the decoder consumes is the layout of the request it returns. -/
theorem decoder_eq_ok_iff {cursor rest : List UInt8} {request : AccountingRequest} :
    decoder cursor = .ok (request, rest) ↔
      request.flags.IsDeclared ∧
        ∃ layout : Layout request, layout.Matches ∧ cursor = layout.bytes ++ rest := by
  have hsizes (n : Nat) : (Decoder.forEach (List.range n) fun _ =>
      Decoder.readU8.withContext "Invalid arg_size. Unable to read data").Exact
        (List.Forall₂ (fun _ _ => True) (List.range n)) fun sizes => sizes.flatMap ([·]) :=
    Decoder.forEach_exact fun _ cursor size rest => by simp
  have hargs (sizes : List UInt8) : (Decoder.forEach sizes fun size =>
      (readString size.toNat).withContext "Invalid arg. Unable to read data").Exact
        (List.Forall₂ (fun size arg => len arg = size.toNat) sizes) fun args =>
          args.flatMap asBytes :=
    Decoder.forEach_exact fun size cursor arg rest => by simp [readString_exact _ _ _ _]
  obtain ⟨flags, authenMethod, privLvl, authenType, authenService, user, port, remAddress,
    args⟩ := request
  simp only [decoder, Decoder.bind_eq_ok_iff, Decoder.withContext_eq_ok_iff,
    Decoder.readU8_eq_ok_iff, Decoder.lift_eq_ok_iff, Outcome.withContext_eq_ok_iff,
    Outcome.ofOption_eq_ok_iff, BitFlags.fromBits_eq_some_iff, tryFromPrimitive_eq_ok_iff,
    readString_exact _ _ _ _, hsizes _ _ _ _, hargs _ _ _ _, forall₂_const_left,
    List.length_range, List.flatMap_singleton', Decoder.pure_apply, Outcome.ok.injEq,
    Prod.mk.injEq, mk.injEq]
  constructor
  · intro h
    obtain ⟨_, _, hcursor₁, _, _, ⟨⟨hflags, hcode₁⟩, hcursor₂⟩, _, _, hcursor₃, h⟩ := h
    obtain ⟨_, _, ⟨hcode₂, hcursor₄⟩, _, _, hcursor₅, _, _, hcursor₆, h⟩ := h
    obtain ⟨_, _, ⟨hcode₃, hcursor₇⟩, _, _, hcursor₈, _, _, ⟨hcode₄, hcursor₉⟩, h⟩ := h
    obtain ⟨userLen, _, huserLen, portLen, _, hportLen, h⟩ := h
    obtain ⟨remAddrLen, _, hremLen, argCnt, _, hargCnt, h⟩ := h
    obtain ⟨argSizes, _, ⟨hcount, hsizesBytes⟩, _, _, ⟨huser, huserBytes⟩, h⟩ := h
    obtain ⟨_, _, ⟨hport, hportBytes⟩, _, _, ⟨hrem, hremBytes⟩, h⟩ := h
    obtain ⟨_, _, ⟨harg, hargBytes⟩, ⟨h₁, h₂, h₃, h₄, h₅, h₆, h₇, h₈, h₉⟩, hrest⟩ := h
    subst h₁ h₂ h₃ h₄ h₅ h₆ h₇ h₈ h₉ hrest
    refine ⟨hflags, ⟨userLen, portLen, remAddrLen, argCnt, argSizes⟩,
      ⟨huser, hport, hrem, hcount, harg⟩, ?_⟩
    simp only [Layout.bytes, List.append_assoc, List.cons_append, List.nil_append, *]
  · rintro ⟨hflags, ⟨userLen, portLen, remAddrLen, argCnt, argSizes⟩,
      ⟨huser, hport, hrem, hcount, harg⟩, rfl⟩
    simp only [Layout.bytes, List.append_assoc, List.cons_append, List.nil_append]
    exact ⟨_, _, rfl, _, _, ⟨⟨hflags, rfl⟩, rfl⟩, _, _, rfl, _, _, ⟨rfl, rfl⟩, _, _, rfl,
      _, _, rfl, _, _, ⟨rfl, rfl⟩, _, _, rfl, _, _, ⟨rfl, rfl⟩, _, _, rfl, _, _, rfl,
      _, _, rfl, _, _, rfl, _, _, ⟨hcount, rfl⟩, _, _, ⟨huser, rfl⟩, _, _, ⟨hport, rfl⟩,
      _, _, ⟨hrem, rfl⟩, _, _, ⟨harg, rfl⟩, ⟨rfl, rfl, rfl, rfl, rfl, rfl, rfl, rfl, rfl⟩, rfl⟩

/-- A list of size bytes spells the lengths of the arguments exactly when every length fits. -/
theorem forall₂_len_eq_toNat_iff {sizes : List UInt8} {args : List String} :
    List.Forall₂ (fun size arg => len arg = size.toNat) sizes args ↔
      (∀ arg ∈ args, len arg ≤ 255) ∧ sizes = args.map fun arg => UInt8.ofNat (len arg) := by
  induction sizes generalizing args with
  | nil => cases args <;> simp
  | cons size sizes ih =>
      cases args with
      | nil => simp
      | cons arg args =>
          rw [List.forall₂_cons, ih, len_eq_toNat_iff, List.forall_mem_cons, List.map_cons,
            List.cons.injEq, and_and_and_comm]

/-- The layout whose lengths match is the encoding of the request, when it has one. -/
theorem exists_matches_iff {bytes : List UInt8} {request : AccountingRequest} :
    (∃ layout : Layout request, layout.Matches ∧ bytes = layout.bytes) ↔
      request.Representable ∧ bytes = request.toBytes := by
  constructor
  · rintro ⟨⟨userLen, portLen, remAddrLen, argCnt, argSizes⟩, hmatches, rfl⟩
    obtain ⟨huser, rfl⟩ := len_eq_toNat_iff.mp hmatches.user
    obtain ⟨hport, rfl⟩ := len_eq_toNat_iff.mp hmatches.port
    obtain ⟨hrem, rfl⟩ := len_eq_toNat_iff.mp hmatches.remAddress
    obtain ⟨harg, rfl⟩ := forall₂_len_eq_toNat_iff.mp hmatches.arg
    have hcount := hmatches.args
    rw [List.length_map] at hcount
    obtain ⟨hargs, rfl⟩ := eq_toNat_iff.mp hcount
    exact ⟨⟨huser, hport, hrem, hargs, harg⟩, rfl⟩
  · rintro ⟨hrep, rfl⟩
    refine ⟨⟨_, _, _, _, _⟩, ⟨?_, ?_, ?_, ?_, ?_⟩, rfl⟩
    · exact len_eq_toNat_iff.mpr ⟨hrep.user, rfl⟩
    · exact len_eq_toNat_iff.mpr ⟨hrep.port, rfl⟩
    · exact len_eq_toNat_iff.mpr ⟨hrep.remAddress, rfl⟩
    · rw [List.length_map]
      exact eq_toNat_iff.mpr ⟨hrep.args, rfl⟩
    · exact forall₂_len_eq_toNat_iff.mpr ⟨hrep.arg, rfl⟩

theorem length_toBytes (request : AccountingRequest) :
    request.toBytes.length = 9 + request.args.length + len request.user + len request.port +
      len request.remAddress + (request.args.map len).sum := by
  have hargs : (request.args.map fun arg => (asBytes arg).length) = request.args.map len := rfl
  simp only [toBytes, List.length_append, List.length_cons, List.length_nil, List.length_map,
    List.length_flatMap, hargs]
  rfl

theorem nine_le_length_toBytes (request : AccountingRequest) : 9 ≤ request.toBytes.length := by
  rw [length_toBytes]
  omega

theorem fromBytes_eq_ok_iff {bytes : List UInt8} {request : AccountingRequest} :
    fromBytes bytes = .ok request ↔
      request.flags.IsDeclared ∧ request.Representable ∧
        ∃ trailing, bytes = request.toBytes ++ trailing := by
  unfold fromBytes tacacsAccountingRequestMinLength
  have hlayout (rest : List UInt8) :
      (∃ layout : Layout request, layout.Matches ∧ bytes = layout.bytes ++ rest) ↔
        request.Representable ∧ bytes = request.toBytes ++ rest := by
    constructor
    · rintro ⟨layout, hmatches, rfl⟩
      obtain ⟨hrep, hbytes⟩ := exists_matches_iff.mp ⟨layout, hmatches, rfl⟩
      exact ⟨hrep, by rw [hbytes]⟩
    · rintro ⟨hrep, rfl⟩
      obtain ⟨layout, hmatches, hbytes⟩ := exists_matches_iff.mpr ⟨hrep, rfl⟩
      exact ⟨layout, hmatches, by rw [hbytes]⟩
  split
  · next hshort =>
    simp only [reduceCtorEq, false_iff]
    rintro ⟨-, -, trailing, rfl⟩
    have hlength := nine_le_length_toBytes request
    rw [List.length_append] at hshort
    omega
  · simp only [Decoder.value_eq_ok_iff, decoder_eq_ok_iff, hlayout, exists_and_left]

theorem decoder_total : decoder.Total := by
  have hbyte (text : String) : (Decoder.readU8.withContext text).Total :=
    Decoder.readU8_total.withContext
  have hcode {α : Type} [PrimitiveEnum α] (text : String) (code : UInt8) :
      (Decoder.lift ((tryFromPrimitive code : Outcome α).withContext text)).Total :=
    Decoder.Total.lift (Outcome.safe_withContext.mpr (safe_tryFromPrimitive code))
  have htext (text : String) (size : Nat) : ((readString size).withContext text).Total :=
    (readString_total size).withContext
  apply (hbyte _).bind
  intro flags
  apply (Decoder.Total.lift Outcome.safe_ofOption).bind
  intro flags
  apply (hbyte _).bind
  intro authenMethod
  apply (hcode _ _).bind
  intro authenMethod
  apply (hbyte _).bind
  intro privLvl
  apply (hbyte _).bind
  intro authenType
  apply (hcode _ _).bind
  intro authenType
  apply (hbyte _).bind
  intro authenService
  apply (hcode _ _).bind
  intro authenService
  apply (hbyte _).bind
  intro userLen
  apply (hbyte _).bind
  intro portLen
  apply (hbyte _).bind
  intro remAddrLen
  apply (hbyte _).bind
  intro argCnt
  apply (Decoder.forEach_total fun _ => hbyte _).bind
  intro argSizes
  apply (htext _ _).bind
  intro user
  apply (htext _ _).bind
  intro port
  apply (htext _ _).bind
  intro remAddress
  have harg (size : UInt8) := htext "Invalid arg. Unable to read data" size.toNat
  apply (Decoder.forEach_total harg).bind
  intro args
  exact Decoder.Total.pure _

/-- Decoding a request panics on no input. -/
theorem safe_fromBytes (data : List UInt8) : (fromBytes data).Safe := by
  unfold fromBytes
  split
  · trivial
  · exact decoder_total.value data

/-- The decoder accepts the encodings of the requests whose lengths fit, with any trailing
bytes, and nothing else; what it accepts re-encodes to the bytes it consumed. -/
theorem accepts_exactly_encodings (bytes : List UInt8) (request : AccountingRequest) :
    fromBytes bytes = .ok request ↔
      request.flags.IsDeclared ∧
        (len request.user ≤ 255 ∧ len request.port ≤ 255 ∧ len request.remAddress ≤ 255 ∧
          request.args.length ≤ 255 ∧ ∀ arg ∈ request.args, len arg ≤ 255) ∧
        ∃ trailing, bytes = request.toBytes ++ trailing := by
  rw [fromBytes_eq_ok_iff]
  constructor
  · rintro ⟨hflags, ⟨huser, hport, hrem, hargs, harg⟩, hbytes⟩
    exact ⟨hflags, ⟨huser, hport, hrem, hargs, harg⟩, hbytes⟩
  · rintro ⟨hflags, ⟨huser, hport, hrem, hargs, harg⟩, hbytes⟩
    exact ⟨hflags, ⟨huser, hport, hrem, hargs, harg⟩, hbytes⟩

/-- The body contains its fixed part and the whole argument-length array it declares. -/
def ContainsArgSizes (data : List UInt8) : Prop :=
  ∃ argCnt, data[8]? = some argCnt ∧ tacacsAccountingArgSizeOffset + argCnt.toNat ≤ data.length

/-- The declared size is read off a body that contains its argument-length array. -/
theorem sizeFromBytes_of_containsArgSizes {data : List UInt8} {argCnt : UInt8}
    (hcount : data[8]? = some argCnt)
    (hsizes : tacacsAccountingArgSizeOffset + argCnt.toNat ≤ data.length) :
    ∃ userLen portLen remAddrLen, data[5]? = some userLen ∧ data[6]? = some portLen ∧
      data[7]? = some remAddrLen ∧ sizeFromBytes data =
        .ok (9 + userLen.toNat + portLen.toNat + remAddrLen.toNat +
          (((data.drop 9).take argCnt.toNat).map UInt8.toNat).sum) := by
  have hlong := (List.getElem?_eq_some_iff.mp hcount).1
  have hfixed (i : Nat) (hi : i < 8) : ∃ size, data[i]? = some size :=
    ⟨_, List.getElem?_eq_getElem (Nat.lt_trans hi hlong)⟩
  obtain ⟨userLen, huser⟩ := hfixed 5 (by omega)
  obtain ⟨portLen, hport⟩ := hfixed 6 (by omega)
  obtain ⟨remAddrLen, hrem⟩ := hfixed 7 (by omega)
  refine ⟨userLen, portLen, remAddrLen, huser, hport, hrem, ?_⟩
  have hloop := Outcome.foldlM_index_of_le UInt8.toNat 9 0 argCnt.toNat
    (9 + userLen.toNat + portLen.toNat + remAddrLen.toNat) hsizes
  rw [← hloop]
  simp only [sizeFromBytes, Outcome.index, huser, hport, hrem, hcount, Outcome.bind_def,
    Outcome.ok_bind, tacacsAccountingRequestMinLength, tacacsAccountingArgSizeOffset]

/-- Any other body is indexed behind its end. -/
theorem sizeFromBytes_of_not_containsArgSizes {data : List UInt8}
    (h : ¬ ContainsArgSizes data) : sizeFromBytes data = .panic := by
  have hloop (argCnt : UInt8) (hcount : data[8]? = some argCnt) (total : Nat) :
      (List.range' 0 argCnt.toNat).foldlM (fun length i => do
        let argLen ← Outcome.index data (tacacsAccountingArgSizeOffset + i)
        pure (length + argLen.toNat)) total = .panic := by
    have hshort : ¬ 9 + argCnt.toNat ≤ data.length := fun henough => h ⟨argCnt, hcount, henough⟩
    exact Outcome.foldlM_index_of_lt UInt8.toNat 9 0 argCnt.toNat total
      (List.getElem?_eq_some_iff.mp hcount).1 (Nat.lt_of_not_le hshort)
  cases huser : data[5]? with
  | none => simp [sizeFromBytes, Outcome.index, huser]
  | some userLen =>
      cases hport : data[6]? with
      | none => simp [sizeFromBytes, Outcome.index, huser, hport]
      | some portLen =>
          cases hrem : data[7]? with
          | none => simp [sizeFromBytes, Outcome.index, huser, hport, hrem]
          | some remAddrLen =>
              cases hcount : data[8]? with
              | none => simp [sizeFromBytes, Outcome.index, huser, hport, hrem, hcount]
              | some argCnt =>
                  have hpanic := hloop argCnt hcount
                    (9 + userLen.toNat + portLen.toNat + remAddrLen.toNat)
                  rw [← hpanic]
                  simp only [sizeFromBytes, Outcome.index, huser, hport, hrem, hcount,
                    Outcome.bind_def, Outcome.ok_bind, tacacsAccountingRequestMinLength]

/-- The declared size of an encoded request leaves out its argument-length array. -/
theorem sizeFromBytes_toBytes_append {request : AccountingRequest} (h : request.Representable)
    (trailing : List UInt8) :
    ContainsArgSizes (request.toBytes ++ trailing) ∧
      sizeFromBytes (request.toBytes ++ trailing) =
        .ok (9 + len request.user + len request.port + len request.remAddress +
          (request.args.map len).sum) := by
  have hcast {n : Nat} (hn : n ≤ 255) : (UInt8.ofNat n).toNat = n :=
    UInt8.toNat_ofNat_of_lt' (Nat.lt_succ_of_le hn)
  have hbytes : request.toBytes ++ trailing =
      [request.flags.bits, discriminant request.authenMethod, request.privLvl,
        discriminant request.authenType, discriminant request.authenService,
        UInt8.ofNat (len request.user), UInt8.ofNat (len request.port),
        UInt8.ofNat (len request.remAddress), UInt8.ofNat request.args.length] ++
      (request.args.map (fun arg => UInt8.ofNat (len arg)) ++
        (asBytes request.user ++ (asBytes request.port ++ (asBytes request.remAddress ++
          (request.args.flatMap asBytes ++ trailing))))) := by
    simp only [toBytes, List.append_assoc]
  have hcount : (request.toBytes ++ trailing)[8]? = some (UInt8.ofNat request.args.length) := by
    rw [hbytes]
    rfl
  have hsizes : 9 + (UInt8.ofNat request.args.length).toNat ≤
      (request.toBytes ++ trailing).length := by
    rw [hcast h.args, hbytes, List.length_append, List.length_append, List.length_map]
    simp
  obtain ⟨userLen, portLen, remAddrLen, huser, hport, hrem, hsize⟩ :=
    sizeFromBytes_of_containsArgSizes hcount hsizes
  refine ⟨⟨_, hcount, hsizes⟩, hsize.trans (congrArg Outcome.ok ?_)⟩
  rw [hbytes] at huser hport hrem
  obtain rfl : UInt8.ofNat (len request.user) = userLen := Option.some.inj huser
  obtain rfl : UInt8.ofNat (len request.port) = portLen := Option.some.inj hport
  obtain rfl : UInt8.ofNat (len request.remAddress) = remAddrLen := Option.some.inj hrem
  have hargs : ((request.toBytes ++ trailing).drop 9).take (UInt8.ofNat request.args.length).toNat =
      request.args.map fun arg => UInt8.ofNat (len arg) := by
    rw [hbytes, hcast h.args]
    exact List.take_left' (List.length_map _)
  rw [hargs, hcast h.user, hcast h.port, hcast h.remAddress, List.map_map]
  congr 2
  exact List.map_congr_left fun arg harg => hcast (h.arg arg harg)

/-- The size check refuses nothing that `fromBytes` would accept. -/
theorem fromPacket_eq_ok_iff {packet : Packet} {request : AccountingRequest} :
    fromPacket packet = .ok request ↔ fromBytes packet.body = .ok request := by
  simp only [fromPacket, Outcome.bind_def, Outcome.bind_eq_ok_iff]
  constructor
  · rintro ⟨expectedLength, -, h⟩
    split at h
    · simp at h
    · cases hbytes : fromBytes packet.body with
      | ok accepted => simpa [hbytes] using h
      | err e => simp [hbytes] at h
      | panic => simp [hbytes] at h
  · intro h
    obtain ⟨-, hrepresentable, trailing, hbody⟩ := fromBytes_eq_ok_iff.mp h
    obtain ⟨-, hsize⟩ := sizeFromBytes_toBytes_append hrepresentable trailing
    rw [← hbody] at hsize
    refine ⟨_, hsize, ?_⟩
    rw [if_neg, h]
    · rfl
    · rw [hbody, List.length_append, length_toBytes]
      omega

/-- Converting a packet panics exactly when its body ends before its argument lengths do. -/
theorem fromPacket_eq_panic_iff {packet : Packet} :
    fromPacket packet = .panic ↔ ¬ ContainsArgSizes packet.body := by
  constructor
  · rintro hpanic ⟨argCnt, hcount, hsizes⟩
    obtain ⟨_, _, _, -, -, -, hsize⟩ := sizeFromBytes_of_containsArgSizes hcount hsizes
    simp only [fromPacket, hsize, Outcome.bind_def, Outcome.ok_bind] at hpanic
    split at hpanic
    · simp at hpanic
    · have hsafe := safe_fromBytes packet.body
      cases hbytes : fromBytes packet.body with
      | ok accepted => simp [hbytes] at hpanic
      | err e => simp [hbytes] at hpanic
      | panic => simp [hbytes] at hsafe
  · intro h
    simp only [fromPacket, sizeFromBytes_of_not_containsArgSizes h, Outcome.bind_def,
      Outcome.panic_bind]

/-- `fromPacket` accepts what `fromBytes` accepts on the body, without a panic, if and only if
the body contains the argument-length array that it declares. -/
theorem fromPacket_agrees_iff (packet : Packet) :
    (fromPacket packet ≠ .panic ∧
        ∀ request, fromPacket packet = .ok request ↔ fromBytes packet.body = .ok request) ↔
      ContainsArgSizes packet.body := by
  rw [Ne, fromPacket_eq_panic_iff, not_not]
  exact and_iff_left fun request => fromPacket_eq_ok_iff

/-- A packet that declares and has no body. -/
def emptyPacket : Packet :=
  ⟨{ majorVersion := .tacacsPlusMajor1, minorVersion := .tacacsPlusMinorVerDefault,
     tacacsType := .tacPlusAccounting, seqNo := 1, flags := TacacsFlags.tacPlusUnencryptedFlag,
     sessionId := 0, length := 0 }, []⟩

theorem fromPacket_emptyPacket :
    Packet.new emptyPacket.header emptyPacket.body = .ok emptyPacket ∧
      fromPacket emptyPacket = .panic := by
  decide

end AccountingRequest

end TacacsRs.Messages
