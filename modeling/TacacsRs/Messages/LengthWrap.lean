import TacacsRs.Rust.Slices
import TacacsRs.Tacon.Accounting

/-!
# Lengths that wrap in accounting requests

`toBytes` casts every length to a byte and refuses nothing. What comes back
from the bytes of a request that does not fit is its text, cut again by the
wrapped lengths.
-/

namespace TacacsRs.Messages.AccountingRequest

open Rust PrimitiveEnum

/-- The texts of a request in the order of the encoding. -/
def texts (request : AccountingRequest) : List String :=
  [request.user, request.port, request.remAddress] ++ request.args

/-- The lengths a decoder reads from the encoding: each as cast to a byte, and of the
arguments as many as the cast count announces. -/
def wrappedSizes (request : AccountingRequest) : List Nat :=
  [len request.user % 256, len request.port % 256, len request.remAddress % 256] ++
    (request.args.take (request.args.length % 256)).map fun arg => len arg % 256

/-- The bytes a decoder takes for text: length bytes beyond the announced count come first. -/
def wrappedText (request : AccountingRequest) : List UInt8 :=
  (request.args.map fun arg => UInt8.ofNat (len arg)).drop (request.args.length % 256) ++
    request.texts.flatMap asBytes

/-- The text, cut by the wrapped lengths, is valid UTF-8 in every slice. -/
def WrapsToText (request : AccountingRequest) : Prop :=
  ∀ slice ∈ request.wrappedSizes.splitLengths request.wrappedText, ValidUtf8 slice

instance (request : AccountingRequest) : Decidable request.WrapsToText :=
  inferInstanceAs (Decidable (∀ _ ∈ _, _))

/-- The values at the front of the encoding, before the lengths. -/
def SameFixedFields (request request' : AccountingRequest) : Prop :=
  request.flags = request'.flags ∧ request.authenMethod = request'.authenMethod ∧
    request.privLvl = request'.privLvl ∧ request.authenType = request'.authenType ∧
    request.authenService = request'.authenService

theorem sum_mod_take_le (args : List String) (n : Nat) :
    ((args.take n).map fun arg => len arg % 256).sum ≤ (args.flatMap asBytes).length := by
  induction args generalizing n with
  | nil => simp
  | cons arg args ih =>
      cases n with
      | zero => simp
      | succ n =>
          have htail := ih n
          have hhead := Nat.mod_le (len arg) 256
          simp only [List.take_succ_cons, List.map_cons, List.sum_cons, List.flatMap_cons,
            List.length_append, length_asBytes]
          omega

/-- Wrapped lengths never ask for more text than the encoding has. -/
theorem sum_wrappedSizes_le (request : AccountingRequest) :
    request.wrappedSizes.sum ≤ request.wrappedText.length := by
  have huser := Nat.mod_le (len request.user) 256
  have hport := Nat.mod_le (len request.port) 256
  have hrem := Nat.mod_le (len request.remAddress) 256
  have hargs := sum_mod_take_le request.args (request.args.length % 256)
  simp only [wrappedSizes, wrappedText, texts, List.sum_append, List.sum_cons, List.sum_nil,
    List.length_append, List.flatMap_append, List.flatMap_cons, List.flatMap_nil,
    List.length_nil, length_asBytes]
  omega

theorem forall₂_len_iff {sizes : List UInt8} {args : List String} :
    List.Forall₂ (fun size arg => len arg = size.toNat) sizes args ↔
      args.map len = sizes.map UInt8.toNat := by
  induction sizes generalizing args with
  | nil => cases args <;> simp
  | cons size sizes ih => cases args <;> simp [ih]

/-- A layout matches when its lengths, in order, are those of the texts. -/
theorem Layout.matches_iff {request : AccountingRequest} {layout : Layout request} :
    layout.Matches ↔ layout.argSizes.length = layout.argCnt.toNat ∧
      request.texts.map len = [layout.userLen.toNat, layout.portLen.toNat,
        layout.remAddrLen.toNat] ++ layout.argSizes.map UInt8.toNat := by
  simp only [texts, List.map_cons, List.cons_append, List.nil_append, List.cons.injEq,
    ← forall₂_len_iff]
  constructor
  · rintro ⟨huser, hport, hrem, hcount, harg⟩
    exact ⟨hcount, huser, hport, hrem, harg⟩
  · rintro ⟨hcount, huser, hport, hrem, harg⟩
    exact ⟨huser, hport, hrem, hcount, harg⟩

/-- The argument lengths and the texts, when the count announces as many lengths as the other
layout has. -/
theorem sizes_append_texts_iff {request request' : AccountingRequest} {layout : Layout request'}
    {rest : List UInt8} (hcount : layout.argSizes.length = layout.argCnt.toNat)
    (hcnt : layout.argCnt = UInt8.ofNat request.args.length) :
    (request.args.map fun arg => UInt8.ofNat (len arg)) ++ request.texts.flatMap asBytes =
        layout.argSizes ++ (request'.texts.flatMap asBytes ++ rest) ↔
      layout.argSizes =
          (request.args.map fun arg => UInt8.ofNat (len arg)).take (request.args.length % 256) ∧
        request.wrappedText = request'.texts.flatMap asBytes ++ rest := by
  set sizes := request.args.map fun arg => UInt8.ofNat (len arg)
  set announced := request.args.length % 256
  have hlength : layout.argSizes.length = (sizes.take announced).length := by
    rw [hcount, hcnt, UInt8.toNat_ofNat', List.length_take, List.length_map]
    omega
  have hsplit : sizes ++ request.texts.flatMap asBytes =
      sizes.take announced ++ request.wrappedText :=
    calc sizes ++ request.texts.flatMap asBytes
        = sizes.take announced ++ sizes.drop announced ++ request.texts.flatMap asBytes := by
            rw [List.take_append_drop]
      _ = sizes.take announced ++ request.wrappedText := List.append_assoc ..
  rw [hsplit]
  constructor
  · intro heq
    exact (List.append_inj heq hlength.symm).imp Eq.symm id
  · rintro ⟨hsizes, htext⟩
    rw [hsizes, htext]

/-- The encoding of a request in the layout of another one. -/
theorem toBytes_eq_bytes_append_iff {request request' : AccountingRequest}
    {layout : Layout request'} {rest : List UInt8}
    (hcount : layout.argSizes.length = layout.argCnt.toNat) :
    request.toBytes = layout.bytes ++ rest ↔
      SameFixedFields request' request ∧ layout.userLen = UInt8.ofNat (len request.user) ∧
        layout.portLen = UInt8.ofNat (len request.port) ∧
        layout.remAddrLen = UInt8.ofNat (len request.remAddress) ∧
        layout.argCnt = UInt8.ofNat request.args.length ∧
        layout.argSizes = (request.args.take (request.args.length % 256)).map
          (fun arg => UInt8.ofNat (len arg)) ∧
        request.wrappedText = request'.texts.flatMap asBytes ++ rest := by
  rw [List.map_take]
  constructor
  · intro h
    simp only [toBytes, Layout.bytes, List.append_assoc, List.cons_append, List.nil_append,
      List.cons.injEq] at h
    obtain ⟨hflags, hmethod, hpriv, htype, hservice, huser, hport, hrem, hcnt, hrest⟩ := h
    have hfixed : SameFixedFields request' request :=
      ⟨by rw [← BitFlags.mk.injEq] at hflags; exact hflags.symm,
        discriminant_injective hmethod.symm, hpriv.symm, discriminant_injective htype.symm,
        discriminant_injective hservice.symm⟩
    refine ⟨hfixed, huser.symm, hport.symm, hrem.symm, hcnt.symm,
      (sizes_append_texts_iff hcount hcnt.symm).mp ?_⟩
    simpa [texts] using hrest
  · rintro ⟨⟨hflags, hmethod, hpriv, htype, hservice⟩, huser, hport, hrem, hcnt, hrest⟩
    have hbytes := (sizes_append_texts_iff hcount hcnt).mpr hrest
    simp only [texts, List.flatMap_append, List.flatMap_cons, List.flatMap_nil,
      List.append_assoc, List.append_nil] at hbytes
    simp only [toBytes, Layout.bytes, hflags, hmethod, hpriv, htype, hservice, huser, hport,
      hrem, hcnt, List.append_assoc, List.cons_append, List.nil_append, ← hbytes]

/-- What a decoder makes of the encoding of any request: the fixed fields come back, the
texts are the slices of the encoded text that the wrapped lengths cut. -/
theorem fromBytes_toBytes_eq_ok_iff {request request' : AccountingRequest} :
    fromBytes request.toBytes = .ok request' ↔
      request.flags.IsDeclared ∧ SameFixedFields request' request ∧
        request'.texts.map asBytes = request.wrappedSizes.splitLengths request.wrappedText := by
  have hlength : ¬ request.toBytes.length < tacacsAccountingRequestMinLength :=
    Nat.not_lt.mpr (nine_le_length_toBytes request)
  rw [fromBytes, if_neg hlength,
    Decoder.value_eq_ok_iff, eq_splitLengths_iff (sum_wrappedSizes_le request)]
  have hmap : (request'.texts.map asBytes).map List.length = request'.texts.map len := by
    rw [List.map_map]
    rfl
  rw [hmap]
  simp only [decoder_eq_ok_iff, ← List.flatMap_def]
  constructor
  · rintro ⟨rest, hflags, layout, hmatches, hbytes⟩
    obtain ⟨hcount, hsizes⟩ := Layout.matches_iff.mp hmatches
    obtain ⟨hfixed, huser, hport, hrem, -, hargs, htext⟩ :=
      (toBytes_eq_bytes_append_iff hcount).mp hbytes
    refine ⟨hfixed.1 ▸ hflags, hfixed, ?_, rest, htext⟩
    rw [hsizes, huser, hport, hrem, hargs, List.map_map]
    simp only [wrappedSizes, UInt8.toNat_ofNat', Function.comp_def, Nat.reducePow]
  · rintro ⟨hflags, hfixed, hsizes, rest, htext⟩
    let layout : Layout request' :=
      ⟨UInt8.ofNat (len request.user), UInt8.ofNat (len request.port),
        UInt8.ofNat (len request.remAddress), UInt8.ofNat request.args.length,
        (request.args.take (request.args.length % 256)).map fun arg => UInt8.ofNat (len arg)⟩
    have hcount : layout.argSizes.length = layout.argCnt.toNat := by
      simp only [layout, List.length_map, List.length_take, UInt8.toNat_ofNat']
      omega
    refine ⟨rest, hfixed.1.symm ▸ hflags, layout, Layout.matches_iff.mpr ⟨hcount, ?_⟩,
      (toBytes_eq_bytes_append_iff hcount).mpr ⟨hfixed, rfl, rfl, rfl, rfl, rfl, htext⟩⟩
    rw [hsizes, List.map_map]
    simp only [layout, wrappedSizes, UInt8.toNat_ofNat', Function.comp_def, Nat.reducePow]

theorem exists_fromBytes_toBytes_iff {request : AccountingRequest}
    (hflags : request.flags.IsDeclared) :
    (∃ request', fromBytes request.toBytes = .ok request') ↔ request.WrapsToText := by
  rw [WrapsToText, ← exists_map_asBytes_eq_iff]
  simp only [fromBytes_toBytes_eq_ok_iff]
  constructor
  · rintro ⟨request', -, -, htexts⟩
    exact ⟨request'.texts, htexts⟩
  · rintro ⟨texts, htexts⟩
    have hlength := congrArg List.length htexts
    match texts with
    | [] => simp [wrappedSizes] at hlength
    | [_] => simp [wrappedSizes] at hlength
    | [_, _] => simp [wrappedSizes] at hlength
    | user :: port :: remAddress :: args =>
        exact ⟨{ request with user, port, remAddress, args }, hflags,
          ⟨rfl, rfl, rfl, rfl, rfl⟩, htexts⟩

/-- A request survives encoding or is refused by the decoder exactly when its lengths fit,
or its wrapped lengths cut the text inside a character. -/
theorem decodes_to_itself_or_is_refused_iff (request : AccountingRequest)
    (hflags : request.flags.IsDeclared) :
    (∀ request', fromBytes request.toBytes = .ok request' → request' = request) ↔
      request.Representable ∨ ¬ request.WrapsToText := by
  constructor
  · intro h
    rw [or_iff_not_imp_right, not_not, ← exists_fromBytes_toBytes_iff hflags]
    rintro ⟨request', hdecoded⟩
    have hsame := h request' hdecoded
    subst hsame
    exact (fromBytes_eq_ok_iff.mp hdecoded).2.1
  · rintro (hrep | hwrap) request' hdecoded
    · have hself := fromBytes_eq_ok_iff.mpr
        ⟨hflags, hrep, [], (List.append_nil _).symm⟩
      rw [hself, Outcome.ok.injEq] at hdecoded
      exact hdecoded.symm
    · exact absurd ((exists_fromBytes_toBytes_iff hflags).mp ⟨request', hdecoded⟩) hwrap

theorem decodes_to_itself_or_is_refused_short :
    let request := Tacon.accountingRequest "admin" "tty0" "10.0.0.1" "ls" none
    request.Representable ∧
      ∀ request', fromBytes request.toBytes = .ok request' → request' = request := by
  have hrep : (Tacon.accountingRequest "admin" "tty0" "10.0.0.1" "ls" none).Representable :=
    Tacon.representable_accountingRequest_iff.mpr (by decide)
  refine ⟨hrep, ?_⟩
  exact (decodes_to_itself_or_is_refused_iff _ (Tacon.isDeclared_accountingRequest ..)).mpr
    (.inl hrep)

/-- A user name of 256 bytes reaches the server as no user and other arguments. -/
theorem long_user_decodes_to_other_request :
    let request := Tacon.accountingRequest (String.ofList (List.replicate 256 'a')) "tty0"
      "10.0.0.1" "ls" none
    let request' := { request with
      user := "", port := "aaaa", remAddress := "aaaaaaaa", args := ["aaaaaaaaaaaaa", "aaaaaa"] }
    request.flags.IsDeclared ∧ fromBytes request.toBytes = .ok request' ∧
      request' ≠ request := by
  decide +kernel

end TacacsRs.Messages.AccountingRequest
