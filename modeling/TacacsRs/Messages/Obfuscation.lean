import TacacsRs.Messages.Header

/-!
# Body obfuscation

The pad is a chain of MD5 blocks over the session id, the key, the version and
the sequence number. MD5 itself is a parameter: any function from bytes to
sixteen bytes.
-/

namespace TacacsRs.Messages

open Rust

/-- Sixteen bytes, the result of hashing one block. -/
structure Digest where
  bytes : List UInt8
  length_bytes : bytes.length = 16

variable (md5 : List UInt8 → Digest)

/-- One application of the hash. -/
def hashBlock (block : List UInt8) : Digest := md5 block

/-- What the first block of the pad is the hash of. -/
def getFirstBlock (header : Header) (obfuscationKey : List UInt8) : List UInt8 :=
  u32ToBeBytes header.sessionId ++ obfuscationKey ++ [header.version, header.seqNo]

/-- The loop of `generatePad`: hash blocks are chained until the pad is long enough. -/
def extendPad (iv : List UInt8) (padSize : Nat) (hashed : Digest) (pad : List UInt8) :
    List UInt8 :=
  if pad.length < padSize then
    let rollingHash := hashBlock md5 (iv ++ hashed.bytes)
    extendPad iv padSize rollingHash (pad ++ rollingHash.bytes)
  else
    pad
termination_by padSize - pad.length
decreasing_by
  rw [List.length_append, rollingHash.length_bytes]
  omega

/-- The chained hashes, cut to the length that the header declares. -/
def generatePad (header : Header) (obfuscationKey : List UInt8) : List UInt8 :=
  let padSize := header.length.toNat
  let iv := getFirstBlock header obfuscationKey
  let hashed := hashBlock md5 iv
  (extendPad md5 iv padSize hashed hashed.bytes).take padSize

/-- Exclusive or with the pad, as long as both last. -/
def convert (header : Header) (data obfuscationKey : List UInt8) : List UInt8 :=
  let pad := generatePad md5 header obfuscationKey
  List.zipWith (· ^^^ ·) data pad

/-- The loop of `convertInplace` from position `i` on; `pad[i]` may be out of bounds. -/
def xorFrom (pad : List UInt8) : Nat → List UInt8 → Outcome (List UInt8)
  | _, [] => pure []
  | i, b :: data => do
      let p ← Outcome.index pad i
      let tail ← xorFrom pad (i + 1) data
      pure ((b ^^^ p) :: tail)

/-- Exclusive or with the pad, byte by byte of the data; a pad that is too short panics. -/
def convertInplace (header : Header) (data obfuscationKey : List UInt8) :
    Outcome (List UInt8) :=
  let pad := generatePad md5 header obfuscationKey
  xorFrom pad 0 data

theorem length_extendPad (iv : List UInt8) (padSize : Nat) (hashed : Digest)
    (pad : List UInt8) : padSize ≤ (extendPad md5 iv padSize hashed pad).length := by
  fun_induction extendPad md5 iv padSize hashed pad with
  | case1 hashed pad hshort rollingHash ih => exact ih
  | case2 hashed pad hlong => exact Nat.le_of_not_lt hlong

/-- The pad is exactly as long as the header declares the body to be. -/
@[simp] theorem length_generatePad (header : Header) (key : List UInt8) :
    (generatePad md5 header key).length = header.length.toNat := by
  have h := length_extendPad md5 (getFirstBlock header key) header.length.toNat
    (hashBlock md5 (getFirstBlock header key)) (hashBlock md5 (getFirstBlock header key)).bytes
  simp only [generatePad, List.length_take]
  omega

/-- Flags and type do not enter the pad. -/
theorem generatePad_congr {header other : Header} (key : List UInt8)
    (hversion : header.version = other.version) (hseq : header.seqNo = other.seqNo)
    (hsession : header.sessionId = other.sessionId) (hlength : header.length = other.length) :
    generatePad md5 header key = generatePad md5 other key := by
  simp only [generatePad, getFirstBlock, hversion, hseq, hsession, hlength]

theorem xorFrom_of_le (pad : List UInt8) (i : Nat) (data : List UInt8)
    (h : i + data.length ≤ pad.length) :
    xorFrom pad i data = .ok (List.zipWith (· ^^^ ·) data (pad.drop i)) := by
  induction data generalizing i with
  | nil => simp [xorFrom]
  | cons b data ih =>
      simp only [List.length_cons] at h
      have hi : i < pad.length := by omega
      have htail := ih (i + 1) (by omega)
      simp only [xorFrom, Outcome.index, List.getElem?_eq_getElem hi, htail, Outcome.bind_def,
        Outcome.ok_bind, Outcome.pure_eq]
      rw [List.drop_eq_getElem_cons hi, List.zipWith_cons_cons]

/-- The loop runs off the pad when the data is longer than what is left of it. -/
theorem xorFrom_of_lt (pad : List UInt8) (i : Nat) (data : List UInt8) (hi : i ≤ pad.length)
    (h : pad.length < i + data.length) : xorFrom pad i data = .panic := by
  induction data generalizing i with
  | nil => simp at h; omega
  | cons b data ih =>
      simp only [List.length_cons] at h
      by_cases hlast : i < pad.length
      · have htail := ih (i + 1) (by omega) (by omega)
        simp [xorFrom, Outcome.index, List.getElem?_eq_getElem hlast, htail]
      · simp [xorFrom, Outcome.index, List.getElem?_eq_none (Nat.le_of_not_lt hlast)]

/-- On a body no longer than declared the two conversions compute the same bytes. -/
theorem convertInplace_of_le {header : Header} {data : List UInt8}
    (h : data.length ≤ header.length.toNat) (key : List UInt8) :
    convertInplace md5 header data key = .ok (convert md5 header data key) := by
  have hpad : 0 + data.length ≤ (generatePad md5 header key).length := by simpa using h
  simpa [convertInplace, convert] using xorFrom_of_le _ 0 data hpad

/-- Flags that change before the conversion do not change the pad. -/
theorem convertInplace_setFlags {header : Header} {data : List UInt8}
    (h : data.length ≤ header.length.toNat) (flags : TacacsFlags) (key : List UInt8) :
    convertInplace md5 { header with flags } data key = .ok (convert md5 header data key) :=
  convertInplace_of_le md5 h key

theorem convertInplace_of_lt {header : Header} {data : List UInt8}
    (h : header.length.toNat < data.length) (key : List UInt8) :
    convertInplace md5 header data key = .panic := by
  apply xorFrom_of_lt
  · exact Nat.zero_le _
  · simpa using h

@[simp] theorem length_convert (header : Header) (data key : List UInt8) :
    (convert md5 header data key).length = min data.length header.length.toNat := by
  simp [convert]

theorem convert_congr {header other : Header} (data key : List UInt8)
    (hversion : header.version = other.version) (hseq : header.seqNo = other.seqNo)
    (hsession : header.sessionId = other.sessionId) (hlength : header.length = other.length) :
    convert md5 header data key = convert md5 other data key := by
  simp only [convert, generatePad_congr md5 key hversion hseq hsession hlength]

theorem zipWith_xor_cancel (data pad : List UInt8) (h : data.length ≤ pad.length) :
    List.zipWith (· ^^^ ·) (List.zipWith (· ^^^ ·) data pad) pad = data := by
  induction data generalizing pad with
  | nil => simp
  | cons b data ih =>
      cases pad with
      | nil => simp at h
      | cons p pad =>
          simp only [List.length_cons, Nat.add_le_add_iff_right] at h
          rw [List.zipWith_cons_cons, List.zipWith_cons_cons, ih pad h, UInt8.xor_assoc,
            UInt8.xor_self, UInt8.xor_zero]

/-- Converting twice with the same header restores a body no longer than declared. -/
theorem convert_convert {header : Header} {data : List UInt8}
    (h : data.length ≤ header.length.toNat) (key : List UInt8) :
    convert md5 header (convert md5 header data key) key = data := by
  apply zipWith_xor_cancel
  simpa using h

end TacacsRs.Messages
