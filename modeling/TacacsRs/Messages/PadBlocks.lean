import TacacsRs.Rust.Blocks
import TacacsRs.Messages.Obfuscation

/-!
# The pad of the protocol

The protocol defines the pad as a chain of hashes: the first over the session id,
the key, the version and the sequence number, each later one over the same and
the hash before. The pad of a body is cut from the front of that chain.
-/

namespace TacacsRs.Messages

open Rust

variable (md5 : List UInt8 → Digest)

/-- The hashes that the protocol chains, by their place. -/
def padHash (sessionId : UInt32) (key : List UInt8) (version seqNo : UInt8) : Nat → Digest
  | 0 => md5 (u32ToBeBytes sessionId ++ key ++ [version, seqNo])
  | i + 1 => md5 (u32ToBeBytes sessionId ++ key ++ [version, seqNo] ++
      (padHash sessionId key version seqNo i).bytes)

/-- The hashes of a header's pad. -/
def Header.padHash (header : Header) (key : List UInt8) (i : Nat) : Digest :=
  Messages.padHash md5 header.sessionId key header.version header.seqNo i

section Loop

variable (header : Header) (key : List UInt8)

theorem length_padHash (i : Nat) : (header.padHash md5 key i).bytes.length = 16 :=
  (header.padHash md5 key i).length_bytes

/-- One round of the loop hashes the fixed block and the last hash. -/
theorem hashBlock_padHash (i : Nat) :
    hashBlock md5 (getFirstBlock header key ++ (header.padHash md5 key i).bytes) =
      header.padHash md5 key (i + 1) := rfl

/-- The loop carries the last hash and a pad of all the hashes so far. -/
theorem exists_extendPad_eq_blocks (padSize n : Nat) :
    ∃ m, extendPad md5 (getFirstBlock header key) padSize (header.padHash md5 key n)
      (blocks (fun i => (header.padHash md5 key i).bytes) (n + 1)) =
        blocks (fun i => (header.padHash md5 key i).bytes) m := by
  have hinvariant (hashed : Digest) (pad : List UInt8) (hhashed : hashed = header.padHash md5 key n)
      (hpad : pad = blocks (fun i => (header.padHash md5 key i).bytes) (n + 1)) :
      ∃ m, extendPad md5 (getFirstBlock header key) padSize hashed pad =
        blocks (fun i => (header.padHash md5 key i).bytes) m := by
    fun_induction extendPad md5 (getFirstBlock header key) padSize hashed pad generalizing n with
    | case1 hashed pad hshort rollingHash ih =>
        apply ih (n + 1)
        · rw [← hashBlock_padHash, ← hhashed]
        · rw [blocks_succ, ← hpad, ← hashBlock_padHash, ← hhashed]
    | case2 hashed pad hlong => exact ⟨n + 1, hpad⟩
  exact hinvariant _ _ rfl rfl

/-- The pad is the front of the chain of hashes, whatever part of it covers the pad. -/
theorem generatePad_eq_take_blocks {n : Nat} (hn : header.length.toNat ≤ 16 * n) :
    generatePad md5 header key =
      (blocks (fun i => (header.padHash md5 key i).bytes) n).take header.length.toNat := by
  have hfirst : (header.padHash md5 key 0).bytes =
      blocks (fun i => (header.padHash md5 key i).bytes) 1 := by simp [blocks]
  obtain ⟨m, hm⟩ := exists_extendPad_eq_blocks md5 header key header.length.toNat 0
  have hlong := length_extendPad md5 (getFirstBlock header key) header.length.toNat
    (header.padHash md5 key 0) (blocks (fun i => (header.padHash md5 key i).bytes) 1)
  rw [hm, length_blocks (length_padHash md5 header key)] at hlong
  calc generatePad md5 header key
      = (extendPad md5 (getFirstBlock header key) header.length.toNat (header.padHash md5 key 0)
          (header.padHash md5 key 0).bytes).take header.length.toNat := rfl
    _ = (blocks (fun i => (header.padHash md5 key i).bytes) m).take header.length.toNat := by
          rw [hfirst, hm]
    _ = (blocks (fun i => (header.padHash md5 key i).bytes) n).take header.length.toNat :=
          take_blocks (length_padHash md5 header key) hlong hn

end Loop

/-- The pad has as many bytes as the header declares, byte `16 * i + j` of it is byte `j` of the
hash at the place `i`, and of two pads under one session id, version, sequence number and key the
shorter one is the front of the longer one. -/
theorem generatePad_is_chain (header : Header) (key : List UInt8) :
    (generatePad md5 header key).length = header.length.toNat ∧
      (∀ i j, j < 16 → 16 * i + j < header.length.toNat →
        (generatePad md5 header key)[16 * i + j]? =
          (padHash md5 header.sessionId key header.version header.seqNo i).bytes[j]?) ∧
      ∀ other : Header, other.sessionId = header.sessionId → other.version = header.version →
        other.seqNo = header.seqNo → header.length ≤ other.length →
          generatePad md5 header key <+: generatePad md5 other key := by
  refine ⟨length_generatePad md5 header key, ?_, ?_⟩
  · intro i j hj hshort
    rw [generatePad_eq_take_blocks md5 header key (n := header.length.toNat) (by omega),
      List.getElem?_take_of_lt hshort,
      getElem?_blocks (length_padHash md5 header key) (by omega) hj]
    rfl
  · intro other hsession hversion hseq hlength
    have hle : header.length.toNat ≤ other.length.toNat := hlength
    have hsame : other.padHash md5 key = header.padHash md5 key := by
      funext i
      rw [Header.padHash, Header.padHash, hsession, hversion, hseq]
    rw [generatePad_eq_take_blocks md5 header key (n := other.length.toNat) (by omega),
      generatePad_eq_take_blocks md5 other key (n := other.length.toNat) (by omega), hsame]
    exact List.take_prefix_take_left hle

end TacacsRs.Messages
