import Mathlib.Algebra.GroupWithZero.Nat
import Mathlib.Data.List.Basic

/-!
# Source hashes

`stable_source_hash` of the analyzer and `ownership_source_hash` of the editor are the same
64-bit FNV-1a hash of the UTF-8 bytes, printed as sixteen hexadecimal digits.
-/

namespace RustWorkbench

/-- The UTF-8 bytes of a string, `as_bytes`. -/
def utf8Bytes (source : String) : List UInt8 :=
  source.toList.flatMap String.utf8EncodeChar

/-- One round of the loop: `hash ^= byte; hash = hash.wrapping_mul(0x100000001b3)`. -/
def hashByte (hash : Nat) (byte : UInt8) : Nat :=
  ((hash ^^^ byte.toNat) * 0x100000001b3) % 2 ^ 64

/-- `{hash:016x}`. -/
def hex16 (hash : Nat) : String :=
  String.ofList ((Nat.toDigits 16 hash).leftpad 16 '0')

/-- `stable_source_hash`, and `ownership_source_hash` in the editor. -/
def stableSourceHash (source : String) : String :=
  hex16 ((utf8Bytes source).foldl hashByte 0xcbf29ce484222325)

-- The two values the editor's own test pins down.
example : stableSourceHash "" = "cbf29ce484222325" := by decide +kernel
example : stableSourceHash "hello" = "a430d84680aabd0b" := by decide +kernel

/-! ## The printed form -/

theorem mem_toDigits {b n : Nat} (hb : 1 < b) {c : Char} (h : c ∈ Nat.toDigits b n) :
    ∃ d, c = Nat.digitChar d := by
  induction n using Nat.strongRecOn with
  | ind n ih =>
    rw [Nat.toDigits_eq_if hb] at h
    split at h
    · exact ⟨n, List.mem_singleton.mp h⟩
    · rename_i hn
      rcases List.mem_append.mp h with h | h
      · exact ih (n / b) (Nat.div_lt_self (by omega) hb) h
      · exact ⟨n % b, List.mem_singleton.mp h⟩

/-- A hash is printed without a colon. -/
theorem colon_notMem_stableSourceHash (source : String) :
    ':' ∉ (stableSourceHash source).toList := by
  intro h
  rw [stableSourceHash, hex16, String.toList_ofList, List.leftpad] at h
  rcases List.mem_append.mp h with h | h
  · exact absurd (List.eq_of_mem_replicate h) (by decide)
  · obtain ⟨d, hd⟩ := mem_toDigits (by decide) h
    exact Nat.digitChar_ne ':' (by decide) hd.symm

theorem stableSourceHash_ne_empty (source : String) : stableSourceHash source ≠ "" := by
  intro h
  have hlength := congrArg (fun s => s.toList.length) h
  rw [stableSourceHash, hex16, String.toList_ofList, List.length_leftpad] at hlength
  have hzero : ("" : String).toList.length = 0 := rfl
  omega

end RustWorkbench
