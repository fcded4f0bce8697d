import CancunMachine.Address
import CancunMachine.Hash
import CancunMachine.Proofs.Word.Bytes
import CancunMachine.Proofs.Word.Product

/-!
# Words, addresses and byte strings as numbers

A byte string stands for its big-endian number, a word keeps the lowest 256 bits of it, and an address
the lowest 160 bits of a word.
-/

namespace CancunMachine

namespace Bytes

theorem ofList_toList (bytes : ByteArray) : ofList bytes.data.toList = bytes := rfl

theorem ofList_concat (bytes : List UInt8) (byte : UInt8) :
    ofList (bytes ++ [byte]) = (ofList bytes).push byte := by
  apply ByteArray.ext
  simp [ofList, ByteArray.data_push]

theorem toNat_push (bytes : ByteArray) (byte : UInt8) :
    toNat (bytes.push byte) = toNat bytes * 256 + byte.toNat := by
  simp [toNat, ByteArray.data_push]

/-- The bytes from the last one on are the digits of the number. -/
theorem toNat_mod_eq_sum (bytes : ByteArray) (places : Nat) :
    toNat bytes % 256 ^ places =
      ∑ place ∈ Finset.range places, (fromEnd bytes place).toNat * 256 ^ place := by
  rw [← ofList_toList bytes]
  induction bytes.data.toList using List.reverseRecOn generalizing places with
  | nil =>
      have blank : ∀ place, fromEnd (ofList []) place = 0 := fromEnd_empty
      have zero : toNat (ofList []) = 0 := rfl
      simp [zero, blank]
  | append_singleton front byte inductionHypothesis =>
      rw [ofList_concat, toNat_push]
      cases places with
      | zero => simp [Nat.mod_one]
      | succ places =>
          have small : byte.toNat < 256 := byte.toNat_lt
          have split : (toNat (ofList front) * 256 + byte.toNat) % 256 ^ (places + 1) =
              byte.toNat + 256 * (toNat (ofList front) % 256 ^ places) := by
            rw [pow_succ', Nat.mod_mul]
            congr 1 <;> [skip; congr 2] <;> omega
          rw [split, inductionHypothesis, Finset.sum_range_succ', Finset.mul_sum, Nat.add_comm]
          simp only [fromEnd_push_zero, fromEnd_push_succ, pow_zero, mul_one, pow_succ']
          congr 1
          refine Finset.sum_congr rfl fun place _ => ?_
          ring

theorem toNat_lt (bytes : ByteArray) : toNat bytes < 256 ^ bytes.size := by
  rw [← ofList_toList bytes]
  induction bytes.data.toList using List.reverseRecOn with
  | nil => decide
  | append_singleton front byte inductionHypothesis =>
      have small : byte.toNat < 256 := byte.toNat_lt
      rw [ofList_concat, toNat_push, ByteArray.size_push, pow_succ]
      omega

end Bytes

namespace Word

theorem toNat_ofBytes_eq_mod (bytes : ByteArray) :
    (ofBytes bytes).toNat = Bytes.toNat bytes % count := by
  rw [toNat_ofBytes, ← Bytes.toNat_mod_eq_sum]
  rfl

/-- The 32 bytes of a word are its number. -/
theorem toNat_toBytes (word : Word) : Bytes.toNat word.toBytes = word.toNat := by
  have digits : ∀ places, ∑ place ∈ Finset.range places,
      (Bytes.fromEnd word.toBytes place).toNat * 256 ^ place = word.toNat % 256 ^ places := by
    intro places
    induction places with
    | zero => simp [Nat.mod_one]
    | succ places inductionHypothesis =>
        rw [Finset.sum_range_succ, inductionHypothesis, fromEnd_toBytes, UInt8.toNat_ofNat',
          Nat.mul_comm, Nat.mod_pow_succ (b := 256)]
  have small : Bytes.toNat word.toBytes < 256 ^ 32 := word.toBytes_size ▸ Bytes.toNat_lt word.toBytes
  rw [← Nat.mod_eq_of_lt small, Bytes.toNat_mod_eq_sum, digits]
  exact Nat.mod_eq_of_lt word.toNat_lt_count

theorem ofBytes_toBytes (word : Word) : ofBytes word.toBytes = word := by
  apply eq_of_toNat_eq
  rw [toNat_ofBytes_eq_mod, toNat_toBytes, Nat.mod_eq_of_lt word.toNat_lt_count]

theorem toNat_eq_sum_limb (word : Word) :
    word.toNat = ∑ index ∈ Finset.range 4, (word.limb index).toNat * 2 ^ (64 * index) := by
  simp only [Finset.sum_range_succ, Finset.sum_range_zero, limb, toNat, limbBase]
  omega

/-- The shared copy of a word is the word. -/
theorem intern_eq (word : Word) : word.intern = word := by
  unfold intern
  by_cases fits : word.fitsLimb = true
  · rw [if_pos fits, ← toNat_of_fitsLimb fits]
    by_cases small : word.toNat < sharedBound
    · simp [shared, small, ofNat_toNat]
    · simp [shared, small]
  · rw [if_neg fits]

theorem toNat_toAddress (word : Word) : word.toAddress.toNat = word.toNat % 2 ^ 160 := by
  have first := word.limb0.toNat_lt
  have second := word.limb1.toNat_lt
  simp only [toAddress, Address.toNat, UInt64.toNat_toUInt32, toNat, limbBase]
  omega

end Word

theorem Address.toNat_toWord (address : Address) : address.toWord.toNat = address.toNat := by
  simp [toWord, Word.toNat, toNat]

theorem Address.toAddress_toWord (address : Address) : address.toWord.toAddress = address := by
  simp [toWord, Word.toAddress]

end CancunMachine
