import Mathlib.Tactic
import CancunMachine.Proofs.Memory.Image
import CancunMachine.Proofs.Word.Conversion

/-!
# Numbers as lists of digits

A number has digits in base 256, most significant first: a fixed number of them, or as many as it
needs. Either way the number can be read back. The bytes of a limb, a word and an address are their
digits.
-/

namespace CancunMachine

namespace Bytes

/-- The lowest `width` digits of a number in base 256, most significant first. -/
def digits (width value : Nat) : List UInt8 :=
  (List.range width).map fun index => UInt8.ofNat (value / 256 ^ (width - 1 - index))

/-- All digits of a number in base 256, most significant first; zero has none. -/
def minimalDigits (value : Nat) : List UInt8 := (Nat.digits 256 value).reverse.map UInt8.ofNat

theorem length_digits (width value : Nat) : (digits width value).length = width := by
  rw [digits, List.length_map, List.length_range]

theorem digits_succ (width value : Nat) :
    digits (width + 1) value = digits width (value / 256) ++ [UInt8.ofNat value] := by
  rw [digits, List.range_succ, List.map_append, digits]
  congr 1
  · refine List.map_congr_left fun index within => ?_
    have inside := List.mem_range.mp within
    rw [Nat.div_div_eq_div_mul, ← pow_succ', show width + 1 - 1 - index = width - 1 - index + 1 by
      omega]
  · rw [List.map_singleton, Nat.add_sub_cancel, Nat.sub_self, pow_zero, Nat.div_one]

theorem minimalDigits_zero : minimalDigits 0 = [] := rfl

theorem minimalDigits_of_pos {value : Nat} (positive : 0 < value) :
    minimalDigits value = minimalDigits (value / 256) ++ [UInt8.ofNat value] := by
  have digit : UInt8.ofNat (value % 256) = UInt8.ofNat value := by
    apply UInt8.toNat_inj.mp
    rw [UInt8.toNat_ofNat', UInt8.toNat_ofNat', Nat.mod_mod]
  rw [minimalDigits, Nat.digits_def' (by decide) positive, List.reverse_cons, List.map_append,
    List.map_singleton, digit]
  rfl

theorem toNat_digits (width value : Nat) :
    toNat (ofList (digits width value)) = value % 256 ^ width := by
  induction width generalizing value with
  | zero => rw [pow_zero, Nat.mod_one]; rfl
  | succ width inductionHypothesis =>
      rw [digits_succ, ofList_concat, toNat_push, inductionHypothesis, UInt8.toNat_ofNat',
        pow_succ' 256, Nat.mod_mul]
      omega

theorem toNat_minimalDigits (value : Nat) : toNat (ofList (minimalDigits value)) = value := by
  induction value using Nat.strongRecOn with
  | ind value inductionHypothesis =>
      rcases Nat.eq_zero_or_pos value with rfl | positive
      · rfl
      · rw [minimalDigits_of_pos positive, ofList_concat, toNat_push,
          inductionHypothesis _ (by omega), UInt8.toNat_ofNat']
        omega

theorem minimalDigits_injective : Function.Injective minimalDigits := by
  intro value other same
  rw [← toNat_minimalDigits value, same, toNat_minimalDigits]

theorem digits_injective {width value other : Nat} (small : value < 256 ^ width)
    (otherSmall : other < 256 ^ width) (same : digits width value = digits width other) :
    value = other := by
  rw [← Nat.mod_eq_of_lt small, ← toNat_digits, same, toNat_digits, Nat.mod_eq_of_lt otherSmall]

/-- Without leading zeros, a number that was written with enough digits has just those it needs. -/
theorem dropWhile_digits {width value : Nat} (small : value < 256 ^ width) :
    (digits width value).dropWhile (· = 0) = minimalDigits value := by
  induction width generalizing value with
  | zero =>
      rw [pow_zero, Nat.lt_one_iff] at small
      rw [small]
      rfl
  | succ width inductionHypothesis =>
      have high : value / 256 < 256 ^ width := by
        rw [pow_succ'] at small
        exact Nat.div_lt_of_lt_mul small
      rw [digits_succ, List.dropWhile_append, inductionHypothesis high]
      rcases Nat.eq_zero_or_pos value with rfl | positive
      · rfl
      rw [minimalDigits_of_pos positive]
      rcases Nat.eq_zero_or_pos (value / 256) with single | several
      · have nonzero : UInt8.ofNat value ≠ 0 := by
          intro zero
          have number := congrArg UInt8.toNat zero
          rw [UInt8.toNat_ofNat', UInt8.toNat_zero] at number
          omega
        rw [single, minimalDigits_zero, List.isEmpty_nil, if_pos rfl]
        simp [nonzero]
      · rw [minimalDigits_of_pos several]
        simp

theorem length_minimalDigits_le {width value : Nat} (small : value < 256 ^ width) :
    (minimalDigits value).length ≤ width := by
  have shorter := ((digits width value).dropWhile_suffix (· = 0)).length_le
  rwa [dropWhile_digits small, length_digits] at shorter

/-- A string of known size is the list of its digits. -/
theorem toList_eq_digits {bytes : ByteArray} {width value : Nat} (size : bytes.size = width)
    (digit : ∀ place < width, fromEnd bytes place = UInt8.ofNat (value / 256 ^ place)) :
    bytes.data.toList = digits width value := by
  refine List.ext_getElem ?_ fun index within _ => ?_
  · rw [length_digits, ← size]
    rfl
  · have inside : index < width := size ▸ within
    have byte := digit (width - 1 - index) (by omega)
    rw [fromEnd_of_size size inside, get_of_lt (size ▸ inside)] at byte
    simp only [digits, List.getElem_map, List.getElem_range, ← byte]
    rfl

/-- A byte string is the list of the digits of its number. -/
theorem toList_eq_digits_toNat (bytes : ByteArray) :
    bytes.data.toList = digits bytes.size (toNat bytes) := by
  rw [← ofList_toList bytes]
  induction bytes.data.toList using List.reverseRecOn with
  | nil => rfl
  | append_singleton front byte inductionHypothesis =>
      have small : byte.toNat < 256 := byte.toNat_lt
      have rest : (toNat (ofList front) * 256 + byte.toNat) / 256 = toNat (ofList front) := by omega
      have last : UInt8.ofNat (toNat (ofList front) * 256 + byte.toNat) = byte := by
        apply UInt8.toNat_inj.mp
        rw [UInt8.toNat_ofNat']
        omega
      rw [ofList_concat, toNat_push, ByteArray.size_push, digits_succ, rest, last,
        ← inductionHypothesis, ByteArray.data_push, Array.toList_push]

end Bytes

open Bytes

theorem Word.toList_pushLimb (limb : UInt64) :
    (pushLimb ByteArray.empty limb).data.toList = digits 8 limb.toNat := by
  refine toList_eq_digits (pushLimb_size _ _) fun place within => ?_
  rw [fromEnd_pushLimb, if_pos within]

theorem Word.toList_toBytes (word : Word) : word.toBytes.data.toList = digits 32 word.toNat :=
  toList_eq_digits word.toBytes_size fun place _ => fromEnd_toBytes word place

/-- Strings of the size of a word are the bytes of what is read from them. -/
theorem Word.toBytes_ofBytes {bytes : ByteArray} (size : bytes.size = 32) :
    (ofBytes bytes).toBytes = bytes := by
  have small : Bytes.toNat bytes < count := (Bytes.toNat_lt bytes).trans_eq (by rw [size]; rfl)
  have same : (ofBytes bytes).toBytes.data.toList = bytes.data.toList := by
    rw [toList_toBytes, toNat_ofBytes_eq_mod, Nat.mod_eq_of_lt small, toList_eq_digits_toNat, size]
  exact ByteArray.ext (Array.toList_inj.mp same)

theorem Word.toWord_toHash (word : Word) : word.toHash.toWord = word := word.ofBytes_toBytes

theorem Hash.toHash_toWord (hash : Hash) : hash.toWord.toHash = hash := by
  obtain ⟨bytes, size⟩ := hash
  simp only [toWord, Word.toHash, Word.toBytes_ofBytes size]

theorem Address.toList_toBytes (address : Address) :
    address.toBytes.data.toList = digits 20 address.toNat := by
  have whole := address.toWord.toBytes_size
  have size : address.toBytes.size = 20 := by
    rw [toBytes, ByteArray.size_extract, whole]
    rfl
  refine toList_eq_digits size fun place within => ?_
  have last : 12 + (20 - 1 - place) = 32 - 1 - place := by omega
  rw [← address.toNat_toWord, ← Word.fromEnd_toBytes, fromEnd, fromEnd, size, whole,
    if_pos within, if_pos (by omega), toBytes, get_extract, if_pos (by omega), last]

theorem Address.toNat_lt (address : Address) : address.toNat < 256 ^ 20 := by
  have low := address.low.toNat_lt
  have middle := address.middle.toNat_lt
  have high := address.high.toNat_lt
  simp only [toNat, Word.limbBase]
  omega

theorem Address.toNat_toBytes (address : Address) :
    Bytes.toNat address.toBytes = address.toNat := by
  rw [← ofList_toList address.toBytes, address.toList_toBytes, toNat_digits, Nat.mod_eq_of_lt address.toNat_lt]

/-- A word reads the 20 bytes of an address as the address. -/
theorem Address.ofBytes_toBytes (address : Address) :
    Word.ofBytes address.toBytes = address.toWord := by
  have small := address.toWord.toNat_lt_count
  rw [address.toNat_toWord] at small
  apply Word.eq_of_toNat_eq
  rw [Word.toNat_ofBytes_eq_mod, address.toNat_toBytes, Nat.mod_eq_of_lt small,
    address.toNat_toWord]

theorem Address.ofBytes_eq_toAddress (bytes : ByteArray) :
    ofBytes bytes = (Word.ofBytes bytes).toAddress := rfl

/-- Strings of the size of an address are the bytes of what is read from them. -/
theorem Address.toBytes_ofBytes {bytes : ByteArray} (size : bytes.size = 20) :
    (ofBytes bytes).toBytes = bytes := by
  have small : Bytes.toNat bytes < 2 ^ 160 := (Bytes.toNat_lt bytes).trans_eq (by rw [size]; rfl)
  have number : (ofBytes bytes).toNat = Bytes.toNat bytes := by
    rw [ofBytes_eq_toAddress, Word.toNat_toAddress, Word.toNat_ofBytes_eq_mod, Word.count_eq]
    omega
  have same : (ofBytes bytes).toBytes.data.toList = bytes.data.toList := by
    rw [toList_toBytes, number, toList_eq_digits_toNat, size]
  exact ByteArray.ext (Array.toList_inj.mp same)

/-- The last 20 of the 32 bytes of a word are those of its address. -/
theorem Word.ofBytes_toAddress (word : Word) : Address.ofBytes word.toBytes = word.toAddress := by
  rw [Address.ofBytes_eq_toAddress, ofBytes_toBytes]

end CancunMachine
