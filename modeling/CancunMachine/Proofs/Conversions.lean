import Mathlib.Tactic
import CancunMachine.Proofs.Memory.Copied
import CancunMachine.Proofs.Word.Digits

/-!
# Conversions of words

A word is held with its lowest limb first and written with its highest byte first. Words, byte
strings, digests and addresses turn into one another without loss but for what does not fit, and a
memory gives back the words that are stored in it, wherever they are read from.
-/

namespace CancunMachine

namespace Memory

variable {memory stored grown : Memory} {offset : Nat} {word value : Word}

theorem storeWord_eq_ok : storeWord offset word memory = .ok () stored ↔
    ∃ reached, reach offset 32 memory = .ok () reached ∧
      stored = reached.write offset word.toBytes := by
  have some : (32 : Nat) ≠ 0 := by decide
  rw [storeWord, store_eq_ok, word.toBytes_size]
  exact ⟨fun stores => (stores.resolve_left fun none => some none.1).2, fun stores => .inr ⟨some, stores⟩⟩

/-- What was written within a memory can be cut out of its buffer again. -/
theorem extract_write {data : ByteArray} (covered : offset + data.size ≤ memory.size) :
    (memory.write offset data).buffer.extract offset (offset + data.size) = data := by
  have fits := covered.trans memory.fits
  have larger := (memory.write offset data).fits
  rw [size_write] at larger
  refine Bytes.ext_get ?_ fun position => ?_
  · rw [ByteArray.size_extract]
    omega
  · rw [Bytes.get_extract, write, Bytes.get_overwrite fits, Nat.add_sub_cancel_left,
      Nat.add_sub_cancel_left]
    split
    · exact if_pos (by omega)
    · exact (Bytes.get_of_le (by omega)).symm

/-- A word that was stored is loaded from where it was stored, and the memory has room for it. -/
theorem loadWord_of_storeWord (stores : storeWord offset word memory = .ok () stored) :
    loadWord offset stored = .ok word stored := by
  obtain ⟨reached, reaches, rfl⟩ := storeWord_eq_ok.mp stores
  have covered := le_size_of_reach reaches
  have read := extract_write (word.toBytes_size.symm ▸ covered)
  rw [word.toBytes_size] at read
  rw [← size_write reached offset word.toBytes] at covered
  rw [loadWord_eq_ok, read, word.ofBytes_toBytes]
  exact ⟨reach_of_covered (reach_eq_ok.mp reaches).1 covered, rfl⟩

/-- What is loaded are the bytes at the offset, the first one most significant. -/
theorem toNat_of_loadWord (loads : loadWord offset memory = .ok value grown) :
    value.toNat = ∑ index ∈ Finset.range 32,
      (Bytes.get grown.contents (offset + index)).toNat * 256 ^ (31 - index) := by
  obtain ⟨reaches, rfl⟩ := loadWord_eq_ok.mp loads
  have covered := le_size_of_reach reaches
  have fits := grown.fits
  have size : (grown.buffer.extract offset (offset + 32)).size = 32 := by
    rw [ByteArray.size_extract]
    omega
  rw [Word.toNat_ofBytes_of_size size (le_refl 32)]
  refine Finset.sum_congr rfl fun index within => ?_
  have inside := Finset.mem_range.mp within
  rw [contents, Bytes.get_extract, Bytes.get_extract, Nat.add_sub_cancel_left, if_pos inside,
    Nat.sub_zero, Nat.zero_add, if_pos (by omega)]

/-- A load changes no byte of the memory. -/
theorem get_of_loadWord (loads : loadWord offset memory = .ok value grown) {position : Nat}
    (within : position < memory.size) :
    Bytes.get grown.contents position = Bytes.get memory.contents position := by
  have grows := (reach_eq_ok.mp (loadWord_eq_ok.mp loads).1).2
  have larger := size_le_of_grow grows
  rw [contents, contents, Bytes.get_extract, Bytes.get_extract, Nat.sub_zero, Nat.sub_zero,
    Nat.zero_add, if_pos within, if_pos (within.trans_le larger), get_of_grow grows]

theorem storeWord_of_near (near : offset + 32 ≤ 2 ^ 63) (word : Word) :
    ∃ stored, storeWord offset word memory = .ok () stored := by
  cases stores : storeWord offset word memory with
  | ok _ stored => exact ⟨stored, rfl⟩
  | error cause left =>
      have failed := (store_eq_error stores).2
      rw [word.toBytes_size] at failed
      exact absurd near (Nat.not_le.mpr (stuck_of_reach_eq_error (by decide) failed).far)

theorem loadWord_of_near (near : offset + 32 ≤ 2 ^ 63) :
    ∃ value grown, loadWord offset memory = .ok value grown := by
  cases loads : loadWord offset memory with
  | ok value grown => exact ⟨_, _, rfl⟩
  | error cause left =>
      have stuck := stuck_of_reach_eq_error (by decide) (loadWord_eq_error loads)
      exact absurd near (Nat.not_le.mpr stuck.far)

/-- The memory in which a word was stored at an offset. -/
structure Recalls (stored : Memory) (offset : Nat) (word : Word) : Prop where
  /-- The word is loaded from there, and nothing grows. -/
  same : loadWord offset stored = .ok word stored
  near : ∀ other, other + 32 ≤ 2 ^ 63 → ∃ value grown, loadWord other stored = .ok value grown
  /-- Elsewhere too, a load gives the number of the 32 bytes that stand there. -/
  digits : ∀ other value grown, loadWord other stored = .ok value grown →
    value.toNat = ∑ index ∈ Finset.range 32,
      (Bytes.get grown.contents (other + index)).toNat * 256 ^ (31 - index)
  kept : ∀ other value grown, loadWord other stored = .ok value grown →
    ∀ position < stored.size, Bytes.get grown.contents position = Bytes.get stored.contents position

theorem recalls_of_storeWord (stores : storeWord offset word memory = .ok () stored) :
    stored.Recalls offset word where
  same := loadWord_of_storeWord stores
  near _ := loadWord_of_near
  digits _ _ _ := toNat_of_loadWord
  kept _ _ _ loads _ := get_of_loadWord loads

section

variable (clean : ∀ position, memory.size ≤ position → Bytes.get memory.buffer position = 0)
include clean

theorem clean_of_storeWord (stores : storeWord offset word memory = .ok () stored) (position : Nat)
    (beyond : stored.size ≤ position) : Bytes.get stored.buffer position = 0 := by
  obtain ⟨reached, reaches, rfl⟩ := storeWord_eq_ok.mp stores
  have covered := le_size_of_reach reaches
  have grows := (reach_eq_ok.mp reaches).2
  have larger := size_le_of_grow grows
  rw [size_write] at beyond
  have fits : offset + word.toBytes.size ≤ reached.buffer.size := by
    rw [word.toBytes_size]
    exact covered.trans reached.fits
  rw [write, Bytes.get_overwrite fits, word.toBytes_size, if_neg (by omega), get_of_grow grows]
  exact clean position (by omega)

/-- What a load grows into is zero. -/
theorem get_of_loadWord_of_clean (loads : loadWord offset memory = .ok value grown)
    (position : Nat) : Bytes.get grown.contents position = Bytes.get memory.contents position := by
  have grows := (reach_eq_ok.mp (loadWord_eq_ok.mp loads).1).2
  have larger := size_le_of_grow grows
  have stillClean : ∀ position, grown.size ≤ position → Bytes.get grown.buffer position = 0 := by
    intro position beyond
    rw [get_of_grow grows]
    exact clean position (larger.trans beyond)
  rw [get_contents stillClean, get_contents clean, get_of_grow grows]

end

end Memory

/-- Words and 32 bytes, and words and digests, are the same in two forms, and an address is the same
as a word of 160 bits. A longer string is read by its last 32 bytes, and a word gives an address by its
last 20. The shared copy of a word and its four limbs stand for its number. A memory that a word is
stored in gives it back, and at any other offset the number of the bytes there; where the memory was
zero behind its end, these are the bytes of the word, those that were there before, and zeros. -/
theorem word_conversions_are_inverse (word : Word) (hash : Hash) (bytes : ByteArray)
    (address : Address) :
    Word.ofBytes word.toBytes = word ∧
      (bytes.size = 32 → (Word.ofBytes bytes).toBytes = bytes) ∧
      (Word.ofBytes bytes).toNat = Bytes.toNat bytes % 2 ^ 256 ∧
      address.toWord.toAddress = address ∧
      word.toAddress.toWord.toNat = word.toNat % 2 ^ 160 ∧
      Word.ofBytes address.toBytes = address.toWord ∧
      Address.ofBytes word.toBytes = word.toAddress ∧
      word.toHash.toWord = word ∧ hash.toWord.toHash = hash ∧
      word.intern.toNat = word.toNat ∧
      word.toNat = ∑ index ∈ Finset.range 4, (word.limb index).toNat * 2 ^ (64 * index) ∧
      (∀ (memory : Memory) (offset : Nat), offset + 32 ≤ 2 ^ 63 →
        ∃ stored, Memory.storeWord offset word memory = .ok () stored) ∧
      ∀ (memory stored : Memory) (offset : Nat), Memory.storeWord offset word memory = .ok () stored →
        stored.Recalls offset word ∧
        ((∀ position, memory.size ≤ position → Bytes.get memory.buffer position = 0) →
          memory.Replaced stored offset 32 (Bytes.get word.toBytes) ∧
          ∀ other value grown, Memory.loadWord other stored = .ok value grown →
            value.toNat = ∑ index ∈ Finset.range 32,
              (Bytes.get stored.contents (other + index)).toNat * 256 ^ (31 - index)) := by
  refine ⟨word.ofBytes_toBytes, Word.toBytes_ofBytes, Word.toNat_ofBytes_eq_mod bytes,
    address.toAddress_toWord, ?_, address.ofBytes_toBytes, word.ofBytes_toAddress,
    word.toWord_toHash, hash.toHash_toWord, congrArg Word.toNat word.intern_eq,
    word.toNat_eq_sum_limb, fun memory offset near => Memory.storeWord_of_near near word,
    fun memory stored offset stores => ⟨Memory.recalls_of_storeWord stores, fun clean => ⟨?_, ?_⟩⟩⟩
  · rw [Address.toNat_toWord, Word.toNat_toAddress]
  · have replaced := Memory.replaced_of_store clean stores
    rwa [word.toBytes_size] at replaced
  · intro other value grown loads
    have stored := Memory.get_of_loadWord_of_clean (Memory.clean_of_storeWord clean stores) loads
    rw [Memory.toNat_of_loadWord loads]
    exact Finset.sum_congr rfl fun index _ => by rw [stored]

/-- One byte further on, the word has lost its first byte and a zero stands behind it. -/
theorem overlapping_load_shifts_the_word :
    ∃ stored value grown, Memory.storeWord 5 (.ofNat 0x0102) .empty = .ok () stored ∧
      Memory.loadWord 6 stored = .ok value grown ∧ value.toNat = 0x010200 := by
  obtain ⟨_, _, _, _, _, _, _, _, _, _, _, near, recalled⟩ :=
    word_conversions_are_inverse (.ofNat 0x0102) default ByteArray.empty .zero
  obtain ⟨stored, stores⟩ := near Memory.empty 5 (by decide)
  obtain ⟨recalls, full⟩ := recalled Memory.empty stored 5 stores
  obtain ⟨replaced, number⟩ := full fun position _ => Bytes.get_of_le (Nat.zero_le position)
  obtain ⟨value, grown, loads⟩ := recalls.near 6 (by decide)
  refine ⟨stored, value, grown, stores, loads, ?_⟩
  have last : Bytes.get stored.contents (6 + 31) = 0 := replaced.outside 37 (.inr (by decide))
  have shifted : ∀ index ∈ Finset.range 31, Bytes.get stored.contents (6 + index) =
      Bytes.get (Word.ofNat 0x0102).toBytes (index + 1) := by
    intro index within
    rw [← replaced.inside (index + 1) (Nat.succ_lt_succ (Finset.mem_range.mp within)),
      show 5 + (index + 1) = 6 + index by omega]
  rw [number _ _ _ loads, Finset.sum_range_succ, last,
    Finset.sum_congr rfl fun index within => by rw [shifted index within]]
  decide +kernel

end CancunMachine
