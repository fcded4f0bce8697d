import Mathlib.Tactic
import CancunMachine.Deployment
import CancunMachine.Proofs.Backups
import CancunMachine.Proofs.Word.Digits

/-!
# The preimages of contract addresses

A plain creation hashes the list of its sender and its nonce in the recursive length encoding: a
string or a list stands behind its length, a short length in one byte and a long one with the number
of its digits, and a small byte stands for itself. No two creations hash the same bytes, whether
plain or salted.
-/

namespace CancunMachine

open Bytes

namespace Deployment

/-- What can be encoded: strings of bytes, and lists. -/
inductive Item
  | string (bytes : List UInt8)
  | list (items : List Item)

namespace Item

/-- A length in front of what has it: up to 55 within the marker, else with its digits behind. -/
def lengthHeader (marker : Nat) (length : Nat) : List UInt8 :=
  if length ≤ 55 then [UInt8.ofNat (marker + length)]
  else UInt8.ofNat (marker + 55 + (minimalDigits length).length) :: minimalDigits length

/-- The recursive length encoding of a string. -/
def encodeBytes : List UInt8 → List UInt8
  | [single] => if single < 0x80 then [single] else lengthHeader 0x80 1 ++ [single]
  | bytes => lengthHeader 0x80 bytes.length ++ bytes

mutual

/-- The recursive length encoding. -/
def encode : Item → List UInt8
  | string bytes => encodeBytes bytes
  | list items => lengthHeader 0xc0 (encodeAll items).length ++ encodeAll items

def encodeAll : List Item → List UInt8
  | [] => []
  | item :: items => encode item ++ encodeAll items

end

/-- The list of a sender, as a string of 20 bytes, and a nonce, as a number. -/
def creation (sender : Address) (nonce : UInt64) : Item :=
  list [string (digits 20 sender.toNat), string (minimalDigits nonce.toNat)]

end Item

/-- The recursive length encoding of a short string, in which one byte has the length. -/
def encodeString : List UInt8 → List UInt8
  | [single] => if single < 0x80 then [single] else [0x81, single]
  | bytes => (0x80 + UInt8.ofNat bytes.length) :: bytes

variable {bytes : List UInt8}

theorem lengthHeader_of_short {marker length : Nat} (short : length ≤ 55) :
    Item.lengthHeader marker length = [UInt8.ofNat marker + UInt8.ofNat length] := by
  rw [Item.lengthHeader, if_pos short, UInt8.ofNat_add]

theorem encodeBytes_of_short (short : bytes.length ≤ 55) :
    Item.encodeBytes bytes = encodeString bytes := by
  match bytes with
  | [] => rfl
  | [single] => rfl
  | first :: second :: rest =>
      exact congrArg (· ++ first :: second :: rest) (lengthHeader_of_short short)

theorem nonceDigits_eq (nonce : UInt64) : nonceDigits nonce = minimalDigits nonce.toNat := by
  rw [nonceDigits, Word.toList_pushLimb]
  exact dropWhile_digits nonce.toNat_lt

theorem encodeString_cases (bytes : List UInt8) :
    (∃ single, bytes = [single] ∧ single < 0x80 ∧ encodeString bytes = [single]) ∨
      encodeString bytes = (0x80 + UInt8.ofNat bytes.length) :: bytes := by
  match bytes with
  | [] => exact .inr rfl
  | [single] =>
      by_cases small : single < 0x80
      · exact .inl ⟨single, rfl, small, if_pos small⟩
      · exact .inr (if_neg small)
  | first :: second :: rest => exact .inr rfl

theorem length_encodeString_le (bytes : List UInt8) :
    (encodeString bytes).length ≤ bytes.length + 1 := by
  rcases encodeString_cases bytes with ⟨single, rfl, _, encoded⟩ | encoded
  · rw [encoded]
    exact Nat.le_succ _
  · rw [encoded, List.length_cons]

/-- A byte that stands for itself is no header. -/
theorem encodeString_injective : Function.Injective encodeString := by
  have apart : ∀ {single : UInt8} {bytes : List UInt8}, single < 0x80 →
      [single] ≠ (0x80 + UInt8.ofNat bytes.length) :: bytes := by
    intro single bytes small same
    obtain ⟨rfl, rfl⟩ := List.cons.inj same
    exact absurd small (by decide)
  intro bytes other same
  rcases encodeString_cases bytes with ⟨single, rfl, small, encoded⟩ | encoded <;>
    rcases encodeString_cases other with ⟨second, rfl, otherSmall, otherEncoded⟩ | otherEncoded <;>
    rw [encoded, otherEncoded] at same
  · exact same
  · exact absurd same (apart small)
  · exact absurd same.symm (apart otherSmall)
  · exact (List.cons.inj same).2

theorem length_senderBytes (sender : Address) : sender.toBytes.data.toList.length = 20 := by
  rw [sender.toList_toBytes, length_digits]

theorem encodeString_sender (sender : Address) :
    encodeString sender.toBytes.data.toList = 0x94 :: sender.toBytes.data.toList := by
  have length := length_senderBytes sender
  rcases encodeString_cases sender.toBytes.data.toList with ⟨single, short, _⟩ | encoded
  · rw [short, List.length_singleton] at length
    omega
  · rw [encoded, length]
    rfl

/-- The three forms of a nonce are those of a short string. -/
theorem encodeNonce_eq (nonce : UInt64) : encodeNonce nonce = encodeString (nonceDigits nonce) := by
  unfold encodeNonce
  match nonceDigits nonce with
  | [] => rfl
  | [single] => rfl
  | first :: second :: rest => rfl

theorem length_encodeNonce_le (nonce : UInt64) : (encodeNonce nonce).length ≤ 9 := by
  have sized := length_encodeString_le (nonceDigits nonce)
  have few : (nonceDigits nonce).length ≤ 8 := by
    rw [nonceDigits_eq]
    exact length_minimalDigits_le nonce.toNat_lt
  rw [encodeNonce_eq]
  omega

theorem plainPreimage_eq (sender : Address) (nonce : UInt64) :
    plainPreimage sender nonce = Item.encode (Item.creation sender nonce) := by
  have few : (minimalDigits nonce.toNat).length ≤ 55 :=
    (length_minimalDigits_le nonce.toNat_lt).trans (show 8 ≤ 55 by decide)
  have payload : Item.encodeAll [.string (digits 20 sender.toNat),
      .string (minimalDigits nonce.toNat)] =
      0x94 :: (sender.toBytes.data.toList ++ encodeNonce nonce) := by
    rw [Item.encodeAll, Item.encodeAll, Item.encodeAll, Item.encode, Item.encode, List.append_nil,
      encodeBytes_of_short few, encodeBytes_of_short (by rw [length_digits]; decide),
      ← sender.toList_toBytes, ← nonceDigits_eq, ← encodeNonce_eq, encodeString_sender,
      List.cons_append]
  have length : (0x94 :: (sender.toBytes.data.toList ++ encodeNonce nonce)).length =
      21 + (encodeNonce nonce).length := by
    rw [List.length_cons, List.length_append, length_senderBytes]
    omega
  have short : 21 + (encodeNonce nonce).length ≤ 55 := by
    have sized := length_encodeNonce_le nonce
    omega
  rw [Item.creation, Item.encode, payload, length, lengthHeader_of_short short]
  rfl

theorem length_preimageDigest (preimage : List UInt8) :
    ((keccak (Bytes.ofList preimage)).bytes.extract 12 32).size = 20 := by
  rw [ByteArray.size_extract, (keccak (Bytes.ofList preimage)).size_eq]
  rfl

/-- The bytes of an address are the last 20 of the digest. -/
theorem toBytes_addressOf (preimage : List UInt8) :
    (addressOf preimage).toBytes = (keccak (Bytes.ofList preimage)).bytes.extract 12 32 :=
  Address.toBytes_ofBytes (length_preimageDigest preimage)

theorem sender_eq_of_bytes {sender other : Address}
    (same : sender.toBytes.data.toList = other.toBytes.data.toList) : sender = other := by
  rw [sender.toList_toBytes, other.toList_toBytes] at same
  exact Address.toNat_injective (digits_injective sender.toNat_lt other.toNat_lt same)

theorem plainPreimage_injective :
    Function.Injective fun creation : Address × UInt64 => plainPreimage creation.1 creation.2 := by
  rintro ⟨sender, nonce⟩ ⟨other, otherNonce⟩ same
  obtain ⟨_, payload⟩ := List.cons.inj (List.cons.inj same).2
  obtain ⟨senders, nonces⟩ := List.append_inj payload
    ((length_senderBytes sender).trans (length_senderBytes other).symm)
  rw [encodeNonce_eq, encodeNonce_eq] at nonces
  have numbers := encodeString_injective nonces
  rw [nonceDigits_eq, nonceDigits_eq] at numbers
  exact Prod.ext (sender_eq_of_bytes senders)
    (UInt64.toNat_inj.mp (minimalDigits_injective numbers))

theorem saltedPreimage_injective :
    Function.Injective fun creation : Address × Word × Hash =>
      saltedPreimage creation.1 creation.2.1 creation.2.2 := by
  rintro ⟨sender, salt, hash⟩ ⟨other, otherSalt, otherHash⟩ same
  obtain ⟨_, payload⟩ := List.cons.inj same
  have saltSize : ∀ word : Word, word.toBytes.data.toList.length = 32 :=
    fun word => word.toBytes_size
  obtain ⟨fronts, hashes⟩ := List.append_inj payload (by
    rw [List.length_append, List.length_append, length_senderBytes, length_senderBytes, saltSize,
      saltSize])
  obtain ⟨senders, salts⟩ := List.append_inj fronts (by rw [length_senderBytes, length_senderBytes])
  rw [salt.toList_toBytes, otherSalt.toList_toBytes] at salts
  have sameSalt : salt = otherSalt :=
    Word.eq_of_toNat_eq (digits_injective salt.toNat_lt_count otherSalt.toNat_lt_count salts)
  have sameHash : hash = otherHash := by
    obtain ⟨⟨⟨bytes⟩⟩, size⟩ := hash
    obtain ⟨⟨⟨otherBytes⟩⟩, otherSize⟩ := otherHash
    cases hashes
    rfl
  exact Prod.ext (sender_eq_of_bytes senders) (Prod.ext sameSalt sameHash)

/-- The header of a short list is below the marker of a salted creation. -/
theorem plainPreimage_ne_saltedPreimage (sender other : Address) (nonce : UInt64) (salt : Word)
    (hash : Hash) : plainPreimage sender nonce ≠ saltedPreimage other salt hash := by
  intro same
  have header := congrArg UInt8.toNat (List.cons.inj same).1
  have few := length_encodeNonce_le nonce
  rw [UInt8.toNat_add, UInt8.toNat_ofNat'] at header
  change (0xc0 + _ % 256) % 256 = 0xff at header
  omega

end Deployment

open Deployment

/-- The address of a plain creation is in the last 20 bytes of the digest of the list of its sender
and its nonce in the recursive length encoding; that of a salted one, of the digest of a marker, its
sender, its salt and the digest of its initcode. What is hashed tells the sender and the nonce, or the
sender, the salt and the digest of the initcode, and whether the creation is a salted one. -/
theorem creation_preimages_are_unambiguous :
    (∀ sender nonce,
      (plainAddress sender nonce).toBytes =
          (keccak (Bytes.ofList (Item.encode (Item.creation sender nonce)))).bytes.extract 12 32 ∧
        plainPreimage sender nonce = Item.encode (Item.creation sender nonce)) ∧
    (∀ sender salt initcode,
      (saltedAddress sender salt initcode).toBytes =
          (keccak (Bytes.ofList (0xff :: (digits 20 sender.toNat ++ digits 32 salt.toNat ++
            (keccak initcode).bytes.data.toList)))).bytes.extract 12 32 ∧
        saltedPreimage sender salt (keccak initcode) = 0xff :: (digits 20 sender.toNat ++
          digits 32 salt.toNat ++ (keccak initcode).bytes.data.toList)) ∧
    (Function.Injective fun creation : Address × UInt64 => plainPreimage creation.1 creation.2) ∧
    (Function.Injective fun creation : Address × Word × Hash =>
      saltedPreimage creation.1 creation.2.1 creation.2.2) ∧
    ∀ sender nonce other salt hash, plainPreimage sender nonce ≠ saltedPreimage other salt hash := by
  refine ⟨fun sender nonce => ⟨?_, plainPreimage_eq sender nonce⟩, fun sender salt initcode => ?_,
    plainPreimage_injective, saltedPreimage_injective, fun sender nonce other salt hash => ?_⟩
  · rw [← plainPreimage_eq]
    exact toBytes_addressOf _
  · have marked : saltedPreimage sender salt (keccak initcode) = 0xff :: (digits 20 sender.toNat ++
        digits 32 salt.toNat ++ (keccak initcode).bytes.data.toList) := by
      rw [saltedPreimage, sender.toList_toBytes, salt.toList_toBytes]
    exact ⟨marked ▸ toBytes_addressOf _, marked⟩
  · exact plainPreimage_ne_saltedPreimage sender other nonce salt hash

end CancunMachine
