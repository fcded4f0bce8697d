import CancunMachine.Address
import CancunMachine.Keccak

/-!
# Addresses of new contracts

A plain creation hashes the list of the sender and its nonce in the
recursive length encoding; a salted creation hashes the sender, the salt and the digest of the
initcode behind a marker byte that no such list starts with.
-/

namespace CancunMachine

namespace Deployment

/-- The bytes of a nonce without leading zeros, most significant first. -/
def nonceDigits (nonce : UInt64) : List UInt8 :=
  (Word.pushLimb ByteArray.empty nonce).data.toList.dropWhile (· = 0)

/-- A nonce in the recursive length encoding: nothing for zero, a small byte as it is, and longer
nonces, of at most eight bytes, behind their length. -/
def encodeNonce (nonce : UInt64) : List UInt8 :=
  let prefixed (bytes : List UInt8) : List UInt8 := (0x80 + UInt8.ofNat bytes.length) :: bytes
  match nonceDigits nonce with
  | [] => [0x80]
  | [single] => if single < 0x80 then [single] else prefixed [single]
  | bytes => prefixed bytes

/-- The list of a sender and a nonce; `0x94` announces the 20 bytes of the sender. -/
def plainPreimage (sender : Address) (nonce : UInt64) : List UInt8 :=
  let encodedNonce := encodeNonce nonce
  let payloadLength := 21 + encodedNonce.length
  (0xc0 + UInt8.ofNat payloadLength) :: 0x94 :: (sender.toBytes.data.toList ++ encodedNonce)

def saltedPreimage (sender : Address) (salt : Word) (initcodeHash : Hash) : List UInt8 :=
  0xff :: (sender.toBytes.data.toList ++ salt.toBytes.data.toList
    ++ initcodeHash.bytes.data.toList)

/-- The address in the last 20 bytes of the digest. -/
def addressOf (preimage : List UInt8) : Address :=
  Address.ofBytes ((keccak (Bytes.ofList preimage)).bytes.extract 12 32)

/-- The address of the contract that `sender` creates with `nonce`. -/
def plainAddress (sender : Address) (nonce : UInt64) : Address :=
  addressOf (plainPreimage sender nonce)

/-- The address of the contract that `sender` creates from `initcode` with `salt`. -/
def saltedAddress (sender : Address) (salt : Word) (initcode : ByteArray) : Address :=
  addressOf (saltedPreimage sender salt (keccak initcode))

end Deployment

end CancunMachine
