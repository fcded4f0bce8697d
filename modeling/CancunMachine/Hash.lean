import CancunMachine.Word.Bytes

/-!
# Digests

Digests of 32 bytes. A digest and a word carry the same information: the word is the digest read
as a big-endian number.
-/

namespace CancunMachine

/-- A digest of exactly 32 bytes. -/
structure Hash where
  bytes : ByteArray
  size_eq : bytes.size = 32
deriving DecidableEq

namespace Hash

def toWord (hash : Hash) : Word := Word.ofBytes hash.bytes

end Hash

/-- The digest whose big-endian number is the word. -/
def Word.toHash (word : Word) : Hash := ⟨word.toBytes, word.toBytes_size⟩

instance : Inhabited Hash := ⟨Word.zero.toHash⟩

end CancunMachine
