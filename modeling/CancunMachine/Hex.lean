/-!
# Hexadecimal text

A byte string is written with two lowercase digits per byte.
-/

namespace CancunMachine

namespace Hex

/-- The lowercase digit of a number below sixteen. -/
def digit (value : Nat) : Char :=
  if value < 10 then Char.ofNat (48 + value) else Char.ofNat (87 + value)

/-- The value of a hexadecimal digit of either case. -/
def value? (char : Char) : Option Nat :=
  if '0' ≤ char ∧ char ≤ '9' then some (char.toNat - 48)
  else if 'a' ≤ char ∧ char ≤ 'f' then some (char.toNat - 87)
  else if 'A' ≤ char ∧ char ≤ 'F' then some (char.toNat - 55)
  else none

def ofBytes (bytes : ByteArray) : String :=
  String.ofList <| bytes.data.toList.flatMap fun byte =>
    [digit (byte.toNat / 16), digit (byte.toNat % 16)]

def readPairs : List Char → Option (List UInt8)
  | [] => some []
  | [_] => none
  | high :: low :: rest => do
      let upper ← value? high
      let lower ← value? low
      let bytes ← readPairs rest
      pure (UInt8.ofNat (16 * upper + lower) :: bytes)

/-- The byte string of an even number of digits. -/
def toBytes? (text : String) : Option ByteArray :=
  (readPairs text.toList).map fun bytes => ⟨bytes.toArray⟩

/-- The number written by hexadecimal digits. -/
def toNat? (text : String) : Option Nat :=
  text.toList.foldl
    (fun value char => do pure (16 * (← value) + (← value? char))) (some 0)

end Hex

end CancunMachine
