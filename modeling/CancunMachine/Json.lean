import CancunMachine.Hex

/-!
# JSON text

Reading JSON text into trees. Object fields keep their order and may repeat, numbers keep their
digits, and a string whose escapes do not form characters has no text, though it is still
well-formed JSON.
-/

namespace CancunMachine

inductive Json
  | null
  | boolean (value : Bool)
  | number (written : List Char)
  | string (text : Option String)
  | array (items : List Json)
  | object (fields : List (Option String × Json))

namespace Json

/-- The characters that may stand between tokens. -/
def isBlank (char : Char) : Bool :=
  char == ' ' || char == '\n' || char == '\t' || char == '\r'

def skipBlanks (input : List Char) : List Char := input.dropWhile isBlank

def readDigits (input : List Char) : List Char × List Char :=
  (input.takeWhile Char.isDigit, input.dropWhile Char.isDigit)

def readSomeDigits (input : List Char) : Option (List Char × List Char) :=
  match readDigits input with
  | ([], _) => none
  | found => some found

def readFraction : List Char → Option (List Char × List Char)
  | '.' :: rest => do
      let (digits, rest) ← readSomeDigits rest
      pure ('.' :: digits, rest)
  | input => some ([], input)

def readSign : List Char → List Char × List Char
  | '+' :: rest => (['+'], rest)
  | '-' :: rest => (['-'], rest)
  | input => ([], input)

def readExponent : List Char → Option (List Char × List Char)
  | mark :: rest =>
      if mark == 'e' || mark == 'E' then do
        let (sign, rest) := readSign rest
        let (digits, rest) ← readSomeDigits rest
        pure (mark :: sign ++ digits, rest)
      else some ([], mark :: rest)
  | [] => some ([], [])

/-- Reads the digits before the fraction: zero alone, or digits that do not start with zero. -/
def readWhole : List Char → Option (List Char × List Char)
  | '0' :: rest => some (['0'], rest)
  | input => readSomeDigits input

def readUnsigned (input : List Char) : Option (List Char × List Char) := do
  let (whole, rest) ← readWhole input
  let (fraction, rest) ← readFraction rest
  let (exponent, rest) ← readExponent rest
  pure (whole ++ fraction ++ exponent, rest)

def readNumber : List Char → Option (Json × List Char)
  | '-' :: rest => do
      let (written, rest) ← readUnsigned rest
      pure (.number ('-' :: written), rest)
  | input => do
      let (written, rest) ← readUnsigned input
      pure (.number written, rest)

/-- The code of a single-letter escape. -/
def escapedCode : Char → Option Nat
  | '"' => some 0x22
  | '\\' => some 0x5c
  | '/' => some 0x2f
  | 'b' => some 0x08
  | 'f' => some 0x0c
  | 'n' => some 0x0a
  | 'r' => some 0x0d
  | 't' => some 0x09
  | _ => none

/-- Reads the codes of a string up to its closing quote; a code may be half of a surrogate
pair. -/
def readCodes : List Char → Option (List Nat × List Char)
  | [] => none
  | '"' :: rest => some ([], rest)
  | '\\' :: 'u' :: first :: second :: third :: fourth :: rest => do
      let code ← Hex.toNat? (String.ofList [first, second, third, fourth])
      let (codes, rest) ← readCodes rest
      pure (code :: codes, rest)
  | '\\' :: letter :: rest => do
      let code ← escapedCode letter
      let (codes, rest) ← readCodes rest
      pure (code :: codes, rest)
  | char :: rest =>
      if char.toNat < 0x20 || char == '\\' then none
      else do
        let (codes, rest) ← readCodes rest
        pure (char.toNat :: codes, rest)

def isHighSurrogate (code : Nat) : Bool := 0xd800 ≤ code && code < 0xdc00

def isLowSurrogate (code : Nat) : Bool := 0xdc00 ≤ code && code < 0xe000

/-- Joins surrogate pairs into characters; a lone surrogate is no character. -/
def joinCodes : List Nat → Option (List Char)
  | [] => some []
  | high :: low :: rest =>
      if isHighSurrogate high && isLowSurrogate low then
        (joinCodes rest).map
          (Char.ofNat (0x10000 + 0x400 * (high - 0xd800) + (low - 0xdc00)) :: ·)
      else if isHighSurrogate high || isLowSurrogate high then none
      else (joinCodes (low :: rest)).map (Char.ofNat high :: ·)
  | [code] =>
      if isHighSurrogate code || isLowSurrogate code then none else some [Char.ofNat code]

/-- Reads a string after its opening quote. -/
def readString (input : List Char) : Option (Option String × List Char) := do
  let (codes, rest) ← readCodes input
  pure ((joinCodes codes).map String.ofList, rest)

mutual

/-- Reads a value; `fuel` bounds the nesting and the number of items. -/
def readValue : Nat → List Char → Option (Json × List Char)
  | 0, _ => none
  | fuel + 1, input =>
      match skipBlanks input with
      | 'n' :: 'u' :: 'l' :: 'l' :: rest => some (.null, rest)
      | 't' :: 'r' :: 'u' :: 'e' :: rest => some (.boolean true, rest)
      | 'f' :: 'a' :: 'l' :: 's' :: 'e' :: rest => some (.boolean false, rest)
      | '"' :: rest => do
          let (text, rest) ← readString rest
          pure (.string text, rest)
      | '[' :: rest =>
          match skipBlanks rest with
          | ']' :: rest => some (.array [], rest)
          | rest => do
              let (items, rest) ← readItems fuel rest
              pure (.array items, rest)
      | '\x7b' :: rest =>
          match skipBlanks rest with
          | '\x7d' :: rest => some (.object [], rest)
          | rest => do
              let (fields, rest) ← readFields fuel rest
              pure (.object fields, rest)
      | input => readNumber input

/-- Reads the items of an array up to its closing bracket. -/
def readItems : Nat → List Char → Option (List Json × List Char)
  | 0, _ => none
  | fuel + 1, input => do
      let (item, rest) ← readValue fuel input
      match skipBlanks rest with
      | ']' :: rest => pure ([item], rest)
      | ',' :: rest =>
          let (items, rest) ← readItems fuel rest
          pure (item :: items, rest)
      | _ => none

/-- Reads the fields of an object up to its closing brace. -/
def readFields : Nat → List Char → Option (List (Option String × Json) × List Char)
  | 0, _ => none
  | fuel + 1, input => do
      let '"' :: rest := skipBlanks input | none
      let (name, rest) ← readString rest
      let ':' :: rest := skipBlanks rest | none
      let (value, rest) ← readValue fuel rest
      match skipBlanks rest with
      | '\x7d' :: rest => pure ([(name, value)], rest)
      | ',' :: rest =>
          let (fields, rest) ← readFields fuel rest
          pure ((name, value) :: fields, rest)
      | _ => none

end

/-- The value of a text that holds exactly one value. -/
def read? (text : String) : Option Json := do
  let input := text.toList
  let (value, rest) ← readValue (2 * input.length + 2) input
  if (skipBlanks rest).isEmpty then some value else none

/-- A number written as plain digits that fits in 64 bits. -/
def toUInt64? : Json → Option UInt64
  | .number written =>
      if written.all Char.isDigit then
        let value := written.foldl (fun value char => 10 * value + (char.toNat - 48)) 0
        if value < UInt64.size then some (UInt64.ofNat value) else none
      else none
  | _ => none

def toBool? : Json → Option Bool
  | .boolean value => some value
  | _ => none

end Json

end CancunMachine
