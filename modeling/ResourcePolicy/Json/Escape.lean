/-!
# Escapes in JSON strings

Between its quotes a JSON string is a run of plain characters and escapes. An escape of four
hexadecimal digits gives one unit of UTF-16, so a character beyond the basic plane takes two of
them in a row, a high and a low surrogate; a surrogate without its partner stands for nothing.
-/

namespace ResourcePolicy

/-- What one plain character or one escape contributes to a string. -/
inductive TextUnit where
  | char (c : Char)
  | utf16 (unit : Nat)
deriving DecidableEq

namespace TextUnit

/-- The first half of a surrogate pair. -/
def isHigh (unit : Nat) : Bool := 0xD800 ≤ unit && unit < 0xDC00

/-- The second half of a surrogate pair. -/
def isLow (unit : Nat) : Bool := 0xDC00 ≤ unit && unit < 0xE000

/-- The character of a surrogate pair. -/
def ofPair (high low : Nat) : Char :=
  Char.ofNat (0x10000 + (high - 0xD800) * 0x400 + (low - 0xDC00))

/-- The characters of a run of units, if every surrogate in it has its partner. -/
def decode : List TextUnit → Option (List Char)
  | [] => some []
  | .char c :: rest => (c :: ·) <$> decode rest
  | .utf16 high :: .utf16 low :: rest =>
    if isHigh high && isLow low then (ofPair high low :: ·) <$> decode rest
    else if isHigh high || isLow high then none
    else (Char.ofNat high :: ·) <$> decode (.utf16 low :: rest)
  | .utf16 unit :: rest =>
    if isHigh unit || isLow unit then none else (Char.ofNat unit :: ·) <$> decode rest

/-- The value of a hexadecimal digit of either case. -/
def hexDigit? (c : Char) : Option Nat :=
  if c.isDigit then some (c.toNat - '0'.toNat)
  else if 'a' ≤ c ∧ c ≤ 'f' then some (c.toNat - 'a'.toNat + 10)
  else if 'A' ≤ c ∧ c ≤ 'F' then some (c.toNat - 'A'.toNat + 10)
  else none

/-- The character that a backslash followed by a single character stands for. -/
def ofShortEscape? : Char → Option Char
  | '"' => some '"'
  | '\\' => some '\\'
  | '/' => some '/'
  | 'b' => some '\x08'
  | 'f' => some '\x0c'
  | 'n' => some '\n'
  | 'r' => some '\r'
  | 't' => some '\t'
  | _ => none

end TextUnit

end ResourcePolicy
