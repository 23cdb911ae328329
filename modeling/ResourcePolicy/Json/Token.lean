import ResourcePolicy.Json.Escape
import ResourcePolicy.Json.Numeral

/-!
# Tokens of a JSON text

A JSON text is cut into brackets, marks, strings, and words, a word being a numeral or one of
the three literal names. Only space, tab, line feed and carriage return may stand between
tokens. The text is read from left to right, keeping the tokens finished so far and the one
that is pending.
-/

namespace ResourcePolicy

/-- A token, the scalars already as values. -/
inductive Token where
  | openBracket
  | closeBracket
  | openBrace
  | closeBrace
  | colon
  | comma
  | text (value : String)
  | scalar (value : Json)
deriving DecidableEq

namespace Token

/-- The token of a word: a literal name or a numeral in range. -/
def ofWord? (word : List Char) : Option Token :=
  if word = "null".toList then some (scalar .null)
  else if word = "true".toList then some (scalar (.bool true))
  else if word = "false".toList then some (scalar (.bool false))
  else do
    let numeral ← Numeral.ofChars? word
    let number ← numeral.number?
    return scalar (.num number)

/-- The token of a string, from the units between its quotes. -/
def ofUnits? (units : List TextUnit) : Option Token := do
  let chars ← TextUnit.decode units
  return text (String.ofList chars)

/-- The token that a character is on its own. -/
def ofMark? : Char → Option Token
  | '[' => some openBracket
  | ']' => some closeBracket
  | '\x7b' => some openBrace
  | '\x7d' => some closeBrace
  | ':' => some colon
  | ',' => some comma
  | _ => none

/-- The characters that may stand between tokens. -/
def isBlank (c : Char) : Bool := c == ' ' || c == '\t' || c == '\n' || c == '\r'

/-- The characters of numerals and literal names. -/
def isWordChar (c : Char) : Bool := c.isAlphanum || c == '+' || c == '-' || c == '.'

/-- What has been read of a token that is not finished. Characters and units are kept last
first, the digits of an escape in order. -/
inductive Pending where
  | nothing
  | word (chars : List Char)
  | string (units : List TextUnit)
  | escape (units : List TextUnit)
  | code (units : List TextUnit) (digits : List Nat)
deriving DecidableEq

/-- The finished tokens, last first, and the pending one. -/
structure Scan where
  tokens : List Token
  pending : Pending
deriving DecidableEq

namespace Scan

/-- Nothing has been read. -/
def start : Scan := ⟨[], .nothing⟩

/-- Finishes a pending word; inside a string this is not possible. -/
def finish (scan : Scan) : Option Scan :=
  match scan.pending with
  | .nothing => some scan
  | .word chars => do return ⟨(← ofWord? chars.reverse) :: scan.tokens, .nothing⟩
  | _ => none

/-- Takes in a character that follows a finished token. -/
def between (scan : Scan) (c : Char) : Option Scan :=
  if isBlank c then some scan
  else if c = '"' then some { scan with pending := .string [] }
  else if isWordChar c then some { scan with pending := .word [c] }
  else do return { scan with tokens := (← ofMark? c) :: scan.tokens }

/-- Takes in a character. Control characters may not stand in a string. -/
def step (scan : Scan) (c : Char) : Option Scan :=
  match scan.pending with
  | .nothing => scan.between c
  | .word chars =>
    if isWordChar c then some { scan with pending := .word (c :: chars) }
    else do (← scan.finish).between c
  | .string units =>
    if c = '"' then do return ⟨(← ofUnits? units.reverse) :: scan.tokens, .nothing⟩
    else if c = '\\' then some { scan with pending := .escape units }
    else if c < ' ' then none
    else some { scan with pending := .string (.char c :: units) }
  | .escape units =>
    if c = 'u' then some { scan with pending := .code units [] }
    else do return { scan with pending := .string (.char (← TextUnit.ofShortEscape? c) :: units) }
  | .code units digits => do
    let digits := digits ++ [← TextUnit.hexDigit? c]
    if digits.length < 4 then return { scan with pending := .code units digits }
    else
      let unit := digits.foldl (fun value digit => value * 16 + digit) 0
      return { scan with pending := .string (.utf16 unit :: units) }

end Scan

/-- The tokens of a text, if it can be cut into tokens. -/
def ofText? (text : String) : Option (List Token) := do
  let scan ← text.toList.foldlM Scan.step Scan.start
  return (← scan.finish).tokens.reverse

end Token

end ResourcePolicy
