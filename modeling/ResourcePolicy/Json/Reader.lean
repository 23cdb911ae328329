import ResourcePolicy.Json.Token

/-!
# Reading JSON

The tokens of a text are taken in one by one. A stack holds the arrays and objects that have
been opened and not yet closed; its height is bounded. A text is accepted when exactly one
value has been completed at its end.
-/

namespace ResourcePolicy

/-- An open array or object, its finished parts last first. An object is waiting for the value
of the given name. -/
inductive Frame where
  | array (items : List Json)
  | object (members : List (String × Json)) (name : String)
deriving DecidableEq

/-- What may come next, inside the given open arrays and objects, innermost first. -/
inductive Reader where
  /-- A value. -/
  | value (outer : List Frame)
  /-- The first item of an array, or its end. -/
  | firstItem (outer : List Frame)
  /-- The first name of an object, or its end. -/
  | firstName (outer : List Frame)
  /-- A further name of an object. -/
  | name (members : List (String × Json)) (outer : List Frame)
  /-- The colon after a name. -/
  | colon (members : List (String × Json)) (name : String) (outer : List Frame)
  /-- The end of the text, or what separates or closes; a value has just been completed. -/
  | complete (value : Json) (outer : List Frame)
deriving DecidableEq

namespace Reader

/-- How many arrays and objects may be open at once. -/
def deepest : Nat := 127

/-- Takes in the first token of a value. -/
def begin (outer : List Frame) : Token → Option Reader
  | .scalar item => some (complete item outer)
  | .text text => some (complete (.str text) outer)
  | .openBracket => if outer.length < deepest then some (firstItem outer) else none
  | .openBrace => if outer.length < deepest then some (firstName outer) else none
  | _ => none

/-- Takes in a token. -/
def step : Reader → Token → Option Reader
  | value outer, token => begin outer token
  | firstItem outer, .closeBracket => some (complete (.arr []) outer)
  | firstItem outer, token => begin (.array [] :: outer) token
  | firstName outer, .closeBrace => some (complete (.obj []) outer)
  | firstName outer, .text text => some (colon [] text outer)
  | name members outer, .text text => some (colon members text outer)
  | colon members text outer, .colon => some (value (.object members text :: outer))
  | complete item (.array items :: outer), .comma => some (value (.array (item :: items) :: outer))
  | complete item (.array items :: outer), .closeBracket =>
    some (complete (.arr (item :: items).reverse) outer)
  | complete item (.object members text :: outer), .comma =>
    some (name ((text, item) :: members) outer)
  | complete item (.object members text :: outer), .closeBrace =>
    some (complete (Json.object ((text, item) :: members).reverse) outer)
  | _, _ => none

/-- The value that has been read, if the text may end here. -/
def result? : Reader → Option Json
  | complete item [] => some item
  | _ => none

end Reader

/-- The value of a JSON text, if the text is one. -/
def Json.ofText? (text : String) : Option Json := do
  let tokens ← Token.ofText? text
  let reader ← tokens.foldlM Reader.step (.value [])
  reader.result?

end ResourcePolicy
