import SqlShape.Json.Token

/-!
# Reading JSON

A document is read token by token. The containers that are still open stand on a stack, the innermost first;
`State` says what may come next. At most 127 containers may be open at once.
-/

namespace SqlShape.Json

/-- An open container: what it holds so far, in reverse, and for an object the key whose value is due. -/
inductive Frame where
  | array (items : List Json)
  | object (fields : List (String × Json)) (key : String)

/-- What may come next. -/
inductive State where
  /-- A value. -/
  | value (stack : List Frame)
  /-- A value or the end of an empty array. -/
  | firstItem (stack : List Frame)
  /-- A comma or the end of an array. -/
  | afterItem (items : List Json) (stack : List Frame)
  /-- A key or the end of an empty object. -/
  | firstKey (stack : List Frame)
  /-- A key. -/
  | key (fields : List (String × Json)) (stack : List Frame)
  /-- A colon. -/
  | colon (fields : List (String × Json)) (key : String) (stack : List Frame)
  /-- A comma or the end of an object. -/
  | afterField (fields : List (String × Json)) (stack : List Frame)
  /-- Nothing. -/
  | done (value : Json)

/-- The largest number of open containers. -/
def maxDepth : Nat :=
  127

/-- The state after a whole value. -/
def State.finish (v : Json) : List Frame → State
  | [] => done v
  | .array items :: stack => afterItem (v :: items) stack
  | .object fields k :: stack => afterField ((k, v) :: fields) stack

/-- Reads the first token of a value. -/
def State.start (t : Token) (stack : List Frame) : Option State :=
  match t with
  | .text s => some (finish (str s) stack)
  | .word v => some (finish v stack)
  | .openArray => if stack.length < maxDepth then some (firstItem stack) else none
  | .openObject => if stack.length < maxDepth then some (firstKey stack) else none
  | _ => none

/-- Reads a token. -/
def State.step : State → Token → Option State
  | value stack, t => start t stack
  | firstItem stack, .closeArray => some (finish (arr []) stack)
  | firstItem stack, t => start t (.array [] :: stack)
  | afterItem items stack, .comma => some (value (.array items :: stack))
  | afterItem items stack, .closeArray => some (finish (arr items.reverse) stack)
  | firstKey stack, .closeObject => some (finish (obj []) stack)
  | firstKey stack, .text k => some (colon [] k stack)
  | key fields stack, .text k => some (colon fields k stack)
  | colon fields k stack, .colon => some (value (.object fields k :: stack))
  | afterField fields stack, .comma => some (key fields stack)
  | afterField fields stack, .closeObject => some (finish (obj fields.reverse) stack)
  | _, _ => none

/-- Reads a document. The fields of its objects stand as they are written. -/
def parse? (source : String) : Option Json := do
  let tokens ← Token.tokens? [] source.toList
  match ← tokens.foldlM State.step (State.value []) with
  | .done value => some value
  | _ => none

end SqlShape.Json
