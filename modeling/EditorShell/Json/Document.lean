import EditorShell.Json.Value

/-!
# Documents

A document is a JSON text after its syntax has been checked and before it is known what the text
describes.  It keeps what a value does not: members in their order and with repeated names, numbers
that are out of range, and strings that are not text because they hold half of a surrogate pair.

Which of these are errors depends on the reader.  A reader of records passes over members it does
not know without looking inside; a reader of values (`Document.value?`) accepts no string or number
that has no value, and no array or object nested too deep.
-/

namespace EditorShell.Json

/-- A JSON text whose syntax is in order. -/
inductive Document where
  | null
  | bool (value : Bool)
  /-- A number; `none` if it is too large for a double. -/
  | number (value? : Option Number)
  /-- A string; `none` if it is not text. -/
  | string (text? : Option String)
  | array (items : List Document)
  | object (members : List (Option String × Document))

namespace Document

instance : Inhabited Document := ⟨null⟩

/-- The number of levels that arrays and objects may nest. -/
def maxDepth : Nat := 127

mutual

/-- The value of a document whose arrays and objects nest at most `room` levels. -/
def value? (room : Nat) : Document → Option Value
  | null => some .null
  | bool value => some (.bool value)
  | number value? => value?.map .number
  | string text? => text?.map .string
  | array items => if room = 0 then none else (itemValues? (room - 1) items).map .array
  | object members => if room = 0 then none else (memberValues? (room - 1) members).map .ofMembers

/-- The values of the items of an array. -/
def itemValues? (room : Nat) : List Document → Option (List Value)
  | [] => some []
  | item :: items => do
    let value ← value? room item
    let values ← itemValues? room items
    some (value :: values)

/-- The values of the members of an object, in the order of the text. -/
def memberValues? (room : Nat) : List (Option String × Document) → Option (List (String × Value))
  | [] => some []
  | (name?, item) :: members => do
    let name ← name?
    let value ← value? room item
    let values ← memberValues? room members
    some ((name, value) :: values)

end

mutual

/-- The document that writes a value. -/
def ofValue : Value → Document
  | .null => null
  | .bool value => bool value
  | .number value => number (some value)
  | .string text => string (some text)
  | .array items => array (ofItems items)
  | .object members => object (ofMembers members)

/-- The documents of the items of an array. -/
def ofItems : List Value → List Document
  | [] => []
  | item :: items => ofValue item :: ofItems items

/-- The documents of the members of an object. -/
def ofMembers : List (String × Value) → List (Option String × Document)
  | [] => []
  | (name, item) :: members => (some name, ofValue item) :: ofMembers members

end

end Document

end EditorShell.Json
