import EditorShell.Json.Parser

/-!
# Decoding records

A decoder reads a document as something of a known type.  Its first argument is the number of levels
that arrays and objects may still nest.

A record may be written as an object or as an array of its fields in their order.  In an object the
members may come in any order, unknown ones are passed over without a look inside, and a known one
must not come twice.  In an array no item may follow the last field; fields at the end may be left
out if they have a default.

A choice between names is written as the name, or as an object with the name as its only member and
`null` as the value.  A document that has been read as a value before its type was known is
buffered; in it an empty object does as well as `null`, and a bare name may be given by its number.
-/

namespace EditorShell.Json

/-- Reads a document as an `α`, inside a given number of levels. -/
abbrev Decoder (α : Type) := Nat → Document → Option α

/-- Whether a document is read as it comes, or was read as a value first. -/
inductive Reading where
  | direct
  | buffered

/-- Whether a document says that a name has nothing with it. -/
def Reading.isEmpty : Reading → Document → Bool
  | _, .null => true
  | buffered, .object [] => true
  | _, _ => false

namespace Decoder

variable {α β : Type}

/-- Reads any value. -/
def value : Decoder Value := fun room document => document.value? room

/-- Reads a text. -/
def text : Decoder String := fun _ document =>
  match document with
  | .string text? => text?
  | _ => none

/-- Reads a truth value. -/
def bool : Decoder Bool := fun _ document =>
  match document with
  | .bool value => some value
  | _ => none

/-- Reads a natural number below `limit`. -/
def natBelow (limit : Nat) : Decoder Nat := fun _ document =>
  match document with
  | .number (some value) => value.toNat? limit
  | _ => none

/-- Reads a number that fits in a word of 64 bits. -/
def word : Decoder Nat := natBelow (Nat.pow 2 64)

/-- Reads with a decoder and goes on from what it gives, which may refuse it. -/
def andThen (decoder : Decoder α) (next : α → Option β) : Decoder β := fun room document =>
  (decoder room document).bind next

/-- Reads with a decoder and converts what it gives. -/
def map (convert : α → β) (decoder : Decoder α) : Decoder β := fun room document =>
  (decoder room document).map convert

/-- Reads all documents of a list with the same decoder. -/
def items (decoder : Decoder α) (room : Nat) : List Document → Option (List α)
  | [] => some []
  | item :: rest => do
    let first ← decoder room item
    let others ← items decoder room rest
    some (first :: others)

/-- Reads an array whose items one decoder reads. -/
def list (decoder : Decoder α) : Decoder (List α) := fun room document =>
  match document with
  | .array documents => if room = 0 then none else items decoder (room - 1) documents
  | _ => none

/-- Reads `null` as nothing and anything else as an `α`. -/
def nullable (decoder : Decoder α) : Decoder (Option α) := fun room document =>
  match document with
  | .null => some none
  | document => (decoder room document).map some

/-- Reads an object of arbitrary members as a table. -/
def table : Decoder (Table Value) := fun room document =>
  match document with
  | .object members =>
    if room = 0 then none else (Document.memberValues? (room - 1) members).map Table.ofList
  | _ => none

/-- Reads a name out of a list of choices, bare or as the one member of an object with no content.
-/
def choice (reading : Reading) (ofName? : String → Option α) : Decoder α := fun room document =>
  match document with
  | .string (some name) => ofName? name
  | .object [(some name, content)] =>
    if room = 0 then none else if reading.isEmpty content then ofName? name else none
  | _ => none

/-- Reads a bare name out of a list of choices; a buffered one may be its index in the list. -/
def bareName (reading : Reading) (choices : List α) (ofName? : String → Option α) : Decoder α :=
  fun _ document =>
    match reading, document with
    | _, .string (some name) => ofName? name
    | .buffered, .number (some number) =>
      (number.toNat? (Nat.pow 2 64)).bind fun index => choices[index]?
    | _, _ => none

end Decoder

/-- What a document says about one field of a record. -/
inductive Field where
  | given (document : Document)
  /-- The record is an object without a member of this name. -/
  | absent
  /-- The record is an array that ends before this field. -/
  | cutOff

namespace Field

variable {α : Type}

/-- A field that must be there. -/
def required (field : Field) (decoder : Decoder α) (room : Nat) : Option α :=
  match field with
  | given document => decoder room document
  | _ => none

/-- A field that has a value when it is left out. -/
def orDefault (field : Field) (decoder : Decoder α) (default : α) (room : Nat) : Option α :=
  match field with
  | given document => decoder room document
  | _ => some default

/-- A field that an object may leave out and that may be `null`. -/
def optional (field : Field) (decoder : Decoder α) (room : Nat) : Option (Option α) :=
  match field with
  | given document => decoder.nullable room document
  | absent => some none
  | cutOff => none

end Field

/-- The documents of all members of an object with this name. -/
def membersNamed (name : String) (members : List (Option String × Document)) : List Document :=
  (members.filter fun member => member.1 == some name).map Prod.snd

/-- What the members of an object say about the field `name`; `none` if it comes twice. -/
def fieldOfMembers? (members : List (Option String × Document)) (name : String) : Option Field :=
  match membersNamed name members with
  | [] => some .absent
  | [document] => some (.given document)
  | _ => none

/-- What the items of an array say about the fields of a record, in their order; more items than
fields are refused. -/
def fieldsOfItems? : (names : List String) → List Document → Option (List Field)
  | [], [] => some []
  | [], _ :: _ => none
  | _ :: names, [] => (fieldsOfItems? names []).map (.cutOff :: ·)
  | _ :: names, item :: items => (fieldsOfItems? names items).map (.given item :: ·)

/-- What the members of an object say about the fields of a record; other members are passed over.
-/
def fieldsOfMembers? (names : List String) (members : List (Option String × Document)) :
    Option (List Field) :=
  if members.all fun member => member.1.isSome then names.mapM (fieldOfMembers? members) else none

/-- What a document says about the fields of a record. -/
def recordFields? (names : List String) : Document → Option (List Field)
  | .object members => fieldsOfMembers? names members
  | .array items => fieldsOfItems? names items
  | _ => none

/-- Reads a record with these fields; `build` gets the fields in their order and the levels left
inside the record. -/
def Decoder.record {α : Type} (names : List String) (build : List Field → Nat → Option α) :
    Decoder α := fun room document =>
  if room = 0 then none
  else (recordFields? names document).bind fun fields => build fields (room - 1)

/-- Reads a text with a decoder. -/
def decode? {α : Type} (decoder : Decoder α) (text : String) : Option α := do
  let document ← Document.parse? text
  decoder Document.maxDepth document

/-- Reads a value with a decoder, as the text of that value would be read. -/
def Value.decode? {α : Type} (decoder : Decoder α) (value : Value) : Option α :=
  decoder Document.maxDepth (Document.ofValue value)

end EditorShell.Json
