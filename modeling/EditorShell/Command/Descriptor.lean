import EditorShell.Codec

/-!
# What is known about a command

A descriptor holds everything about a command except what it does: its name, the texts a finder
shows, its default chord, and whether it is enabled.

## Finding commands

A query is compared with the texts of a descriptor without regard to case and to blanks around the
query.  Each text scores by how well it fits: as a whole, at its start, or anywhere.  The better of
title and name counts, every tag counts, and a description counts a little.  A disabled command
never matches; a blank query matches every other one.
-/

namespace EditorShell

open Json

/-- Everything known about a command except its action. -/
structure CommandDescriptor where
  name : String
  title : String
  /-- A longer explanation; may be empty. -/
  description : String
  /-- Words it can be found by. -/
  tags : List String
  /-- The group it is listed in. -/
  category : Option String
  /-- The chord bound when it is registered. -/
  keys : Option Chord
  enabled : Bool
  deriving DecidableEq

namespace CommandDescriptor

/-- The descriptor of an enabled command of which only the name is known; the name is its title. -/
def named (name : String) : CommandDescriptor where
  name := name
  title := name
  description := ""
  tags := []
  category := none
  keys := none
  enabled := true

/-- What the three degrees of a fit are worth. -/
structure Worth where
  /-- The text is the query. -/
  whole : Nat
  /-- The text starts with the query. -/
  start : Nat
  /-- The query occurs in the text. -/
  inside : Nat

/-- What a text is worth for a query in lower case. -/
def fit (worth : Worth) (query : List Char) (text : String) : Nat :=
  let text := Text.lowercase text.toList
  if text = query then worth.whole
  else if query.isPrefixOf text then worth.start
  else if Text.occursIn query text then worth.inside
  else 0

/-- The form of a query that texts are compared with. -/
def normalQuery (query : String) : List Char := Text.lowercase (Text.trim query.toList)

/-- How well the command fits a query; zero is no match. -/
def score (descriptor : CommandDescriptor) (query : String) : Nat :=
  if !descriptor.enabled then 0
  else
    let query := normalQuery query
    if query.isEmpty then 0
    else
      let title := fit ⟨1000, 500, 100⟩ query descriptor.title
      let name := fit ⟨800, 400, 80⟩ query descriptor.name
      let tags := descriptor.tags.foldr (fun tag total => fit ⟨300, 150, 50⟩ query tag + total) 0
      Nat.max title name + tags + fit ⟨10, 10, 10⟩ query descriptor.description

/-- Whether the command is enabled and the query is blank or scores. -/
def isMatch (descriptor : CommandDescriptor) (query : String) : Bool :=
  descriptor.enabled && ((Text.trim query.toList).isEmpty || 0 < descriptor.score query)

/-- Reads a descriptor; only its name and its title have to be there. -/
def decoder : Decoder CommandDescriptor :=
  .record ["name", "title", "description", "tags", "category", "keys", "enabled"]
    fun fields room =>
      match fields with
      | [name, title, description, tags, category, keys, enabled] => do
        let name ← name.required .text room
        let title ← title.required .text room
        let description ← description.orDefault .text "" room
        let tags ← tags.orDefault (.list .text) [] room
        let category ← category.orDefault (.nullable .text) none room
        let keys ← keys.orDefault (.nullable Chord.decoder) none room
        let enabled ← enabled.orDefault .bool true room
        some ⟨name, title, description, tags, category, keys, enabled⟩
      | _ => none

/-- Writes a descriptor; a missing category and a missing chord are left out. -/
def toJson (descriptor : CommandDescriptor) : Value :=
  .object <|
    [("name", .string descriptor.name), ("title", .string descriptor.title),
      ("description", .string descriptor.description), ("tags", .ofTexts descriptor.tags)] ++
    (descriptor.category.map fun category => ("category", Value.string category)).toList ++
    (descriptor.keys.map fun keys => ("keys", keys.toJson)).toList ++
    [("enabled", .bool descriptor.enabled)]

end CommandDescriptor

end EditorShell
