import EditorShell.Json.Decode

/-!
# Kinds of widgets and interactions

The widgets a host can be asked for, and the interactions a host reports.
-/

namespace EditorShell

open Json

/-- The identity of a node.  Two nodes are the same widget when their ids are equal. -/
abbrev NodeId := String

/-- What a widget is. -/
inductive WidgetKind where
  | view
  | text
  | image
  | textInput
  | button
  | switch
  | scrollView
  | splitterView
  | stackedView
  | flatList
  | sectionList
  | window
  | statusBar
  deriving DecidableEq

namespace WidgetKind

/-- The name of a kind, in ids and in messages. -/
def name : WidgetKind → String
  | view => "View"
  | text => "Text"
  | image => "Image"
  | textInput => "TextInput"
  | button => "Button"
  | switch => "Switch"
  | scrollView => "ScrollView"
  | splitterView => "SplitterView"
  | stackedView => "StackedView"
  | flatList => "FlatList"
  | sectionList => "SectionList"
  | window => "Window"
  | statusBar => "StatusBar"

/-- Every kind of widget. -/
def all : List WidgetKind :=
  [view, text, image, textInput, button, switch, scrollView, splitterView, stackedView, flatList,
    sectionList, window, statusBar]

/-- The kind of widget that a text names. -/
def ofName? (wanted : String) : Option WidgetKind := all.find? fun kind => kind.name == wanted

/-- Reads a kind of widget from its name. -/
def decoder (reading : Reading) : Decoder WidgetKind := .choice reading ofName?

/-- A kind of widget is written by its name. -/
def toJson (kind : WidgetKind) : Value := .string kind.name

theorem ofName?_name (kind : WidgetKind) : ofName? kind.name = some kind := by cases kind <;> rfl

end WidgetKind

/-- A kind of interaction with a widget. -/
inductive Interaction where
  | changeText
  | click
  | press
  | release
  | submitEditing
  deriving DecidableEq

namespace Interaction

/-- The name of an interaction, as events bear it. -/
def name : Interaction → String
  | changeText => "ChangeText"
  | click => "Click"
  | press => "Press"
  | release => "Release"
  | submitEditing => "SubmitEditing"

/-- The name of the property that would hold its callback. -/
def callbackName : Interaction → String
  | changeText => "onChangeText"
  | click => "onClick"
  | press => "onPress"
  | release => "onRelease"
  | submitEditing => "onSubmitEditing"

/-- Every interaction, in the order in which callbacks are listed. -/
def all : List Interaction := [changeText, click, press, release, submitEditing]

/-- The interaction that a text names. -/
def ofName? (wanted : String) : Option Interaction := all.find? fun kind => kind.name == wanted

/-- Reads an interaction from its name. -/
def decoder : Decoder Interaction := .choice .direct ofName?

/-- An interaction is written by its name. -/
def toJson (kind : Interaction) : Value := .string kind.name

end Interaction

/-- An interaction that a host reports. -/
structure UiEvent where
  node : NodeId
  kind : Interaction
  /-- What came with it, such as the new text. -/
  value : Value
  deriving DecidableEq

namespace UiEvent

/-- Reads an event from the record of its fields. -/
def decoder : Decoder UiEvent :=
  .record ["node", "kind", "value"] fun fields room =>
    match fields with
    | [node, kind, value] => do
      let node ← node.required .text room
      let kind ← kind.required Interaction.decoder room
      let value ← value.required .value room
      some ⟨node, kind, value⟩
    | _ => none

/-- An event is written as the record of its fields. -/
def toJson (event : UiEvent) : Value :=
  .object [("node", .string event.node), ("kind", event.kind.toJson), ("value", event.value)]

end UiEvent

end EditorShell
