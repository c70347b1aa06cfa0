import EditorShell.Json.Decode

/-!
# Panels and status components

The state behind the composed tree: which components are registered, which panel is current, and a
version that moves whenever any of this changes.  Components keep the order in which their ids were
first registered; registering an id again replaces its component in place.

`C` is the type of components.
-/

namespace EditorShell

open Json

/-- The part of the state that a shell renders by. -/
structure UiState where
  /-- Moves with every change; after the largest word it starts again at zero. -/
  version : UInt64
  /-- The panel on screen; empty if none is. -/
  currentPanel : String
  deriving DecidableEq

namespace UiState

/-- The state before anything was shown. -/
def initial : UiState := ⟨0, ""⟩

/-- Asks for a new rendering. -/
def touch (state : UiState) : UiState := { state with version := state.version + 1 }

/-- Puts a panel on screen and says whether it was another one before. -/
def setCurrentPanel (state : UiState) (panel : String) : Bool × UiState :=
  if state.currentPanel = panel then (false, state)
  else (true, { state with currentPanel := panel }.touch)

/-- Reads a state from the record of its fields. -/
def decoder : Decoder UiState :=
  .record ["version", "current_panel"] fun fields room =>
    match fields with
    | [version, panel] => do
      let version ← version.required .word room
      let panel ← panel.required .text room
      some ⟨version.toUInt64, panel⟩
    | _ => none

/-- A state is written as the record of its fields. -/
def toJson (state : UiState) : Value :=
  .object [("version", .ofNat state.version.toNat), ("current_panel", .string state.currentPanel)]

end UiState

/-- What a component sees of the state. -/
abbrev RenderContext := UiState

/-- Whether a panel is the one that is shown. -/
def RenderContext.isCurrent (context : RenderContext) (panel : String) : Bool :=
  !context.currentPanel.isEmpty && context.currentPanel == panel

/-- Components by id, in the order of their first registration. -/
structure ComponentRegistry (C : Type) where
  entries : List (String × C)

namespace ComponentRegistry

variable {C : Type}

/-- A registry without components. -/
def empty : ComponentRegistry C := ⟨[]⟩

/-- The ids of the components in the order in which they stand. -/
def ids (registry : ComponentRegistry C) : List String := registry.entries.map Prod.fst

/-- Whether a component is registered under an id. -/
def contains (registry : ComponentRegistry C) (id : String) : Bool := registry.ids.contains id

/-- Replaces the component of an id in place. -/
def replace (id : String) (component : C) : List (String × C) → List (String × C)
  | [] => []
  | (other, old) :: rest =>
    if other = id then (other, component) :: rest else (other, old) :: replace id component rest

/-- Registers a component and says whether the id is new. -/
def insert (registry : ComponentRegistry C) (id : String) (component : C) :
    Bool × ComponentRegistry C :=
  if registry.contains id then (false, ⟨replace id component registry.entries⟩)
  else (true, ⟨registry.entries ++ [(id, component)]⟩)

/-- Removes the component of an id, and says whether there was one. -/
def remove (registry : ComponentRegistry C) (id : String) : Bool × ComponentRegistry C :=
  if registry.contains id then
    (true, ⟨registry.entries.eraseP fun entry => entry.1 == id⟩)
  else (false, registry)

/-! ## Ids after a change -/

theorem map_fst_replace (id : String) (component : C) (entries : List (String × C)) :
    (replace id component entries).map Prod.fst = entries.map Prod.fst := by
  induction entries with
  | nil => rfl
  | cons entry rest ih =>
      unfold replace
      split
      · rfl
      · rw [List.map_cons, List.map_cons, ih]

theorem ids_insert (registry : ComponentRegistry C) (id : String) (component : C) :
    (registry.insert id component).2.ids =
      if id ∈ registry.ids then registry.ids else registry.ids ++ [id] := by
  unfold insert contains
  by_cases hmem : id ∈ registry.ids
  · rw [if_pos (List.contains_iff_mem.2 hmem), if_pos hmem]
    exact map_fst_replace id component registry.entries
  · rw [if_neg (mt List.contains_iff_mem.1 hmem), if_neg hmem]
    exact List.map_append

theorem ids_remove (registry : ComponentRegistry C) (id : String) :
    (registry.remove id).2.ids = registry.ids.erase id := by
  unfold remove contains
  split
  · rw [List.erase_eq_eraseP']
    show _ = List.eraseP (· == id) (registry.entries.map Prod.fst)
    rw [List.eraseP_map]
    rfl
  · rename_i hnot
    exact (List.erase_of_not_mem (mt List.contains_iff_mem.2 hnot)).symm

end ComponentRegistry

end EditorShell
