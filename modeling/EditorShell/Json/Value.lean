import EditorShell.Json.Number
import EditorShell.Table

/-!
# JSON values

The dynamic values of the shell: arguments of commands, payloads of events, properties and styles of
nodes.  Values that are read have the members of their objects in ascending order of the names
(`Value.ofMembers`); values that are built to be written list them in the order of writing.

Equality of values is decidable and is equality of the trees, doubles being compared by their bits.
-/

namespace EditorShell.Json

/-- A value of the text format. -/
inductive Value where
  | null
  | bool (value : Bool)
  | number (value : Number)
  | string (text : String)
  | array (items : List Value)
  | object (members : List (String × Value))

namespace Value

instance : Inhabited Value := ⟨null⟩

mutual

/-- Decides whether two values are equal. -/
def decEq : (first second : Value) → Decidable (first = second)
  | null, null => isTrue rfl
  | bool x, bool y => decidable_of_iff (x = y) (by simp)
  | number x, number y => decidable_of_iff (x = y) (by simp)
  | string x, string y => decidable_of_iff (x = y) (by simp)
  | array xs, array ys =>
    match decEqItems xs ys with
    | isTrue heq => isTrue (by rw [heq])
    | isFalse hne => isFalse (by simpa using hne)
  | object xs, object ys =>
    match decEqMembers xs ys with
    | isTrue heq => isTrue (by rw [heq])
    | isFalse hne => isFalse (by simpa using hne)
  | null, bool _ | null, number _ | null, string _ | null, array _ | null, object _
  | bool _, null | bool _, number _ | bool _, string _ | bool _, array _ | bool _, object _
  | number _, null | number _, bool _ | number _, string _ | number _, array _ | number _, object _
  | string _, null | string _, bool _ | string _, number _ | string _, array _ | string _, object _
  | array _, null | array _, bool _ | array _, number _ | array _, string _ | array _, object _
  | object _, null | object _, bool _ | object _, number _ | object _, string _
  | object _, array _ =>
    isFalse (by simp)

/-- Decides whether two lists of items are equal. -/
def decEqItems : (first second : List Value) → Decidable (first = second)
  | [], [] => isTrue rfl
  | [], _ :: _ | _ :: _, [] => isFalse (by simp)
  | x :: xs, y :: ys =>
    match decEq x y with
    | isFalse hne => isFalse (by simp [hne])
    | isTrue heq =>
      match decEqItems xs ys with
      | isTrue heqs => isTrue (by rw [heq, heqs])
      | isFalse hne => isFalse (by simp [hne])

/-- Decides whether two lists of members are equal. -/
def decEqMembers : (first second : List (String × Value)) → Decidable (first = second)
  | [], [] => isTrue rfl
  | [], _ :: _ | _ :: _, [] => isFalse (by simp)
  | (name, x) :: xs, (name', y) :: ys =>
    match decEq x y with
    | isFalse hne => isFalse (by simp [hne])
    | isTrue heq =>
      match decEqMembers xs ys with
      | isTrue heqs =>
        if hname : name = name' then isTrue (by rw [heq, heqs, hname])
        else isFalse (by simp [hname])
      | isFalse hne => isFalse (by simp [hne])

end

instance : DecidableEq Value := decEq

/-- The number of a natural number. -/
def ofNat (n : Nat) : Value := number (.int n)

/-- The object of members in any order; of several members of one name the last one counts. -/
def ofMembers (members : List (String × Value)) : Value :=
  object (members.foldl (fun entries member => Table.put member.1 member.2 entries) [])

/-- The object of a table. -/
def ofTable (table : Table Value) : Value := object table.entries

/-- The array of some texts. -/
def ofTexts (texts : List String) : Value := array (texts.map string)

/-- The text, if the value is one. -/
def asText? : Value → Option String
  | string text => some text
  | _ => none

/-- The number from `0` to `2 ^ 64 - 1` that this is, if it is one. -/
def asWord? : Value → Option Nat
  | number value => value.toNat? (Nat.pow 2 64)
  | _ => none

/-- The words among the values are the natural numbers below `2 ^ 64`. -/
theorem asWord?_eq_some_iff {value : Value} {word : Nat} :
    value.asWord? = some word ↔ value = .ofNat word ∧ word < Nat.pow 2 64 := by
  cases value <;> simp [asWord?, ofNat, Number.toNat?_eq_some_iff]

/-- The value of a member, if the value is an object that has it. -/
def member? (name : String) : Value → Option Value
  | object members => Table.find? name members
  | _ => none

end Value

end EditorShell.Json
