/-!
# Parts of a text

Looking for a part of a text, and cutting a text there.  Each search comes with the lemma that says
what it decides in terms of the list relations of the library.
-/

namespace EditorShell.Text

/-- The text before the last occurrence of `separator` and the text after it. -/
def splitLast? (separator : Char) : List Char → Option (List Char × List Char)
  | [] => none
  | c :: rest =>
    match splitLast? separator rest with
    | some (before, after) => some (c :: before, after)
    | none => if c = separator then some ([], rest) else none

/-- Whether a text has a part in one piece. -/
def occursIn (part : List Char) : List Char → Bool
  | [] => part.isEmpty
  | c :: rest => part.isPrefixOf (c :: rest) || occursIn part rest

/-- The text before `ending`, if the text ends with it. -/
def beforeEnding? (ending text : List Char) : Option (List Char) :=
  if ending.isSuffixOf text then some (text.take (text.length - ending.length)) else none

/-- The text behind its first `size` bytes, unless these are not whole characters of it. -/
def behindBytes? (size : Nat) (text : List Char) : Option (List Char) :=
  if size = 0 then some text
  else
    match text with
    | [] => none
    | c :: rest => if c.utf8Size ≤ size then behindBytes? (size - c.utf8Size) rest else none

theorem occursIn_iff {part text : List Char} : occursIn part text = true ↔ part <:+: text := by
  induction text with
  | nil => simp [occursIn]
  | cons c rest ih =>
      simp only [occursIn, Bool.or_eq_true, ih, List.isPrefixOf_iff_prefix, List.infix_cons_iff]

private theorem utf8ByteSize_ofList_cons (c : Char) (rest : List Char) :
    (String.ofList (c :: rest)).utf8ByteSize =
      c.utf8Size + (String.ofList rest).utf8ByteSize := by
  rw [← List.singleton_append, String.ofList_append, String.utf8ByteSize_append,
    ← String.singleton_eq_ofList, String.utf8ByteSize_singleton]

theorem behindBytes?_append (before after : List Char) :
    behindBytes? (String.ofList before).utf8ByteSize (before ++ after) = some after := by
  induction before with
  | nil => cases after <;> rfl
  | cons c rest ih =>
      have hsize : c.utf8Size + (String.ofList rest).utf8ByteSize ≠ 0 := by
        have := c.utf8Size_pos
        omega
      rw [utf8ByteSize_ofList_cons, List.cons_append, behindBytes?, if_neg hsize,
        if_pos (Nat.le_add_right _ _), Nat.add_sub_cancel_left, ih]

theorem not_mem_of_mem_splitOn {separator : Char} {text part : List Char}
    (hpart : part ∈ text.splitOn separator) : separator ∉ part := by
  induction text generalizing part with
  | nil =>
      rw [List.splitOn_nil, List.mem_singleton] at hpart
      subst hpart
      exact List.not_mem_nil
  | cons c rest ih =>
      rw [List.splitOn_cons_eq_if_modifyHead] at hpart
      split at hpart
      · rcases List.mem_cons.1 hpart with rfl | hrest
        · exact List.not_mem_nil
        · exact ih hrest
      · -- The first part of the rest has the character in front of it, the others stand.
        rename_i hc
        cases hparts : rest.splitOn separator with
        | nil => exact absurd hparts (List.splitOn_ne_nil separator rest)
        | cons first parts =>
            rw [hparts, List.modifyHead_cons] at hpart
            rw [hparts] at ih
            rcases List.mem_cons.1 hpart with rfl | hlater
            · have hfirst : separator ∉ first := ih List.mem_cons_self
              rw [List.mem_cons, not_or]
              exact ⟨fun h => hc (by simp [h]), hfirst⟩
            · exact ih (List.mem_cons_of_mem _ hlater)

theorem beforeEnding?_eq_some_iff {ending text before : List Char} :
    beforeEnding? ending text = some before ↔ text = before ++ ending := by
  unfold beforeEnding?
  constructor
  · intro hbefore
    split at hbefore
    · rename_i hsuffix
      obtain ⟨start, rfl⟩ := List.isSuffixOf_iff_suffix.1 hsuffix
      simp at hbefore
      rw [hbefore]
    · cases hbefore
  · rintro rfl
    simp

theorem splitLast?_eq_none_iff {separator : Char} {text : List Char} :
    splitLast? separator text = none ↔ separator ∉ text := by
  induction text with
  | nil => simp [splitLast?]
  | cons c rest ih =>
      simp only [splitLast?, List.mem_cons, not_or, ← ih]
      split <;> grind

theorem eq_of_splitLast?_eq_some {separator : Char} {text before after : List Char}
    (hsplit : splitLast? separator text = some (before, after)) :
    text = before ++ separator :: after ∧ separator ∉ after := by
  induction text generalizing before with
  | nil => simp [splitLast?] at hsplit
  | cons c rest ih =>
      simp only [splitLast?] at hsplit
      cases hrest : splitLast? separator rest with
      | some parts => grind
      | none => grind [splitLast?_eq_none_iff]

theorem splitLast?_append {separator : Char} {after : List Char} (hafter : separator ∉ after)
    (before : List Char) :
    splitLast? separator (before ++ separator :: after) = some (before, after) := by
  induction before with
  | nil => simp [splitLast?, splitLast?_eq_none_iff.2 hafter]
  | cons c rest ih => simp [splitLast?, ih]

end EditorShell.Text
