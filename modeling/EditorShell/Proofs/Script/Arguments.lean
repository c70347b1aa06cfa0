import EditorShell.Proofs.Json.Reading
import EditorShell.Proofs.Text.Trimming
import EditorShell.Script
import Mathlib.Data.List.Chain

/-!
# Arguments of scripted commands

A line of a script that runs a command has the name of the command and after it the argument, as a
JSON text.  Before a line is taken apart its comment is cut off, and the cutter knows nothing about
JSON: it cuts at the first number sign behind a blank, also inside a string.

The compact text of a value has no blanks but the spaces of its strings, so the cutter finds
something to cut exactly if a string or a member name of the value has a number sign behind a space
(`unmarked_compact_iff`).  Without one the line runs the command with the value.  With one the line
is refused: what is left of the argument is the beginning of a document, and that is no document
(`parse_runLine`).
-/

namespace EditorShell

open Json

namespace Json.Value

mutual

/-- The strings of a value and the names of its members. -/
def texts : Value → List String
  | null | bool _ | number _ => []
  | string text => [text]
  | array items => itemTexts items
  | object members => memberTexts members

/-- The strings of the items and the names of their members. -/
def itemTexts : List Value → List String
  | [] => []
  | item :: items => texts item ++ itemTexts items

/-- The names of the members, and the strings and names in the members. -/
def memberTexts : List (String × Value) → List String
  | [] => []
  | (name, item) :: members => name :: (texts item ++ memberTexts members)

end

end Json.Value

namespace Text

theorem isBlank_of_isDigit {c : Char} (hdigit : c.isDigit = true) : isBlank c = false := by
  simp only [Char.isDigit, Bool.and_eq_true, decide_eq_true_eq, UInt32.le_iff_toNat_le] at hdigit
  have hlow : 48 ≤ c.toNat := hdigit.1
  have hhigh : c.toNat ≤ 57 := hdigit.2
  simp only [isBlank, Bool.or_eq_false_iff, Bool.and_eq_false_iff, decide_eq_false_iff_not,
    beq_eq_false_iff_ne]
  omega

/-- A text that starts with no blank and ends with one is a trimmed text and blanks behind it. -/
theorem exists_trimmed_append {first last : Char} (hfirst : isBlank first = false)
    (hlast : isBlank last = true) (text : List Char) :
    ∃ kept blank after, first :: text ++ [last] = kept ++ blank :: after ∧ Trimmed kept ∧
      kept ≠ [] ∧ ∀ c ∈ blank :: after, isBlank c = true := by
  obtain ⟨hkept, before, after, hpadded, hblank⟩ :=
    trim_eq_iff.1 (rfl : trim (first :: text ++ [last]) = _)
  generalize trim (first :: text ++ [last]) = kept at hkept hpadded
  have hnot : ∀ c ∈ before ++ after, c ≠ first := by
    rintro c hc rfl
    rw [hblank c hc] at hfirst
    cases hfirst
  -- Nothing is cut off at the front, where a character stands that is no blank.
  cases before with
  | cons c before =>
      have hc : first = c := by simpa using congrArg List.head? hpadded
      exact absurd hc.symm (hnot c (by simp))
  | nil =>
      rw [List.nil_append] at hpadded hblank
      have hne : kept ≠ [] := by
        rintro rfl
        refine hnot first ?_ rfl
        rw [List.nil_append, ← List.nil_append after, ← hpadded]
        simp
      cases after with
      | cons blank after => exact ⟨kept, blank, after, hpadded, hkept, hne, hblank⟩
      | nil =>
          have hc := hkept.2 last (by
            rw [← List.append_nil kept, ← hpadded]
            exact List.getLast?_concat)
          rw [hlast] at hc
          cases hc

end Text

namespace Script

variable {text first second : List Char} {c : Char}

/-! ## Where a comment is cut off -/

/-- No number sign in the text stands behind a character that lets a comment start. -/
def Unmarked (text : List Char) : Prop :=
  text.IsChain fun c next => opensComment c = true → next ≠ '#'

/-- No number sign in the text stands behind a space. -/
def Spaced (text : List Char) : Prop :=
  text.IsChain fun c next => c = ' ' → next ≠ '#'

theorem spaced_iff : Spaced text ↔ ¬[' ', '#'] <:+: text := by
  unfold Spaced
  induction text with
  | nil => simp
  | cons c rest ih =>
      rw [List.isChain_cons, List.infix_cons_iff, not_or, ih]
      refine and_congr_left fun _ => ?_
      cases rest with
      | nil => simp
      | cons d rest => simp [List.cons_prefix_cons, eq_comm]

theorem isBlank_of_opensComment (hopens : opensComment c = true) : Text.isBlank c = true := by
  simp only [opensComment, Bool.or_eq_true, beq_iff_eq] at hopens
  rcases hopens with (((rfl | rfl) | rfl) | rfl) | rfl <;> decide

theorem opensComment_of_isBlank (hblank : Text.isBlank c = false) : opensComment c = false := by
  cases hopens : opensComment c with
  | false => rfl
  | true => simp [isBlank_of_opensComment hopens] at hblank

theorem unmarked_cons (hc : opensComment c = false) : Unmarked (c :: text) ↔ Unmarked text := by
  cases text <;> simp [Unmarked, hc]

theorem unmarked_append (hsecond : second.head? ≠ some '#') :
    Unmarked (first ++ second) ↔ Unmarked first ∧ Unmarked second := by
  rw [Unmarked, List.isChain_append, ← and_assoc]
  refine and_iff_left fun c _ next hnext _ heq => hsecond ?_
  rw [← heq]
  exact hnext

theorem unmarked_append_of_forall (hfirst : ∀ c ∈ first, opensComment c = false) :
    Unmarked (first ++ second) ↔ Unmarked second := by
  induction first with
  | nil => rfl
  | cons c first ih =>
      rw [List.forall_mem_cons] at hfirst
      rw [List.cons_append, unmarked_cons hfirst.1, ih hfirst.2]

theorem unmarked_of_forall (htext : ∀ c ∈ text, opensComment c = false) : Unmarked text := by
  rw [← List.append_nil text, unmarked_append_of_forall htext]
  exact List.isChain_nil

/-- Nothing is cut off an unmarked text. -/
theorem beforeComment_of_unmarked {mayStart : Bool} (htext : Unmarked text)
    (hstart : mayStart = true → text.head? ≠ some '#') : beforeComment mayStart text = text := by
  induction text generalizing mayStart with
  | nil => rfl
  | cons c rest ih =>
      have hrest := List.isChain_cons.1 htext
      have hc : ¬(mayStart && c == '#') = true := by
        simp only [Bool.and_eq_true, beq_iff_eq, not_and]
        intro hmay heq
        exact hstart hmay (by rw [heq, List.head?_cons])
      rw [beforeComment, if_neg hc, ih hrest.2 fun hopens hhead => hrest.1 _ hhead hopens rfl]

/-- The text is cut behind the first character that lets a comment start before a number sign. -/
theorem beforeComment_append {mayStart : Bool} (htext : Unmarked (text ++ [c]))
    (hc : opensComment c = true) (hstart : mayStart = true → (text ++ [c]).head? ≠ some '#')
    (later : List Char) : beforeComment mayStart (text ++ c :: '#' :: later) = text ++ [c] := by
  induction text generalizing mayStart with
  | nil =>
      have hne : c ≠ '#' := by
        rintro rfl
        cases hc
      simp [beforeComment, hne, hc]
  | cons d rest ih =>
      have hrest := List.isChain_cons.1 htext
      have hd : ¬(mayStart && d == '#') = true := by
        simp only [Bool.and_eq_true, beq_iff_eq, not_and]
        intro hmay heq
        exact hstart hmay (by rw [heq, List.cons_append, List.head?_cons])
      rw [List.cons_append, beforeComment, if_neg hd,
        ih hrest.2 fun hopens hhead => hrest.1 _ hhead hopens rfl]
      rfl

/-- A text that is not unmarked has a first place where a comment starts. -/
theorem exists_cut (htext : ¬Unmarked text) : ∃ kept c later, text = kept ++ c :: '#' :: later ∧
    opensComment c = true ∧ Unmarked (kept ++ [c]) := by
  induction text with
  | nil => exact absurd List.isChain_nil htext
  | cons d rest ih =>
      by_cases hd : opensComment d = true ∧ rest.head? = some '#'
      · obtain ⟨hopens, hhead⟩ := hd
        obtain ⟨later, rfl⟩ := List.head?_eq_some_iff.1 hhead
        exact ⟨[], d, later, rfl, hopens, List.isChain_singleton _⟩
      · have hnext : ∀ next ∈ rest.head?, opensComment d = true → next ≠ '#' := by
          rintro next hnext hopens rfl
          exact hd ⟨hopens, hnext⟩
        obtain ⟨kept, c, later, rfl, hc, hkept⟩ := ih fun hrest =>
          htext (List.isChain_cons.2 ⟨hnext, hrest⟩)
        refine ⟨d :: kept, c, later, rfl, hc, List.isChain_cons.2 ⟨?_, hkept⟩⟩
        intro next hmem
        refine hnext next ?_
        cases kept <;> exact hmem

/-! ## Comments in compact texts -/

/-- The written form of a character lets a comment start only if it is a space. -/
theorem eq_space_of_mem_escapeChar {d : Char} (hd : d ∈ escapeChar c)
    (hopens : opensComment d = true) : c = ' ' := by
  have hge : 0x20 ≤ d.toNat := le_toNat_of_mem_escapeChar hd
  have hdigit : ∀ digit, digit < 16 → opensComment (hexDigit digit) = false := by decide
  -- A character is escaped by a letter, by its number, or stands for itself, and only a space opens
  -- a comment then.
  rcases escapeChar_cases c with ⟨letter, hesc, -, -, hletter, -⟩ | ⟨hesc, hlt, -⟩ |
    ⟨hesc, -⟩
  · rw [hesc] at hd
    simp only [List.mem_cons, List.not_mem_nil, or_false] at hd
    simp only [opensComment, Bool.or_eq_true, beq_iff_eq] at hopens
    rcases hopens with (((rfl | rfl) | rfl) | rfl) | rfl <;> rcases hd with hd | rfl <;>
      first | cases hd | cases hletter
  · rw [hesc] at hd
    have hnot : ∀ other ∈ ['\\', 'u', '0', '0', hexDigit (c.toNat / 16),
        hexDigit (c.toNat % 16)], opensComment other = false := by
      simp only [List.forall_mem_cons]
      exact ⟨rfl, rfl, rfl, rfl, hdigit _ (by omega), hdigit _ (by omega), by simp⟩
    rw [hnot d hd] at hopens
    cases hopens
  · rw [hesc, List.mem_singleton] at hd
    subst hd
    simp only [opensComment, Bool.or_eq_true, beq_iff_eq] at hopens
    rcases hopens with (((rfl | rfl) | rfl) | rfl) | rfl
    · rfl
    all_goals exact absurd hge (by decide)

theorem head_escapeChar (c : Char) (rest : List Char) :
    (escapeChar c ++ rest).head? = some '#' ↔ c = '#' := by
  rcases escapeChar_cases c with ⟨letter, hesc, -, -, hletter, -⟩ | ⟨hesc, hlt, -⟩ |
    ⟨hesc, -⟩
  · have hne : c ≠ '#' := by
      rintro rfl
      cases hesc
    simp [hesc, hne]
  · have hne : c ≠ '#' := by
      rintro rfl
      cases hesc
    simp [hesc, hne]
  · simp [hesc]

theorem unmarked_escaped_iff : Unmarked (text.flatMap escapeChar) ↔ Spaced text := by
  induction text with
  | nil => simp [Unmarked, Spaced]
  | cons c rest ih =>
      rw [Spaced, List.isChain_cons, ← Spaced, List.flatMap_cons, ← ih]
      by_cases hspace : c = ' '
      · subst hspace
        have hhead : (rest.flatMap escapeChar).head? = some '#' ↔ rest.head? = some '#' := by
          cases rest with
          | nil => simp
          | cons d rest => rw [List.flatMap_cons, head_escapeChar]; simp
        rw [show escapeChar ' ' = [' '] from rfl, List.singleton_append, Unmarked,
          List.isChain_cons]
        refine and_congr_left fun _ => ?_
        rw [← not_iff_not]
        simp [hhead, opensComment]
      · have hplain : ∀ d ∈ escapeChar c, opensComment d = false := fun d hd =>
          Bool.eq_false_iff.2 fun hopens => hspace (eq_space_of_mem_escapeChar hd hopens)
        simp [unmarked_append_of_forall hplain, hspace]

theorem unmarked_quote_iff {text : String} : Unmarked (quote text) ↔ Spaced text.toList := by
  rw [quote, unmarked_cons rfl, unmarked_append (by decide), unmarked_escaped_iff]
  exact and_iff_left (List.isChain_singleton _)

theorem unmarked_number {number : Number} (hnumber : number.Integral) : Unmarked number.text := by
  refine unmarked_of_forall fun c hc => opensComment_of_isBlank ?_
  rcases Number.isDigit_or_of_mem_text hnumber hc with hdigit | rfl
  · exact Text.isBlank_of_isDigit hdigit
  · rfl

/-- The text of a value starts with a character that is neither blank nor a number sign. -/
theorem exists_head_compact {value : Value} (hvalue : value.Integral) :
    ∃ c rest, value.compact = c :: rest ∧ Text.isBlank c = false ∧ c ≠ '#' := by
  cases value with
  | null => exact ⟨_, _, rfl, by decide⟩
  | bool value => cases value <;> exact ⟨_, _, rfl, by decide⟩
  | number number =>
      obtain ⟨c, rest, htext, hc⟩ := Number.exists_head_text hvalue
      refine ⟨c, rest, htext, ?_⟩
      rcases hc with hdigit | rfl
      · refine ⟨Text.isBlank_of_isDigit hdigit, ?_⟩
        rintro rfl
        cases hdigit
      · decide
  | string text => exact ⟨_, _, rfl, by decide⟩
  | array items => exact ⟨_, _, rfl, by decide⟩
  | object members => exact ⟨_, _, rfl, by decide⟩

theorem head_compactMoreItems_ne (items : List Value) :
    (Value.compactMoreItems items).head? ≠ some '#' := by
  cases items <;> simp [Value.compactMoreItems]

theorem head_compactMoreMembers_ne (members : List (String × Value)) :
    (Value.compactMoreMembers members).head? ≠ some '#' := by
  cases members <;> simp [Value.compactMoreMembers]

mutual

/-- A comment starts inside the text of a value only if it starts in one of the value's strings. -/
theorem unmarked_compact_iff : (value : Value) → value.Integral →
    (Unmarked value.compact ↔ ∀ text ∈ value.texts, Spaced text.toList)
  | .null, _ =>
    iff_of_true (unmarked_of_forall (by simp [Value.compact, opensComment]))
      (by simp [Value.texts])
  | .bool true, _ =>
    iff_of_true (unmarked_of_forall (by simp [Value.compact, opensComment]))
      (by simp [Value.texts])
  | .bool false, _ =>
    iff_of_true (unmarked_of_forall (by simp [Value.compact, opensComment]))
      (by simp [Value.texts])
  | .number number, hvalue => by
    rw [Value.compact, Value.texts]
    exact iff_of_true (unmarked_number hvalue) (by simp)
  | .string text, _ => by
    rw [Value.compact, unmarked_quote_iff, Value.texts, List.forall_mem_singleton]
  | .array [], _ =>
    iff_of_true (unmarked_of_forall (by simp [Value.compact, Value.compactItems, opensComment]))
      (by simp [Value.texts, Value.itemTexts])
  -- A number sign opens a comment only behind a blank, and the compact form has blanks in texts
  -- only.
  | .array (item :: items), hvalue => by
    rw [Value.compact, unmarked_cons rfl, Value.compactItems,
      unmarked_append (head_compactMoreItems_ne items), unmarked_compact_iff item hvalue.1,
      unmarked_compactMoreItems_iff items hvalue.2, Value.texts, Value.itemTexts,
      List.forall_mem_append]
  | .object [], _ =>
    iff_of_true (unmarked_of_forall (by simp [Value.compact, Value.compactMembers, opensComment]))
      (by simp [Value.texts, Value.memberTexts])
  | .object ((name, item) :: members), hvalue => by
    rw [Value.compact, unmarked_cons rfl, Value.compactMembers, unmarked_append (by simp),
      unmarked_cons rfl, unmarked_append (head_compactMoreMembers_ne members),
      unmarked_quote_iff, unmarked_compact_iff item hvalue.1,
      unmarked_compactMoreMembers_iff members hvalue.2, Value.texts, Value.memberTexts,
      List.forall_mem_cons, List.forall_mem_append]

theorem unmarked_compactMoreItems_iff : (items : List Value) → Value.IntegralItems items →
    (Unmarked (Value.compactMoreItems items) ↔
      ∀ text ∈ Value.itemTexts items, Spaced text.toList)
  | [], _ =>
    iff_of_true (unmarked_of_forall (by simp [Value.compactMoreItems, opensComment]))
      (by simp [Value.itemTexts])
  | item :: items, hitems => by
    rw [Value.compactMoreItems, unmarked_cons rfl,
      unmarked_append (head_compactMoreItems_ne items), unmarked_compact_iff item hitems.1,
      unmarked_compactMoreItems_iff items hitems.2, Value.itemTexts, List.forall_mem_append]

theorem unmarked_compactMoreMembers_iff : (members : List (String × Value)) →
    Value.IntegralMembers members → (Unmarked (Value.compactMoreMembers members) ↔
      ∀ text ∈ Value.memberTexts members, Spaced text.toList)
  | [], _ =>
    iff_of_true (unmarked_of_forall (by simp [Value.compactMoreMembers, opensComment]))
      (by simp [Value.memberTexts])
  | (name, item) :: members, hmembers => by
    rw [Value.compactMoreMembers, unmarked_cons rfl, unmarked_append (by simp),
      unmarked_cons rfl, unmarked_append (head_compactMoreMembers_ne members),
      unmarked_quote_iff, unmarked_compact_iff item hmembers.1,
      unmarked_compactMoreMembers_iff members hmembers.2, Value.memberTexts,
      List.forall_mem_cons, List.forall_mem_append]

end

/-! ## Blanks around a compact text -/

theorem exists_compactMoreItems (items : List Value) :
    ∃ body, Value.compactMoreItems items = body ++ [']'] := by
  induction items with
  | nil => exact ⟨[], rfl⟩
  | cons item items ih =>
      obtain ⟨body, hbody⟩ := ih
      exact ⟨',' :: (item.compact ++ body), by simp [Value.compactMoreItems, hbody]⟩

theorem exists_compactMoreMembers (members : List (String × Value)) :
    ∃ body, Value.compactMoreMembers members = body ++ ['}'] := by
  induction members with
  | nil => exact ⟨[], rfl⟩
  | cons member members ih =>
      obtain ⟨body, hbody⟩ := ih
      exact ⟨',' :: (quote member.1 ++ ':' :: (member.2.compact ++ body)), by
        simp [Value.compactMoreMembers, hbody]⟩

theorem exists_compact_array (items : List Value) :
    ∃ body, (Value.array items).compact = body ++ [']'] := by
  cases items with
  | nil => exact ⟨['['], rfl⟩
  | cons item items =>
      obtain ⟨body, hbody⟩ := exists_compactMoreItems items
      exact ⟨'[' :: (item.compact ++ body), by
        simp [Value.compact, Value.compactItems, hbody]⟩

theorem exists_compact_object (members : List (String × Value)) :
    ∃ body, (Value.object members).compact = body ++ ['}'] := by
  cases members with
  | nil => exact ⟨['{'], rfl⟩
  | cons member members =>
      obtain ⟨body, hbody⟩ := exists_compactMoreMembers members
      exact ⟨'{' :: (quote member.1 ++ ':' :: (member.2.compact ++ body)), by
        simp [Value.compact, Value.compactMembers, hbody]⟩

/-- The text of a value has no blanks around it. -/
theorem trimmed_compact {value : Value} (hvalue : value.Integral) :
    Text.Trimmed value.compact := by
  constructor
  · intro c hc
    obtain ⟨d, rest, htext, hd, -⟩ := exists_head_compact hvalue
    rw [htext] at hc
    cases hc
    exact hd
  · intro c hc
    -- The last character is a quote, a bracket, a letter or a digit.
    cases value with
    | null =>
        cases hc
        rfl
    | bool value =>
        cases value
        all_goals
          cases hc
          rfl
    | number number =>
        rcases Number.isDigit_or_of_mem_text hvalue (List.mem_of_getLast? hc) with hdigit | rfl
        · exact Text.isBlank_of_isDigit hdigit
        · rfl
    | string text =>
        have hquote : (Value.string text).compact =
            ('"' :: text.toList.flatMap escapeChar) ++ ['"'] := rfl
        rw [hquote, List.getLast?_concat] at hc
        cases hc
        rfl
    | array items =>
        obtain ⟨body, hbody⟩ := exists_compact_array items
        obtain rfl : ']' = c := by simpa [hbody] using hc
        rfl
    | object members =>
        obtain ⟨body, hbody⟩ := exists_compact_object members
        obtain rfl : '}' = c := by simpa [hbody] using hc
        rfl

/-- What is left of the text of a value when the end is cut off before a blank is no document. -/
theorem read?_eq_none_of_cut {value : Value} (hvalue : value.Integral) {blank : Char}
    (hblank : Text.isBlank blank = true) {later : List Char} (hlater : '#' ∈ later)
    (htext : value.compact = text ++ blank :: later) : Document.read? text = none := by
  have hends : Lexeme.Ends (blank :: later) := by
    intro c hc
    cases hc
    refine ⟨Bool.eq_false_iff.2 fun hdigit => ?_, ?_⟩
    · rw [Text.isBlank_of_isDigit hdigit] at hblank
      cases hblank
    · refine ⟨?_, ?_, ?_⟩ <;> rintro rfl <;> cases hblank
  have hrest : skipSpace (blank :: later) ≠ [] := by
    intro hskip
    have hall := List.dropWhile_eq_nil_iff.1 hskip '#' (List.mem_cons_of_mem _ hlater)
    cases hall
  have hread : Document.read? value.compact = some (.ofValue value) := by
    rw [← Layout.write_compact 0, Layout.read?_write _ hvalue]
  rw [htext] at hread
  exact Document.read?_eq_none_of_append hends hrest hread

/-! ## Lines that run a command -/

/-- What can stand for the name of a command on a line. -/
structure IsWord (name : List Char) : Prop where
  ne_nil : name ≠ []
  isBlank : ∀ c ∈ name, Text.isBlank c = false
  head_ne : name.head? ≠ some '#'

theorem splitWord_append {word : List Char} (hword : ∀ c ∈ word, Text.isBlank c = false)
    {blank : Char} (hblank : Text.isBlank blank = true) (rest : List Char) :
    splitWord (word ++ blank :: rest) = (word, Text.trim rest) := by
  have hkeep : ∀ c ∈ word, (!Text.isBlank c) = true := fun c hc => by rw [hword c hc]; rfl
  rw [splitWord, Text.splitBlank?, List.dropWhile_append_of_pos hkeep,
    List.takeWhile_append_of_pos hkeep]
  simp [hblank]

/-- A line up to the argument of the command that it runs. -/
def runOpening (name : List Char) : List Char := 'r' :: 'u' :: 'n' :: ' ' :: (name ++ [' '])

/-- A line whose first word says so runs a command. -/
theorem lineStep_eq_runStep {text rest : List Char}
    (hword : splitWord text = (['r', 'u', 'n'], rest)) (line : Nat) :
    lineStep line text = runStep line rest := by
  simp [lineStep, hword]

variable {name args : List Char}

theorem lineStep_run (hname : IsWord name) (hargs : Text.Trimmed args) (hne : args ≠ [])
    (line : Nat) : lineStep line (runOpening name ++ args) =
      match Value.parse? (String.ofList args) with
      | some value => .ok (.run (String.ofList name) value)
      | none => .error (.invalidArgs line) := by
  -- The line is cut at its first two blanks, and what is trimmed there has no blanks at its ends.
  have hrest : Text.Trimmed (name ++ [' '] ++ args) := by
    refine ⟨fun c hc => ?_, fun c hc => ?_⟩
    · refine hname.isBlank c (List.mem_of_mem_head? ?_)
      rwa [List.append_assoc, List.head?_append_of_ne_nil _ hname.ne_nil] at hc
    · rw [List.getLast?_append_of_ne_nil _ hne] at hc
      exact hargs.2 c hc
  have hword : splitWord (['r', 'u', 'n'] ++ ' ' :: (name ++ [' '] ++ args)) =
      (['r', 'u', 'n'], Text.trim (name ++ [' '] ++ args)) :=
    splitWord_append (by simp [Text.isBlank]) rfl _
  have hcommand : splitWord (name ++ ' ' :: args) = (name, Text.trim args) :=
    splitWord_append hname.isBlank rfl args
  rw [Text.trim_eq_self hrest] at hword
  rw [Text.trim_eq_self hargs] at hcommand
  have hlist : runOpening name ++ args = ['r', 'u', 'n'] ++ ' ' :: (name ++ [' '] ++ args) := by
    simp [runOpening]
  have hrun : runStep line (name ++ ' ' :: args) =
      match Value.parse? (String.ofList args) with
      | some value => .ok (.run (String.ofList name) value)
      | none => .error (.invalidArgs line) := by
    cases hparse : Value.parse? (String.ofList args) <;>
      simp [runStep, hcommand, hname.ne_nil, hne, hparse]
  rw [hlist, lineStep_eq_runStep hword, ← hrun, List.append_assoc, List.singleton_append]

/-- A script of one line has the step of that line, or its error. -/
theorem parse_line {text body : List Char} (hline : '\n' ∉ text)
    (hbody : Text.trim (beforeComment true text) = body) (hne : body ≠ []) :
    parse (String.ofList text) = (lineStep 1 body).map fun step => [step] := by
  have hlines : List.splitOn '\n' text = [text] := List.splitOn_eq_singleton hline
  rw [parse, String.toList_ofList, hlines, stepsFrom, hbody]
  simp only [List.isEmpty_iff, hne, if_false]
  cases lineStep 1 body <;> rfl

theorem unmarked_runOpening (hname : IsWord name) (hargs : args.head? ≠ some '#') :
    Unmarked (runOpening name ++ args) ↔ Unmarked args := by
  have hplain : ∀ c ∈ name, opensComment c = false := fun c hc =>
    opensComment_of_isBlank (hname.isBlank c hc)
  have hhead : (name ++ [' ']).head? ≠ some '#' := by
    rw [List.head?_append_of_ne_nil _ hname.ne_nil]
    exact hname.head_ne
  have hopening : Unmarked (runOpening name) := by
    rw [runOpening, unmarked_cons rfl, unmarked_cons rfl, unmarked_cons rfl,
      ← List.singleton_append, unmarked_append hhead, unmarked_append_of_forall hplain]
    exact ⟨List.isChain_singleton _, List.isChain_singleton _⟩
  rw [unmarked_append hargs]
  exact and_iff_right hopening

theorem trimmed_runOpening (name : List Char) (hargs : Text.Trimmed args) (hne : args ≠ []) :
    Text.Trimmed (runOpening name ++ args) := by
  refine ⟨fun c hc => ?_, fun c hc => ?_⟩
  · cases hc
    rfl
  · rw [List.getLast?_append_of_ne_nil _ hne] at hc
    exact hargs.2 c hc

theorem trim_beforeComment_run (hname : IsWord name) (hargs : Text.Trimmed args) (hne : args ≠ [])
    (hhead : args.head? ≠ some '#') (hunmarked : Unmarked args) :
    Text.trim (beforeComment true (runOpening name ++ args)) = runOpening name ++ args := by
  have hline := (unmarked_runOpening hname hhead).2 hunmarked
  rw [beforeComment_of_unmarked hline (by simp [runOpening]),
    Text.trim_eq_self (trimmed_runOpening name hargs hne)]

/-- What is cut off a line that runs a command is cut off its argument, and a blank at least. -/
theorem exists_trim_beforeComment_run (hname : IsWord name) (hargs : Text.Trimmed args)
    (hhead : args.head? ≠ some '#') (hmarked : ¬Unmarked args) :
    ∃ kept blank later, args = kept ++ blank :: later ∧ Text.isBlank blank = true ∧
      '#' ∈ later ∧ Text.Trimmed kept ∧ kept ≠ [] ∧
      Text.trim (beforeComment true (runOpening name ++ args)) = runOpening name ++ kept := by
  obtain ⟨start, c, later, rfl, hopens, hstart⟩ := exists_cut hmarked
  have hc := isBlank_of_opensComment hopens
  -- The argument starts with no blank, so something stands before the cut.
  cases start with
  | nil =>
      have hfirst := hargs.1 c rfl
      rw [hc] at hfirst
      cases hfirst
  | cons first start =>
      have hfirst : Text.isBlank first = false := hargs.1 first rfl
      have hcut : beforeComment true (runOpening name ++ (first :: start ++ c :: '#' :: later)) =
          runOpening name ++ (first :: start ++ [c]) := by
        have hline : Unmarked (runOpening name ++ first :: start ++ [c]) := by
          rw [List.append_assoc]
          exact (unmarked_runOpening hname (by simpa using hhead)).2 hstart
        rw [← List.append_assoc, beforeComment_append hline hopens (by simp [runOpening]),
          List.append_assoc]
      obtain ⟨kept, blank, after, hpadded, hkept, hne, hblank⟩ :=
        Text.exists_trimmed_append hfirst hc start
      refine ⟨kept, blank, after ++ '#' :: later, ?_, hblank blank (by simp), by simp, hkept,
        hne, ?_⟩
      · rw [← List.cons_append, ← List.append_assoc, ← hpadded]
        simp
      · rw [hcut, hpadded]
        refine Text.trim_eq_iff.2 ⟨trimmed_runOpening name hkept hne, [], blank :: after, ?_,
          hblank⟩
        simp

/-- The line that runs a command with an argument. -/
def runLine (name : String) (args : Value) : String := "run " ++ name ++ " " ++ args.compactText

theorem runLine_eq (name : String) (args : Value) :
    runLine name args = String.ofList (runOpening name.toList ++ args.compact) := by
  rw [runLine, Value.compactText, ← String.toList_inj]
  simp [runOpening]

theorem newline_not_mem_run {name : String} (hname : IsWord name.toList) {args : Value}
    (hargs : args.Integral) : '\n' ∉ runOpening name.toList ++ args.compact := by
  intro hmem
  rcases List.mem_append.1 hmem with hopening | hcompact
  · have hmem : '\n' ∈ name.toList := by simpa [runOpening] using hopening
    exact absurd (hname.isBlank _ hmem) (by decide)
  · exact Value.newline_not_mem_compact args hargs hcompact

/-- A line that runs a command with a value as its argument is read as that, unless a string in the
value has a number sign behind a space; then the line is refused. -/
theorem parse_runLine {name : String} (hname : IsWord name.toList) {args : Value}
    (hintegral : args.Integral) (hordered : args.Ordered)
    (hdepth : args.depth ≤ Document.maxDepth) :
    parse (runLine name args) =
      if args.texts.any fun text => Text.occursIn [' ', '#'] text.toList then
        .error (.invalidArgs 1)
      else .ok [.run name args] := by
  obtain ⟨c, rest, hcompact, -, hc⟩ := exists_head_compact hintegral
  have hne : args.compact ≠ [] := by simp [hcompact]
  have hhead : args.compact.head? ≠ some '#' := by simpa [hcompact] using hc
  have htrimmed := trimmed_compact hintegral
  have hline := newline_not_mem_run hname hintegral
  have htexts : Unmarked args.compact ↔
      ¬(args.texts.any fun text => Text.occursIn [' ', '#'] text.toList) = true := by
    rw [unmarked_compact_iff args hintegral]
    simp [spaced_iff, Text.occursIn_iff]
  rw [runLine_eq]
  -- Cut or not, the line is a run step; cut short, its argument is the beginning of a value and no
  -- value.
  by_cases hunmarked : Unmarked args.compact
  · obtain ⟨read, hread, hback⟩ := Document.exists_value?_ofValue args _ hdepth
    have hparse : Value.parse? (String.ofList args.compact) = some args := by
      rw [hback hordered] at hread
      rw [Value.parse?, ← Value.compactText, Document.parse?_compactText hintegral]
      exact hread
    rw [if_neg (htexts.1 hunmarked),
      parse_line hline (trim_beforeComment_run hname htrimmed hne hhead hunmarked)
        (by simp [hne]),
      lineStep_run hname htrimmed hne, hparse, String.ofList_toList]
    rfl
  · obtain ⟨kept, blank, later, htext, hblank, hlater, hkept, hkeptne, hcut⟩ :=
      exists_trim_beforeComment_run hname htrimmed hhead hunmarked
    have hnone : Document.read? kept = none := read?_eq_none_of_cut hintegral hblank hlater htext
    have hparse : Value.parse? (String.ofList kept) = none := by
      rw [Value.parse?, Document.parse?, String.toList_ofList, hnone]
      rfl
    rw [if_pos (Decidable.not_not.1 fun hnot => hunmarked (htexts.2 hnot)),
      parse_line hline hcut (by simp [hkeptne]), lineStep_run hname hkept hkeptne, hparse]
    rfl

/-- A panel's name as the argument, and a text with a number sign that no space stands before. -/
theorem parse_runLine_panel :
    parse (runLine "show_panel" (.array [.string "panel::search", .string "#1"])) =
      .ok [.run "show_panel" (.array [.string "panel::search", .string "#1"])] :=
  @parse_runLine "show_panel" ⟨by decide, by simp [Text.isBlank], by decide⟩
    (.array [.string "panel::search", .string "#1"]) ⟨trivial, trivial, trivial⟩
    ⟨trivial, trivial, trivial⟩ (by decide)

/-- A number sign behind a space ends the argument, although it stands in a text. -/
theorem number_sign_in_text_cut :
    IsWord "c".toList ∧ (Value.string "a #b").Integral ∧ (Value.string "a #b").Ordered ∧
      (Value.string "a #b").depth ≤ Document.maxDepth ∧
      runLine "c" (.string "a #b") = "run c \"a #b\"" ∧
      parse (runLine "c" (.string "a #b")) = .error (.invalidArgs 1) :=
  ⟨⟨by decide, by simp [Text.isBlank], by decide⟩, trivial, trivial, by decide, by decide,
    by decide +kernel⟩

end Script

end EditorShell
