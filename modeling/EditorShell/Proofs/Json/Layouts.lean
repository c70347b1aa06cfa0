import EditorShell.Proofs.Json.Numbers
import EditorShell.Proofs.Json.Strings

/-!
# Written values read back

The compact and the indented text of a value differ only in the blanks between the tokens.  A
`Layout` says which blanks these are; everything about reading is proved once, for any layout.

A value without doubles is read back from its text: `readValue?_write` says so for the reader of
values, with its two companions for the items of an array and the members of an object, by one
induction over the tree.  The fuel never runs out, since a text has at least one character for each
two calls that the reader nests.

What follows a value matters only to numbers, which must see where they end (`Lexeme.Ends`).
-/

namespace EditorShell.Json

namespace Value

mutual

/-- Every number in the value is an integer that fits a 64-bit word. -/
def Integral : Value → Prop
  | null | bool _ | string _ => True
  | number value => value.Integral
  | array items => IntegralItems items
  | object members => IntegralMembers members

/-- Every number in the items is an integer that fits a 64-bit word. -/
def IntegralItems : List Value → Prop
  | [] => True
  | item :: items => Integral item ∧ IntegralItems items

/-- Every number in the members is an integer that fits a 64-bit word. -/
def IntegralMembers : List (String × Value) → Prop
  | [] => True
  | (_, item) :: members => Integral item ∧ IntegralMembers members

end

theorem integral_ofNat {n : Nat} (hn : n < Nat.pow 2 64) : (ofNat n).Integral := by
  have hlow : -(Nat.pow 2 63 : Int) ≤ (n : Int) :=
    Int.le_trans (Int.neg_nonpos_of_nonneg (Int.natCast_nonneg _)) (Int.natCast_nonneg n)
  exact ⟨hlow, Int.ofNat_lt.2 hn⟩

theorem integralMembers_iff {members : List (String × Value)} :
    IntegralMembers members ↔ ∀ member ∈ members, member.2.Integral := by
  induction members with
  | nil => simp [IntegralMembers]
  | cons member members ih => simp [IntegralMembers, ih]

end Value

/-- The blanks that stand between the tokens of a written value. -/
structure Layout where
  /-- The blanks before an item and before the closing bracket, at a level of nesting. -/
  gap : Nat → List Char
  /-- The blanks after a colon. -/
  afterColon : List Char
  isSpace_gap : ∀ level, ∀ c ∈ gap level, isSpace c = true
  isSpace_afterColon : ∀ c ∈ afterColon, isSpace c = true

namespace Layout

/-- No blanks. -/
def compact : Layout where
  gap _ := []
  afterColon := []
  isSpace_gap := by simp
  isSpace_afterColon := by simp

/-- A line for each item. -/
def indented : Layout where
  gap := Value.newLine
  afterColon := [' ']
  isSpace_gap := by
    intro level c hc
    simp only [Value.newLine, List.mem_cons, List.mem_replicate] at hc
    rcases hc with rfl | ⟨-, rfl⟩ <;> rfl
  isSpace_afterColon := by simp [isSpace]

mutual

/-- The text of a value at a level of nesting. -/
def write (layout : Layout) (level : Nat) : Value → List Char
  | .null => ['n', 'u', 'l', 'l']
  | .bool true => ['t', 'r', 'u', 'e']
  | .bool false => ['f', 'a', 'l', 's', 'e']
  | .number value => value.text
  | .string text => quote text
  | .array items => '[' :: writeItems layout level items
  | .object members => '{' :: writeMembers layout level members

/-- The items of an array from the first one on, with the closing bracket. -/
def writeItems (layout : Layout) (level : Nat) : List Value → List Char
  | [] => [']']
  | item :: items =>
    layout.gap (level + 1) ++ (write layout (level + 1) item ++ writeMoreItems layout level items)

/-- The further items of an array, each after a comma, with the closing bracket. -/
def writeMoreItems (layout : Layout) (level : Nat) : List Value → List Char
  | [] => layout.gap level ++ [']']
  | item :: items =>
    ',' :: (layout.gap (level + 1) ++
      (write layout (level + 1) item ++ writeMoreItems layout level items))

/-- The members of an object from the first one on, with the closing brace. -/
def writeMembers (layout : Layout) (level : Nat) : List (String × Value) → List Char
  | [] => ['}']
  | (name, item) :: members =>
    layout.gap (level + 1) ++ (quote name ++ ':' :: (layout.afterColon ++
      (write layout (level + 1) item ++ writeMoreMembers layout level members)))

/-- The further members of an object, each after a comma, with the closing brace. -/
def writeMoreMembers (layout : Layout) (level : Nat) : List (String × Value) → List Char
  | [] => layout.gap level ++ ['}']
  | (name, item) :: members =>
    ',' :: (layout.gap (level + 1) ++ (quote name ++ ':' :: (layout.afterColon ++
      (write layout (level + 1) item ++ writeMoreMembers layout level members))))

end

/-! ## The two texts of a value are layouts of it -/

@[simp]
theorem gap_compact (level : Nat) : compact.gap level = [] := rfl

@[simp]
theorem afterColon_compact : compact.afterColon = [] := rfl

@[simp]
theorem gap_indented (level : Nat) : indented.gap level = Value.newLine level := rfl

@[simp]
theorem afterColon_indented : indented.afterColon = [' '] := rfl

mutual

theorem write_compact (level : Nat) : (value : Value) → compact.write level value = value.compact
  | .null => rfl
  | .bool true => rfl
  | .bool false => rfl
  | .number _ => rfl
  | .string _ => rfl
  | .array [] => rfl
  | .array (item :: items) => by
    have hitem := write_compact (level + 1) item
    have hitems := writeMoreItems_compact level items
    simp [write, writeItems, Value.compact, Value.compactItems, hitem, hitems]
  | .object [] => rfl
  | .object ((name, item) :: members) => by
    have hitem := write_compact (level + 1) item
    have hmembers := writeMoreMembers_compact level members
    simp [write, writeMembers, Value.compact, Value.compactMembers, hitem, hmembers]

theorem writeMoreItems_compact (level : Nat) : (items : List Value) →
    compact.writeMoreItems level items = Value.compactMoreItems items
  | [] => rfl
  | item :: items => by
    have hitem := write_compact (level + 1) item
    have hitems := writeMoreItems_compact level items
    simp [writeMoreItems, Value.compactMoreItems, hitem, hitems]

theorem writeMoreMembers_compact (level : Nat) : (members : List (String × Value)) →
    compact.writeMoreMembers level members = Value.compactMoreMembers members
  | [] => rfl
  | (name, item) :: members => by
    have hitem := write_compact (level + 1) item
    have hmembers := writeMoreMembers_compact level members
    simp [writeMoreMembers, Value.compactMoreMembers, hitem, hmembers]

end

mutual

theorem write_indented (level : Nat) :
    (value : Value) → indented.write level value = value.indented level
  | .null => rfl
  | .bool true => rfl
  | .bool false => rfl
  | .number _ => rfl
  | .string _ => rfl
  | .array [] => rfl
  | .array (item :: items) => by
    have hitem := write_indented (level + 1) item
    have hitems := writeMoreItems_indented level items
    simp [write, writeItems, Value.indented, Value.indentedItems, hitem, hitems]
  | .object [] => rfl
  | .object ((name, item) :: members) => by
    have hitem := write_indented (level + 1) item
    have hmembers := writeMoreMembers_indented level members
    simp [write, writeMembers, Value.indented, Value.indentedMembers, hitem, hmembers]

theorem writeMoreItems_indented (level : Nat) : (items : List Value) →
    indented.writeMoreItems level items = Value.indentedMoreItems level items
  | [] => rfl
  | item :: items => by
    have hitem := write_indented (level + 1) item
    have hitems := writeMoreItems_indented level items
    simp [writeMoreItems, Value.indentedMoreItems, hitem, hitems]

theorem writeMoreMembers_indented (level : Nat) : (members : List (String × Value)) →
    indented.writeMoreMembers level members = Value.indentedMoreMembers level members
  | [] => rfl
  | (name, item) :: members => by
    have hitem := write_indented (level + 1) item
    have hmembers := writeMoreMembers_indented level members
    simp [writeMoreMembers, Value.indentedMoreMembers, hitem, hmembers]

end

/-! ## Blanks are passed over -/

theorem skipSpace_append {blanks : List Char} (hblanks : ∀ c ∈ blanks, isSpace c = true)
    (text : List Char) : skipSpace (blanks ++ text) = skipSpace text :=
  List.dropWhile_append_of_pos hblanks

theorem skipSpace_cons {c : Char} (hc : isSpace c = false) (text : List Char) :
    skipSpace (c :: text) = c :: text :=
  List.dropWhile_cons_of_neg (by simp [hc])

theorem skipSpace_skipSpace (text : List Char) : skipSpace (skipSpace text) = skipSpace text := by
  have hblanks : ∀ c ∈ text.takeWhile isSpace, isSpace c = true :=
    List.all_eq_true.1 List.all_takeWhile
  have hskip := skipSpace_append hblanks (text.dropWhile isSpace)
  rw [List.takeWhile_append_dropWhile] at hskip
  exact hskip.symm

theorem ends_append {blanks text : List Char} (hblanks : ∀ c ∈ blanks, isSpace c = true)
    (htext : Lexeme.Ends text) : Lexeme.Ends (blanks ++ text) := by
  cases blanks with
  | nil => exact htext
  | cons c blanks =>
      have hc : isSpace c = true := hblanks c (by simp)
      intro d hd
      obtain rfl : c = d := by simpa using hd
      simp only [isSpace, Bool.or_eq_true, beq_iff_eq] at hc
      rcases hc with ((rfl | rfl) | rfl) | rfl <;> decide

theorem readValue?_append (fuel : Nat) {blanks : List Char}
    (hblanks : ∀ c ∈ blanks, isSpace c = true) (text : List Char) :
    Document.readValue? fuel (blanks ++ text) = Document.readValue? fuel text := by
  cases fuel with
  | zero => rfl
  | succ fuel => rw [Document.readValue?, Document.readValue?, skipSpace_append hblanks]

theorem readItems?_skipSpace (fuel : Nat) (text : List Char) :
    Document.readItems? fuel (skipSpace text) = Document.readItems? fuel text := by
  cases fuel with
  | zero => rfl
  | succ fuel =>
      cases fuel with
      | zero => rfl
      | succ fuel =>
          rw [Document.readItems?, Document.readItems?, Document.readValue?, Document.readValue?,
            skipSpace_skipSpace]

theorem readMembers?_skipSpace (fuel : Nat) (text : List Char) :
    Document.readMembers? fuel (skipSpace text) = Document.readMembers? fuel text := by
  cases fuel with
  | zero => rfl
  | succ fuel => rw [Document.readMembers?, Document.readMembers?, skipSpace_skipSpace]

theorem readValue?_array (fuel : Nat) {text : List Char}
    (htext : (skipSpace text).head? ≠ some ']') :
    Document.readValue? (fuel + 1) ('[' :: text) =
      (Document.readItems? fuel text).map fun read => (.array read.1, read.2) := by
  rw [Document.readValue?, skipSpace_cons (by decide), ← readItems?_skipSpace fuel text]
  simp only
  generalize skipSpace text = skipped at htext ⊢
  split
  · exact absurd rfl htext
  · cases Document.readItems? fuel skipped <;> rfl

theorem readValue?_object (fuel : Nat) {text : List Char}
    (htext : (skipSpace text).head? ≠ some '}') :
    Document.readValue? (fuel + 1) ('{' :: text) =
      (Document.readMembers? fuel text).map fun read => (.object read.1, read.2) := by
  rw [Document.readValue?, skipSpace_cons (by decide), ← readMembers?_skipSpace fuel text]
  simp only
  generalize skipSpace text = skipped at htext ⊢
  split
  · exact absurd rfl htext
  · cases Document.readMembers? fuel skipped <;> rfl

theorem ends_writeMoreItems (layout : Layout) (level : Nat) (items : List Value)
    (rest : List Char) : Lexeme.Ends (layout.writeMoreItems level items ++ rest) := by
  cases items with
  | nil =>
      rw [writeMoreItems, List.append_assoc]
      exact ends_append (layout.isSpace_gap level) (by intro c hc; cases hc; decide)
  | cons item items =>
      intro c hc
      cases hc
      decide

theorem ends_writeMoreMembers (layout : Layout) (level : Nat) (members : List (String × Value))
    (rest : List Char) : Lexeme.Ends (layout.writeMoreMembers level members ++ rest) := by
  cases members with
  | nil =>
      rw [writeMoreMembers, List.append_assoc]
      exact ends_append (layout.isSpace_gap level) (by intro c hc; cases hc; decide)
  | cons member members =>
      intro c hc
      cases hc
      decide

/-! ## Where a value starts -/

/-- The text of a value starts with a character that is neither a blank nor a closing bracket. -/
theorem exists_head_write (layout : Layout) (level : Nat) {value : Value}
    (hvalue : value.Integral) : ∃ c text, layout.write level value = c :: text ∧
      isSpace c = false ∧ c ≠ ']' := by
  cases value with
  | null => exact ⟨_, _, rfl, by decide⟩
  | bool value => cases value <;> exact ⟨_, _, rfl, by decide⟩
  | number value =>
      obtain ⟨c, text, htext, hc⟩ := Number.exists_head_text hvalue
      refine ⟨c, text, htext, ?_⟩
      rcases hc with hc | rfl
      · refine ⟨Bool.eq_false_iff.2 fun hspace => ?_, fun heq => ?_⟩
        · simp only [isSpace, Bool.or_eq_true, beq_iff_eq] at hspace
          rcases hspace with ((rfl | rfl) | rfl) | rfl <;> exact absurd hc (by decide)
        · exact absurd hc (by rw [heq]; decide)
      · decide
  | string text => exact ⟨_, _, rfl, by decide⟩
  | array items => exact ⟨_, _, rfl, by decide⟩
  | object members => exact ⟨_, _, rfl, by decide⟩

/-- What starts like a number is read as one. -/
theorem readValue?_of_number {c : Char} (hc : c.isDigit = true ∨ c = '-') (fuel : Nat)
    (text : List Char) :
    Document.readValue? (fuel + 1) (c :: text) = Document.readNumber? (c :: text) := by
  have hapart : ∀ d ∈ [' ', '\t', '\n', '\r', 'n', 't', 'f', '"', '[', '{'], c ≠ d := by
    intro d hd heq
    rw [heq] at hc
    simp only [List.mem_cons, List.not_mem_nil, or_false] at hd
    rcases hd with rfl | rfl | rfl | rfl | rfl | rfl | rfl | rfl | rfl | rfl <;>
      revert hc <;> decide
  simp only [List.mem_cons, List.not_mem_nil, or_false, forall_eq_or_imp, forall_eq] at hapart
  have hskip : skipSpace (c :: text) = c :: text := skipSpace_cons (by simp [isSpace, hapart]) text
  rw [Document.readValue?, hskip]
  split <;> simp_all

/-! ## Lengths, for the fuel -/

theorem length_write_pos (layout : Layout) (level : Nat) {value : Value}
    (hvalue : value.Integral) : 0 < (layout.write level value).length := by
  obtain ⟨c, text, htext, -, -⟩ := exists_head_write layout level hvalue
  simp [htext]

theorem length_writeMoreItems_pos (layout : Layout) (level : Nat) (items : List Value) :
    0 < (layout.writeMoreItems level items).length := by
  cases items <;> simp [writeMoreItems]

theorem length_writeMoreMembers_pos (layout : Layout) (level : Nat)
    (members : List (String × Value)) : 0 < (layout.writeMoreMembers level members).length := by
  cases members <;> simp [writeMoreMembers]

/-! ## Reading a layout -/

mutual

/-- A value is read back from its text, and nothing of the text behind it is taken. -/
theorem readValue?_write (layout : Layout) (level : Nat) : (value : Value) → value.Integral →
    ∀ (fuel : Nat) (rest : List Char), Lexeme.Ends rest →
      2 * (layout.write level value).length ≤ fuel + 1 →
      Document.readValue? (fuel + 1) (layout.write level value ++ rest) =
        some (.ofValue value, rest)
  | .null, _, _, _, _, _ => rfl
  | .bool true, _, _, _, _, _ => rfl
  | .bool false, _, _, _, _, _ => rfl
  | .number value, hvalue, fuel, rest, hrest, _ => by
    obtain ⟨c, text, htext, hc⟩ := Number.exists_head_text hvalue
    obtain ⟨lexeme, hread, hlexeme⟩ := Number.read?_text hvalue hrest
    rw [write, htext, List.cons_append, readValue?_of_number hc, ← List.cons_append, ← htext,
      Document.readNumber?, hread, Document.ofValue, ← hlexeme]
    rfl
  | .string text, _, fuel, rest, _, _ => by
    obtain ⟨inner, hinner, hpieces⟩ := readPieces?_quote text rest
    rw [write, hinner, Document.readValue?, skipSpace_cons (by decide)]
    simp [hpieces, piecesText?_map_piece, Document.ofValue]
  | .array [], _, _, _, _, _ => rfl
  | .array (item :: items), hvalue, fuel, rest, _, hfuel => by
    have hitems := readItems?_write layout level (item :: items) (by simp) hvalue
    rw [write, List.length_cons] at hfuel
    obtain ⟨fuel, rfl⟩ : ∃ f, fuel = f + 1 := ⟨fuel - 1, by omega⟩
    -- The first item is no closing bracket.
    obtain ⟨c, text, htext, hspace, hc⟩ := exists_head_write layout (level + 1) hvalue.1
    have hstart : skipSpace (layout.writeItems level (item :: items) ++ rest) =
        c :: (text ++ (layout.writeMoreItems level items ++ rest)) := by
      rw [writeItems, List.append_assoc, skipSpace_append (layout.isSpace_gap _), htext]
      simpa using skipSpace_cons hspace _
    rw [write, List.cons_append, readValue?_array _ (by simpa [hstart] using hc),
      hitems fuel rest (by omega)]
    rfl
  | .object [], _, _, _, _, _ => rfl
  | .object (member :: members), hvalue, fuel, rest, _, hfuel => by
    have hmembers := readMembers?_write layout level (member :: members) (by simp) hvalue
    rw [write, List.length_cons] at hfuel
    obtain ⟨fuel, rfl⟩ : ∃ f, fuel = f + 1 := ⟨fuel - 1, by omega⟩
    have hstart : (skipSpace (layout.writeMembers level (member :: members) ++ rest)).head? =
        some '"' := by
      rw [writeMembers, List.append_assoc, skipSpace_append (layout.isSpace_gap _)]
      rfl
    rw [write, List.cons_append, readValue?_object _ (by simp [hstart]),
      hmembers fuel rest (by omega)]
    rfl

/-- The items of an array are read back, with the closing bracket. -/
theorem readItems?_write (layout : Layout) (level : Nat) : (items : List Value) → items ≠ [] →
    Value.IntegralItems items → ∀ (fuel : Nat) (rest : List Char),
      2 * (layout.writeItems level items).length ≤ fuel + 1 →
      Document.readItems? (fuel + 1) (layout.writeItems level items ++ rest) =
        some (Document.ofItems items, rest)
  | [], hne, _, _, _, _ => absurd rfl hne
  | item :: items, _, hitems, fuel, rest, hfuel => by
    have hitem := readValue?_write layout (level + 1) item hitems.1
    have hmore := readItems?_write layout level items
    rw [writeItems, List.length_append, List.length_append] at hfuel
    have hpos := length_write_pos layout (level + 1) hitems.1
    have hpos' := length_writeMoreItems_pos layout level items
    -- An item and what follows it have a character each, which pays for this step of the reader.
    obtain ⟨fuel, rfl⟩ : ∃ f, fuel = f + 1 := ⟨fuel - 1, by omega⟩
    rw [writeItems, List.append_assoc, List.append_assoc, Document.readItems?,
      readValue?_append (fuel + 1) (layout.isSpace_gap (level + 1)),
      hitem fuel _ (ends_writeMoreItems layout level items rest) (by omega)]
    simp only [Option.bind_eq_bind, Option.bind_some]
    cases items with
    | nil =>
        rw [writeMoreItems, List.append_assoc, skipSpace_append (layout.isSpace_gap level)]
        rfl
    | cons next items =>
        have hcomma : layout.writeMoreItems level (next :: items) =
            ',' :: layout.writeItems level (next :: items) := rfl
        rw [hcomma, List.length_cons] at hfuel
        have hrest := hmore (by simp) hitems.2 fuel rest (by omega)
        rw [hcomma, List.cons_append, skipSpace_cons (by decide)]
        simp only [hrest]
        rfl

/-- The members of an object are read back, with the closing brace. -/
theorem readMembers?_write (layout : Layout) (level : Nat) : (members : List (String × Value)) →
    members ≠ [] → Value.IntegralMembers members → ∀ (fuel : Nat) (rest : List Char),
      2 * (layout.writeMembers level members).length ≤ fuel + 1 →
      Document.readMembers? (fuel + 1) (layout.writeMembers level members ++ rest) =
        some (Document.ofMembers members, rest)
  | [], hne, _, _, _, _ => absurd rfl hne
  | (name, item) :: members, _, hmembers, fuel, rest, hfuel => by
    have hitem := readValue?_write layout (level + 1) item hmembers.1
    have hmore := readMembers?_write layout level members
    simp only [writeMembers, List.length_append, List.length_cons] at hfuel
    have hpos := length_write_pos layout (level + 1) hmembers.1
    have hpos' := length_writeMoreMembers_pos layout level members
    -- As for items: the member and what follows it pay for this step of the reader.
    obtain ⟨fuel, rfl⟩ : ∃ f, fuel = f + 1 := ⟨fuel - 1, by omega⟩
    obtain ⟨inner, hinner, hpieces⟩ := readPieces?_quote name
      (':' :: (layout.afterColon ++ (layout.write (level + 1) item ++
        (layout.writeMoreMembers level members ++ rest))))
    have htext : layout.writeMembers level ((name, item) :: members) ++ rest =
        layout.gap (level + 1) ++ '"' :: inner := by
      rw [← hinner]
      simp [writeMembers]
    rw [htext, Document.readMembers?, skipSpace_append (layout.isSpace_gap (level + 1)),
      skipSpace_cons (by decide)]
    simp only [hpieces, Option.bind_eq_bind, Option.bind_some]
    rw [skipSpace_cons (by decide)]
    simp only
    rw [readValue?_append (fuel + 1) layout.isSpace_afterColon,
      hitem fuel _ (ends_writeMoreMembers layout level members rest) (by omega)]
    simp only [Option.bind_some, piecesText?_map_piece]
    cases members with
    | nil =>
        rw [writeMoreMembers, List.append_assoc, skipSpace_append (layout.isSpace_gap level)]
        rfl
    | cons next members =>
        have hcomma : layout.writeMoreMembers level (next :: members) =
            ',' :: layout.writeMembers level (next :: members) := rfl
        rw [hcomma, List.length_cons] at hfuel
        have hrest := hmore (by simp) hmembers.2 fuel rest (by omega)
        rw [hcomma, List.cons_append, skipSpace_cons (by decide)]
        simp only [hrest]
        rfl

end

end Layout

/-! ## The two texts -/

theorem Layout.read?_write (layout : Layout) {value : Value} (hvalue : value.Integral) :
    Document.read? (layout.write 0 value) = some (.ofValue value) := by
  have hends : Lexeme.Ends [] := by
    intro c hc
    cases hc
  have hread := layout.readValue?_write 0 value hvalue
    (2 * (layout.write 0 value).length + 1) [] hends (by omega)
  rw [List.append_nil] at hread
  rw [Document.read?, hread]
  rfl

theorem Document.parse?_compactText {value : Value} (hvalue : value.Integral) :
    Document.parse? value.compactText = some (.ofValue value) := by
  rw [Document.parse?, Value.compactText, String.toList_ofList, ← Layout.write_compact 0,
    Layout.read?_write _ hvalue]

theorem Document.parse?_indentedText {value : Value} (hvalue : value.Integral) :
    Document.parse? value.indentedText = some (.ofValue value) := by
  rw [Document.parse?, Value.indentedText, String.toList_ofList, ← Layout.write_indented 0,
    Layout.read?_write _ hvalue]

/-! ## The compact text is one line -/

mutual

theorem Value.newline_not_mem_compact : (value : Value) → value.Integral → '\n' ∉ value.compact
  | .null, _ => by decide
  | .bool true, _ => by decide
  | .bool false, _ => by decide
  | .number value, hvalue => by
    intro hmem
    rcases Number.isDigit_or_of_mem_text hvalue hmem with hdigit | hminus
    · exact absurd hdigit (by decide)
    · exact absurd hminus (by decide)
  | .string text, _ => newline_not_mem_quote text
  | .array [], _ => by decide
  | .array (item :: items), hvalue => by
    have hitem := newline_not_mem_compact item hvalue.1
    have hitems := newline_not_mem_compactMoreItems items hvalue.2
    simp [compact, compactItems, hitem, hitems]
  | .object [], _ => by decide
  | .object ((name, item) :: members), hvalue => by
    have hitem := newline_not_mem_compact item hvalue.1
    have hmembers := newline_not_mem_compactMoreMembers members hvalue.2
    simp [compact, compactMembers, newline_not_mem_quote, hitem, hmembers]

theorem Value.newline_not_mem_compactMoreItems :
    (items : List Value) → IntegralItems items → '\n' ∉ compactMoreItems items
  | [], _ => by decide
  | item :: items, hitems => by
    have hitem := newline_not_mem_compact item hitems.1
    have hmore := newline_not_mem_compactMoreItems items hitems.2
    simp [compactMoreItems, hitem, hmore]

theorem Value.newline_not_mem_compactMoreMembers :
    (members : List (String × Value)) → IntegralMembers members →
      '\n' ∉ compactMoreMembers members
  | [], _ => by decide
  | (name, item) :: members, hmembers => by
    have hitem := newline_not_mem_compact item hmembers.1
    have hmore := newline_not_mem_compactMoreMembers members hmembers.2
    simp [compactMoreMembers, newline_not_mem_quote, hitem, hmore]

end

end EditorShell.Json
