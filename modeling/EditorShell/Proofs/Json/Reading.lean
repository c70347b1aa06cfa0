import EditorShell.Proofs.Json.Records
import Mathlib.Data.List.TakeWhile

/-!
# What a reader takes

A reader of documents goes by the first character that is no blank, and by what it can read after
it (`Document.Taken`).  Two things follow from this.

* What has been read of a text stays read when more text follows, if numbers still end where they
  did.  So of two texts that are documents neither is the beginning of the other one, unless the
  rest is blank (`Document.read?_eq_none_of_append`).
* A number that is read and has no point and no exponent fits a 64-bit word.  So a value that is
  read and has no doubles is one that is read back from its text (`Value.Read.integral`).

A value that is read has the members of its objects in order, and it nests no deeper than there was
room for; whoever writes it again gets a text that reads as the same value.
-/

namespace EditorShell.Json

/-! ## Numbers -/

namespace Lexeme

variable {text rest later : List Char}

theorem spanDigits_extend (hlater : Ends later) (text : List Char) :
    spanDigits (text ++ later) = ((spanDigits text).1, (spanDigits text).2 ++ later) := by
  induction text with
  | nil =>
      cases later with
      | nil => rfl
      | cons c later => simp [spanDigits, (hlater c rfl).1]
  | cons c text ih =>
      by_cases hc : c.isDigit = true
      · simp [spanDigits, hc, ih]
      · simp [spanDigits, hc]

/-- Digits that start with no zero are all taken. -/
theorem readWhole?_of_ne {c : Char} (hc : c ≠ '0') {digits : List Char}
    (hspan : spanDigits text = (c :: digits, rest)) :
    readWhole? text = some (c :: digits, rest) := by
  simp [readWhole?, hspan, hc]

theorem readWhole?_extend (hlater : Ends later) {whole : List Char}
    (hread : readWhole? text = some (whole, rest)) :
    readWhole? (text ++ later) = some (whole, rest ++ later) := by
  have hlonger := spanDigits_extend hlater text
  rcases hspan : spanDigits text with ⟨digits, behind⟩
  rw [hspan] at hlonger
  match digits with
  | [] => simp [readWhole?, hspan] at hread
  | c :: digits =>
      by_cases hzero : c = '0'
      · subst hzero
        cases digits with
        | nil =>
            simp only [readWhole?, hspan] at hread
            cases hread
            simp only [readWhole?, hlonger]
        | cons _ _ => simp [readWhole?, hspan] at hread
      · rw [readWhole?_of_ne hzero hspan] at hread
        cases hread
        exact readWhole?_of_ne hzero hlonger

/-- Without a point there is no fraction. -/
theorem readFraction?_of_ne {c : Char} (hc : c ≠ '.') (text : List Char) :
    readFraction? (c :: text) = some ([], c :: text) := by
  simp [readFraction?, hc]

theorem readFraction?_extend (hlater : Ends later) {fraction : List Char}
    (hread : readFraction? text = some (fraction, rest)) :
    readFraction? (text ++ later) = some (fraction, rest ++ later) := by
  cases text with
  | nil =>
      obtain ⟨rfl, rfl⟩ : fraction = [] ∧ rest = [] := by simpa [readFraction?, eq_comm] using hread
      exact readFraction?_of_ends hlater
  | cons c text =>
      by_cases hpoint : c = '.'
      · subst hpoint
        simp only [readFraction?, List.cons_append, spanDigits_extend hlater] at hread ⊢
        generalize spanDigits text = span at hread ⊢
        obtain ⟨digits, behind⟩ := span
        cases digits with
        | nil => cases hread
        | cons d digits =>
            cases hread
            rfl
      · rw [readFraction?_of_ne hpoint] at hread
        cases hread
        exact readFraction?_of_ne hpoint _

theorem readExponentDigits?_extend (hlater : Ends later) {negative : Bool}
    {exponent? : Option (Bool × List Char)}
    (hread : readExponentDigits? negative text = some (exponent?, rest)) :
    readExponentDigits? negative (text ++ later) = some (exponent?, rest ++ later) := by
  unfold readExponentDigits? at hread ⊢
  rw [spanDigits_extend hlater]
  generalize spanDigits text = span at hread ⊢
  obtain ⟨digits, behind⟩ := span
  cases digits with
  | nil => cases hread
  | cons d digits =>
      cases hread
      rfl

/-- Without a sign the digits of the exponent follow its mark. -/
theorem readExponent?_of_ne {mark sign : Char} (hmark : mark = 'e' ∨ mark = 'E')
    (hplus : sign ≠ '+') (hminus : sign ≠ '-') (text : List Char) :
    readExponent? (mark :: sign :: text) = readExponentDigits? false (sign :: text) := by
  simp [readExponent?, hmark, hplus, hminus]

theorem readExponent?_extend (hlater : Ends later) {exponent? : Option (Bool × List Char)}
    (hread : readExponent? text = some (exponent?, rest)) :
    readExponent? (text ++ later) = some (exponent?, rest ++ later) := by
  cases text with
  | nil =>
      obtain ⟨rfl, rfl⟩ : exponent? = none ∧ rest = [] := by
        simpa [readExponent?, eq_comm] using hread
      exact readExponent?_of_ends hlater
  | cons c text =>
      by_cases hmark : c = 'e' ∨ c = 'E'
      · cases text with
        | nil => simp [readExponent?, hmark, readExponentDigits?, spanDigits] at hread
        | cons sign text =>
            by_cases hplus : sign = '+'
            · subst hplus
              simp only [readExponent?, hmark, if_true, List.cons_append] at hread ⊢
              exact readExponentDigits?_extend hlater hread
            · -- The digits may begin here or after a sign, and the reader looks no further than the
              -- sign.
              by_cases hminus : sign = '-'
              · subst hminus
                simp only [readExponent?, hmark, if_true, List.cons_append] at hread ⊢
                exact readExponentDigits?_extend hlater hread
              · rw [readExponent?_of_ne hmark hplus hminus] at hread
                rw [List.cons_append, List.cons_append,
                  readExponent?_of_ne hmark hplus hminus]
                exact readExponentDigits?_extend hlater hread
      · simp only [readExponent?, hmark, if_false, Option.some.injEq, Prod.mk.injEq] at hread
        obtain ⟨rfl, rfl⟩ := hread
        simp [readExponent?, hmark]

theorem readUnsigned?_extend (hlater : Ends later) {negative : Bool} {lexeme : Lexeme}
    (hread : readUnsigned? negative text = some (lexeme, rest)) :
    readUnsigned? negative (text ++ later) = some (lexeme, rest ++ later) := by
  simp only [readUnsigned?, Option.bind_eq_bind, Option.bind_eq_some_iff, Prod.exists] at hread
  obtain ⟨whole, behindWhole, hwhole, fraction, behindFraction, hfraction, exponent?, behind,
    hexponent, hlexeme⟩ := hread
  cases hlexeme
  simp [readUnsigned?, readWhole?_extend hlater hwhole, readFraction?_extend hlater hfraction,
    readExponent?_extend hlater hexponent]

/-- Without a minus sign a number is its digits. -/
theorem read?_of_ne {c : Char} (hc : c ≠ '-') (text : List Char) :
    read? (c :: text) = readUnsigned? false (c :: text) := by
  simp [read?, hc]

/-- A number that has been read stays read when text follows before which it ends. -/
theorem read?_extend (hlater : Ends later) {lexeme : Lexeme}
    (hread : read? text = some (lexeme, rest)) :
    read? (text ++ later) = some (lexeme, rest ++ later) := by
  cases text with
  | nil => cases hread
  | cons c text =>
      by_cases hminus : c = '-'
      · subst hminus
        exact readUnsigned?_extend hlater hread
      · rw [read?_of_ne hminus] at hread
        rw [List.cons_append, read?_of_ne hminus]
        exact readUnsigned?_extend hlater hread

/-- A number starts with a digit or with the minus sign. -/
theorem exists_head_of_read? {lexeme : Lexeme} (hread : read? text = some (lexeme, rest)) :
    ∃ c more, text = c :: more ∧ (c.isDigit = true ∨ c = '-') := by
  cases text with
  | nil => cases hread
  | cons c text =>
      refine ⟨c, text, rfl, ?_⟩
      by_cases hminus : c = '-'
      · exact .inr hminus
      · refine .inl (Decidable.byContradiction fun hdigit => ?_)
        rw [read?_of_ne hminus] at hread
        simp [readUnsigned?, readWhole?, spanDigits, hdigit] at hread

theorem collect_lt {limit : Nat} (digits : List Char) {significand : Nat}
    (hlt : significand < limit) : (collect limit significand digits).1 < limit := by
  induction digits generalizing significand with
  | nil => exact hlt
  | cons c digits ih =>
      rw [collect]
      split
      · rename_i hnext
        exact ih hnext
      · exact hlt

theorem double?_ne_int (negative : Bool) (significand : Nat) (exponent value : Int) :
    double? negative significand exponent ≠ some (.int value) := by
  intro heq
  obtain ⟨scaled, -, hvalue⟩ := Option.map_eq_some_iff.1 heq
  cases hvalue

theorem integral_of_integer {negative : Bool} {magnitude : Nat} {value : Int}
    (hmagnitude : magnitude < Nat.pow 2 64)
    (hvalue : integer negative magnitude = some (.int value)) : (Number.int value).Integral := by
  show -(Nat.pow 2 63 : Int) ≤ value ∧ value < Nat.pow 2 64
  have hwords : (Nat.pow 2 63 : Int) < Nat.pow 2 64 := by decide
  cases negative with
  | false =>
      obtain rfl : (magnitude : Int) = value := by simpa [integer] using hvalue
      omega
  | true =>
      by_cases hdouble : magnitude = 0 ∨ Nat.pow 2 63 < magnitude
      · rw [integer, if_neg (by decide), if_pos hdouble] at hvalue
        exact absurd hvalue (double?_ne_int _ _ _ _)
      · rw [integer, if_neg (by decide), if_neg hdouble] at hvalue
        obtain rfl : -(magnitude : Int) = value := by simpa using hvalue
        omega

/-- An integer that is read fits a 64-bit word. -/
theorem integral_of_value? {lexeme : Lexeme} {value : Int}
    (hvalue : lexeme.value? = some (.int value)) : (Number.int value).Integral := by
  rw [value?] at hvalue
  rcases hwhole : collect (Nat.pow 2 64) 0 lexeme.whole with ⟨whole, unfit⟩
  rcases hfraction : collect (Nat.pow 2 64) whole lexeme.fraction with ⟨significand, dropped⟩
  simp only [hwhole, hfraction] at hvalue
  by_cases hplain : unfit = 0 ∧ lexeme.fraction = [] ∧ lexeme.exponent? = none
  · rw [if_pos hplain] at hvalue
    have hlt := collect_lt lexeme.whole (show 0 < Nat.pow 2 64 by decide)
    rw [hwhole] at hlt
    exact integral_of_integer hlt hvalue
  · -- Everything else is a double, or is refused.
    rw [if_neg hplain] at hvalue
    cases hexponent : lexeme.exponent? with
    | none =>
        rw [hexponent] at hvalue
        exact absurd hvalue (double?_ne_int _ _ _ _)
    | some exponent =>
        simp only [hexponent] at hvalue
        split at hvalue
        · split at hvalue
          · cases hvalue
          · exact absurd hvalue (double?_ne_int _ _ _ _)
        · exact absurd hvalue (double?_ne_int _ _ _ _)

end Lexeme

/-! ## Strings and blanks -/

section Extending

open Layout (skipSpace_cons)

variable {text rest later : List Char}

/-- A string that has been read stays read. -/
theorem readPieces?_extend {pieces : List Piece}
    (hread : readPieces? text = some (pieces, rest)) :
    readPieces? (text ++ later) = some (pieces, rest ++ later) := by
  fun_induction readPieces? text generalizing pieces rest with
  | case1 => cases hread
  | case2 tail =>
      cases hread
      rfl
  | case3 a b c d tail ih =>
      simp only [Option.bind_eq_bind, Option.bind_eq_some_iff, Prod.exists] at hread
      obtain ⟨code, hcode, more, behind, hmore, heq⟩ := hread
      cases heq
      simp [readPieces?, hcode, ih hmore]
  | case4 letter tail hnotUnit ih =>
      simp only [Option.bind_eq_bind, Option.bind_eq_some_iff, Prod.exists] at hread
      obtain ⟨c, hc, more, behind, hmore, heq⟩ := hread
      cases heq
      -- The letter is one of an escape, so no code can come to stand behind it.
      have hletter : letter ≠ 'u' := by
        rintro rfl
        cases hc
      simp [readPieces?, hletter, hc, ih hmore]
  | case5 => cases hread
  | case6 c tail hquote hunit hescape hcontrol ih =>
      simp only [Option.bind_eq_bind, Option.bind_eq_some_iff, Prod.exists] at hread
      obtain ⟨more, behind, hmore, heq⟩ := hread
      cases heq
      have hslash : c ≠ '\\' := by
        rintro rfl
        cases tail with
        | nil => cases hmore
        | cons d tail => exact hescape d tail rfl rfl
      simp [readPieces?, hslash, hcontrol, ih hmore]

/-- Where something is left behind the blanks, more text does not change what comes next. -/
theorem skipSpace_extend {c : Char} (hskip : skipSpace text = c :: rest) :
    skipSpace (text ++ later) = c :: (rest ++ later) := by
  induction text with
  | nil => cases hskip
  | cons d text ih =>
      by_cases hd : isSpace d = true
      · rw [skipSpace, List.dropWhile_cons_of_pos hd] at hskip
        rw [List.cons_append, skipSpace, List.dropWhile_cons_of_pos hd]
        exact ih hskip
      · rw [skipSpace_cons (by simpa using hd)] at hskip
        cases hskip
        exact skipSpace_cons (by simpa using hd) _

end Extending

/-! ## Documents -/

namespace Document

open Layout (skipSpace_cons skipSpace_skipSpace readItems?_skipSpace readMembers?_skipSpace
  readValue?_array readValue?_object readValue?_of_number)

variable {fuel : Nat} {text rest : List Char}

/-- What a reader takes a text that starts with no blank for, and the text behind; the parts of an
array or an object are read with this fuel. -/
inductive Taken (fuel : Nat) : List Char → Document → List Char → Prop
  | null (rest : List Char) : Taken fuel ('n' :: 'u' :: 'l' :: 'l' :: rest) .null rest
  | true (rest : List Char) : Taken fuel ('t' :: 'r' :: 'u' :: 'e' :: rest) (.bool Bool.true) rest
  | false (rest : List Char) :
      Taken fuel ('f' :: 'a' :: 'l' :: 's' :: 'e' :: rest) (.bool Bool.false) rest
  | string {text rest : List Char} {pieces : List Piece}
      (hpieces : readPieces? text = some (pieces, rest)) :
      Taken fuel ('"' :: text) (.string (piecesText? pieces)) rest
  | emptyArray {text rest : List Char} (hclose : skipSpace text = ']' :: rest) :
      Taken fuel ('[' :: text) (.array []) rest
  | array {text inner rest : List Char} {c : Char} {items : List Document}
      (hopen : skipSpace text = c :: inner) (hc : c ≠ ']')
      (hitems : readItems? fuel text = some (items, rest)) :
      Taken fuel ('[' :: text) (.array items) rest
  | emptyObject {text rest : List Char} (hclose : skipSpace text = '}' :: rest) :
      Taken fuel ('{' :: text) (.object []) rest
  | object {text inner rest : List Char} {c : Char} {members : List (Option String × Document)}
      (hopen : skipSpace text = c :: inner) (hc : c ≠ '}')
      (hmembers : readMembers? fuel text = some (members, rest)) :
      Taken fuel ('{' :: text) (.object members) rest
  | number {text rest : List Char} {lexeme : Lexeme}
      (hread : Lexeme.read? text = some (lexeme, rest)) :
      Taken fuel text (.number lexeme.value?) rest

theorem readItems?_nil (fuel : Nat) : readItems? fuel [] = none := by
  cases fuel with
  | zero => rfl
  | succ fuel => cases fuel <;> rfl

theorem readMembers?_nil (fuel : Nat) : readMembers? fuel [] = none := by
  cases fuel <;> rfl

theorem readValue?_skipSpace (fuel : Nat) (text : List Char) :
    readValue? fuel (skipSpace text) = readValue? fuel text := by
  cases fuel with
  | zero => rfl
  | succ fuel => rw [readValue?, readValue?, skipSpace_skipSpace]

theorem taken_of_readValue? {document : Document}
    (hread : readValue? (fuel + 1) text = some (document, rest)) :
    Taken fuel (skipSpace text) document rest := by
  have hstart := readValue?_skipSpace (fuel + 1) text
  rw [hread] at hstart
  rw [readValue?] at hread
  -- The reader branches on the first character behind the blanks, and so do the cases.
  generalize skipSpace text = start at hread hstart ⊢
  split at hread
  · cases hread
    exact .null rest
  · cases hread
    exact .true rest
  · cases hread
    exact .false rest
  · simp only [Option.bind_eq_bind, Option.bind_eq_some_iff, Prod.exists] at hread
    obtain ⟨pieces, behind, hpieces, heq⟩ := hread
    cases heq
    exact .string hpieces
  · rename_i text
    cases hskip : skipSpace text with
    | nil => simp [hskip, readItems?_nil] at hread
    | cons c inner =>
        by_cases hclose : c = ']'
        · subst hclose
          simp only [hskip] at hread
          cases hread
          exact .emptyArray hskip
        · rw [readValue?_array fuel (by simpa [hskip] using hclose)] at hstart
          obtain ⟨⟨items, behind⟩, hitems, heq⟩ := Option.map_eq_some_iff.1 hstart
          cases heq
          exact .array hskip hclose hitems
  · rename_i text
    cases hskip : skipSpace text with
    | nil => simp [hskip, readMembers?_nil] at hread
    | cons c inner =>
        by_cases hclose : c = '}'
        · subst hclose
          simp only [hskip] at hread
          cases hread
          exact .emptyObject hskip
        · rw [readValue?_object fuel (by simpa [hskip] using hclose)] at hstart
          obtain ⟨⟨members, behind⟩, hmembers, heq⟩ := Option.map_eq_some_iff.1 hstart
          cases heq
          exact .object hskip hclose hmembers
  · simp only [readNumber?, Option.bind_eq_bind, Option.bind_eq_some_iff, Prod.exists] at hread
    obtain ⟨lexeme, behind, hlexeme, heq⟩ := hread
    cases heq
    exact .number hlexeme

/-- A reader takes a text for nothing else. -/
theorem readValue?_of_taken {document : Document} (htaken : Taken fuel text document rest) :
    readValue? (fuel + 1) text = some (document, rest) := by
  cases htaken with
  | null => rfl
  | true => rfl
  | false => rfl
  | string hpieces =>
      rw [readValue?, skipSpace_cons (by decide)]
      simp [hpieces]
  | emptyArray hclose =>
      rw [readValue?, skipSpace_cons (by decide)]
      simp only [hclose]
  | array hopen hc hitems =>
      rw [readValue?_array fuel (by simpa [hopen] using hc), hitems]
      rfl
  | emptyObject hclose =>
      rw [readValue?, skipSpace_cons (by decide)]
      simp only [hclose]
  | object hopen hc hmembers =>
      rw [readValue?_object fuel (by simpa [hopen] using hc), hmembers]
      rfl
  -- A number has no first character of its own, so the reader tries it last.
  | number hread =>
      obtain ⟨c, more, rfl, hc⟩ := Lexeme.exists_head_of_read? hread
      rw [readValue?_of_number hc, readNumber?, hread]
      rfl

theorem readValue?_succ_iff {document : Document} :
    readValue? (fuel + 1) text = some (document, rest) ↔
      Taken fuel (skipSpace text) document rest := by
  refine ⟨taken_of_readValue?, fun htaken => ?_⟩
  rw [← readValue?_skipSpace, readValue?_of_taken htaken]

theorem readItems?_succ_iff {items : List Document} :
    readItems? (fuel + 1) text = some (items, rest) ↔
      ∃ item behind, readValue? fuel text = some (item, behind) ∧
        (skipSpace behind = ']' :: rest ∧ items = [item] ∨
          ∃ next others, skipSpace behind = ',' :: next ∧
            readItems? fuel next = some (others, rest) ∧ items = item :: others) := by
  simp only [readItems?, Option.bind_eq_bind, Option.bind_eq_some_iff, Prod.exists]
  refine exists_congr fun item => exists_congr fun behind => and_congr_right fun _ => ?_
  generalize skipSpace behind = start
  constructor
  · intro hread
    split at hread
    · cases hread
      exact .inl ⟨rfl, rfl⟩
    · simp only [Option.bind_eq_some_iff, Prod.exists] at hread
      obtain ⟨others, behind, hothers, heq⟩ := hread
      cases heq
      exact .inr ⟨_, others, rfl, hothers, rfl⟩
    · cases hread
  · rintro (⟨rfl, rfl⟩ | ⟨next, others, rfl, hothers, rfl⟩)
    · rfl
    · simp [hothers]

theorem readMembers?_succ_iff {members : List (Option String × Document)} :
    readMembers? (fuel + 1) text = some (members, rest) ↔
      ∃ name pieces colon inner item behind, skipSpace text = '"' :: name ∧
        readPieces? name = some (pieces, colon) ∧ skipSpace colon = ':' :: inner ∧
        readValue? fuel inner = some (item, behind) ∧
        (skipSpace behind = '}' :: rest ∧ members = [(piecesText? pieces, item)] ∨
          ∃ next others, skipSpace behind = ',' :: next ∧
            readMembers? fuel next = some (others, rest) ∧
            members = (piecesText? pieces, item) :: others) := by
  rw [readMembers?]
  generalize skipSpace text = start
  -- Each step of the reader that can fail gives one of the facts on the right.
  constructor
  · intro hread
    split at hread
    · rename_i name
      simp only [Option.bind_eq_bind, Option.bind_eq_some_iff, Prod.exists] at hread
      obtain ⟨pieces, colon, hpieces, hread⟩ := hread
      split at hread
      · rename_i inner hcolon
        simp only [Option.bind_eq_some_iff, Prod.exists] at hread
        obtain ⟨item, behind, hitem, hread⟩ := hread
        refine ⟨name, pieces, colon, inner, item, behind, rfl, hpieces, hcolon, hitem, ?_⟩
        split at hread
        · rename_i hclose
          cases hread
          exact .inl ⟨hclose, rfl⟩
        · rename_i hcomma
          simp only [Option.bind_eq_some_iff, Prod.exists] at hread
          obtain ⟨others, behind, hothers, heq⟩ := hread
          cases heq
          exact .inr ⟨_, others, hcomma, hothers, rfl⟩
        · cases hread
      · cases hread
    · cases hread
  · rintro ⟨name, pieces, colon, inner, item, behind, rfl, hpieces, hcolon, hitem, hmore⟩
    simp only [hpieces, Option.bind_eq_bind, Option.bind_some, hcolon, hitem]
    rcases hmore with ⟨hclose, rfl⟩ | ⟨next, others, hcomma, hothers, rfl⟩
    · simp only [hclose]
    · simp [hcomma, hothers]

/-! ### More text behind -/

/-- What is read with this fuel stays read, with more fuel as well, when `later` follows. -/
structure Extends (fuel : Nat) (later : List Char) : Prop where
  value : ∀ {more : Nat} {text rest : List Char} {document : Document}, fuel ≤ more →
    readValue? fuel text = some (document, rest) →
    readValue? more (text ++ later) = some (document, rest ++ later)
  items : ∀ {more : Nat} {text rest : List Char} {items : List Document}, fuel ≤ more →
    readItems? fuel text = some (items, rest) →
    readItems? more (text ++ later) = some (items, rest ++ later)
  members : ∀ {more : Nat} {text rest : List Char} {members : List (Option String × Document)},
    fuel ≤ more → readMembers? fuel text = some (members, rest) →
    readMembers? more (text ++ later) = some (members, rest ++ later)

theorem Taken.exists_head {document : Document} (htaken : Taken fuel text document rest) :
    ∃ c more, text = c :: more := by
  cases htaken with
  | number hread =>
      obtain ⟨c, more, htext, -⟩ := Lexeme.exists_head_of_read? hread
      exact ⟨c, more, htext⟩
  | _ => exact ⟨_, _, rfl⟩

section Extends

variable {later : List Char} {more : Nat}

theorem Taken.extend (hlater : Lexeme.Ends later) (hfuel : Extends fuel later) (hle : fuel ≤ more)
    {document : Document} (htaken : Taken fuel text document rest) :
    Taken more (text ++ later) document (rest ++ later) := by
  cases htaken with
  | null => exact .null _
  | true => exact .true _
  | false => exact .false _
  | string hpieces => exact .string (readPieces?_extend hpieces)
  | emptyArray hclose => exact .emptyArray (skipSpace_extend hclose)
  | array hopen hc hitems => exact .array (skipSpace_extend hopen) hc (hfuel.items hle hitems)
  | emptyObject hclose => exact .emptyObject (skipSpace_extend hclose)
  | object hopen hc hmembers =>
      exact .object (skipSpace_extend hopen) hc (hfuel.members hle hmembers)
  | number hread => exact .number (Lexeme.read?_extend hlater hread)

theorem extends_succ (hlater : Lexeme.Ends later) (hfuel : Extends fuel later) :
    Extends (fuel + 1) later where
  value := by
    intro more text rest document hle hread
    obtain ⟨more, rfl⟩ : ∃ m, more = m + 1 := ⟨more - 1, by omega⟩
    rw [readValue?_succ_iff] at hread ⊢
    -- What was read starts with a character, so the blanks end before the text that comes behind.
    obtain ⟨c, inner, hstart⟩ := hread.exists_head
    have hlonger := hread.extend hlater hfuel (Nat.le_of_succ_le_succ hle)
    rwa [skipSpace_extend hstart, ← List.cons_append, ← hstart]
  items := by
    intro more text rest items hle hread
    obtain ⟨more, rfl⟩ : ∃ m, more = m + 1 := ⟨more - 1, by omega⟩
    have hle := Nat.le_of_succ_le_succ hle
    rw [readItems?_succ_iff] at hread ⊢
    obtain ⟨item, behind, hitem, hmore⟩ := hread
    refine ⟨item, behind ++ later, hfuel.value hle hitem, ?_⟩
    rcases hmore with ⟨hclose, rfl⟩ | ⟨next, others, hcomma, hothers, rfl⟩
    · exact .inl ⟨skipSpace_extend hclose, rfl⟩
    · exact .inr ⟨_, others, skipSpace_extend hcomma, hfuel.items hle hothers, rfl⟩
  members := by
    intro more text rest members hle hread
    obtain ⟨more, rfl⟩ : ∃ m, more = m + 1 := ⟨more - 1, by omega⟩
    have hle := Nat.le_of_succ_le_succ hle
    rw [readMembers?_succ_iff] at hread ⊢
    obtain ⟨name, pieces, colon, inner, item, behind, hquote, hpieces, hcolon, hitem, hmore⟩ :=
      hread
    refine ⟨_, pieces, _, _, item, _, skipSpace_extend hquote, readPieces?_extend hpieces,
      skipSpace_extend hcolon, hfuel.value hle hitem, ?_⟩
    rcases hmore with ⟨hclose, rfl⟩ | ⟨next, others, hcomma, hothers, rfl⟩
    · exact .inl ⟨skipSpace_extend hclose, rfl⟩
    · exact .inr ⟨_, others, skipSpace_extend hcomma, hfuel.members hle hothers, rfl⟩

theorem extends_of_ends (hlater : Lexeme.Ends later) (fuel : Nat) : Extends fuel later := by
  induction fuel with
  | zero =>
      constructor
      all_goals
        intro more text rest read _ hread
        cases hread
  | succ fuel ih => exact extends_succ hlater ih

/-- The beginning of a document is no document, unless only blanks are left out. -/
theorem read?_eq_none_of_append (hlater : Lexeme.Ends later) (hblank : skipSpace later ≠ [])
    {document : Document} (hread : read? (text ++ later) = some document) : read? text = none := by
  cases hshorter : read? text with
  | none => rfl
  | some other =>
      simp only [read?, Option.bind_eq_bind, Option.bind_eq_some_iff, Prod.exists,
        Option.ite_none_right_eq_some, List.isEmpty_iff] at hread hshorter
      obtain ⟨_, behind, hlong, hend, -⟩ := hread
      obtain ⟨_, rest, hshort, hrest, -⟩ := hshorter
      have hfuel : 2 * text.length + 2 ≤ 2 * (text ++ later).length + 2 := by
        rw [List.length_append]
        omega
      have hlonger := (extends_of_ends hlater _).value hfuel hshort
      rw [hlong] at hlonger
      obtain rfl : behind = rest ++ later := congrArg Prod.snd (Option.some.inj hlonger)
      have hblanks : ∀ c ∈ rest, isSpace c = true := List.dropWhile_eq_nil_iff.1 hrest
      rw [Layout.skipSpace_append hblanks] at hend
      exact absurd hend hblank

end Extends

/-! ### Numbers in range -/

/-- Every integer in the document fits a 64-bit word. -/
inductive InRange : Document → Prop
  | null : InRange .null
  | bool (value : Bool) : InRange (.bool value)
  | number {number? : Option Number}
      (hint : ∀ value, number? = some (.int value) → (Number.int value).Integral) :
      InRange (.number number?)
  | string (text? : Option String) : InRange (.string text?)
  | array {items : List Document} (hitems : ∀ item ∈ items, InRange item) : InRange (.array items)
  | object {members : List (Option String × Document)}
      (hmembers : ∀ member ∈ members, InRange member.2) : InRange (.object members)

/-- What is read with this fuel has its integers in range. -/
structure ReadsInRange (fuel : Nat) : Prop where
  value : ∀ {text rest : List Char} {document : Document},
    readValue? fuel text = some (document, rest) → document.InRange
  items : ∀ {text rest : List Char} {items : List Document},
    readItems? fuel text = some (items, rest) → ∀ item ∈ items, item.InRange
  members : ∀ {text rest : List Char} {members : List (Option String × Document)},
    readMembers? fuel text = some (members, rest) → ∀ member ∈ members, member.2.InRange

theorem Taken.inRange (hfuel : ReadsInRange fuel) {document : Document}
    (htaken : Taken fuel text document rest) : document.InRange := by
  cases htaken with
  | null => exact .null
  | true => exact .bool _
  | false => exact .bool _
  | string => exact .string _
  | emptyArray => exact .array (by simp)
  | array _ _ hitems => exact .array (hfuel.items hitems)
  | emptyObject => exact .object (by simp)
  | object _ _ hmembers => exact .object (hfuel.members hmembers)
  | number => exact .number fun _ hvalue => Lexeme.integral_of_value? hvalue

theorem readsInRange_succ (hfuel : ReadsInRange fuel) : ReadsInRange (fuel + 1) where
  value hread := (readValue?_succ_iff.1 hread).inRange hfuel
  items := by
    intro text rest items hread
    obtain ⟨item, behind, hitem, hmore⟩ := readItems?_succ_iff.1 hread
    rcases hmore with ⟨-, rfl⟩ | ⟨next, others, -, hothers, rfl⟩
    · simpa using hfuel.value hitem
    · exact List.forall_mem_cons.2 ⟨hfuel.value hitem, hfuel.items hothers⟩
  members := by
    intro text rest members hread
    obtain ⟨_, _, _, _, item, behind, -, -, -, hitem, hmore⟩ := readMembers?_succ_iff.1 hread
    rcases hmore with ⟨-, rfl⟩ | ⟨next, others, -, hothers, rfl⟩
    · simpa using hfuel.value hitem
    · exact List.forall_mem_cons.2 ⟨hfuel.value hitem, hfuel.members hothers⟩

theorem readsInRange (fuel : Nat) : ReadsInRange fuel := by
  induction fuel with
  | zero =>
      constructor
      all_goals
        intro text rest read hread
        cases hread
  | succ fuel ih => exact readsInRange_succ ih

theorem inRange_of_parse? {text : String} {document : Document}
    (hparse : parse? text = some document) : document.InRange := by
  simp only [parse?, read?, Option.bind_eq_bind, Option.bind_eq_some_iff, Prod.exists,
    Option.ite_none_right_eq_some, Option.some.injEq] at hparse
  obtain ⟨_, rest, hread, -, rfl⟩ := hparse
  exact (readsInRange _).value hread

end Document

/-! ## Values -/

/-- The value holds a double. -/
inductive Value.Floating : Value → Prop
  | number (bits : UInt64) : Floating (.number (.double bits))
  | array {item : Value} {items : List Value} (hmem : item ∈ items) (hitem : Floating item) :
      Floating (.array items)
  | object {member : String × Value} {members : List (String × Value)} (hmem : member ∈ members)
      (hmember : Floating member.2) : Floating (.object members)

/-- What a reader of values with this room makes of a document. -/
structure Value.Read (room : Nat) (value : Value) : Prop where
  ordered : value.Ordered
  depth_le : value.depth ≤ room
  integral : ¬value.Floating → value.Integral

namespace Value

theorem integralItems_iff {items : List Value} :
    IntegralItems items ↔ ∀ item ∈ items, item.Integral := by
  induction items with
  | nil => simp [IntegralItems]
  | cons item items ih => simp [IntegralItems, ih]

theorem orderedItems_iff {items : List Value} :
    OrderedItems items ↔ ∀ item ∈ items, item.Ordered := by
  induction items with
  | nil => simp [OrderedItems]
  | cons item items ih => simp [OrderedItems, ih]

theorem itemsDepth_le_iff {items : List Value} {room : Nat} :
    itemsDepth items ≤ room ↔ ∀ item ∈ items, item.depth ≤ room := by
  induction items with
  | nil => simp [itemsDepth]
  | cons item items ih => rw [itemsDepth, Nat.max_le, ih, List.forall_mem_cons]

theorem membersDepth_le_iff {members : List (String × Value)} {room : Nat} :
    membersDepth members ≤ room ↔ ∀ member ∈ members, member.2.depth ≤ room := by
  induction members with
  | nil => simp [membersDepth]
  | cons member members ih => rw [membersDepth, Nat.max_le, ih, List.forall_mem_cons]

/-- Only what is put into a table stands in it. -/
theorem mem_of_mem_foldl_put {members entries : List (String × Value)} {member : String × Value}
    (hmem : member ∈ members.foldl (fun stored entry => Table.put entry.1 entry.2 stored) entries) :
    member ∈ entries ∨ member ∈ members := by
  induction members generalizing entries with
  | nil => exact .inl hmem
  | cons head members ih =>
      rcases ih hmem with hput | hmem
      · rcases Table.mem_put hput with rfl | hentry
        · exact .inr (by simp)
        · exact .inl hentry
      · exact .inr (List.mem_cons_of_mem _ hmem)

theorem read_array {items : List Value} {room : Nat} (hitems : ∀ item ∈ items, Read room item) :
    Read (room + 1) (.array items) where
  ordered := orderedItems_iff.2 fun item hitem => (hitems item hitem).ordered
  depth_le := Nat.succ_le_succ (itemsDepth_le_iff.2 fun item hitem => (hitems item hitem).depth_le)
  integral hfloat := integralItems_iff.2 fun item hitem =>
    (hitems item hitem).integral fun hfloating => hfloat (.array hitem hfloating)

/-- The object of members that have been read has its members in order. -/
theorem read_ofMembers {members : List (String × Value)} {room : Nat}
    (hmembers : ∀ member ∈ members, Read room member.2) :
    Read (room + 1) (.ofMembers members) := by
  have hascending : Table.Ascending
      (members.foldl (fun stored entry => Table.put entry.1 entry.2 stored) []) := by
    rw [← Table.entries_ofList]
    exact (Table.ofList members).ascending
  have hread : ∀ member ∈ members.foldl (fun stored entry => Table.put entry.1 entry.2 stored) [],
      Read room member.2 := fun member hmem =>
    hmembers member ((mem_of_mem_foldl_put hmem).resolve_left List.not_mem_nil)
  exact
    { ordered := ⟨hascending,
        orderedMembers_iff.2 fun member hmem => (hread member hmem).ordered⟩
      depth_le := Nat.succ_le_succ
        (membersDepth_le_iff.2 fun member hmem => (hread member hmem).depth_le)
      integral := fun hfloat => integralMembers_iff.2 fun member hmem =>
        (hread member hmem).integral fun hfloating => hfloat (.object hmem hfloating) }

end Value

namespace Document

mutual

theorem read_of_value? : (document : Document) → document.InRange → ∀ {room : Nat} {value : Value},
    document.value? room = some value → Value.Read room value
  | .null, _, _, _, hvalue => by
    cases hvalue
    exact ⟨trivial, Nat.zero_le _, fun _ => trivial⟩
  | .bool _, _, _, _, hvalue => by
    cases hvalue
    exact ⟨trivial, Nat.zero_le _, fun _ => trivial⟩
  -- The document tells that an integer is in range; of a double no more is asked.
  | .number number?, .number hint, room, value, hvalue => by
    obtain ⟨number, rfl, rfl⟩ := Option.map_eq_some_iff.1 hvalue
    refine ⟨trivial, Nat.zero_le _, fun hfloat => ?_⟩
    cases number with
    | int value => exact hint value rfl
    | double bits => exact absurd (.number bits) hfloat
  | .string text?, _, _, _, hvalue => by
    obtain ⟨text, -, rfl⟩ := Option.map_eq_some_iff.1 hvalue
    exact ⟨trivial, Nat.zero_le _, fun _ => trivial⟩
  | .array items, .array hitems, room, value, hvalue => by
    rw [value?] at hvalue
    cases room with
    | zero => cases hvalue
    | succ room =>
        rw [if_neg (Nat.succ_ne_zero room)] at hvalue
        obtain ⟨values, hvalues, rfl⟩ := Option.map_eq_some_iff.1 hvalue
        exact Value.read_array (read_of_itemValues? items hitems hvalues)
  | .object members, .object hmembers, room, value, hvalue => by
    rw [value?] at hvalue
    cases room with
    | zero => cases hvalue
    | succ room =>
        rw [if_neg (Nat.succ_ne_zero room)] at hvalue
        obtain ⟨values, hvalues, rfl⟩ := Option.map_eq_some_iff.1 hvalue
        exact Value.read_ofMembers (read_of_memberValues? members hmembers hvalues)

theorem read_of_itemValues? : (items : List Document) → (∀ item ∈ items, item.InRange) →
    ∀ {room : Nat} {values : List Value}, itemValues? room items = some values →
      ∀ value ∈ values, Value.Read room value
  | [], _, _, _, hvalues => by
    cases hvalues
    simp
  | item :: items, hitems, room, values, hvalues => by
    rw [List.forall_mem_cons] at hitems
    simp only [itemValues?, Option.bind_eq_bind, Option.bind_eq_some_iff,
      Option.some.injEq] at hvalues
    obtain ⟨first, hfirst, others, hothers, rfl⟩ := hvalues
    exact List.forall_mem_cons.2
      ⟨read_of_value? item hitems.1 hfirst, read_of_itemValues? items hitems.2 hothers⟩

theorem read_of_memberValues? : (members : List (Option String × Document)) →
    (∀ member ∈ members, member.2.InRange) →
    ∀ {room : Nat} {values : List (String × Value)}, memberValues? room members = some values →
      ∀ value ∈ values, Value.Read room value.2
  | [], _, _, _, hvalues => by
    cases hvalues
    simp
  | (name?, item) :: members, hmembers, room, values, hvalues => by
    rw [List.forall_mem_cons] at hmembers
    simp only [memberValues?, Option.bind_eq_bind, Option.bind_eq_some_iff,
      Option.some.injEq] at hvalues
    obtain ⟨name, -, first, hfirst, others, hothers, rfl⟩ := hvalues
    exact List.forall_mem_cons.2
      ⟨read_of_value? item hmembers.1 hfirst, read_of_memberValues? members hmembers.2 hothers⟩

end

end Document

theorem Value.read_of_parse? {text : String} {value : Value}
    (hparse : Value.parse? text = some value) : Value.Read Document.maxDepth value := by
  simp only [Value.parse?, Option.bind_eq_bind, Option.bind_eq_some_iff] at hparse
  obtain ⟨document, hdocument, hvalue⟩ := hparse
  exact document.read_of_value? (Document.inRange_of_parse? hdocument) hvalue

end EditorShell.Json
