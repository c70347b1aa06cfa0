import EditorShell.Json.Number

/-!
# Integers read back

An integer is written in decimal digits, with a minus sign in front if it is negative.  Where the
digits end, a reader must see that they do: what follows may not go on with a digit, a point or an
exponent (`Lexeme.Ends`).  Then `Lexeme.read?` takes exactly the digits off the text, and their
value is the integer that was written, as long as it fits a signed or an unsigned 64-bit word.

Zero needs no case of its own in the writer, but it has one in the reader, which refuses every other
number that starts with a zero.
-/

namespace EditorShell.Json

/-- The number is an integer that fits a signed or an unsigned 64-bit word. -/
def Number.Integral : Number → Prop
  | .int value => -(Nat.pow 2 63 : Int) ≤ value ∧ value < Nat.pow 2 64
  | .double _ => False

instance : DecidablePred Number.Integral
  | .int value => inferInstanceAs (Decidable (_ ∧ value < _))
  | .double _ => inferInstanceAs (Decidable False)

namespace Lexeme

/-- A number that stands before this text ends there. -/
def Ends (rest : List Char) : Prop :=
  ∀ c ∈ rest.head?, c.isDigit = false ∧ c ≠ '.' ∧ c ≠ 'e' ∧ c ≠ 'E'

/-! ## The shape of the text -/

theorem spanDigits_append {digits rest : List Char} (hdigits : ∀ c ∈ digits, c.isDigit = true)
    (hrest : Ends rest) : spanDigits (digits ++ rest) = (digits, rest) := by
  induction digits with
  | nil =>
      cases rest with
      | nil => rfl
      | cons c rest => simp [spanDigits, (hrest c rfl).1]
  | cons c digits ih =>
      have hc : c.isDigit = true := hdigits c (by simp)
      have hspan := ih fun other hmem => hdigits other (by simp [hmem])
      simp [spanDigits, hc, hspan]

theorem readWhole?_digits (n : Nat) {rest : List Char} (hrest : Ends rest) :
    readWhole? (Decimal.digits n ++ rest) = some (Decimal.digits n, rest) := by
  have hspan : spanDigits (Decimal.digits n ++ rest) = (Decimal.digits n, rest) :=
    spanDigits_append (fun _ hmem => Decimal.isDigit_of_mem_digits hmem) hrest
  rcases Nat.eq_zero_or_pos n with rfl | hpos
  · have hzero : Decimal.digits 0 = ['0'] := by
      rw [Decimal.digits]
      rfl
    rw [hzero] at hspan ⊢
    simp only [readWhole?, hspan]
  · have hhead := Decimal.head_digits_ne_zero hpos
    rw [readWhole?, hspan]
    cases hdigits : Decimal.digits n with
    | nil => exact absurd hdigits (Decimal.digits_ne_nil n)
    | cons c more =>
        have hc : c ≠ '0' := by simpa [hdigits] using hhead
        simp [hc]

theorem readFraction?_of_ends {rest : List Char} (hrest : Ends rest) :
    readFraction? rest = some ([], rest) := by
  cases rest with
  | nil => rfl
  | cons c rest => simp [readFraction?, (hrest c rfl).2.1]

theorem readExponent?_of_ends {rest : List Char} (hrest : Ends rest) :
    readExponent? rest = some (none, rest) := by
  cases rest with
  | nil => rfl
  | cons c rest => simp [readExponent?, (hrest c rfl).2.2]

theorem readUnsigned?_digits (negative : Bool) (n : Nat) {rest : List Char} (hrest : Ends rest) :
    readUnsigned? negative (Decimal.digits n ++ rest) =
      some (⟨negative, Decimal.digits n, [], none⟩, rest) := by
  simp [readUnsigned?, readWhole?_digits n hrest, readFraction?_of_ends hrest,
    readExponent?_of_ends hrest]

theorem read?_intText (value : Int) {rest : List Char} (hrest : Ends rest) :
    read? (Number.intText value ++ rest) =
      some (⟨decide (value < 0), Decimal.digits value.natAbs, [], none⟩, rest) := by
  have hunsigned := fun negative => readUnsigned?_digits negative value.natAbs hrest
  unfold Number.intText
  split
  · rename_i hneg
    simp [read?, hunsigned, hneg]
  · rename_i hnonneg
    -- A digit comes first, so the sign is not read.
    cases hdigits : Decimal.digits value.natAbs with
    | nil => exact absurd hdigits (Decimal.digits_ne_nil _)
    | cons c more =>
        have hc : c.isDigit = true :=
          Decimal.isDigit_of_mem_digits (n := value.natAbs) (by simp [hdigits])
        have hminus : c ≠ '-' := by
          rintro rfl
          exact absurd hc (by decide)
        rw [hdigits] at hunsigned
        rw [List.cons_append, read?, ← List.cons_append, hunsigned, decide_eq_false hnonneg]
        simpa using hminus

/-! ## The value of the text -/

private theorem le_foldl_digits (digits : List Char) (significand : Nat) :
    significand ≤ digits.foldl (fun n c => n * 10 + Decimal.digitValue c) significand := by
  induction digits generalizing significand with
  | nil => exact Nat.le_refl _
  | cons c digits ih =>
      have := ih (significand * 10 + Decimal.digitValue c)
      rw [List.foldl_cons]
      omega

/-- Digits are dropped only when the number does not fit. -/
theorem collect_eq_of_lt {limit : Nat} (digits : List Char) {significand : Nat}
    (hlt : digits.foldl (fun n c => n * 10 + Decimal.digitValue c) significand < limit) :
    collect limit significand digits =
      (digits.foldl (fun n c => n * 10 + Decimal.digitValue c) significand, 0) := by
  induction digits generalizing significand with
  | nil => rfl
  | cons c digits ih =>
      rw [List.foldl_cons] at hlt ⊢
      have hnext : significand * 10 + Decimal.digitValue c < limit :=
        Nat.lt_of_le_of_lt (le_foldl_digits digits _) hlt
      rw [collect, if_pos hnext, ih hlt]

theorem collect_digits {limit n : Nat} (hlt : n < limit) :
    collect limit 0 (Decimal.digits n) = (n, 0) := by
  have hvalue : (Decimal.digits n).foldl (fun n c => n * 10 + Decimal.digitValue c) 0 = n :=
    Decimal.ofDigits_digits n
  rw [collect_eq_of_lt _ (by rw [hvalue]; exact hlt), hvalue]

theorem value?_digits {value : Int} (hvalue : (Number.int value).Integral) :
    value? ⟨decide (value < 0), Decimal.digits value.natAbs, [], none⟩ = some (.int value) := by
  have hlow : -(Nat.pow 2 63 : Int) ≤ value := hvalue.1
  have hhigh : value < Nat.pow 2 64 := hvalue.2
  have hwords : Nat.pow 2 63 < Nat.pow 2 64 := by decide
  have hcollect : collect (Nat.pow 2 64) 0 (Decimal.digits value.natAbs) = (value.natAbs, 0) :=
    collect_digits (by omega)
  simp only [value?, hcollect, integer, and_self, if_true]
  by_cases hneg : value < 0
  · have hsmall : ¬(value.natAbs = 0 ∨ Nat.pow 2 63 < value.natAbs) := by omega
    rw [decide_eq_true hneg, if_neg (by simp), if_neg hsmall]
    congr 2
    omega
  · rw [decide_eq_false hneg, if_pos (by simp)]
    congr 2
    omega

end Lexeme

/-- An integer is read back, and nothing of the text behind it is taken. -/
theorem Number.read?_text {number : Number} (hnumber : number.Integral) {rest : List Char}
    (hrest : Lexeme.Ends rest) :
    ∃ lexeme, Lexeme.read? (number.text ++ rest) = some (lexeme, rest) ∧
      lexeme.value? = some number := by
  cases number with
  | int value => exact ⟨_, Lexeme.read?_intText value hrest, Lexeme.value?_digits hnumber⟩
  | double bits => cases hnumber

/-- The text of an integer starts with a digit or with the minus sign. -/
theorem Number.exists_head_text {number : Number} (hnumber : number.Integral) :
    ∃ c rest, number.text = c :: rest ∧ (c.isDigit = true ∨ c = '-') := by
  cases number with
  | double bits => cases hnumber
  | int value =>
      simp only [Number.text, Number.intText]
      split
      · exact ⟨_, _, rfl, .inr rfl⟩
      · cases hdigits : Decimal.digits value.natAbs with
        | nil => exact absurd hdigits (Decimal.digits_ne_nil _)
        | cons c rest =>
            refine ⟨c, rest, rfl, .inl ?_⟩
            exact Decimal.isDigit_of_mem_digits (n := value.natAbs) (by simp [hdigits])

/-- The text of an integer has digits and the minus sign only. -/
theorem Number.isDigit_or_of_mem_text {number : Number} (hnumber : number.Integral) {c : Char}
    (hc : c ∈ number.text) : c.isDigit = true ∨ c = '-' := by
  cases number with
  | double bits => cases hnumber
  | int value =>
      simp only [Number.text, Number.intText] at hc
      split at hc
      · rcases List.mem_cons.1 hc with rfl | hc
        · exact .inr rfl
        · exact .inl (Decimal.isDigit_of_mem_digits hc)
      · exact .inl (Decimal.isDigit_of_mem_digits hc)

end EditorShell.Json
