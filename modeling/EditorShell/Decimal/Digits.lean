/-!
# Decimal digits

The digits of a natural number and the number that digits stand for.  Reading what was written
gives the number back (`ofDigits_digits`), and the first digit of a positive number is not a zero
(`head_digits_ne_zero`).
-/

namespace EditorShell.Decimal

/-- The character of a digit below ten. -/
def digitChar (digit : Nat) : Char := Char.ofNat (48 + digit)

/-- The digit of a character. -/
def digitValue (c : Char) : Nat := c.toNat - 48

/-- The decimal digits of a number, most significant first. -/
def digits (n : Nat) : List Char :=
  if n < 10 then [digitChar n] else digits (n / 10) ++ [digitChar (n % 10)]

/-- The number that a run of digits stands for. -/
def ofDigits (text : List Char) : Nat :=
  text.foldl (fun value c => value * 10 + digitValue c) 0

/-- A number that fits a 64-bit word, in digits and perhaps with a plus sign in front. -/
def word? (text : List Char) : Option Nat :=
  let digits := match text with
    | '+' :: digits => digits
    | digits => digits
  if digits.isEmpty || !digits.all Char.isDigit then none
  else
    let n := ofDigits digits
    if n < Nat.pow 2 64 then some n else none

/-- The decimal text of a number. -/
def text (n : Nat) : String := String.ofList (digits n)

theorem digitValue_digitChar {digit : Nat} (hdigit : digit < 10) :
    digitValue (digitChar digit) = digit := by
  have hall : ∀ d, d < 10 → digitValue (digitChar d) = d := by decide
  exact hall digit hdigit

theorem isDigit_digitChar {digit : Nat} (hdigit : digit < 10) :
    (digitChar digit).isDigit = true := by
  have hall : ∀ d, d < 10 → (digitChar d).isDigit = true := by decide
  exact hall digit hdigit

theorem digits_ne_nil (n : Nat) : digits n ≠ [] := by
  rw [digits]
  split <;> simp

theorem isDigit_of_mem_digits {n : Nat} {c : Char} (hmem : c ∈ digits n) : c.isDigit = true := by
  induction n using digits.induct with
  | case1 n hlt =>
      rw [digits, if_pos hlt, List.mem_singleton] at hmem
      exact hmem ▸ isDigit_digitChar hlt
  | case2 n hge ih =>
      rw [digits, if_neg hge, List.mem_append, List.mem_singleton] at hmem
      rcases hmem with hmem | rfl
      · exact ih hmem
      · exact isDigit_digitChar (Nat.mod_lt n (by decide))

theorem ofDigits_append_singleton (text : List Char) (c : Char) :
    ofDigits (text ++ [c]) = ofDigits text * 10 + digitValue c := by
  simp [ofDigits]

theorem ofDigits_digits (n : Nat) : ofDigits (digits n) = n := by
  induction n using digits.induct with
  | case1 n hlt =>
      rw [digits, if_pos hlt]
      simp [ofDigits, digitValue_digitChar hlt]
  | case2 n hge ih =>
      rw [digits, if_neg hge, ofDigits_append_singleton, ih,
        digitValue_digitChar (Nat.mod_lt n (by decide))]
      omega

/-- A positive number is written without a leading zero. -/
theorem head_digits_ne_zero {n : Nat} (hpos : 0 < n) : (digits n).head? ≠ some '0' := by
  induction n using digits.induct with
  | case1 n hlt =>
      rw [digits, if_pos hlt]
      have hall : ∀ d, d < 10 → 0 < d → digitChar d ≠ '0' := by decide
      simpa using hall n hlt hpos
  | case2 n hge ih =>
      rw [digits, if_neg hge]
      have hne := digits_ne_nil (n / 10)
      cases hdigits : digits (n / 10) with
      | nil => exact absurd hdigits hne
      | cons c rest =>
          have := ih (by omega)
          rw [hdigits] at this
          simpa using this

end EditorShell.Decimal
