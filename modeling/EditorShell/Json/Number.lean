import EditorShell.Decimal.Shortest

/-!
# Numbers in documents

A number is an integer when it is written without a point and without an exponent and fits a signed
or an unsigned 64-bit word; every other number is a double, and so is `-0`.

## Reading doubles

The significand collects digits as long as it fits 64 bits; whole digits that no longer fit count
as powers of ten, and fraction digits that no longer fit are dropped.  The double is the significand
times or divided by one power of ten.  A number too large for a double is refused.

## Writing doubles

A double is written with the fewest digits that read back as it.  The notation is positional when
the leading digit stands for `10 ^ -5` up to `10 ^ 15` and has an exponent otherwise; a whole double
in positional notation ends in `.0`, and an exponent has its sign and no leading zero.
-/

namespace EditorShell.Json

/-- A number as it is kept, which is either whole or a double. -/
inductive Number where
  /-- An integer from `-2 ^ 63` to `2 ^ 64 - 1`. -/
  | int (value : Int)
  /-- A finite double, given by its bits. -/
  | double (bits : UInt64)
  deriving DecidableEq

/-- A number as it is written. -/
structure Lexeme where
  negative : Bool
  /-- The digits before the point. -/
  whole : List Char
  /-- The digits after the point; none if there is no point. -/
  fraction : List Char
  /-- The sign and the digits of the exponent, if there is one. -/
  exponent? : Option (Bool × List Char)

namespace Lexeme

/-- The digits at the start of a text and the rest. -/
def spanDigits : List Char → List Char × List Char
  | [] => ([], [])
  | c :: rest =>
    if c.isDigit then
      let (digits, rest) := spanDigits rest
      (c :: digits, rest)
    else ([], c :: rest)

/-- Reads the digits before the point: a lone zero, or digits that do not start with one. -/
def readWhole? (text : List Char) : Option (List Char × List Char) :=
  match spanDigits text with
  | ([], _) => none
  | (['0'], rest) => some (['0'], rest)
  | ('0' :: _, _) => none
  | (digits, rest) => some (digits, rest)

/-- Reads a point and at least one digit, if a point comes next. -/
def readFraction? : List Char → Option (List Char × List Char)
  | '.' :: text =>
    match spanDigits text with
    | ([], _) => none
    | (digits, rest) => some (digits, rest)
  | text => some ([], text)

/-- Reads the digits of an exponent; there has to be one at least. -/
def readExponentDigits? (negative : Bool) (text : List Char) :
    Option (Option (Bool × List Char) × List Char) :=
  match spanDigits text with
  | ([], _) => none
  | (digits, rest) => some (some (negative, digits), rest)

/-- Reads an exponent with its letter and its sign, if there is one. -/
def readExponent? : List Char → Option (Option (Bool × List Char) × List Char)
  | c :: text =>
    if c = 'e' ∨ c = 'E' then
      match text with
      | '+' :: text => readExponentDigits? false text
      | '-' :: text => readExponentDigits? true text
      | text => readExponentDigits? false text
    else some (none, c :: text)
  | [] => some (none, [])

/-- Reads a number behind its sign. -/
def readUnsigned? (negative : Bool) (text : List Char) : Option (Lexeme × List Char) := do
  let (whole, text) ← readWhole? text
  let (fraction, text) ← readFraction? text
  let (exponent?, text) ← readExponent? text
  some (⟨negative, whole, fraction, exponent?⟩, text)

/-- Reads a number as it is written. -/
def read? : List Char → Option (Lexeme × List Char)
  | '-' :: text => readUnsigned? true text
  | text => readUnsigned? false text

/-- Collects digits onto a significand as long as it stays below `limit`, and counts the others. -/
def collect (limit significand : Nat) : List Char → Nat × Nat
  | [] => (significand, 0)
  | c :: rest =>
    let next := significand * 10 + Decimal.digitValue c
    if next < limit then collect limit next rest else (significand, rest.length + 1)

/-- The double that is nearest to a power of ten. -/
def powerOfTen (exponent : Nat) : Float := Float.ofScientific 1 false exponent

/-- The double `value * 10 ^ exponent`; `none` if it is too large.  Very small powers are taken in
steps of `10 ^ -308`, of which a few lead to zero. -/
def scale? (value : Float) (exponent : Int) : Nat → Option Float
  | 0 => some value
  | more + 1 =>
    if exponent.natAbs ≤ 308 then
      if 0 ≤ exponent then
        let scaled := value * powerOfTen exponent.natAbs
        if scaled.isInf then none else some scaled
      else some (value / powerOfTen exponent.natAbs)
    else if value == 0 then some value
    else if 0 ≤ exponent then none
    else scale? (value / powerOfTen 308) (exponent + 308) more

/-- The double of a significand, a power of ten and a sign. -/
def double? (negative : Bool) (significand : Nat) (exponent : Int) : Option Number :=
  (scale? significand.toUInt64.toFloat exponent 8).map fun value =>
    .double (if negative then -value else value).toBits

/-- The bound of the exponents that are told apart. -/
def exponentLimit : Nat := Nat.pow 2 31

/-- The exponent, no further out than the bound. -/
def clampExponent (exponent : Int) : Int :=
  max (-(exponentLimit : Int)) (min ((exponentLimit : Int) - 1) exponent)

/-- The number that a lexeme without a point and an exponent stands for. -/
def integer (negative : Bool) (magnitude : Nat) : Option Number :=
  if !negative then some (.int magnitude)
  -- A negative zero is no integer, nor is what does not fit into a signed word.
  else if magnitude = 0 ∨ Nat.pow 2 63 < magnitude then double? true magnitude 0
  else some (.int (-(magnitude : Int)))

/-- The number that a lexeme stands for; `none` if it is too large for a double. -/
def value? (lexeme : Lexeme) : Option Number :=
  let (whole, unfit) := collect (Nat.pow 2 64) 0 lexeme.whole
  if unfit = 0 ∧ lexeme.fraction = [] ∧ lexeme.exponent? = none then integer lexeme.negative whole
  else
    let (significand, dropped) := collect (Nat.pow 2 64) whole lexeme.fraction
    let shift : Int := unfit - (lexeme.fraction.length - dropped : Nat)
    match lexeme.exponent? with
    | none => double? lexeme.negative significand shift
    | some (negative, digits) =>
      let (exponent, rest) := collect exponentLimit 0 digits
      -- With so large an exponent the number is zero or too large, whatever its digits are.
      if rest ≠ 0 then
        if significand ≠ 0 ∧ !negative then none else double? lexeme.negative 0 0
      else
        double? lexeme.negative significand
          (clampExponent (if negative then shift - exponent else shift + exponent))

end Lexeme

namespace Number

/-- The natural number below `limit` that this is, if it is one. -/
def toNat? (limit : Nat) : Number → Option Nat
  | int value => if 0 ≤ value ∧ value < limit then some value.toNat else none
  | double _ => none

theorem toNat?_eq_some_iff {number : Number} {limit n : Nat} :
    number.toNat? limit = some n ↔ number = .int n ∧ n < limit := by
  cases number with
  | double bits => simp [toNat?]
  | int value =>
      simp only [toNat?, Option.ite_none_right_eq_some, Option.some.injEq, int.injEq]
      omega

/-- A whole number as it is written. -/
def intText (value : Int) : List Char :=
  if value < 0 then '-' :: Decimal.digits value.natAbs else Decimal.digits value.natAbs

/-- An exponent as it is written, with its sign. -/
def exponentText (value : Int) : List Char :=
  if value < 0 then intText value else '+' :: intText value

/-- The text of a positive decimal, given by its digits and the power of ten of the last one. -/
def decimalText (digits : List Char) (power : Int) : List Char :=
  let point : Int := digits.length + power
  if 0 ≤ power ∧ point ≤ 16 then digits ++ List.replicate power.toNat '0' ++ ['.', '0']
  else if 0 < point ∧ point ≤ 16 then
    digits.take point.toNat ++ '.' :: digits.drop point.toNat
  else if -5 < point ∧ point ≤ 0 then
    '0' :: '.' :: (List.replicate (-point).toNat '0' ++ digits)
  else
    let mantissa := match digits with
      | [] => []
      | [digit] => [digit]
      | digit :: rest => digit :: '.' :: rest
    mantissa ++ 'e' :: exponentText (point - 1)

/-- A double as it is written: in the fewest digits that read back as it. -/
def doubleText (bits : UInt64) : List Char :=
  let biased := (bits >>> 52 &&& 0x7FF).toNat
  let rest := (bits &&& 0xFFFFFFFFFFFFF).toNat
  let sign := if bits >>> 63 == 1 then ['-'] else []
  if biased = 0 ∧ rest = 0 then sign ++ ['0', '.', '0']
  else
    let (factor, power) :=
      if biased = 0 then Decimal.shortest rest (-1074) false
      else Decimal.shortest (Nat.pow 2 52 + rest) ((biased : Int) - 1075) (rest == 0 && biased != 1)
    sign ++ decimalText (Decimal.digits factor) power

/-- A number as it is written. -/
def text : Number → List Char
  | int value => intText value
  | double bits => doubleText bits

end Number

end EditorShell.Json
