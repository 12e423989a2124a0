import RecordLayer.Text.Digit

/-!
# Integers as they are typed

`readInteger` reads a typed integer: blanks around it, one sign, digits with
single underscores between them.  In a fixed base ten, leading zeros are
allowed.  In a base chosen by the text, `0x`, `0o` and `0b` announce base
sixteen, eight and two, an underscore may follow them, and a number without
such a mark that starts with a zero must be zero.

A decimal number has at most `maxDecimalDigits` digits.
-/

namespace RecordLayer.Text

/-- How the base of a typed integer is found. -/
inductive Base where
  /-- Always ten. -/
  | ten
  /-- Announced by the text itself. -/
  | announced
deriving DecidableEq, Repr

/-- A decimal number with more digits than this is refused. -/
def maxDecimalDigits : Nat := 4300

/-- The value of an ASCII letter or digit as a digit, in bases up to sixteen. -/
def digitValue? (c : Char) : Option Nat :=
  if c.isDigit then some (c.toNat - 48)
  else if 'a' ≤ c && c ≤ 'f' then some (c.toNat - 87)
  else if 'A' ≤ c && c ≤ 'F' then some (c.toNat - 55)
  else none

/-- The digits of a number: at least one, below the base, with single
underscores allowed between two of them.  `fresh` says that a digit must
come next. -/
def readDigits (base : Nat) (fresh : Bool) : List Char → Option (List Nat)
  | [] => if fresh then none else some []
  | '_' :: rest => if fresh then none else readDigits base true rest
  | c :: rest =>
    match digitValue? c with
    | some d => if d < base then (readDigits base false rest).map (d :: ·) else none
    | none => none

/-- The number that digits write. -/
def digitsValue (base : Nat) (digits : List Nat) : Nat :=
  digits.foldl (fun acc d => base * acc + d) 0

/-- A decimal number, if it is not too long. -/
def readDecimal (text : List Char) : Option Nat :=
  match readDigits 10 true text with
  | some digits =>
    if digits.length ≤ maxDecimalDigits then some (digitsValue 10 digits) else none
  | none => none

/-- The digits after a mark such as `0x`, where one underscore may stand first. -/
def readMarked (base : Nat) : List Char → Option Nat
  | '_' :: rest => (readDigits base true rest).map (digitsValue base)
  | rest => (readDigits base true rest).map (digitsValue base)

/-- A number without its sign. -/
def readMagnitude : Base → List Char → Option Nat
  | .ten, text => readDecimal text
  | .announced, '0' :: mark :: rest =>
    if mark = 'x' || mark = 'X' then readMarked 16 rest
    else if mark = 'o' || mark = 'O' then readMarked 8 rest
    else if mark = 'b' || mark = 'B' then readMarked 2 rest
    else (readDecimal ('0' :: mark :: rest)).filter (· = 0)
  | .announced, text => readDecimal text

/-- Take the blanks off both ends. -/
def trimBlanks (text : List Char) : List Char :=
  ((text.dropWhile isAsciiBlank).reverse.dropWhile isAsciiBlank).reverse

/-- Read a typed integer. -/
def readInteger (base : Base) (text : String) : Option Int :=
  match trimBlanks (text.toList.map toAscii) with
  | '+' :: rest => (readMagnitude base rest).map Int.ofNat
  | '-' :: rest => (readMagnitude base rest).map fun n => -(n : Int)
  | rest => (readMagnitude base rest).map Int.ofNat

end RecordLayer.Text
