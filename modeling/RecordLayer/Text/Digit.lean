/-!
# Digits and blanks

A number is shown in lower-case hexadecimal digits, filled up with zeros on the
left.  The sign of a negative number stands in front and counts toward the
width.

A number may be typed in the decimal digits of any script and with blanks
around it.  `decimalZeros` lists the zero of every script of Unicode 14 but
ASCII; the nine code points after a zero are the digits one to nine.
-/

namespace RecordLayer.Text

/-! ## Numbers that are shown -/

/-- The digits of `n`, filled up with zeros to at least `width` of them. -/
def hexDigits (width n : Nat) : List Char :=
  let digits := Nat.toDigits 16 n
  List.replicate (width - digits.length) '0' ++ digits

/-- A number in hexadecimal, at least `width` characters wide with its sign. -/
def hexadecimal (width : Nat) (n : Int) : String :=
  if n < 0 then String.ofList ('-' :: hexDigits (width - 1) n.natAbs)
  else String.ofList (hexDigits width n.toNat)

/-! ## Numbers that are typed -/

/-- The digit zero of every script but ASCII. -/
def decimalZeros : List Nat :=
  [1632, 1776, 1984, 2406, 2534, 2662, 2790, 2918, 3046, 3174, 3302, 3430, 3558, 3664,
    3792, 3872, 4160, 4240, 6112, 6160, 6470, 6608, 6784, 6800, 6992, 7088, 7232, 7248,
    42528, 43216, 43264, 43472, 43504, 43600, 44016, 65296, 66720, 68912, 69734, 69872,
    69942, 70096, 70384, 70736, 70864, 71248, 71360, 71472, 71904, 72016, 72784, 73040,
    73120, 92768, 92864, 93008, 120782, 120792, 120802, 120812, 120822, 123200, 123632,
    125264, 130032]

/-- The value of a character as a decimal digit of some script. -/
def decimalDigit? (c : Char) : Option Nat :=
  if c.isDigit then some (c.toNat - 48)
  else (decimalZeros.find? fun first => first ≤ c.toNat && c.toNat < first + 10).map
    fun first => c.toNat - first

/-- The blanks of ASCII: space, tab, line feed, vertical tab, form feed and
carriage return. -/
def isAsciiBlank (c : Char) : Bool :=
  c.toNat = 32 || 9 ≤ c.toNat && c.toNat ≤ 13

/-- The blanks outside ASCII. -/
def wideBlanks : List Nat :=
  [133, 160, 5760, 8192, 8193, 8194, 8195, 8196, 8197, 8198, 8199, 8200, 8201, 8202, 8232, 8233,
    8239, 8287, 12288]

/-- A decimal digit becomes the ASCII digit of its value and a wide blank a
space; every other character stays. -/
def toAscii (c : Char) : Char :=
  if c.toNat < 128 then c
  else if wideBlanks.contains c.toNat then ' '
  else match decimalDigit? c with
    | some d => Char.ofNat (48 + d)
    | none => c

end RecordLayer.Text
