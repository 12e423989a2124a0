import RecordLayer.Bytes
import RecordLayer.Text.Digit
import RecordLayer.Text.Printable

/-!
# Quoted text

Text and byte strings as they are quoted in messages: between single quotes,
or between double quotes if that saves escaping a single quote.  Backslashes
and the chosen quote are escaped, and so is everything that cannot be shown.
-/

namespace RecordLayer.Text

/-- Double quotes are chosen if the text has a single quote and no double one. -/
def quoteFor (text : List Char) : Char :=
  if text.contains '\'' && !text.contains '"' then '"' else '\''

/-- A character inside quotes: the named escapes, then numbers of two, four
or eight digits for what is not printable. -/
def escape (quote c : Char) : List Char :=
  if c = quote || c = '\\' then ['\\', c]
  else if c = '\n' then ['\\', 'n']
  else if c = '\r' then ['\\', 'r']
  else if c = '\t' then ['\\', 't']
  else if isPrintable c then [c]
  else if c.toNat < 0x100 then '\\' :: 'x' :: hexDigits 2 c.toNat
  else if c.toNat < 0x10000 then '\\' :: 'u' :: hexDigits 4 c.toNat
  else '\\' :: 'U' :: hexDigits 8 c.toNat

/-- Text in quotes. -/
def quoted (text : String) : String :=
  let chars := text.toList
  let quote := quoteFor chars
  String.ofList (quote :: chars.flatMap (escape quote) ++ [quote])

/-- A byte string in quotes, marked by a `b`.  Bytes outside ASCII are
escaped by number. -/
def quotedBytes (bytes : Bytes) : String :=
  let chars := bytes.map fun b => Char.ofNat b.toNat
  let quote := quoteFor chars
  let inner := chars.flatMap fun c =>
    if c.toNat < 0x7f then escape quote c else '\\' :: 'x' :: hexDigits 2 c.toNat
  String.ofList ('b' :: quote :: inner ++ [quote])

end RecordLayer.Text
