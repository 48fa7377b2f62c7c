import SourceScan.Text.Basic
import SourceScan.Text.Printable

/-! # Literals

Messages show a text in quotes. The quotes are single ones unless the text holds a single quote and
no double one. Inside, the backslash and the quote in use are escaped, three controls have letters
of their own, and every other character that does not print is given by its code point.
-/

namespace SourceScan

namespace Text

/-- A number in lower-case hexadecimal digits, filled up with zeros to a width. -/
def hexadecimal (width n : Nat) : Text :=
  let digits := Nat.toDigits 16 n
  List.replicate (width - digits.length) '0' ++ digits

def singleQuote : Char := Char.ofNat 0x27

def doubleQuote : Char := Char.ofNat 0x22

def backslash : Char := Char.ofNat 0x5C

/-- The quote that a literal of the text is put in. -/
def quoteFor (text : Text) : Char :=
  if text.contains singleQuote && !text.contains doubleQuote then doubleQuote else singleQuote

/-- One character as it stands between quotes. -/
def escape (quote c : Char) : Text :=
  if c = backslash ∨ c = quote then [backslash, c]
  else if c = '\n' then [backslash, 'n']
  else if c = '\r' then [backslash, 'r']
  else if c = '\t' then [backslash, 't']
  else if isPrintable c then [c]
  else if c.toNat < 0x100 then backslash :: 'x' :: hexadecimal 2 c.toNat
  else if c.toNat < 0x10000 then backslash :: 'u' :: hexadecimal 4 c.toNat
  else backslash :: 'U' :: hexadecimal 8 c.toNat

def literal (text : Text) : String :=
  let quote := quoteFor text
  String.ofList (quote :: text.flatMap (escape quote) ++ [quote])

end Text

end SourceScan
