import CuratorKeeper.Text.Printable

/-! # Quoted text

A quoted text stands between single quotes, or between double quotes when it has a single quote
and no double one. The quote in use, the backslash and every unprintable character are escaped.
-/
namespace CuratorKeeper.Text

/-- The lower-case hexadecimal digits of a number, filled up with zeros to a width. -/
def hexDigits (width number : Nat) : List Char :=
  let digits := Nat.toDigits 16 number
  List.replicate (width - digits.length) '0' ++ digits

/-- The written form of one character inside the given quotes. -/
def escapeChar (quote c : Char) : List Char :=
  if c = quote ∨ c = '\\' then ['\\', c]
  else if c = '\n' then ['\\', 'n']
  else if c = '\r' then ['\\', 'r']
  else if c = '\t' then ['\\', 't']
  else if isPrintable c then [c]
  else if c.toNat < 0x100 then '\\' :: 'x' :: hexDigits 2 c.toNat
  else if c.toNat < 0x10000 then '\\' :: 'u' :: hexDigits 4 c.toNat
  else '\\' :: 'U' :: hexDigits 8 c.toNat

/-- The quote that a text is put in. -/
def quoteFor (content : List Char) : Char :=
  if '\'' ∈ content ∧ '"' ∉ content then '"' else '\''

def quoted (content : String) : String :=
  let quote := quoteFor content.toList
  String.ofList (quote :: content.toList.flatMap (escapeChar quote) ++ [quote])

example : quoted "a\nb" = "'a\\nb'" ∧ quoted "it's" = "\"it's\"" := by decide +kernel

end CuratorKeeper.Text
