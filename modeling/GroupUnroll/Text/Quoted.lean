import GroupUnroll.Text.Printable

/-! # Quoted text

Reports show text between double quotes. Quotes, backslashes and the common controls have an escape
of their own; every other character without a shape is written by its number in lowercase
hexadecimal.
-/

namespace GroupUnroll

/-- One character of quoted text. -/
def quoteChar (c : Char) : Text :=
  if c = '"' then ['\\', '"']
  else if c = '\\' then ['\\', '\\']
  else if c = '\n' then ['\\', 'n']
  else if c = '\r' then ['\\', 'r']
  else if c = '\t' then ['\\', 't']
  else if c.toNat = 0 then ['\\', '0']
  else if isPrintable c then [c]
  else ['\\', 'u', '{'] ++ Nat.toDigits 16 c.toNat ++ ['}']

/-- Text between double quotes. -/
def Text.quoted (text : Text) : Text := '"' :: (text.flatMap quoteChar ++ ['"'])

end GroupUnroll
