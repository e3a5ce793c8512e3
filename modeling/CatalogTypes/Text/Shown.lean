import CatalogTypes.Text.Printable
import CatalogTypes.Text.Quoted

/-! # Escapes with code points in braces, and texts as messages show them -/

namespace CatalogTypes.Text

/-- The hexadecimal digits of `n` in lowercase, without leading zeros. -/
def hexDigits (n : Nat) : List Char :=
  if n < 16 then [hexDigit n] else hexDigits (n / 16) ++ [hexDigit (n % 16)]
termination_by n

/-- The escape of one character where code points are written in braces: `plain` tells which
characters stand for themselves. A quote, a backslash, line ends, tabs and the null character have
escapes of their own. -/
def bracedEscape (plain : Char → Bool) (c : Char) : List Char :=
  if c = '"' then ['\\', '"']
  else if c = '\\' then ['\\', '\\']
  else if c = '\n' then ['\\', 'n']
  else if c = '\r' then ['\\', 'r']
  else if c = '\t' then ['\\', 't']
  else if c = '\x00' then ['\\', '0']
  else if plain c then [c]
  else ['\\', 'u', '\x7b'] ++ hexDigits c.toNat ++ ['\x7d']

/-- The text of `value` between double quotes, every character of it visible. -/
def shown (value : String) : String :=
  String.ofList ('"' :: value.toList.flatMap (bracedEscape isPrintable) ++ ['"'])

end CatalogTypes.Text
