/-! # Double-quoted literals with JSON escapes -/

namespace CatalogTypes.Text

def hexDigit (n : Nat) : Char := Char.ofNat (if n < 10 then 48 + n else 87 + n)

/-- The escape of one character. A control character below U+0020 that has no escape of its own is
written with four hexadecimal digits; everything from U+0020 on, but the quote and the backslash,
stands for itself. -/
def escapeChar (c : Char) : List Char :=
  if c = '"' then ['\\', '"']
  else if c = '\\' then ['\\', '\\']
  else if c = '\x08' then ['\\', 'b']
  else if c = '\t' then ['\\', 't']
  else if c = '\n' then ['\\', 'n']
  else if c = '\x0c' then ['\\', 'f']
  else if c = '\r' then ['\\', 'r']
  else if c.toNat < 0x20 then
    ['\\', 'u', '0', '0', hexDigit (c.toNat / 16), hexDigit (c.toNat % 16)]
  else [c]

/-- The text of `value` between double quotes. JSON, TypeScript, Go and Python read its escapes
alike. -/
def quote (value : String) : String :=
  String.ofList ('"' :: value.toList.flatMap escapeChar ++ ['"'])

@[simp] theorem toList_quote (value : String) :
    (quote value).toList = '"' :: value.toList.flatMap escapeChar ++ ['"'] := by
  simp [quote]

end CatalogTypes.Text
