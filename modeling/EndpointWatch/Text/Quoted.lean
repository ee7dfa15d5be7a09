import EndpointWatch.Unicode.Printable

/-!
# Text in quotes

A text inside a message stands between double quotes. Tab, line feed, carriage return and NUL, the quote
and the backslash have short escapes; any other character that would not show is `\u{…}` in hexadecimal.
-/

namespace EndpointWatch.Text

def quoteChar (c : Char) : List Char :=
  if c = '\t' then ['\\', 't']
  else if c = '\n' then ['\\', 'n']
  else if c = '\r' then ['\\', 'r']
  else if c = '"' then ['\\', '"']
  else if c = '\\' then ['\\', '\\']
  else if c.toNat = 0 then ['\\', '0']
  else if Unicode.isPrintable c then [c]
  else '\\' :: 'u' :: '\x7b' :: (Nat.toDigits 16 c.toNat ++ ['\x7d'])

/-- A text between double quotes. -/
def quoted (s : String) : String := .ofList ('"' :: (s.toList.flatMap quoteChar ++ ['"']))

end EndpointWatch.Text
