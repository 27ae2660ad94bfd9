import RouteTemplate.Text.Quoted

/-! # Json strings

A text between quotation marks in which every character outside printable ASCII is escaped, in
UTF-16 units beyond the first plane. -/
namespace RouteTemplate.Text

def utf16Escape (unit : Nat) : Text := backslash :: 'u' :: hex 4 unit

def jsonEscaped (c : Char) : Text :=
  if c = quotationMark ∨ c = backslash then [backslash, c]
  else if c = '\n' then [backslash, 'n']
  else if c = '\r' then [backslash, 'r']
  else if c = '\t' then [backslash, 't']
  else if c = '\x08' then [backslash, 'b']
  else if c = '\x0c' then [backslash, 'f']
  else if 0x20 ≤ c.toNat ∧ c.toNat ≤ 0x7e then [c]
  else if c.toNat < 0x10000 then utf16Escape c.toNat
  else
    utf16Escape (0xd800 + (c.toNat - 0x10000) / 0x400) ++
      utf16Escape (0xdc00 + (c.toNat - 0x10000) % 0x400)

def json (text : Text) : Text :=
  quotationMark :: (text.flatMap jsonEscaped ++ [quotationMark])

end RouteTemplate.Text
