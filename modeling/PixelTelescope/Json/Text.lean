import PixelTelescope.Text.Quoted

namespace PixelTelescope.Json

/-- Escapes quotes, backslashes and control characters; all else stands for itself. -/
def escapedChar (c : Char) : List Char :=
  if c = '"' then ['\\', '"']
  else if c = '\\' then ['\\', '\\']
  else if c = '\n' then ['\\', 'n']
  else if c = '\r' then ['\\', 'r']
  else if c = '\t' then ['\\', 't']
  else if c = '\x08' then ['\\', 'b']
  else if c = '\x0c' then ['\\', 'f']
  else if c.toNat < 0x20 then '\\' :: 'u' :: Text.hexDigits 4 c.toNat
  else [c]

def encodeText (cs : List Char) : List Char := '"' :: cs.flatMap escapedChar ++ ['"']

def text (s : String) : String := String.ofList (encodeText s.toList)

end PixelTelescope.Json
