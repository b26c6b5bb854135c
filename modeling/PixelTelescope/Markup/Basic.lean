namespace PixelTelescope.Markup

/-- A name and its value in a tag, with the blanks that stand before them. -/
structure Attribute where
  gap : String
  name : String
  value : String
  deriving Repr, DecidableEq

/-- A piece of a document. -/
inductive Item where
  | blank (text : String)
  /-- What stands between `<?` and `?>`. -/
  | instruction (text : String)
  | comment (text : String)
  /-- A tag that closes itself, with blanks before its end. -/
  | empty (name : String) (attributes : List Attribute) (tail : String)
  | element (name : String) (attributes : List Attribute) (children : List Item)
  deriving Repr

/-- Characters that would end a value or start something else are written by name. -/
def escapedChar (c : Char) : List Char :=
  if c = '&' then "&amp;".toList
  else if c = '<' then "&lt;".toList
  else if c = '>' then "&gt;".toList
  else if c = '"' then "&quot;".toList
  else [c]

def escaped (value : String) : List Char := value.toList.flatMap escapedChar

def Attribute.write (a : Attribute) : List Char :=
  a.gap.toList ++ a.name.toList ++ '=' :: '"' :: escaped a.value ++ ['"']

def writeTag (name : String) (attributes : List Attribute) : List Char :=
  '<' :: name.toList ++ attributes.flatMap Attribute.write

mutual

def Item.write : Item → List Char
  | .blank text => text.toList
  | .instruction text => "<?".toList ++ text.toList ++ "?>".toList
  | .comment text => "<!--".toList ++ text.toList ++ "-->".toList
  | .empty name attributes tail => writeTag name attributes ++ tail.toList ++ "/>".toList
  | .element name attributes children =>
    writeTag name attributes ++ '>' :: writeAll children ++ "</".toList ++ name.toList ++ ['>']

def writeAll : List Item → List Char
  | [] => []
  | item :: rest => item.write ++ writeAll rest

end

end PixelTelescope.Markup
