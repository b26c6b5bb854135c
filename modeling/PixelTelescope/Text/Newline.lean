namespace PixelTelescope.Text

/-- Every line end, be it one character or a pair, becomes a single line feed. -/
def joinLineEnds : List Char → List Char
  | '\r' :: '\n' :: rest => '\n' :: joinLineEnds rest
  | '\r' :: rest => '\n' :: joinLineEnds rest
  | c :: rest => c :: joinLineEnds rest
  | [] => []

/-- Only pairs become a single line feed. -/
def joinPairs : List Char → List Char
  | '\r' :: '\n' :: rest => '\n' :: joinPairs rest
  | c :: rest => c :: joinPairs rest
  | [] => []

def withLineFeeds (s : String) : String := String.ofList (joinLineEnds s.toList)

end PixelTelescope.Text
