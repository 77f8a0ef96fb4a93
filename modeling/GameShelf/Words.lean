namespace GameShelf.Words

/-- Where a reader stands: between words, in a comment between them, in a word, or in quotes
within one. -/
inductive Mode where
  | between
  | comment
  | bare
  | single
  | double
  deriving DecidableEq

def isDelimiter (c : Char) : Bool := c == ' ' || c == '\t' || c == '\n'

/-- What a backslash is taken off before in double quotes; before others it stands for itself. -/
def isEscapable (c : Char) : Bool := c == '$' || c == '\x60' || c == '"' || c == '\\'

/-- Reads on, where `word` has been read of the word begun. None if a quote stays open. A word that
starts with `#` is a comment up to the end of its line. -/
def splitFrom (word : List Char) : Mode → List Char → Option (List (List Char))
  | .between, [] => some []
  | .comment, [] => some []
  | .bare, [] => some [word]
  | .single, [] => none
  | .double, [] => none
  | .between, ['\\'] => some [['\\']]
  | .bare, ['\\'] => some [word ++ ['\\']]
  | .double, ['\\'] => none
  | .between, '\\' :: c :: cs =>
    if c = '\n' then splitFrom [] .between cs else splitFrom [c] .bare cs
  | .bare, '\\' :: c :: cs =>
    if c = '\n' then splitFrom word .bare cs else splitFrom (word ++ [c]) .bare cs
  | .double, '\\' :: c :: cs =>
    if c = '\n' then splitFrom word .double cs
    else if isEscapable c then splitFrom (word ++ [c]) .double cs
    else splitFrom (word ++ ['\\', c]) .double cs
  | .comment, c :: cs => splitFrom [] (if c = '\n' then .between else .comment) cs
  | .between, c :: cs =>
    if c = '\'' then splitFrom [] .single cs
    else if c = '"' then splitFrom [] .double cs
    else if c = '#' then splitFrom [] .comment cs
    else if isDelimiter c then splitFrom [] .between cs
    else splitFrom [c] .bare cs
  | .bare, c :: cs =>
    if c = '\'' then splitFrom word .single cs
    else if c = '"' then splitFrom word .double cs
    else if isDelimiter c then (splitFrom [] .between cs).map (word :: ·)
    else splitFrom (word ++ [c]) .bare cs
  | .single, c :: cs =>
    if c = '\'' then splitFrom word .bare cs else splitFrom (word ++ [c]) .single cs
  | .double, c :: cs =>
    if c = '"' then splitFrom word .bare cs else splitFrom (word ++ [c]) .double cs

def split? (line : String) : Option (List String) :=
  (splitFrom [] .between line.toList).map (·.map String.ofList)

end GameShelf.Words
