/-! White space, comments and line ends of configuration documents. -/
namespace Liveness.Toml

def isSpace (c : Char) : Bool := c == ' ' || c == '\t'

/-- What may stand in comments and texts: the tab, and whatever is no ASCII control character. -/
def isPlain (c : Char) : Bool := c == '\t' || (0x20 ≤ c.toNat && c.toNat != 0x7F)

def skipSpace (s : List Char) : List Char := s.dropWhile isSpace

def lineBreak? : List Char → Option (List Char)
  | '\n' :: s => some s
  | '\r' :: '\n' :: s => some s
  | _ => none

/-- What follows the end of a line: white space and a comment may come before a line break or the
end of the text. -/
def lineEnd? (s : List Char) : Option (List Char) :=
  let s := skipSpace s
  let s := if s.head? = some '#' then s.dropWhile isPlain else s
  if s.isEmpty then some [] else lineBreak? s

/-- What follows any number of spaces, line breaks and comments; `inComment` says where to start. -/
def skipLines : (inComment : Bool) → List Char → List Char
  | _, [] => []
  | _, '\n' :: s => skipLines false s
  | _, '\r' :: '\n' :: s => skipLines false s
  | true, c :: s => if isPlain c then skipLines true s else c :: s
  | false, c :: s =>
    if isSpace c then skipLines false s else if c = '#' then skipLines true s else c :: s

end Liveness.Toml
