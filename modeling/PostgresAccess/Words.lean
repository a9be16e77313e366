/-!
# Splitting a command line into words

A command line is split like a line of a POSIX shell, without expansions and comments.  Words are
separated by spaces, tabs, carriage returns and line feeds.  A backslash outside of quotation marks
makes the next character part of the word; between single marks every character is; between double
marks a backslash does so for the mark and the backslash and stands for itself otherwise.  Marks may
enclose nothing, and then they still make a word.
-/

namespace PostgresAccess.Words

/-- Why a command line is not split. -/
inductive Fault where
  /-- The line ends between quotation marks. -/
  | unclosedQuotation
  /-- The line ends after a backslash. -/
  | unfinishedEscape
deriving DecidableEq, Repr

/-- The words for a fault. -/
def Fault.message : Fault → String
  | .unclosedQuotation => "No closing quotation"
  | .unfinishedEscape => "No escaped character"

/-- A character that separates words. -/
def isSeparator (c : Char) : Bool := c == ' ' || c == '\t' || c == '\r' || c == '\n'

/-- Where in a line the reader is; inside of a word, with the characters of the word so far, the
latest first. -/
inductive Place where
  /-- Between two words. -/
  | between
  /-- Outside of quotation marks. -/
  | plain (word : List Char)
  /-- After a backslash outside of quotation marks. -/
  | escaped (word : List Char)
  /-- Between single marks. -/
  | single (word : List Char)
  /-- Between double marks. -/
  | double (word : List Char)
  /-- After a backslash between double marks. -/
  | doubleEscaped (word : List Char)
deriving DecidableEq, Repr

/-- The place after a character that starts or continues a word outside of quotation marks. -/
def enter (word : List Char) (c : Char) : Place :=
  if c = '\\' then .escaped word
  else if c = '\x27' then .single word
  else if c = '\x22' then .double word
  else .plain (c :: word)

/-- The words of a line from a place on. -/
def splitFrom : Place → List Char → Except Fault (List (List Char))
  | .between, [] => .ok []
  | .plain word, [] => .ok [word.reverse]
  | .escaped _, [] => .error .unfinishedEscape
  | .single _, [] => .error .unclosedQuotation
  | .double _, [] => .error .unclosedQuotation
  | .doubleEscaped _, [] => .error .unfinishedEscape
  | .between, c :: rest =>
    if isSeparator c then splitFrom .between rest else splitFrom (enter [] c) rest
  | .plain word, c :: rest =>
    if isSeparator c then (splitFrom .between rest).map (word.reverse :: ·)
    else splitFrom (enter word c) rest
  | .escaped word, c :: rest => splitFrom (.plain (c :: word)) rest
  | .single word, c :: rest =>
    if c = '\x27' then splitFrom (.plain word) rest else splitFrom (.single (c :: word)) rest
  | .double word, c :: rest =>
    if c = '\x22' then splitFrom (.plain word) rest
    else if c = '\\' then splitFrom (.doubleEscaped word) rest
    else splitFrom (.double (c :: word)) rest
  | .doubleEscaped word, c :: rest =>
    if c = '\x22' ∨ c = '\\' then splitFrom (.double (c :: word)) rest
    else splitFrom (.double (c :: '\\' :: word)) rest

/-- The words of a line. -/
def split (line : String) : Except Fault (List String) :=
  (splitFrom .between line.toList).map fun words => words.map String.ofList

end PostgresAccess.Words
