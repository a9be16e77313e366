import PostgresAccess.Toml.Collection

/-!
# TOML documents

A document is a sequence of statements, one a line: a pair of a key and a value, which adds to the
current table; a header in single brackets, which makes a table the current one; and a header in
double brackets, which appends a table to a list and makes it the current one.  `read` gives the
table of the whole document.

A draft is a document as far as it has been read.  Its marks say what later statements must not do:
a header must not name a declared key again, and nothing below a frozen key may change.  The tables
on the way of a dotted key count as declared from the next header on.
-/

namespace PostgresAccess.Toml

/-- A document as far as it has been read. -/
structure Draft where
  root : Entries
  /-- The keys that a header must not name again. -/
  declared : List Key
  /-- The keys whose values must not be changed. -/
  frozen : List Key
  /-- The keys that are declared from the next header on. -/
  pending : List Key
  /-- The key of the current table. -/
  header : Key

namespace Draft

/-- A document of which nothing has been read. -/
def empty : Draft := ⟨[], [], [], [], []⟩

/-- Declares the pending keys. -/
def declarePending (draft : Draft) : Draft :=
  { draft with declared := draft.pending ++ draft.declared, pending := [] }

/-- Makes the table of a key the current one. -/
def openTable (draft : Draft) (key : Key) : Except Problem Draft :=
  if draft.declared.contains key || isFrozen draft.frozen key then .error (.declaredTwice key)
  else
    match updateNest true some key draft.root with
    | none => .error .overwritten
    | some root => .ok { draft with root, declared := key :: draft.declared, header := key }

/-- Appends a table to the list of a key and makes it the current one.  Nothing below the key is
marked any more, because it leads to the new table from now on. -/
def appendToList (draft : Draft) (key : Key) : Except Problem Draft :=
  if isFrozen draft.frozen key then .error (.immutable key)
  else
    let (parent, name) := splitLast key
    match updateNest true (appendTable name) parent draft.root with
    | none => .error .overwritten
    | some root =>
      .ok { draft with
        root
        declared := key :: draft.declared.filter fun other => !key.isPrefixOf other
        frozen := draft.frozen.filter fun other => !key.isPrefixOf other
        header := key }

/-- The keys of the tables on the way of a dotted key, from the current table on. -/
def passedKeys (header : Key) : Key → List Key
  | [] | [_] => []
  | name :: names => (header ++ [name]) :: passedKeys (header ++ [name]) names

/-- Adds a value under a key to the current table. -/
def add (draft : Draft) (key : Key) (value : Value) : Except Problem Draft :=
  let passed := passedKeys draft.header key
  let (parent, name) := splitLast (draft.header ++ key)
  match passed.find? fun key => draft.declared.contains key with
  | some declared => .error (.redefined declared)
  | none =>
    if isFrozen draft.frozen parent then .error (.immutable parent)
    else
      match updateNest true (addEntry name value) parent draft.root with
      | none => .error .overwritten
      | some root =>
        .ok { draft with
          root
          pending := passed ++ draft.pending
          frozen :=
            if isCollection value then (draft.header ++ key) :: draft.frozen else draft.frozen }

end Draft

/-- A character that a key starts with. -/
def startsKey (c : Char) : Bool := isBareKeyChar c || c == '\x22' || c == '\x27'

/-- The key of a header, after its opening bracket. -/
def readHeader (cs : List Char) : Except Fault (Key × List Char) :=
  let start := skipBlanks cs
  readKey (start.length + 1) start

/-- A statement, at its first character. -/
def readStatement (draft : Draft) (cs : List Char) : Except Fault (Draft × List Char) :=
  match cs with
  | '[' :: '[' :: rest => do
    let (key, rest) ← readHeader rest
    let draft ← (draft.declarePending.appendToList key).mapError (·.before rest)
    match rest with
    | ']' :: ']' :: after => return (draft, after)
    | rest => fail .arrayEndExpected rest
  | '[' :: rest => do
    let (key, rest) ← readHeader rest
    let draft ← (draft.declarePending.openTable key).mapError (·.before rest)
    match rest with
    | ']' :: after => return (draft, after)
    | rest => fail .tableEndExpected rest
  | '#' :: _ => .ok (draft, cs)
  | c :: _ =>
    if startsKey c then do
      let ((key, value), rest) ← readPair cs
      let draft ← (draft.add key value).mapError (·.before rest)
      return (draft, rest)
    else fail .invalidStatement cs
  | [] => .ok (draft, [])

/-- The statements of a document; the measure bounds the number of its lines. -/
def readStatements : Nat → Draft → List Char → Except Fault Draft
  | 0, draft, _ => .ok draft
  | measure + 1, draft, cs => do
    match skipBlanks cs with
    | [] => return draft
    | '\n' :: rest => readStatements measure draft rest
    | start =>
      let (draft, rest) ← readStatement draft start
      match ← skipComment (skipBlanks rest) with
      | [] => return draft
      | '\n' :: rest => readStatements measure draft rest
      | rest => fail .newlineExpected rest

/-- The characters with each carriage return dropped that a line feed follows. -/
def joinLineEnds : List Char → List Char
  | '\r' :: '\n' :: rest => '\n' :: joinLineEnds rest
  | c :: rest => c :: joinLineEnds rest
  | [] => []

/-- The table of a document, or the complaint about its first fault. -/
def read (document : String) : Except Complaint Entries :=
  let cs := joinLineEnds document.toList
  match readStatements (cs.length + 1) .empty cs with
  | .ok draft => .ok draft.root
  | .error fault => .error (fault.locate cs)

end PostgresAccess.Toml
