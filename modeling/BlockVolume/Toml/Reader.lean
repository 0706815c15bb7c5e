import BlockVolume.Binary64

namespace BlockVolume.Toml

structure TableOrigin where
  /-- No header named the table: only longer keys or headers lead through it. -/
  implicit : Bool
  /-- A dotted key leads through the table. -/
  dotted : Bool
  deriving DecidableEq

inductive Item
  | string (text : String)
  | integer (n : Int)
  | float (x : Binary64)
  | boolean (b : Bool)
  | moment
  | array (items : List Item)
  /-- A table between braces; `dotted` if a dotted key inside braces made it. -/
  | inline (dotted : Bool) (entries : List (String × Item))
  | table (origin : TableOrigin) (entries : List (String × Item))
  | tables (rows : List Item)

abbrev Entries := List (String × Item)

namespace Entries

def get? (entries : Entries) (key : String) : Option Item := entries.lookup key

def put : Entries → String → Item → Entries
  | [], key, item => [(key, item)]
  | (k, i) :: rest, key, item =>
    if k = key then (key, item) :: rest else (k, i) :: put rest key item

def insertNew (entries : Entries) (key : String) (item : Item) : Option Entries :=
  if (get? entries key).isSome then none else some (entries ++ [(key, item)])

def erase (entries : Entries) (key : String) : Entries := entries.filter (·.1 ≠ key)

end Entries

abbrev Reader (α : Type) := StateT (List Char) Option α

namespace Reader

variable {α : Type}

def peek : Reader (Option Char) := fun cs => some (cs.head?, cs)

def next : Reader Char
  | [] => none
  | c :: cs => some (c, cs)

def char (c : Char) : Reader Unit
  | [] => none
  | d :: cs => if d = c then some ((), cs) else none

def oneOf (p : Char → Bool) : Reader Char
  | [] => none
  | c :: cs => if p c then some (c, cs) else none

def text (t : List Char) : Reader Unit :=
  fun cs => if t.isPrefixOf cs then some ((), cs.drop t.length) else none

def many (p : Char → Bool) : Reader (List Char) :=
  fun cs => some (cs.takeWhile p, cs.dropWhile p)

def optional (r : Reader α) : Reader (Option α) :=
  fun cs => match r cs with
    | some (a, rest) => some (some a, rest)
    | none => some (none, cs)

def fail : Reader α := fun _ => none

def require (b : Bool) : Reader Unit := fun cs => if b then some ((), cs) else none

def ofOption : Option α → Reader α
  | some a => fun cs => some (a, cs)
  | none => fail

def atEnd : Reader Bool := fun cs => some (cs.isEmpty, cs)

end Reader

def isBlank (c : Char) : Bool := c == ' ' || c == '\t'

def isPlain (c : Char) : Bool := c == '\t' || (0x20 ≤ c.toNat && c.toNat != 0x7F)

def blanks : Reader Unit := do
  let _ ← Reader.many isBlank

def newline : Reader Unit
  | '\n' :: cs => some ((), cs)
  | '\r' :: '\n' :: cs => some ((), cs)
  | _ => none

def comment : Reader Unit := do
  Reader.char '#'
  let _ ← Reader.many isPlain

def lineEnd : Reader Unit := do
  blanks
  let _ ← Reader.optional comment
  if ← Reader.atEnd then pure () else newline

/-- Blanks, line ends and comments, as they may stand between the items of an array, dropped
from the front of a text. `inComment` says whether a comment is open there. -/
def skipFiller (inComment : Bool) : List Char → List Char
  | [] => []
  | '\r' :: '\n' :: cs => skipFiller false cs
  | c :: cs =>
    if c = '\n' then skipFiller false cs
    else if inComment then (if isPlain c then skipFiller true cs else c :: cs)
    else if c = '#' then skipFiller true cs
    else if isBlank c then skipFiller false cs
    else c :: cs

def filler : Reader Unit := fun cs => some ((), skipFiller false cs)

end BlockVolume.Toml
