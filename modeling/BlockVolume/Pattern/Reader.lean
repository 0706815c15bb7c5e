import BlockVolume.Pattern.Expression
import BlockVolume.Text

namespace BlockVolume.Pattern

/-- How far a text is read: the place, what follows it, whether blanks and comments there count, and
the names that groups have so far. -/
structure Cursor where
  position : Position
  rest : List Char
  ignoresBlank : Bool
  names : List (List Char × Span)

namespace Cursor

def ofText (text : List Char) : Cursor := ⟨.start, text, false, []⟩

def advance (c : Cursor) : Cursor :=
  match c.rest with
  | [] => c
  | x :: xs => { c with position := c.position.after x, rest := xs }

def blankFrom (position : Position) (inComment : Bool) : List Char → Position × List Char
  | [] => (position, [])
  | c :: cs =>
    if inComment then blankFrom (position.after c) (c != '\n') cs
    else if Text.isBlank c then blankFrom (position.after c) false cs
    else if c = '#' then blankFrom (position.after c) true cs
    else (position, c :: cs)

def skipBlank (c : Cursor) : Cursor :=
  if c.ignoresBlank then
    let (position, rest) := blankFrom c.position false c.rest
    { c with position, rest }
  else c

/-- The character behind the next one that counts. Within a comment the first character does. -/
def second? (c : Cursor) : Option Char :=
  let behind := c.rest.drop 1
  if c.ignoresBlank then
    match behind.dropWhile Text.isBlank with
    | '#' :: comment => (comment.dropWhile Text.isBlank).head?
    | cs => cs.head?
  else behind.head?

end Cursor

abbrev Reader (α : Type) := StateT Cursor (Except Fault) α

namespace Reader

variable {α : Type}

def here : Reader Position := fun c => .ok (c.position, c)

def peek : Reader (Option Char) := fun c => .ok (c.rest.head?, c)

def left : Reader Nat := fun c => .ok (c.rest.length, c)

def advance : Reader Unit := fun c => .ok ((), c.advance)

def skipBlank : Reader Unit := fun c => .ok ((), c.skipBlank)

def step : Reader Unit := fun c => .ok ((), c.advance.skipBlank)

def text? (t : List Char) : Reader Bool :=
  fun c => .ok (if t.isPrefixOf c.rest then (true, t.foldl (fun c _ => c.advance) c)
    else (false, c))

def fail (cause : Cause) (span : Span) : Reader α := fun _ => .error ⟨cause, span, none⟩

def failBeside (cause : Cause) (span clash : Span) : Reader α :=
  fun _ => .error ⟨cause, span, some clash⟩

def spanFrom (start : Position) : Reader Span := fun c => .ok (⟨start, c.position⟩, c)

def charSpan : Reader Span :=
  fun c => .ok (match c.rest.head? with
    | some x => Span.ofChar c.position x
    | none => Span.point c.position, c)

def takeUpTo (p : Char → Bool) : Nat → Reader (List Char)
  | 0 => pure []
  | bound + 1 => do
    match ← peek with
    | some c =>
      if p c then
        step
        pure (c :: (← takeUpTo p bound))
      else pure []
    | none => pure []

def takeWhile (p : Char → Bool) : Reader (List Char) := do takeUpTo p (← left)

def dropBlanks : Reader Unit := fun c =>
  .ok ((), (c.rest.takeWhile Text.isBlank).foldl (fun c _ => c.advance) c)

end Reader

end BlockVolume.Pattern
