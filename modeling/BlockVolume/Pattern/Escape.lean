import BlockVolume.Pattern.Reader
import BlockVolume.Text

namespace BlockVolume.Pattern

open Text (isDigit isDigitIn scalar?)

def isPlainEscape (c : Char) : Bool :=
  c.toNat < 0x80 && !c.isAlphanum && c != '<' && c != '>'

def controlEscape? : Char → Option Char
  | 'a' => some '\x07'
  | 'f' => some '\x0c'
  | 'n' => some '\n'
  | 'r' => some '\r'
  | 't' => some '\t'
  | 'v' => some '\x0b'
  | _ => none

def assertionEscape? : Char → Option Assertion
  | 'A' => some .textStart
  | 'z' => some .textStop
  | 'b' => some (.word .boundary)
  | 'B' => some (.word .noBoundary)
  | '<' => some (.word .start)
  | '>' => some (.word .stop)
  | _ => none

def shortEscape? : Char → Option (ShortClass × Bool)
  | 'd' => some (.digit, false)
  | 'D' => some (.digit, true)
  | 's' => some (.space, false)
  | 'S' => some (.space, true)
  | 'w' => some (.word, false)
  | 'W' => some (.word, true)
  | _ => none

def edgeNames : List (String × WordEdge) :=
  [("start", .start), ("end", .stop), ("start-half", .startHalf), ("end-half", .stopHalf)]

def codePointSize? : Char → Option Nat
  | 'x' => some 2
  | 'u' => some 4
  | 'U' => some 8
  | _ => none

namespace Reader

def hexDigits : Nat → Reader (List Char)
  | 0 => pure []
  | n + 1 => do
    match ← peek with
    | none => fail .escapeUnfinished (.point (← here))
    | some d =>
      if isDigitIn 16 d then
        step
        pure (d :: (← hexDigits n))
      else fail .hexDigitInvalid (← charSpan)

def bracedHexDigits (brace : Position) : Reader (List Char) := do
  step
  let digits ← takeWhile (isDigitIn 16)
  match ← peek with
  | none => fail .escapeUnfinished (← spanFrom brace)
  | some c => if c = '}' then pure digits else fail .hexDigitInvalid (← charSpan)

def codePoint (digits : List Char) (span : Span) : Reader Char :=
  match scalar? digits with
  | some c => pure c
  | none => fail .hexInvalid span

/-- A code point: after its letter a number of digits, or any number of them in braces. `start` is
where the escape begins. -/
def hexLiteral (start : Position) (letter : Char) (size : Nat) : Reader Atom := do
  step
  match ← peek with
  | none => fail .escapeUnfinished (.point (← here))
  | some '{' =>
    let brace ← here
    let digits ← bracedHexDigits brace
    let span ← spanFrom (brace.after '{')
    step
    if digits = [] then fail .hexEmpty (← spanFrom brace)
    else
      let c ← codePoint digits span
      pure (.literal ⟨← spanFrom start, c, false⟩)
  | some _ =>
    let first ← here
    let digits ← hexDigits size
    let c ← codePoint digits (← spanFrom first)
    pure (.literal ⟨← spanFrom start, c, letter == 'x'⟩)

def propertyOf (name : List Char) : Property := ⟨name, name.contains ':' || name.contains '='⟩

def property (start : Position) : Reader Atom := do
  step
  match ← peek with
  | none => fail .escapeUnfinished (.point (← here))
  | some '{' =>
    step
    let name ← takeWhile (· != '}')
    match ← peek with
    | none => fail .escapeUnfinished (.point (← here))
    | some _ =>
      advance
      pure (.property (← spanFrom start) (propertyOf name))
  | some c =>
    if c = '\\' then fail .propertyInvalid (← charSpan)
    else
      step
      pure (.property (← spanFrom start) ⟨[c], false⟩)

def isEdgeChar (c : Char) : Bool := c.isAlpha || c == '-'

def edgeName? (start : Position) : Reader (Option WordEdge) := do
  let before ← get
  let brace ← here
  step
  let first ← here
  match ← peek with
  | none => fail .boundaryUnfinished (← spanFrom start)
  | some c =>
    if isEdgeChar c then
      let name ← takeWhile isEdgeChar
      let nameSpan ← spanFrom first
      match ← peek with
      | some '}' =>
        advance
        match edgeNames.lookup (String.ofList name) with
        | some edge => pure (some edge)
        | none => fail .boundaryUnknown nameSpan
      | _ => fail .boundaryUnclosed (← spanFrom brace)
    else
      set before
      pure none

def namedBoundary (start : Position) : Reader Atom := do
  let span ← spanFrom start
  match ← peek with
  | some '{' =>
    match ← edgeName? start with
    | some edge => pure (.assertion (← spanFrom start) (.word edge))
    | none => pure (.assertion span (.word .boundary))
  | _ => pure (.assertion span (.word .boundary))

def simpleEscape (start : Position) (c : Char) : Reader Atom := do
  advance
  let span ← spanFrom start
  if isPlainEscape c then pure (.literal ⟨span, c, false⟩)
  else if c = 'b' then namedBoundary start
  else match controlEscape? c, assertionEscape? c, shortEscape? c with
    | some control, _, _ => pure (.literal ⟨span, control, false⟩)
    | _, some kind, _ => pure (.assertion span kind)
    | _, _, some (kind, negated) => pure (.short span kind negated)
    | _, _, _ => fail .escapeUnknown span

def escape : Reader Atom := do
  let start ← here
  advance
  match ← peek with
  | none => fail .escapeUnfinished (← spanFrom start)
  | some c =>
    if isDigit c then fail .backReference ⟨start, (← charSpan).stop⟩
    else if c = 'p' ∨ c = 'P' then property start
    else match codePointSize? c with
      | some size => hexLiteral start c size
      | none => simpleEscape start c

end Reader

end BlockVolume.Pattern
