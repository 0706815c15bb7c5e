import BlockVolume.Text

namespace BlockVolume.Pattern

structure Position where
  offset : Nat
  line : Nat
  column : Nat
  deriving DecidableEq

namespace Position

def start : Position := ⟨0, 1, 1⟩

def after (p : Position) (c : Char) : Position :=
  if c = '\n' then ⟨p.offset + 1, p.line + 1, 1⟩ else ⟨p.offset + 1, p.line, p.column + 1⟩

end Position

structure Span where
  start : Position
  stop : Position
  deriving DecidableEq

namespace Span

def point (p : Position) : Span := ⟨p, p⟩

def ofChar (p : Position) (c : Char) : Span := ⟨p, p.after c⟩

def isOneLine (s : Span) : Bool := s.start.line == s.stop.line

def le (a b : Span) : Bool :=
  a.start.offset < b.start.offset ||
    (a.start.offset == b.start.offset && a.stop.offset ≤ b.stop.offset)

end Span

def depthLimit : Nat := 250

inductive Cause
  | backReference
  | boundaryUnknown
  | boundaryUnclosed
  | boundaryUnfinished
  | bracketUnclosed
  | caseFoldingUnknown
  | countInvalid
  | countMissing
  | countsReversed
  | countUnclosed
  | escapeInBracket
  | escapeUnfinished
  | escapeUnknown
  | flagAgain
  | flagEnd
  | flagUnknown
  | groupUnclosed
  | groupUnopened
  | hexDigitInvalid
  | hexEmpty
  | hexInvalid
  | invalidText
  | lookAround
  | nameAgain
  | nameEmpty
  | nameInvalid
  | nameUnclosed
  | negationAgain
  | negationDangling
  | nothingRepeated
  | propertyInvalid
  | propertyUnknown
  | rangeBound
  | rangeReversed
  | shortClassUnknown
  | tooDeep
  | unicodeRefused
  | valueUnknown
  deriving DecidableEq

def Cause.message : Cause → String
  | .backReference => "backreferences are not supported"
  | .boundaryUnknown =>
    "unrecognized special word boundary assertion, valid choices are: start, end, start-half " ++
      "or end-half"
  | .boundaryUnclosed =>
    "special word boundary assertion is either unclosed or contains an invalid character"
  | .boundaryUnfinished =>
    "found either the beginning of a special word boundary or a bounded repetition on a \\b " ++
      "with an opening brace, but no closing brace"
  | .bracketUnclosed => "unclosed character class"
  | .caseFoldingUnknown =>
    "Unicode-aware case insensitivity matching is not available (make sure the unicode-case " ++
      "feature is enabled)"
  | .countInvalid => "decimal literal invalid"
  | .countMissing => "repetition quantifier expects a valid decimal"
  | .countsReversed => "invalid repetition count range, the start must be <= the end"
  | .countUnclosed => "unclosed counted repetition"
  | .escapeInBracket => "invalid escape sequence found in character class"
  | .escapeUnfinished => "incomplete escape sequence, reached end of pattern prematurely"
  | .escapeUnknown => "unrecognized escape sequence"
  | .flagAgain => "duplicate flag"
  | .flagEnd => "expected flag but got end of regex"
  | .flagUnknown => "unrecognized flag"
  | .groupUnclosed => "unclosed group"
  | .groupUnopened => "unopened group"
  | .hexDigitInvalid => "invalid hexadecimal digit"
  | .hexEmpty => "hexadecimal literal empty"
  | .hexInvalid => "hexadecimal literal is not a Unicode scalar value"
  | .invalidText => "pattern can match invalid UTF-8"
  | .lookAround => "look-around, including look-ahead and look-behind, is not supported"
  | .nameAgain => "duplicate capture group name"
  | .nameEmpty => "empty capture group name"
  | .nameInvalid => "invalid capture group character"
  | .nameUnclosed => "unclosed capture group name"
  | .negationAgain => "flag negation operator repeated"
  | .negationDangling => "dangling flag negation operator"
  | .nothingRepeated => "repetition operator missing expression"
  | .propertyInvalid => "invalid Unicode character class"
  | .propertyUnknown => "Unicode property not found"
  | .rangeBound => "invalid range boundary, must be a literal"
  | .rangeReversed => "invalid character class range, the start must be <= the end"
  | .shortClassUnknown =>
    "Unicode-aware Perl class not found (make sure the unicode-perl feature is enabled)"
  | .tooDeep =>
    "exceed the maximum number of nested parentheses/brackets (" ++ toString depthLimit ++ ")"
  | .unicodeRefused => "Unicode not allowed here"
  | .valueUnknown => "Unicode property value not found"

/-- A fault: its cause, where it is, and where that was that it clashes with. -/
structure Fault where
  cause : Cause
  span : Span
  clash : Option Span
  deriving DecidableEq

namespace Fault

def spans (f : Fault) : List Span :=
  match f.clash with
  | none => [f.span]
  | some other => if other.le f.span then [other, f.span] else [f.span, other]

/-- Marks below stretches of one line, of which `done` columns are written. A stretch of no
characters has a mark too. -/
def marks (done : Nat) : List Span → List Char
  | [] => []
  | s :: rest =>
    let gap := s.start.column - 1 - done
    let width := max 1 (s.stop.column - s.start.column)
    List.replicate gap ' ' ++ List.replicate width '^' ++ marks (done + gap + width) rest

def lineCount (pattern : List Char) : Nat :=
  (Text.lines pattern).length + (if pattern.getLast? = some '\n' then 1 else 0)

def numberWidth (pattern : List Char) : Nat :=
  if lineCount pattern ≤ 1 then 0 else (toString (lineCount pattern)).length

def margin (width number : Nat) : String :=
  if width = 0 then "    "
  else
    let digits := toString number
    String.ofList (List.replicate (width - digits.length) ' ') ++ digits ++ ": "

def markedLine (f : Fault) (width : Nat) (line : List Char) (number : Nat) : String :=
  let here := f.spans.filter fun s => s.isOneLine && s.start.line == number
  margin width number ++ String.ofList line ++ "\n" ++
    (if here.isEmpty then ""
    else
      String.ofList (List.replicate (if width = 0 then 4 else 2 + width) ' ') ++
        String.ofList (marks 0 here) ++ "\n")

def markedLines (f : Fault) (pattern : List Char) : String :=
  String.join (((Text.lines pattern).zipIdx 1).map fun (line, number) =>
    f.markedLine (numberWidth pattern) line number)

def reach (s : Span) : String :=
  "on line " ++ toString s.start.line ++ " (column " ++ toString s.start.column ++
    ") through line " ++ toString s.stop.line ++ " (column " ++ toString (s.stop.column - 1) ++
    ")\n"

/-- How a fault of a pattern is shown. Between rules if the pattern has line ends. -/
def report (f : Fault) (pattern : List Char) : String :=
  let rule := String.ofList (List.replicate 79 '~') ++ "\n"
  let body :=
    if pattern.contains '\n' then
      rule ++ f.markedLines pattern ++ rule ++
        String.join ((f.spans.filter (!·.isOneLine)).map reach)
    else f.markedLines pattern
  "regex parse error:\n" ++ body ++ "error: " ++ f.cause.message

end Fault

end BlockVolume.Pattern
