import BlockVolume.Pattern.Fault
import BlockVolume.Pattern.Matching

namespace BlockVolume.Pattern

/-- A character that stands for itself. `isOctet`: it was written as `\x` and two digits. -/
structure Literal where
  span : Span
  char : Char
  isOctet : Bool
  deriving DecidableEq

inductive Assertion
  | lineStart
  | lineStop
  | textStart
  | textStop
  | word (edge : WordEdge)
  deriving DecidableEq

inductive ShortClass
  | digit
  | space
  | word
  deriving DecidableEq

inductive NamedClass
  | alnum
  | alpha
  | ascii
  | blank
  | cntrl
  | digit
  | graph
  | lower
  | print
  | punct
  | space
  | upper
  | word
  | xdigit
  deriving DecidableEq

def NamedClass.names : List (String × NamedClass) :=
  [("alnum", .alnum), ("alpha", .alpha), ("ascii", .ascii), ("blank", .blank), ("cntrl", .cntrl),
    ("digit", .digit), ("graph", .graph), ("lower", .lower), ("print", .print), ("punct", .punct),
    ("space", .space), ("upper", .upper), ("word", .word), ("xdigit", .xdigit)]

/-- A Unicode property: the text that names it, and whether that gives a value too. -/
structure Property where
  name : List Char
  hasValue : Bool
  deriving DecidableEq

inductive Atom
  | literal (l : Literal)
  | dot (span : Span)
  | assertion (span : Span) (kind : Assertion)
  | property (span : Span) (p : Property)
  | short (span : Span) (kind : ShortClass) (negated : Bool)

def Atom.span : Atom → Span
  | .literal l => l.span
  | .dot span | .assertion span _ | .property span _ | .short span _ _ => span

inductive SetOperation
  | inter
  | diff
  | symmDiff
  deriving DecidableEq

inductive Term
  | empty (span : Span)
  | literal (l : Literal)
  | range (span : Span) (low high : Literal)
  | named (span : Span) (kind : NamedClass) (negated : Bool)
  | property (span : Span) (p : Property)
  | short (span : Span) (kind : ShortClass) (negated : Bool)
  | bracket (span : Span) (negated : Bool) (content : Term)
  | union (span : Span) (terms : List Term)
  | combined (span : Span) (op : SetOperation) (left right : Term)

def Term.span : Term → Span
  | .literal l => l.span
  | .empty span | .range span _ _ | .named span _ _ | .property span _ | .short span _ _
  | .bracket span _ _ | .union span _ | .combined span _ _ _ => span

def Term.ofRow (start : Position) : List Term → Term
  | [] => .empty (Span.point start)
  | [t] => t
  | last :: terms =>
    let row := (last :: terms).reverse
    .union ⟨((row.head?.map Term.span).getD last.span).start, last.span.stop⟩ row

inductive Flag
  | ignoreCase
  | multiLine
  | dotAll
  | swapGreed
  | unicode
  | crlf
  | ignoreBlank
  deriving DecidableEq

abbrev Settings := List (Flag × Bool)

structure Bounds where
  least : Nat
  most : Option Nat
  deriving DecidableEq

inductive Expression
  | empty (span : Span)
  | settings (span : Span) (s : Settings)
  | atom (a : Atom)
  | bracket (t : Term)
  | repeated (span : Span) (bounds : Bounds) (body : Expression)
  | group (span : Span) (captures : Bool) (s : Settings) (body : Expression)
  | branches (span : Span) (es : List Expression)
  | row (span : Span) (es : List Expression)

namespace Expression

def span : Expression → Span
  | .atom a => a.span
  | .bracket t => t.span
  | .empty span | .settings span _ | .repeated span _ _ | .group span _ _ _ | .branches span _
  | .row span _ => span

def ofRow (span : Span) : List Expression → Expression
  | [] => .empty span
  | [e] => e
  | es => .row span es.reverse

def isRepeatable : Expression → Bool
  | .empty _ | .settings _ _ => false
  | _ => true

end Expression

def deeper (left : Nat) (span : Span) : Except Fault Nat :=
  match left with
  | 0 => .error ⟨.tooDeep, span, none⟩
  | n + 1 => .ok n

mutual

def Term.checkDepth (left : Nat) : Term → Except Fault Unit
  | .bracket span _ content => do content.checkDepth (← deeper left span)
  | .union span terms => do Term.checkDepths (← deeper left span) terms
  | .combined span _ a b => do
    let left ← deeper left span
    a.checkDepth left
    b.checkDepth left
  | _ => pure ()

def Term.checkDepths (left : Nat) : List Term → Except Fault Unit
  | [] => pure ()
  | t :: ts => do
    t.checkDepth left
    Term.checkDepths left ts

end

mutual

def Expression.checkDepth (left : Nat) : Expression → Except Fault Unit
  | .bracket t => t.checkDepth left
  | .repeated span _ body => do body.checkDepth (← deeper left span)
  | .group span _ _ body => do body.checkDepth (← deeper left span)
  | .branches span es => do Expression.checkDepths (← deeper left span) es
  | .row span es => do Expression.checkDepths (← deeper left span) es
  | .empty _ | .settings _ _ | .atom _ => pure ()

def Expression.checkDepths (left : Nat) : List Expression → Except Fault Unit
  | [] => pure ()
  | e :: es => do
    e.checkDepth left
    Expression.checkDepths left es

end

end BlockVolume.Pattern
