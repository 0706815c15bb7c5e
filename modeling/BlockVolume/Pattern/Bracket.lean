import BlockVolume.Pattern.Escape

namespace BlockVolume.Pattern

structure Opened where
  span : Span
  negated : Bool

/-- The terms of an open bracket that are read: what is on the left of the last operator, where the
row after it begins, and the terms of that row, the last one first. -/
structure Terms where
  left : Option (SetOperation × Term)
  start : Position
  row : List Term

namespace Terms

def push (ts : Terms) (t : Term) : Terms := { ts with row := t :: ts.row }

def close (ts : Terms) : Term :=
  let right := Term.ofRow ts.start ts.row
  match ts.left with
  | none => right
  | some (op, left) => .combined ⟨left.span.start, right.span.stop⟩ op left right

def operator (ts : Terms) (op : SetOperation) (start : Position) : Terms :=
  ⟨some (op, ts.close), start, []⟩

end Terms

def operator? : List Char → Option SetOperation
  | '&' :: '&' :: _ => some .inter
  | '-' :: '-' :: _ => some .diff
  | '~' :: '~' :: _ => some .symmDiff
  | _ => none

def namedClass? : List Char → Option (NamedClass × Bool × Nat)
  | '[' :: ':' :: cs =>
    let (negated, cs) := match cs with
      | '^' :: cs => (true, cs)
      | cs => (false, cs)
    let name := cs.takeWhile (· != ':')
    match cs.drop name.length with
    | ':' :: ']' :: _ =>
      (NamedClass.names.lookup (String.ofList name)).map fun kind =>
        (kind, negated, name.length + (if negated then 5 else 4))
    | _ => none
  | _ => none

namespace Reader

def advanceBy : Nat → Reader Unit
  | 0 => pure ()
  | n + 1 => do
    advance
    advanceBy n

def requireMore (start : Position) : Reader Unit := do
  match ← peek with
  | some _ => pure ()
  | none => fail .bracketUnclosed (← spanFrom start)

/-- The hyphens at the front of a bracket that begins at `start`, at most `bound`. They stand for
themselves. -/
def leadingHyphens (start : Position) : Nat → Reader (List Term)
  | 0 => pure []
  | bound + 1 => do
    match ← peek with
    | some '-' =>
      let span ← charSpan
      step
      match ← peek with
      | some _ => pure (.literal ⟨span, '-', false⟩ :: (← leadingHyphens start bound))
      | none => fail .bracketUnclosed (.point start)
    | _ => pure []

/-- The front of a bracket: the bracket itself, a circumflex if it stands for all other characters,
and hyphens or a closing bracket, which stand for themselves there. -/
def openBracket : Reader (Opened × Terms) := do
  let start ← here
  step
  requireMore start
  let negated := (← peek) == some '^'
  if negated then
    step
    requireMore start
  let first ← here
  let hyphens ← leadingHyphens start (← left)
  let closing := (← peek) == some ']' && hyphens.isEmpty
  let closingSpan ← charSpan
  if closing then
    step
    requireMore start
  let row := if closing then [.literal ⟨closingSpan, ']', false⟩] else hyphens.reverse
  pure (⟨← spanFrom start, negated⟩, ⟨none, first, row⟩)

def bracketAtom : Reader Atom := do
  match ← peek with
  | some '\\' => escape
  | some c =>
    let span ← charSpan
    advance
    pure (.literal ⟨span, c, false⟩)
  | none => fail .escapeUnfinished (.point (← here))

def termOfAtom : Atom → Reader Term
  | .literal l => pure (.literal l)
  | .property span p => pure (.property span p)
  | .short span kind negated => pure (.short span kind negated)
  | .dot span | .assertion span _ => fail .escapeInBracket span

def boundOfAtom : Atom → Reader Literal
  | .literal l => pure l
  | a => fail .rangeBound a.span

def rangeOrTerm (o : Opened) : Reader Term := do
  let low ← bracketAtom
  skipBlank
  match ← peek with
  | none => fail .bracketUnclosed o.span
  | some c =>
    let second := (← get).second?
    if c != '-' || second == some ']' || second == some '-' then termOfAtom low
    else
      step
      match ← peek with
      | none => fail .bracketUnclosed o.span
      | some _ =>
        let high ← bracketAtom
        let span : Span := ⟨low.span.start, high.span.stop⟩
        let low ← boundOfAtom low
        let high ← boundOfAtom high
        if low.char ≤ high.char then pure (.range span low high) else fail .rangeReversed span

def bracketFrom : Nat → Opened → Terms → Reader Term
  | 0, o, _ => fail .bracketUnclosed o.span
  | bound + 1, o, ts => do
    skipBlank
    match (← get).rest with
    | [] => fail .bracketUnclosed o.span
    | ']' :: _ =>
      advance
      pure (.bracket (← spanFrom o.span.start) o.negated ts.close)
    | '[' :: cs =>
      match namedClass? ('[' :: cs) with
      | some (kind, negated, size) =>
        let start ← here
        advanceBy size
        bracketFrom bound o (ts.push (.named (← spanFrom start) kind negated))
      | none =>
        let (inner, first) ← openBracket
        let t ← bracketFrom bound inner first
        bracketFrom bound o (ts.push t)
    | cs =>
      match operator? cs with
      | some op =>
        advanceBy 2
        bracketFrom bound o (ts.operator op (← here))
      | none =>
        let t ← rangeOrTerm o
        bracketFrom bound o (ts.push t)

def bracket : Reader Term := do
  let bound ← left
  let (o, ts) ← openBracket
  bracketFrom bound o ts

end Reader

end BlockVolume.Pattern
