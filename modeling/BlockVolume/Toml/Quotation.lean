import BlockVolume.Text
import BlockVolume.Toml.Reader

namespace BlockVolume.Toml

open Text (scalar?)

def letterEscape? : Char → Option Char
  | 'b' => some '\x08'
  | 't' => some '\t'
  | 'n' => some '\n'
  | 'f' => some '\x0c'
  | 'r' => some '\r'
  | '"' => some '"'
  | '\\' => some '\\'
  | _ => none

def consRead (c : Char) : Option (List Char × List Char) → Option (List Char × List Char)
  | some (cs, rest) => some (c :: cs, rest)
  | none => none

def basicBody : Reader (List Char)
  | [] => none
  | '"' :: cs => some ([], cs)
  | '\\' :: 'u' :: a :: b :: c :: d :: cs =>
    match scalar? [a, b, c, d] with
    | some x => consRead x (basicBody cs)
    | none => none
  | '\\' :: 'U' :: a :: b :: c :: d :: e :: f :: g :: h :: cs =>
    match scalar? [a, b, c, d, e, f, g, h] with
    | some x => consRead x (basicBody cs)
    | none => none
  | '\\' :: c :: cs =>
    match letterEscape? c with
    | some x => consRead x (basicBody cs)
    | none => none
  | c :: cs => if isPlain c && c != '\\' then consRead c (basicBody cs) else none

def literalBody : Reader (List Char)
  | [] => none
  | '\'' :: cs => some ([], cs)
  | c :: cs => if isPlain c then consRead c (literalBody cs) else none

/-- What three closing quotes leave of a run of `n` of them: up to two belong to the text. Fewer
than three close nothing, and a run may not be longer than five. -/
def quotesBeforeClose? (n : Nat) : Option Nat := if 3 ≤ n ∧ n ≤ 5 then some (n - 3) else none

def endsLine (cs : List Char) : Bool := (newline (cs.dropWhile isBlank)).isSome

/-- A text within three double quotes, with the closing ones. `skipping` drops blanks and line ends,
as a backslash at the end of a line asks. -/
def longBasicBody (skipping : Bool) : Reader (List Char)
  | [] => none
  | '\r' :: '\n' :: cs =>
    if skipping then longBasicBody true cs else consRead '\n' (longBasicBody false cs)
  | '\\' :: 'u' :: a :: b :: c :: d :: cs =>
    match scalar? [a, b, c, d] with
    | some x => consRead x (longBasicBody false cs)
    | none => none
  | '\\' :: 'U' :: a :: b :: c :: d :: e :: f :: g :: h :: cs =>
    match scalar? [a, b, c, d, e, f, g, h] with
    | some x => consRead x (longBasicBody false cs)
    | none => none
  | '\\' :: c :: cs =>
    match letterEscape? c with
    | some x => consRead x (longBasicBody false cs)
    | none => if endsLine (c :: cs) then longBasicBody true (c :: cs) else none
  | c :: cs =>
    if c = '"' then
      let run := ((c :: cs).takeWhile (· = '"')).length
      if run < 3 then consRead '"' (longBasicBody false cs)
      else (quotesBeforeClose? run).map fun n => (List.replicate n '"', (c :: cs).drop run)
    else if c = '\n' then
      if skipping then longBasicBody true cs else consRead '\n' (longBasicBody false cs)
    else if skipping && isBlank c then longBasicBody true cs
    else if isPlain c && c != '\\' then consRead c (longBasicBody false cs)
    else none

def longLiteralBody : Reader (List Char)
  | [] => none
  | '\r' :: '\n' :: cs => consRead '\n' (longLiteralBody cs)
  | c :: cs =>
    if c = '\'' then
      let run := ((c :: cs).takeWhile (· = '\'')).length
      if run < 3 then consRead c (longLiteralBody cs)
      else (quotesBeforeClose? run).map fun n => (List.replicate n '\'', (c :: cs).drop run)
    else if c = '\n' || isPlain c then consRead c (longLiteralBody cs)
    else none

def string : Reader (List Char)
  | '"' :: '"' :: '"' :: cs => do
    let (_, cs) ← Reader.optional newline cs
    longBasicBody false cs
  | '"' :: cs => basicBody cs
  | '\'' :: '\'' :: '\'' :: cs => do
    let (_, cs) ← Reader.optional newline cs
    longLiteralBody cs
  | '\'' :: cs => literalBody cs
  | _ => none

end BlockVolume.Toml
