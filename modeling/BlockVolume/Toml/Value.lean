import BlockVolume.Toml.Number
import BlockVolume.Toml.Quotation

namespace BlockVolume.Toml

open Text (isDigit)

def nestingLimit : Nat := 128

def isBareKeyChar (c : Char) : Bool :=
  isDigit c || ('a' ≤ c && c ≤ 'z') || ('A' ≤ c && c ≤ 'Z') || c == '_' || c == '-'

def keyPart : Reader String := fun cs =>
  match cs with
  | '"' :: rest => (basicBody rest).map fun (t, r) => (String.ofList t, r)
  | '\'' :: rest => (literalBody rest).map fun (t, r) => (String.ofList t, r)
  | _ =>
    let name := cs.takeWhile isBareKeyChar
    if name.isEmpty then none else some (String.ofList name, cs.drop name.length)

def moreKeyParts : Nat → Reader (List String)
  | 0 => pure []
  | fuel + 1 => do
    blanks
    if (← Reader.peek) = some '.' then
      Reader.char '.'
      blanks
      let part ← keyPart
      pure (part :: (← moreKeyParts fuel))
    else pure []

def key : Reader (List String × String) := fun cs =>
  (do
    blanks
    let first ← keyPart
    let parts := first :: (← moreKeyParts cs.length)
    Reader.require (parts.length < nestingLimit)
    let last ← Reader.ofOption parts.getLast?
    pure (parts.dropLast, last) : Reader (List String × String)) cs

/-- Puts an item into a table between braces, under the last part of a dotted key. `direct` says
that the key has no other part: it must be so in a table that was written out, and must not be so in
one that a dotted key made. -/
def putInline (item : Item) (last : String) (direct : Bool) :
    List String → Bool → Entries → Option Entries
  | [], dotted, entries => if dotted = direct then none else Entries.insertNew entries last item
  | part :: path, _, entries =>
    match (Entries.get? entries part).getD (.inline true []) with
    | .inline dotted inner => do
      let inner ← putInline item last direct path dotted inner
      pure (Entries.put entries part (.inline dotted inner))
    | _ => none

mutual

/-- A value; `depth` arrays and tables are open around it. -/
def value (depth : Nat) : Nat → Reader Item
  | 0 => Reader.fail
  | fuel + 1 => do
    match ← Reader.peek with
    | some '"' | some '\'' => pure (.string (String.ofList (← string)))
    | some '[' =>
      Reader.require (depth + 1 < nestingLimit)
      Reader.char '['
      pure (.array (← items (depth + 1) fuel))
    | some '{' =>
      Reader.require (depth + 1 < nestingLimit)
      Reader.char '{'
      pure (.inline false (← inlineEntries (depth + 1) fuel))
    | some 't' => Reader.text "true".toList; pure (.boolean true)
    | some 'f' => Reader.text "false".toList; pure (.boolean false)
    | _ => moment <|> decimalFloat <|> namedFloat <|> integer

def items (depth : Nat) : Nat → Reader (List Item)
  | 0 => Reader.fail
  | fuel + 1 => do
    filler
    if (← Reader.peek) = some ']' then
      Reader.char ']'
      pure []
    else
      let item ← value depth fuel
      filler
      if (← Reader.peek) = some ',' then
        Reader.char ','
        pure (item :: (← items depth fuel))
      else
        Reader.char ']'
        pure [item]

def inlineEntries (depth : Nat) : Nat → Reader Entries
  | 0 => Reader.fail
  | fuel + 1 => do
    blanks
    if (← Reader.peek) = some '}' then
      Reader.char '}'
      pure []
    else furtherEntries depth [] fuel

def furtherEntries (depth : Nat) (read : Entries) : Nat → Reader Entries
  | 0 => Reader.fail
  | fuel + 1 => do
    let (path, last) ← key
    Reader.char '='
    blanks
    let item ← value depth fuel
    blanks
    let entries ← Reader.ofOption (putInline item last path.isEmpty path false read)
    if (← Reader.peek) = some ',' then
      Reader.char ','
      furtherEntries depth entries fuel
    else
      Reader.char '}'
      pure entries

end

end BlockVolume.Toml
