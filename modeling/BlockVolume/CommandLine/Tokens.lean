import BlockVolume.Text

namespace BlockVolume.CommandLine

inductive OptionKind
  | flag
  | valued
  deriving DecidableEq

abbrev OptionTable := List (String × OptionKind)

inductive Token
  | separator
  | long (name : String) (value : Option String)
  | letters (cs : List Char)
  | word (text : String)
  deriving DecidableEq

def Token.ofText (text : String) : Token :=
  match text.toList with
  | ['-', '-'] => .separator
  | '-' :: '-' :: cs =>
    match Text.splitFirst ['='] cs with
    | some (name, value) => .long (String.ofList name) (some (String.ofList value))
    | none => .long (String.ofList cs) none
  | '-' :: c :: cs => .letters (c :: cs)
  | _ => .word text

/-- Whether a word can be the value of the option before it: it must not look like an option. -/
def isValue (text : String) : Bool :=
  match Token.ofText text with
  | .word _ => true
  | _ => false

structure Scanned where
  options : List (String × Option String)
  words : List String
  rest : List String
  deriving DecidableEq

namespace Scanned

def consOption (name : String) (value : Option String) (s : Scanned) : Scanned :=
  { s with options := (name, value) :: s.options }

def consWord (word : String) (s : Scanned) : Scanned := { s with words := word :: s.words }

end Scanned

def letterName? : Char → Option String
  | 'v' => some "verbose"
  | _ => none

/-- Takes a command line apart. `untilWord` stops after the first plain word; nothing may be
separated then. -/
def scan (table : OptionTable) (untilWord : Bool) : List String → Option Scanned
  | [] => some ⟨[], [], []⟩
  | text :: more =>
    match Token.ofText text with
    | .separator => if untilWord then none else some ⟨[], more, []⟩
    | .word w =>
      if untilWord then some ⟨[], [w], more⟩
      else (scan table untilWord more).map (Scanned.consWord w)
    | .letters cs =>
      match cs.mapM letterName? with
      | none => none
      | some names =>
        (scan table untilWord more).map fun s =>
          names.foldr (fun name s => s.consOption name none) s
    | .long name value =>
      match table.lookup name, value with
      | none, _ => none
      | some .flag, none => (scan table untilWord more).map (Scanned.consOption name none)
      | some .flag, some _ => none
      | some .valued, some v => (scan table untilWord more).map (Scanned.consOption name (some v))
      | some .valued, none =>
        match more with
        | [] => none
        | v :: more =>
          if isValue v then (scan table untilWord more).map (Scanned.consOption name (some v))
          else none

namespace Scanned

def all (s : Scanned) (name : String) : List String :=
  s.options.filterMap fun (n, value) => if n = name then value else none

def single? (s : Scanned) (name : String) : Option (Option String) :=
  match s.all name with
  | [] => some none
  | [v] => some (some v)
  | _ => none

def flag? (s : Scanned) (name : String) : Option Bool :=
  match s.options.countP (·.1 = name) with
  | 0 => some false
  | 1 => some true
  | _ => none

def required? (s : Scanned) (name : String) : Option String := do
  let value ← s.single? name
  value

end Scanned

end BlockVolume.CommandLine
