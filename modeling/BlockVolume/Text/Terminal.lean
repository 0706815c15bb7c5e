namespace BlockVolume.Text.Terminal

/-- What a terminal is in the middle of. The parts of a sequence follow one another: parameters,
intermediate characters and a final one. In `csiIgnored` and `dcsIgnored` they did not. -/
inductive Mode
  | ground
  | escape
  | escapeIntermediate
  | csiEntry
  | csiParameters
  | csiIntermediate
  | csiIgnored
  | dcsEntry
  | dcsParameters
  | dcsIntermediate
  | dcsIgnored
  | dcsData
  | command
  | string
  deriving DecidableEq

def isMove (c : Char) : Bool := c == '\t' || c == '\n' || c == '\x0c' || c == '\r'

def isShown (c : Char) : Bool := isMove c || (0x20 ≤ c.toNat && c.toNat != 0x7F)

def isForeign (c : Char) : Bool := c.toNat < 0x20 || 0x7F ≤ c.toNat

/-- Whether the octet 0x9C, which ends strings, is part of a character's encoding. -/
def holdsTerminator (c : Char) : Bool :=
  (String.utf8EncodeChar c).any (·.toNat == 0x9C)

namespace Mode

def moves : Mode → Bool
  | .ground | .escape | .escapeIntermediate => true
  | .csiEntry | .csiParameters | .csiIntermediate | .csiIgnored => true
  | _ => false

def shows : Mode → Char → Bool
  | .ground, c => isShown c
  | mode, c => mode.moves && isMove c

def afterEscape (c : Char) : Mode :=
  if c.toNat < 0x30 then .escapeIntermediate
  else match c with
    | '[' => .csiEntry
    | ']' => .command
    | 'P' => .dcsEntry
    | 'X' | '^' | '_' => .string
    | _ => .ground

def afterPart (mode : Mode) (c : Char) : Mode :=
  let n := c.toNat
  match mode with
  | .escape => afterEscape c
  | .escapeIntermediate => if n < 0x30 then .escapeIntermediate else .ground
  | .csiEntry =>
    if n < 0x30 then .csiIntermediate else if n < 0x40 then .csiParameters else .ground
  | .csiParameters =>
    if n < 0x30 then .csiIntermediate
    else if n < 0x3C then .csiParameters
    else if n < 0x40 then .csiIgnored
    else .ground
  | .csiIntermediate =>
    if n < 0x30 then .csiIntermediate else if n < 0x40 then .csiIgnored else .ground
  | .csiIgnored => if n < 0x40 then .csiIgnored else .ground
  | .dcsEntry =>
    if n < 0x30 then .dcsIntermediate else if n < 0x40 then .dcsParameters else .dcsData
  | .dcsParameters =>
    if n < 0x30 then .dcsIntermediate
    else if n < 0x3C then .dcsParameters
    else if n < 0x40 then .dcsIgnored
    else .dcsData
  | .dcsIntermediate =>
    if n < 0x30 then .dcsIntermediate else if n < 0x40 then .dcsIgnored else .dcsData
  | .ground | .dcsIgnored | .dcsData | .command | .string => mode

/-- The mode after a character. The escape character begins a sequence anew, and U+0018 and U+001A
break one off. Commands end with a bell; strings and data at the octet 0x9C. -/
def next (mode : Mode) (c : Char) : Mode :=
  if c = '\x1b' then .escape
  else if c = '\x18' ∨ c = '\x1a' then .ground
  else match mode with
    | .command => if c = '\x07' then .ground else .command
    | .string | .dcsData | .dcsIgnored => if holdsTerminator c then .ground else mode
    | _ => if isForeign c then mode else mode.afterPart c

end Mode

/-- The characters that are shown, from a mode on. After one has been shown, `inRun`, the next ones
are as long as they can be, also if a move stands in the middle of a sequence; the sequence goes on
after them unless one was beyond ASCII. -/
def shownFrom (mode : Mode) (inRun : Bool) : List Char → List Char
  | [] => []
  | c :: cs =>
    if inRun && isShown c then
      c :: shownFrom (if c.toNat < 0x80 then mode else .ground) true cs
    else if mode.shows c then c :: shownFrom (mode.next c) true cs
    else shownFrom (mode.next c) false cs

def shown (cs : List Char) : List Char := shownFrom .ground false cs

end BlockVolume.Text.Terminal
