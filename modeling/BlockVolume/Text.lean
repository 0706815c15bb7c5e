namespace BlockVolume.Text

def closeLine : List Char → List Char
  | '\r' :: cs => cs.reverse
  | cs => cs.reverse

def linesFrom (acc : List Char) : List Char → List (List Char)
  | [] => if acc.isEmpty then [] else [acc.reverse]
  | c :: cs => if c = '\n' then closeLine acc :: linesFrom [] cs else linesFrom (c :: acc) cs

/-- The lines of a text. A line feed, or a carriage return and a line feed, ends a line; what
follows the last of them is a line too unless it is empty, and keeps its carriage return. -/
def lines (cs : List Char) : List (List Char) := linesFrom [] cs

def splitFirst (sep : List Char) : List Char → Option (List Char × List Char)
  | [] => if sep.isEmpty then some ([], []) else none
  | c :: cs =>
    if sep.isPrefixOf (c :: cs) then some ([], (c :: cs).drop sep.length)
    else (splitFirst sep cs).map fun (a, b) => (c :: a, b)

def splitAt (sep : Char) : List Char → List (List Char)
  | [] => [[]]
  | c :: cs =>
    if c = sep then [] :: splitAt sep cs
    else match splitAt sep cs with
      | [] => [[c]]
      | w :: ws => (c :: w) :: ws

def indentFurther (width : Nat) (cs : List Char) : List Char :=
  cs.flatMap fun c => if c = '\n' then '\n' :: List.replicate width ' ' else [c]

def hasNul (text : String) : Bool := text.toList.contains '\x00'

def dropLead? (lead : List Char) (cs : List Char) : Option (List Char) :=
  if lead.isPrefixOf cs then some (cs.drop lead.length) else none

/-- The Unicode property White_Space. -/
def isBlank (c : Char) : Bool :=
  let n := c.toNat
  (9 ≤ n && n ≤ 13) || n == 0x20 || n == 0x85 || n == 0xA0 || n == 0x1680 ||
    (0x2000 ≤ n && n ≤ 0x200A) || n == 0x2028 || n == 0x2029 || n == 0x202F || n == 0x205F ||
    n == 0x3000

def trimChars (cs : List Char) : List Char :=
  ((cs.dropWhile isBlank).reverse.dropWhile isBlank).reverse

def trim (s : String) : String := String.ofList (trimChars s.toList)

def consFirst (c : Char) : List (List Char) → List (List Char)
  | [] => [[c]]
  | w :: ws => (c :: w) :: ws

def words : List Char → List (List Char)
  | [] => []
  | c :: cs =>
    if isBlank c then words cs
    else match cs with
      | [] => [[c]]
      | d :: _ => if isBlank d then [c] :: words cs else consFirst c (words cs)

def isDigit (c : Char) : Bool := '0' ≤ c && c ≤ '9'

def digitValue (c : Char) : Nat :=
  if isDigit c then c.toNat - '0'.toNat
  else if 'a' ≤ c ∧ c ≤ 'f' then c.toNat - 'a'.toNat + 10
  else c.toNat - 'A'.toNat + 10

def isDigitIn (base : Nat) (c : Char) : Bool :=
  (isDigit c || ('a' ≤ c && c ≤ 'f') || ('A' ≤ c && c ≤ 'F')) && digitValue c < base

def valueOf (base : Nat) (digits : List Char) : Nat :=
  digits.foldl (fun n c => n * base + digitValue c) 0

def scalar? (digits : List Char) : Option Char :=
  if digits.all (isDigitIn 16) then
    let n := valueOf 16 digits
    if n.isValidChar then some (Char.ofNat n) else none
  else none

end BlockVolume.Text

namespace BlockVolume.Text.Utf8

/-- A character begun but not complete: the bits read, how many octets are owed after the next one,
and the least and the greatest octet the next one may be. -/
structure Begun where
  bits : Nat
  owed : Nat
  low : Nat
  high : Nat

def first (b : Nat) : Option Char ⊕ Begun :=
  if b < 0x80 then .inl (some (Char.ofNat b))
  else if 0xC2 ≤ b ∧ b ≤ 0xDF then .inr ⟨b - 0xC0, 0, 0x80, 0xBF⟩
  else if b = 0xE0 then .inr ⟨0, 1, 0xA0, 0xBF⟩
  else if b = 0xED then .inr ⟨0xD, 1, 0x80, 0x9F⟩
  else if 0xE1 ≤ b ∧ b ≤ 0xEF then .inr ⟨b - 0xE0, 1, 0x80, 0xBF⟩
  else if b = 0xF0 then .inr ⟨0, 2, 0x90, 0xBF⟩
  else if 0xF1 ≤ b ∧ b ≤ 0xF3 then .inr ⟨b - 0xF0, 2, 0x80, 0xBF⟩
  else if b = 0xF4 then .inr ⟨4, 2, 0x80, 0x8F⟩
  else .inl none

def Begun.next (p : Begun) (b : Nat) : Char ⊕ Begun :=
  let bits := p.bits * 64 + (b - 0x80)
  match p.owed with
  | 0 => .inl (Char.ofNat bits)
  | n + 1 => .inr ⟨bits, n, 0x80, 0xBF⟩

/-- The characters of an octet sequence, with `none` for each invalid part. -/
def pieces : Option Begun → List UInt8 → List (Option Char)
  | none, [] => []
  | some _, [] => [none]
  | none, b :: bs =>
    match first b.toNat with
    | .inl c => c :: pieces none bs
    | .inr p => pieces (some p) bs
  | some p, b :: bs =>
    if p.low ≤ b.toNat ∧ b.toNat ≤ p.high then
      match p.next b.toNat with
      | .inl c => some c :: pieces none bs
      | .inr q => pieces (some q) bs
    else
      none :: match first b.toNat with
        | .inl c => c :: pieces none bs
        | .inr q => pieces (some q) bs

def decodeLossy (bs : List UInt8) : String :=
  String.ofList ((pieces none bs).map (·.getD '\uFFFD'))

def decode? (bs : List UInt8) : Option String :=
  ((pieces none bs).mapM id).map String.ofList

def encode (s : String) : List UInt8 := s.toList.flatMap String.utf8EncodeChar

end BlockVolume.Text.Utf8
