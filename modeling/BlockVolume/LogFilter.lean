import BlockVolume.Log
import BlockVolume.Pattern
import BlockVolume.Text

namespace BlockVolume

/-- What a directive lets through: nothing for `none`, else the records at least as grave as the
level. -/
structure LogDirective where
  name : Option String
  threshold : Option LogLevel
  deriving DecidableEq

structure LogFilter where
  directives : List LogDirective
  pattern : Option Pattern
  deriving DecidableEq

structure LogFilterText where
  directives : List LogDirective
  pattern : Option Pattern
  complaints : List String

namespace LogFilter

def thresholdNames : List (String × Option LogLevel) :=
  [("OFF", none), ("ERROR", some .error), ("WARN", some .warn), ("INFO", some .info),
    ("DEBUG", some .debug), ("TRACE", some .trace)]

def threshold? (text : String) : Option (Option LogLevel) :=
  (thresholdNames.find? fun (name, _) => name.toList == text.toList.map Char.toUpper).map Prod.snd

def nameSize (d : LogDirective) : Nat := (d.name.map String.utf8ByteSize).getD 0

def insert (d : LogDirective) : List LogDirective → List LogDirective
  | [] => [d]
  | e :: es => if e.name = d.name then d :: es else e :: insert d es

/-- Reads one directive: a threshold, a name, or a name with a threshold behind an equals sign. A
name alone lets everything through. -/
def directive? (text : List Char) : Except String LogDirective :=
  match Text.splitAt '=' text with
  | [word] =>
    let word := String.ofList word
    match threshold? word with
    | some t => .ok ⟨none, t⟩
    | none => .ok ⟨some word, some .trace⟩
  | [name, level] =>
    let level := Text.trim (String.ofList level)
    if level = "" then .ok ⟨some (String.ofList name), some .trace⟩
    else match threshold? level with
      | some t => .ok ⟨some (String.ofList name), t⟩
      | none => .error ("invalid logging spec '" ++ level ++ "'")
  | _ => .error ("invalid logging spec '" ++ String.ofList text ++ "'")

def complaint? {α : Type} : Except String α → Option String
  | .error complaint => some complaint
  | .ok _ => none

def parseDirectives (text : List Char) : List (Except String LogDirective) :=
  (((Text.splitAt ',' text).map Text.trimChars).filter (· ≠ [])).map directive?

def ofParts (directives : List (Except String LogDirective))
    (pattern : Option (Except String Pattern)) : LogFilterText :=
  ⟨directives.filterMap Except.toOption, pattern.bind Except.toOption,
    directives.filterMap complaint? ++
      (pattern.bind complaint?).toList.map ("invalid regex filter - " ++ ·)⟩

/-- Reads a filter: directives, and after a slash a pattern. -/
def parse (text : String) : LogFilterText :=
  match Text.splitAt '/' text.toList with
  | [] => ofParts [] none
  | [directives] => ofParts (parseDirectives directives) none
  | [directives, pattern] =>
    ofParts (parseDirectives directives) (some (Pattern.parse (String.ofList pattern)))
  | _ => ⟨[], none, ["invalid logging spec '" ++ text ++ "' (too many '/'s)"]⟩

def ofThreshold (level : LogLevel) : LogFilter := ⟨[⟨none, some level⟩], none⟩

def override (f : LogFilter) (text : LogFilterText) : LogFilter :=
  ⟨text.directives.foldl (fun ds d => insert d ds) f.directives, text.pattern⟩

/-- The directive that decides about a target: of those that fit, the last one with the longest
name. -/
def deciding? (f : LogFilter) (target : String) : Option LogDirective :=
  ((f.directives.mergeSort fun a b => nameSize a ≤ nameSize b).reverse).find? fun d =>
    match d.name with
    | none => true
    | some name => name.toList.isPrefixOf target.toList

def accepts (f : LogFilter) (r : LogRecord) : Bool :=
  (match f.deciding? r.origin.target with
    | some ⟨_, some level⟩ => r.level.rank ≤ level.rank
    | _ => false) &&
  f.pattern.all (·.occursIn r.message)

def everything : LogFilter := ofThreshold .trace

end LogFilter

end BlockVolume
