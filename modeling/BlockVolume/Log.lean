import BlockVolume.Text
import BlockVolume.Text.Terminal

namespace BlockVolume

inductive LogLevel
  | error
  | warn
  | info
  | debug
  | trace
  deriving DecidableEq

namespace LogLevel

def name : LogLevel → String
  | .error => "ERROR"
  | .warn => "WARN"
  | .info => "INFO"
  | .debug => "DEBUG"
  | .trace => "TRACE"

def rank : LogLevel → Nat
  | .error => 1
  | .warn => 2
  | .info => 3
  | .debug => 4
  | .trace => 5

end LogLevel

inductive LogOrigin
  | lookup
  | rescan
  | mounting
  | unixHost
  | scriptedHost
  | interrupt
  deriving DecidableEq

def LogOrigin.target : LogOrigin → String
  | .lookup => "volmount_core::device"
  | .rescan => "volmount_core::rescan"
  | .mounting => "volmount_core::mounter"
  | .unixHost => "volmount_hal::hal::linux_hal"
  | .scriptedHost => "volmount_hal::hal::fake_hal"
  | .interrupt => "volmount::cancel"

structure LogRecord where
  level : LogLevel
  origin : LogOrigin
  message : String
  deriving DecidableEq

namespace LogRecord

/-- The record as it stands in a log, without a line end: the level in five columns, the origin, and
the message, whose further lines are indented. -/
def line (r : LogRecord) : String :=
  "[" ++ r.level.name ++ String.ofList (List.replicate (5 - r.level.name.length) ' ') ++ " " ++
    r.origin.target ++ "] " ++ String.ofList (Text.indentFurther 4 r.message.toList)

def text (r : LogRecord) : String :=
  String.ofList (Text.Terminal.shown (r.line ++ "\n").toList)

end LogRecord

end BlockVolume
