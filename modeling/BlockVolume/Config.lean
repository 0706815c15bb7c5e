import BlockVolume.Duration
import BlockVolume.Text

namespace BlockVolume

structure RetryConfig where
  initialDelayMillis : Nat
  factor : Binary64
  steps : Nat
  deriving DecidableEq

structure Config where
  defaultFstype : String
  retry : RetryConfig
  udevadmTimeoutSecs : Nat
  deriving DecidableEq

namespace RetryConfig

/-- Fifteen attempts, the first delay a second, each later one a tenth longer. -/
def standard : RetryConfig := ⟨1000, ⟨0x3FF199999999999A⟩, 15⟩

def schedule (c : RetryConfig) : RetrySchedule :=
  ⟨Duration.ofMillis c.initialDelayMillis, c.factor, c.steps⟩

end RetryConfig

inductive ConfigProblem
  | steps
  | initialDelay
  | factor
  | totalWait (total : Duration)
  | fstype
  | udevadmTimeout
  deriving DecidableEq

namespace Config

def standard : Config := ⟨"ext4", RetryConfig.standard, 30⟩

def maxSteps : Nat := 1000

def maxWait : Duration := Duration.ofSecs 3600

def udevadmTimeout (c : Config) : Duration := Duration.ofSecs c.udevadmTimeoutSecs

def atLeastOne (x : Binary64) : Bool :=
  match x.value? with
  | some v => decide (1 ≤ v)
  | none => false

def problem? (c : Config) : Option ConfigProblem :=
  if c.retry.steps = 0 ∨ maxSteps < c.retry.steps then some .steps
  else if c.retry.initialDelayMillis = 0 then some .initialDelay
  else if !atLeastOne c.retry.factor then some .factor
  else if maxWait.nanos < c.retry.schedule.total.nanos then some (.totalWait c.retry.schedule.total)
  else if Text.trim c.defaultFstype = "" then some .fstype
  else if c.udevadmTimeoutSecs = 0 then some .udevadmTimeout
  else none

end Config

def ConfigProblem.message : ConfigProblem → String
  | .steps => "backoff.steps must be between 1 and " ++ toString Config.maxSteps
  | .initialDelay => "backoff.initial_delay_ms must be positive"
  | .factor => "backoff.factor must be a finite number >= 1.0"
  | .totalWait total =>
    "backoff schedule waits " ++ total.describe ++ " in total, more than " ++
      Config.maxWait.describe
  | .fstype => "default_fstype must not be empty"
  | .udevadmTimeout => "commands.udevadm_timeout_secs must be positive"

end BlockVolume
