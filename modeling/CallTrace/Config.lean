/-
# Configuration

How deep calls may nest, and which parts of a trace are written. The tables kept
for each depth are dense, so the bound on depth is itself bounded.
-/

namespace CallTrace

/-- Which parts of a trace are written: the function trace as a whole, and the
columns that classify events and transfers. -/
structure OutputSchema where
  functionTrace : Bool := true
  classificationTags : Bool := true
  deriving DecidableEq, Repr, Inhabited

/-- Frames, logs and transfers at `maxDepth` or deeper are refused. The default
allows 1024 calls nested in a top-level call. -/
structure TraceConfig where
  maxDepth : UInt64 := 1025
  output : OutputSchema := {}
  deriving DecidableEq, Repr, Inhabited

/-- Why no configuration could be had. -/
inductive ConfigError where
  | unreadable
  | notToml
  | zeroDepth
  | depthTooLarge
  deriving DecidableEq, Repr

namespace TraceConfig

/-- The greatest bound on depth that is accepted. -/
def maxDepthLimit : UInt64 := 65536

/-- Accepts a configuration whose bound on depth can be worked with. -/
def validate (config : TraceConfig) : Except ConfigError Unit :=
  if config.maxDepth = 0 then .error .zeroDepth
  else if maxDepthLimit < config.maxDepth then .error .depthTooLarge
  else .ok ()

end TraceConfig

namespace ConfigError

def message : ConfigError → String
  | .unreadable => "Failed to read config file"
  | .notToml => "Config TOML parse error"
  | .zeroDepth => "Invalid configuration: session.max_depth must be greater than 0"
  | .depthTooLarge => "Invalid configuration: session.max_depth is too large (max 65536)"

end ConfigError

end CallTrace
