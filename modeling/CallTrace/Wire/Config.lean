/-
# The JSON form of configurations
-/

import CallTrace.Config
import CallTrace.Wire.Frame

namespace CallTrace.TraceConfig

/-- The names of the sections, and of the settings in each of them. -/
def sectionNames : List String := ["session", "output"]

def sessionNames : List String := ["max_depth"]

def outputNames : List String := ["function_trace", "classification_tags"]

def toJson (config : TraceConfig) : Json :=
  .fields [("session", .fields [("max_depth", .uint64 config.maxDepth)]),
    ("output", .fields [("function_trace", .bool config.output.functionTrace),
      ("classification_tags", .bool config.output.classificationTags)])]

/-- The bound on depth in the section on sessions. -/
def maxDepthOfJson? (value : Json) : Option UInt64 := do
  (← value.fieldsOf? sessionNames).optional "max_depth" ({} : TraceConfig).maxDepth Json.toUInt64?

/-- The section on output. -/
def outputOfJson? (value : Json) : Option OutputSchema := do
  let members ← value.fieldsOf? outputNames
  let functionTrace ← members.optional "function_trace" true Json.toBool?
  let classificationTags ← members.optional "classification_tags" true Json.toBool?
  return ⟨functionTrace, classificationTags⟩

def ofJson? (value : Json) : Option TraceConfig := do
  let members ← value.fieldsOf? sectionNames
  let maxDepth ← members.optional "session" ({} : TraceConfig).maxDepth maxDepthOfJson?
  let output ← members.optional "output" {} outputOfJson?
  return ⟨maxDepth, output⟩

end CallTrace.TraceConfig
