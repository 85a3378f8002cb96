import PartnerPortal.Ledger.Types

/-!
# Usage of a streamed event

What the events of a stream report of the tokens used.
-/

namespace PartnerPortal

inductive JsonNumber where
  | posInt (value : UInt64)
  | negInt (value : Int64)
  | float
deriving DecidableEq

/-- A JSON value, as the parser yields it. -/
inductive JsonValue where
  | null
  | bool (value : Bool)
  | number (value : JsonNumber)
  | string (value : String)
  | array (values : List JsonValue)
  | object (fields : List (String × JsonValue))

namespace JsonValue

/-- A field of an object; nothing else has fields. -/
def get (key : String) : JsonValue → Option JsonValue
  | .object fields => fields.lookup key
  | _ => none

def asU64 : JsonValue → Option UInt64
  | .number (.posInt value) => some value
  | _ => none

/-- The value itself, where it is an object. -/
def asObject : JsonValue → Option JsonValue
  | .object fields => some (.object fields)
  | _ => none

end JsonValue

/-- The places an event may report usage, in the order they are tried. -/
def streamUsageObjects (event : JsonValue) : List JsonValue :=
  [event.get "usage", (event.get "response").bind (JsonValue.get "usage")].filterMap
    fun place => place.bind JsonValue.asObject

/-- An object counts as observed when at least one of its counts is a number. -/
def observedUsage (inputTokens outputTokens cachedTokens : Option UInt64) : Option Usage :=
  if inputTokens.isSome || outputTokens.isSome || cachedTokens.isSome then
    some { inputTokens := inputTokens, outputTokens := outputTokens, cachedTokens := cachedTokens }
  else none

def extractStreamChatCompletionsUsage (chunk : JsonValue) : Option Usage :=
  (streamUsageObjects chunk).findSome? fun usage =>
    observedUsage ((usage.get "prompt_tokens").bind JsonValue.asU64)
      ((usage.get "completion_tokens").bind JsonValue.asU64)
      (((usage.get "prompt_tokens_details").bind (JsonValue.get "cached_tokens")).bind
        JsonValue.asU64)

def extractStreamResponsesUsage (event : JsonValue) : Option Usage :=
  (streamUsageObjects event).findSome? fun usage =>
    observedUsage
      (((usage.get "input_tokens").or (usage.get "prompt_tokens")).bind JsonValue.asU64)
      (((usage.get "output_tokens").or (usage.get "completion_tokens")).bind JsonValue.asU64)
      (((usage.get "input_tokens_details").bind (JsonValue.get "cached_tokens")).bind
        JsonValue.asU64)

/-- What an event reports, by the endpoint that was asked. -/
def streamUsage : Endpoint → JsonValue → Option Usage
  | .chatCompletions => extractStreamChatCompletionsUsage
  | .responses => extractStreamResponsesUsage
  | .models => fun _ => none

end PartnerPortal
