import ModelChat.Json.Record
import ModelChat.Sampling

/-! Reading sampling settings from JSON texts. -/
namespace ModelChat
open Json

/-- A number of 32 bits. -/
def wordOf (v : Json) : Except Problem UInt32 :=
  match v with
  | .integer i =>
    if 0 ≤ i ∧ i < Nat.pow 2 32 then .ok (.ofNat i.toNat)
    else .error (.wrongValue (describe v) "u32")
  | v => .error (.wrongType (describe v) "u32")

/-- A floating-point number; integers are rounded to one. -/
def floatOf (v : Json) : Except Problem Float :=
  match v with
  | .integer i => .ok (withSign (i < 0) (floatOfNat i.natAbs))
  | .real x => .ok x
  | v => .error (.wrongType (describe v) "f64")

namespace Sampling

/-- The fields read so far. -/
structure Fields where
  model : Option String
  maxTokens : Option UInt32
  frequencyPenalty : Option Float
  topP : Option Float
  temperature : Option Float

def readModel (s : Bytes) : Except Fault (String × Bytes) :=
  readStringOr "a string" s

def readWord (s : Bytes) : Except Fault (UInt32 × Bytes) :=
  readNumberOr "u32" wordOf s

def readFloat (s : Bytes) : Except Fault (Float × Bytes) :=
  readNumberOr "f64" floatOf s

def readField (st : Fields) (name : String) (s : Bytes) : Except Fault (Fields × Bytes) := do
  match name with
  | "model" =>
    let (v, s) ← Json.readField name st.model readModel s
    .ok ({ st with model := v }, s)
  | "max_tokens" =>
    let (v, s) ← Json.readField name st.maxTokens readWord s
    .ok ({ st with maxTokens := v }, s)
  | "frequency_penalty" =>
    let (v, s) ← Json.readField name st.frequencyPenalty readFloat s
    .ok ({ st with frequencyPenalty := v }, s)
  | "top_p" =>
    let (v, s) ← Json.readField name st.topP readFloat s
    .ok ({ st with topP := v }, s)
  | "temperature" =>
    let (v, s) ← Json.readField name st.temperature readFloat s
    .ok ({ st with temperature := v }, s)
  | _ =>
    let s ← skipField s
    .ok (st, s)

/-- Reads sampling settings; members of other names are passed over. -/
def read (bound room : Nat) (s : Bytes) : Except Fault (Sampling × Bytes) :=
  let expected := "struct GenerationParams with 5 elements"
  let asArray (_room : Nat) (s : Bytes) : Except Fault (Sampling × Bytes) := do
    let (model, s) ← readItem 0 expected readModel s
    let (maxTokens, s) ← readItem 1 expected readWord s
    let (frequencyPenalty, s) ← readItem 2 expected readFloat s
    let (topP, s) ← readItem 3 expected readFloat s
    let (temperature, s) ← readItem 4 expected readFloat s
    .ok (⟨model, maxTokens, frequencyPenalty, topP, temperature⟩, s)
  let asObject (_room : Nat) (s : Bytes) : Except Fault (Sampling × Bytes) := do
    let (fields, s) ← foldMembers readField bound true ⟨none, none, none, none, none⟩ s
    let model ← require "model" fields.model s
    let maxTokens ← require "max_tokens" fields.maxTokens s
    let frequencyPenalty ← require "frequency_penalty" fields.frequencyPenalty s
    let topP ← require "top_p" fields.topP s
    let temperature ← require "temperature" fields.temperature s
    .ok (⟨model, maxTokens, frequencyPenalty, topP, temperature⟩, s)
  readRecord "struct GenerationParams" asArray asObject room s

end Sampling
end ModelChat
