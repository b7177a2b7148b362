import Stepwise.Handler

/-! # Loops as steps

The step `loop` reports how a loop is configured; nothing is repeated. A loop of type `count` has a
whole number of iterations, three unless the configuration says otherwise. -/

namespace Stepwise.Steps

variable {σ : Type}

/-- The number of iterations of a loop that does not say. -/
def defaultIterations : Int := 3

/-- The number of iterations that a configuration asks for. -/
def iterations (config : Fields) : Except Fault Int := do
  match ← Config.number? config "count" with
  | none => return defaultIterations
  | some count =>
    let refusal : Fault := .configuration "count" "must be a whole number of at least 1"
    if count.lt (.roundRatio false 1 1) || !count.isWhole then throw refusal
    match count.truncate? with
    | some n => return n
    | none => throw refusal

/-- Whether a loop type is that of counted loops. -/
def isCounted : Value → Bool
  | .text s => s == "count"
  | _ => false

/-- The handler of `loop` steps. -/
def loop : Handler σ where
  name := "LoopStep"
  stepType := "loop"
  sampleValues := [("type", .text "count")]
  validate config := do
    let loopType ← Config.require config "type"
    if isCounted loopType then
      let _ ← iterations config
  execute config _ := do
    let loopType ← Config.item config "type"
    if isCounted loopType then
      let count ← iterations config
      return .object [("loopType", loopType), ("iterations", .int count),
        ("message", .text s!"Loop configured for {count} iterations")]
    else
      return .object [("loopType", loopType),
        ("message", .text s!"Loop type {loopType.toText} configured")]

end Stepwise.Steps
