import Stepwise.Registry
import Stepwise.Template

/-! # Checking an automation before it is run

`Preflight.check` says what will not work in an automation, without performing any step. Each
enabled step is checked on its own: block directives in its texts, which nothing substitutes; a type
without a handler; and what its handler refuses. Fields that refer to variables are only known at
run time, so the handler sees a sample in their place (`sampled`) and still checks every other
field. -/

namespace Stepwise.Preflight

/-! ## Block directives -/

/-- The inside of a block directive: a number sign or a slash and something behind it. -/
def isDirective : List Char → Bool
  | c :: _ :: _ => c = '#' || c = '/'
  | _ => false

/-- The block directives of a text, as they are written. -/
def directives (s : String) : List String :=
  (Template.insides isDirective s).map fun inside =>
    String.ofList (Template.Piece.block inside).source

/-- What is said of a text with block directives. -/
def directiveMessage (path : String) (found : List String) : String :=
  s!"Block syntax not supported at '{path}': " ++ (Value.list (found.map .text)).literal ++
    ". Only plain \x7b\x7bname\x7d\x7d variable references are substituted."

/-- The path of a field of an object. -/
def fieldPath (path name : String) : String := if path = "" then name else s!"{path}.{name}"

mutual

/-- What is said of the block directives in a value that is found under a path. -/
def directiveMessages (path : String) : Value → List String
  | .text s =>
    let found := directives s
    if found.isEmpty then [] else [directiveMessage path found]
  | .list items => itemDirectives path 0 items
  | .object fields => fieldDirectives path fields
  | _ => []

/-- What is said of the block directives in the elements of a list from an index on. -/
def itemDirectives (path : String) (index : Nat) : List Value → List String
  | [] => []
  | value :: rest =>
    directiveMessages s!"{path}[{index}]" value ++ itemDirectives path (index + 1) rest

/-- What is said of the block directives in the fields of an object. -/
def fieldDirectives (path : String) : List (String × Value) → List String
  | [] => []
  | (name, value) :: rest =>
    directiveMessages (fieldPath path name) value ++ fieldDirectives path rest

end

/-! ## Steps -/

/-- The stand-in for a field that depends on variables, unless the handler knows a better one. -/
def genericSample : Value := .text "1"

/-- A configuration with a sample in place of every field that depends on variables. -/
def sampled (samples config : Fields) : Fields :=
  config.map fun (name, value) =>
    (name, if Template.hasReference value then (samples.find? name).getD genericSample else value)

/-- How messages name a step. -/
def label (step : Step) (index : Int) : String :=
  s!"Step {index} ({(step.title.orElse (.text step.id)).toText})"

/-- What is wrong with one step. A handler that refuses a configuration by anything but a
configuration fault ends the check. -/
def checkStep {σ : Type} (registry : Registry σ) (step : Step) (index : Int) :
    Except Fault (List String) :=
  let syntactic := directiveMessages s!"steps[{index}].config" (.object step.config)
  match registry.get? step.type with
  | none => .ok (syntactic ++ [label step index ++ s!": unsupported step type '{step.type}'"])
  | some handler =>
    match handler.validate (sampled handler.sampleValues step.config) with
    | .ok () => .ok syntactic
    | .error fault@(.configuration ..) =>
      .ok (syntactic ++ [label step index ++ ": " ++ fault.message])
    | .error fault => .error fault

/-! ## Automations -/

/-- What is wrong with the enabled steps of a list, whose first one has the given index. -/
def checkSteps {σ : Type} (registry : Registry σ) : Nat → List Step → Except Fault (List String)
  | _, [] => .ok []
  | index, step :: rest => do
    let here ← if step.enabled then checkStep registry step index else pure []
    return here ++ (← checkSteps registry (index + 1) rest)

/-- What is wrong with an automation; it may be run if that is nothing. -/
def check {σ : Type} (registry : Registry σ) (automation : Automation) :
    Except Fault (List String) :=
  if automation.steps.isEmpty then .ok ["Automation must have at least one step"]
  else checkSteps registry 0 automation.steps

/-- What is noted about a check that found faults in the steps. -/
def note? (automation : Automation) (messages : List String) : Option Note :=
  if automation.steps.isEmpty || messages.isEmpty then none
  else some <| .info <|
    s!"Automation '{automation.title.toText}' failed validation with {messages.length} error(s)"

end Stepwise.Preflight
