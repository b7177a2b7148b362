import Stepwise.Pattern.Fault
import Stepwise.Text.Quoted

/-! # Faults

Everything that can go wrong is a `Fault`, a value that says why. Faults come in two families.
*Step faults* (`Fault.isStep`) are how a step reports that it failed: an invalid configuration, a
collaborator that is not there, a failure outside the engine. All others are unexpected: a value of
the wrong type where the engine needed another, a number out of range, or something raised by a
collaborator.

`Fault.message` words a fault and `Fault.label` names its kind; no other part of the library decides
the wording. -/

namespace Stepwise

/-- Why something failed. -/
inductive Fault where
  /-- A field of a configuration is missing or invalid. -/
  | configuration (field detail : String)
  /-- A collaborator that a step type needs is not there. -/
  | unsupported (collaborator : String) (stepType : Option String)
  /-- A call to a collaborator failed or was refused. -/
  | external (reason : String)
  /-- A step fault of some other kind. -/
  | declared (kind reason : String)
  /-- A collaborator was refused permission. -/
  | denied (reason : String)
  /-- Something else was raised outside the engine. -/
  | raised (kind reason : String)
  /-- A name is not bound; without a name, nothing at all is bound. -/
  | missingKey (key : Option String)
  /-- A value has no such member. -/
  | noMember (typeName member : String)
  /-- A value cannot be taken apart into elements. -/
  | notIterable (typeName : String)
  /-- A value has no length. -/
  | noLength (typeName : String)
  /-- A value cannot be the name of a field. -/
  | unhashable (typeName : String)
  /-- An entry of a list of pairs is not a sequence. -/
  | entryNotSequence (index : Nat)
  /-- An entry of a list of pairs does not have two elements. -/
  | entryLength (index length : Nat)
  /-- A value that should be a pair cannot be taken apart. -/
  | notPair (typeName : String)
  /-- A pair has fewer than two elements. -/
  | pairTooShort (length : Nat)
  /-- A pair has more than two elements. -/
  | pairTooLong
  /-- Two values that have no order are compared. -/
  | notOrdered (symbol left right : String)
  /-- An integer is beyond the binary64 numbers. -/
  | integerTooLarge
  /-- An infinity has no integer value. -/
  | infinityToInteger
  /-- NaN has no integer value. -/
  | nanToInteger
  /-- A text does not write an integer. -/
  | notInteger (text : String)
  /-- A text writes an integer with more digits than are read. -/
  | integerTooLong (digits : Nat)
  /-- A number is divided by zero. -/
  | divisionByZero
  /-- An operation is not defined for its operands. -/
  | mathDomain
  /-- A result is beyond the binary64 numbers. -/
  | mathRange
  /-- A step does not say its type. -/
  | missingStepType (index : Int)
  /-- The steps of an automation are not a list. -/
  | stepsNotList
  /-- A text names no terminal status. -/
  | unknownStatus (status : String)
  /-- A handler that handles no step type is registered. -/
  | untypedHandler (name : String)
  /-- A controller is started a second time. -/
  | controllerUsed (phase : String)
  /-- The host of an address has unbalanced brackets. -/
  | unbalancedHost
  /-- What stands in the brackets of a host names a version in a wrong way. -/
  | misversionedHost
  /-- A dotted address stands in the brackets of a host. -/
  | dottedHost
  /-- What stands in the brackets of a host is no network address. -/
  | unaddressedHost (inside : String)
  /-- The host of an address holds characters that stand for delimiters. -/
  | deceptiveHost (host : String)
  /-- A pattern cannot be filled. -/
  | pattern (fault : PatternFault)
  deriving DecidableEq, Repr

namespace Fault

/-- The faults by which a step reports that it failed. -/
def isStep : Fault → Bool
  | configuration .. | unsupported .. | external _ | declared .. => true
  | _ => false

/-- A configuration fault whose detail says that the field is required, unless another text is
given. -/
def invalidField (field : String) (detail : Option String) : Fault :=
  match detail with
  | none | some "" => configuration field s!"'{field}' is required"
  | some text => configuration field text

/-- A required field is missing. -/
def required (field : String) : Fault := invalidField field none

/-- The name of a fault's kind. -/
def label : Fault → String
  | configuration .. => "ConfigurationError"
  | unsupported .. => "PlatformUnsupportedError"
  | external _ => "ExternalFailureError"
  | declared kind _ => kind
  | denied _ => "PermissionError"
  | raised kind _ => kind
  | missingKey _ => "KeyError"
  | noMember .. => "AttributeError"
  | notIterable _ | noLength _ | unhashable _ | entryNotSequence _ | notPair _ | notOrdered .. =>
    "TypeError"
  | entryLength .. | pairTooShort _ | pairTooLong | nanToInteger | notInteger _
  | integerTooLong _ | mathDomain | missingStepType _ | stepsNotList | unknownStatus _
  | untypedHandler _ | unbalancedHost | misversionedHost | dottedHost | unaddressedHost _
  | deceptiveHost _ => "ValueError"
  | integerTooLarge | infinityToInteger | mathRange => "OverflowError"
  | divisionByZero => "ZeroDivisionError"
  | controllerUsed _ => "RuntimeError"
  | pattern fault => fault.label

/-- The wording of a fault. -/
def message : Fault → String
  | configuration field detail => s!"Invalid config field '{field}': {detail}"
  | unsupported collaborator stepType =>
    match stepType with
    | none | some "" => s!"{collaborator} is not available in this environment"
    | some tag => s!"'{tag}' needs {collaborator}, which is not available in this environment"
  | external reason | declared _ reason | denied reason | raised _ reason => reason
  | missingKey none => ""
  | missingKey (some key) => Text.quoted key
  | noMember typeName member => s!"'{typeName}' object has no attribute '{member}'"
  | notIterable typeName => s!"'{typeName}' object is not iterable"
  | noLength typeName => s!"object of type '{typeName}' has no len()"
  | unhashable typeName => s!"unhashable type: '{typeName}'"
  | entryNotSequence index =>
    s!"cannot convert dictionary update sequence element #{index} to a sequence"
  | entryLength index length =>
    s!"dictionary update sequence element #{index} has length {length}; 2 is required"
  | notPair typeName => s!"cannot unpack non-iterable {typeName} object"
  | pairTooShort length => s!"not enough values to unpack (expected 2, got {length})"
  | pairTooLong => "too many values to unpack (expected 2)"
  | notOrdered symbol left right =>
    s!"'{symbol}' not supported between instances of '{left}' and '{right}'"
  | integerTooLarge => "int too large to convert to float"
  | infinityToInteger => "cannot convert float infinity to integer"
  | nanToInteger => "cannot convert float NaN to integer"
  | notInteger text => "invalid literal for int() with base 10: " ++ Text.quoted text
  | integerTooLong digits =>
    s!"Exceeds the limit (4300 digits) for integer string conversion: value has {digits} digits; "
      ++ "use sys.set_int_max_str_digits() to increase the limit"
  | divisionByZero => "float division by zero"
  | mathDomain => "math domain error"
  | mathRange => "math range error"
  | missingStepType index => s!"Step {index} is missing 'type'"
  | stepsNotList => "Automation 'steps' must be a list"
  | unknownStatus status => Text.quoted status ++ " is not a valid ExecutionStatus"
  | untypedHandler name => s!"{name} has no step_type"
  | controllerUsed phase => s!"Controller already used (state: {phase})"
  | unbalancedHost => "Invalid IPv6 URL"
  | misversionedHost => "IPvFuture address is invalid"
  | dottedHost => "An IPv4 address cannot be in brackets"
  | unaddressedHost inside =>
    Text.quoted inside ++ " does not appear to be an IPv4 or IPv6 address"
  | deceptiveHost host =>
    s!"netloc '{host}' contains invalid characters under NFKC normalization"
  | pattern fault => fault.message

/-- The message of a fault, or its kind if the message is empty. -/
def summary (fault : Fault) : String :=
  if fault.message = "" then fault.label else fault.message

/-- A fault given by its kind and an optional message. -/
def ofKind (kind : String) (reason : Option String) : Fault :=
  match kind with
  | "KeyError" => missingKey reason
  | "PermissionError" => denied (reason.getD "")
  | "ExternalFailureError" => external (reason.getD "")
  | "StepError" | "CustomStepError" => declared kind (reason.getD "")
  | _ => raised kind (reason.getD "")

/-- A configuration fault names its field before its detail. -/
@[simp] theorem message_configuration (field detail : String) :
    (configuration field detail).message = s!"Invalid config field '{field}': {detail}" := rfl

/-- Without another detail, a field is said to be required. -/
@[simp] theorem required_eq (field : String) :
    required field = configuration field s!"'{field}' is required" := rfl

end Fault

end Stepwise
