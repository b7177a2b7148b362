import Stepwise.Handler

/-! # Messages

The steps `sms` and `email` hand a message to the messaging collaborator, which opens it for the
user to send. A mail needs an address of the usual form (`isMailAddress`): something before one `@`,
and behind it a point with something on either side, all of it without blanks. -/

namespace Stepwise.Steps

variable {σ : Type}

/-- The number of elements of a value that has some. -/
def lengthOf (value : Value) : Except Fault Nat :=
  match value.elements? with
  | some items => .ok items.length
  | none => .error (.noLength value.typeName)

/-- The handler of `sms` steps. -/
def shortMessage : Handler σ where
  name := "SmsStep"
  stepType := "sms"
  requires := [Collaborator.messaging.name]
  validate config := do
    let _ ← Config.requireText config "phoneNumber"
    let _ ← Config.requireText config "message"
  execute config context := do
    context.reach Collaborator.messaging.name "sms"
    let phone ← Config.trimmed config "phoneNumber"
    let message ← Config.item config "message"
    let length ← lengthOf message
    Action.note (.info s!"Opening SMS compose (message length {length})")
    Action.call context.platform "Could not open SMS" (.composeSms phone message)
    return .object [("action", .text "sms_opened"), ("phoneNumber", .text phone),
      ("message", message)]

/-- A character that may stand beside the `@` of an address. -/
def isAddressChar (c : Char) : Bool := !Unicode.isBlank c && c != '@'

/-- Whether a text has the form of a mail address. -/
def isMailAddress (cs : List Char) : Bool :=
  match Text.spanUntil (· == '@') cs with
  | (user, _ :: domain) =>
    !user.isEmpty && user.all isAddressChar && domain.all isAddressChar &&
      (domain.drop 1).dropLast.contains '.'
  | (_, []) => false

/-- The handler of `email` steps. -/
def mail : Handler σ where
  name := "EmailStep"
  stepType := "email"
  requires := [Collaborator.messaging.name]
  sampleValues := [("email", .text "someone@example.com")]
  validate config := do
    let address ← Config.requireText config "email"
    if !isMailAddress (Text.trim address.toList) then
      throw (.configuration "email" s!"'{address}' is not a valid email address")
    let _ ← Config.requireText config "subject"
    let _ ← Config.requireText config "message"
  execute config context := do
    context.reach Collaborator.messaging.name "email"
    let address ← Config.trimmed config "email"
    let subject ← Config.item config "subject"
    let message ← Config.item config "message"
    Action.call context.platform "Could not open email" (.composeEmail address subject message)
    return .object [("action", .text "email_opened"), ("email", .text address),
      ("subject", subject), ("message", message)]

end Stepwise.Steps
