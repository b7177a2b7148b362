import Stepwise.Value
import Stepwise.Fault

/-! # Platforms

A step reaches the world through *collaborators*. A `Request` is one call to a collaborator, or to
the clock to wait; `Request.Reply` is the type of its answer. A `Platform σ` says which
collaborators are wired, how each request is answered in a world of type `σ` and how the world
changes, and how the two clocks of the world are read. -/

namespace Stepwise

/-- What a platform may offer to steps. -/
inductive Collaborator where
  /-- Composes short messages and mails. -/
  | messaging
  /-- Opens addresses. -/
  | navigation
  /-- Knows where the device is. -/
  | location
  /-- Holds a text to paste. -/
  | clipboard
  /-- Shows notifications. -/
  | notifications
  /-- Sends requests to servers. -/
  | http
  deriving DecidableEq, Repr

namespace Collaborator

/-- The name of a collaborator, as handlers require it. -/
def name : Collaborator → String
  | messaging => "messaging"
  | navigation => "navigation"
  | location => "location"
  | clipboard => "clipboard"
  | notifications => "notifications"
  | http => "http"

/-- Every collaborator. -/
def all : List Collaborator :=
  [messaging, navigation, location, clipboard, notifications, http]

theorem mem_all (c : Collaborator) : c ∈ all := by cases c <;> decide

end Collaborator

/-- Where a device is. -/
structure Position where
  /-- Degrees north. -/
  latitude : Value
  /-- Degrees east. -/
  longitude : Value
  /-- The radius of uncertainty, in metres. -/
  accuracy : Value := .null
  /-- The height, in metres. -/
  altitude : Value := .null
  deriving Repr, Inhabited

/-- A server's answer. -/
structure Response where
  /-- The status code. -/
  status : Int
  /-- The content of the answer. -/
  body : Value := .null
  deriving Repr, Inhabited

/-- Whether an answer reports success: status codes from 400 on report an error. -/
def Response.ok (response : Response) : Bool := response.status < 400

/-- One call to a collaborator, or to the clock to wait. -/
inductive Request where
  /-- Show a notification. -/
  | show (title : String) (message : Value)
  /-- Compose a short message. -/
  | composeSms (phone : String) (message : Value)
  /-- Compose a mail. -/
  | composeEmail (recipient : String) (subject body : Value)
  /-- Open an address. -/
  | openUrl (url : Value)
  /-- Ask for the position of the device. -/
  | position
  /-- Read the clipboard. -/
  | readClipboard
  /-- Replace the text on the clipboard. -/
  | writeClipboard (text : Value)
  /-- Send a request to a server. -/
  | send (method url : String) (headers : Bindings String) (body timeout : Value)
  /-- Wait for some seconds. -/
  | sleep (seconds : Binary64)
  deriving Repr

namespace Request

/-- The type of the answer to a request. -/
abbrev Reply : Request → Type
  | openUrl _ => Bool
  | position => Position
  | readClipboard => Value
  | send .. => Response
  | _ => Unit

end Request

/-- An environment for runs, over worlds of type `σ`. -/
structure Platform (σ : Type) where
  /-- Whether a collaborator can be reached. -/
  wired : Collaborator → Bool
  /-- The answer to a request, or the fault raised instead, and the world afterwards. -/
  answer : (request : Request) → σ → Except Fault request.Reply × σ
  /-- The seconds shown by a clock that never goes back. -/
  monotonic : σ → Binary64
  /-- The microseconds since the start of 1970. -/
  wallClock : σ → Int

namespace Platform

variable {σ : Type}

/-- The names of the collaborators that are wired. -/
def available (platform : Platform σ) : List String :=
  (Collaborator.all.filter platform.wired).map Collaborator.name

/-- What every platform provides by name besides its collaborators: waiting, and the question which
collaborators there are. -/
def alwaysProvided : List String := ["sleep", "available"]

/-- Whether a platform provides something of a given name. -/
def provides (platform : Platform σ) (name : String) : Bool :=
  platform.available.contains name || alwaysProvided.contains name

end Platform

end Stepwise
