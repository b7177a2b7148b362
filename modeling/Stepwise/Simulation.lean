import Stepwise.Platform
import Stepwise.Binary64.Arithmetic

/-! # Simulated platforms

A platform that exists in memory only. Its `World` holds a clock, which moves by waiting alone, the
text on the clipboard and the answers of servers still to come, of which the last one repeats. A
`Scenario` says which collaborators are wired and how each of them behaves. -/

namespace Stepwise.Simulation

/-- What changes on a simulated platform. -/
structure World where
  /-- The seconds since the start. -/
  clock : Binary64 := .zero false
  /-- The microseconds since the start of 1970, which do not move. -/
  wallClock : Int := 0
  /-- The text on the clipboard. -/
  clipboard : Value := .text ""
  /-- The answers still to come. -/
  responses : List Response := [⟨200, .null⟩]
  deriving Repr, Inhabited

/-- How a simulated platform behaves. -/
structure Scenario where
  /-- The collaborators that are wired. -/
  wired : List Collaborator := Collaborator.all
  /-- The fault raised by notifications. -/
  notificationFault : Option Fault := none
  /-- The fault raised by composing messages. -/
  messagingFault : Option Fault := none
  /-- The fault raised by opening addresses. -/
  navigationFault : Option Fault := none
  /-- Whether addresses can be opened. -/
  opens : Bool := true
  /-- The fault raised by asking for the position. -/
  locationFault : Option Fault := none
  /-- The position of the device. -/
  position : Position :=
    { latitude := .float (.roundRatio false 407128 10000)
      longitude := .float (.roundRatio true 74006 1000) }
  /-- The fault raised by reading the clipboard. -/
  readFault : Option Fault := none
  /-- The fault raised by writing to the clipboard. -/
  writeFault : Option Fault := none
  /-- The fault raised by requests to servers. -/
  httpFault : Option Fault := none
  /-- The fault raised by waiting. -/
  sleepFault : Option Fault := none
  deriving Repr

/-- An answer, unless a fault is raised instead. -/
def reply {α : Type} (fault : Option Fault) (value : α) : Except Fault α :=
  match fault with
  | some fault => .error fault
  | none => .ok value

/-- The answer of a server, and those still to come. -/
def World.respond (world : World) : Response × World :=
  match world.responses with
  | [] => (⟨200, .null⟩, world)
  | [last] => (last, world)
  | next :: rest => (next, { world with responses := rest })

/-- The answer to a request in a scenario, and the world afterwards. -/
def Scenario.answer (scenario : Scenario) (request : Request) (world : World) :
    Except Fault request.Reply × World :=
  match request with
  | .show .. => (reply scenario.notificationFault (), world)
  | .composeSms .. | .composeEmail .. => (reply scenario.messagingFault (), world)
  | .openUrl _ => (reply scenario.navigationFault scenario.opens, world)
  | .position => (reply scenario.locationFault scenario.position, world)
  | .readClipboard => (reply scenario.readFault world.clipboard, world)
  | .writeClipboard text =>
    match scenario.writeFault with
    | some fault => (.error fault, world)
    | none => (.ok (), { world with clipboard := text })
  | .send .. =>
    match scenario.httpFault with
    | some fault => (.error fault, world)
    | none =>
      let (response, world) := world.respond
      (.ok response, world)
  | .sleep seconds =>
    match scenario.sleepFault with
    | some fault => (.error fault, world)
    | none => (.ok (), { world with clock := world.clock.add seconds })

/-- The platform of a scenario. -/
def Scenario.platform (scenario : Scenario) : Platform World where
  wired := scenario.wired.contains
  answer := scenario.answer
  monotonic := World.clock
  wallClock := World.wallClock

end Stepwise.Simulation
