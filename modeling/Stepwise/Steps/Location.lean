import Stepwise.Handler
import Stepwise.Steps.Choice
import Stepwise.Steps.Opening
import Stepwise.Pattern

/-! # The location of the device

The step `location` reports where the device is, shares a map address of that place, by a short
message if a phone number is given, or opens a map at a place. The map address is made from the
pattern of the settings. -/

namespace Stepwise.Steps

variable {σ : Type}

/-- The spellings of the location actions. -/
def locationActions : List (String × String) := [
  ("get-current", "get-current"), ("get_current", "get-current"),
  ("share", "share"), ("share-location", "share"), ("share_location", "share"),
  ("open-maps", "open-maps"), ("open_maps", "open-maps")]

/-- The address that shows a place on a map. -/
def mapsAddress (settings : Settings) (latitude longitude : Value) : Except Fault String :=
  match settings.mapsUrl with
  | .text pattern => Pattern.fill pattern [("latitude", latitude), ("longitude", longitude)]
  | other => .error (.noMember other.typeName "format")

/-- Ask where the device is. -/
def currentPosition (context : Context σ) : Action σ Position := do
  context.reach Collaborator.location.name "location"
  Action.call context.platform "Could not get location" .position

/-- Report where the device is. -/
def reportPosition (context : Context σ) : Action σ Value := do
  let position ← currentPosition context
  return .object [("action", .text "get-current"), ("latitude", position.latitude),
    ("longitude", position.longitude), ("accuracy", position.accuracy),
    ("altitude", position.altitude)]

/-- Make a map address of where the device is, and send it if there is a phone number. -/
def sharePosition (config : Fields) (context : Context σ) : Action σ Value := do
  let position ← currentPosition context
  let address ← mapsAddress context.settings position.latitude position.longitude
  let message := (Value.field "message" config).orElse (.text "My current location")
  let phone := Value.field "phoneNumber" config
  if phone.isTrue then
    Action.note (.info "Sharing location by SMS")
    context.reach Collaborator.messaging.name "location"
    Action.call context.platform "Could not open SMS"
      (.composeSms phone.toText (.text s!"{message.toText}\n{address}"))
  return .object [("action", .text "share"), ("latitude", position.latitude),
    ("longitude", position.longitude), ("locationUrl", .text address), ("message", message),
    ("phoneNumber", phone), ("shared", .bool phone.isTrue)]

/-- The place that a map is opened at: where the device is, or what the configuration says. -/
def mapPlace (config : Fields) (context : Context σ) : Action σ (Value × Value) := do
  if (Value.field "useCurrentLocation" config).isTrue then
    let position ← currentPosition context
    return (position.latitude, position.longitude)
  else
    let latitude ← Config.number config "latitude"
    let longitude ← Config.number config "longitude"
    return (.float latitude, .float longitude)

/-- Open a map at a place. -/
def openMap (config : Fields) (context : Context σ) : Action σ Value := do
  context.reach Collaborator.navigation.name "location"
  let (latitude, longitude) ← mapPlace config context
  let label := (Value.field "label" config).orElse (.text "Location")
  let place ← mapsAddress context.settings latitude longitude
  let address := place ++ "&label=" ++ Url.encode ['/'] label.toText
  openAddress context (.text address)
  return .object [("action", .text "open-maps"), ("latitude", latitude),
    ("longitude", longitude), ("label", label), ("mapsUrl", .text address)]

/-- The handler of `location` steps. -/
def location : Handler σ where
  name := "LocationStep"
  stepType := "location"
  requires := [Collaborator.location.name]
  sampleValues := [("action", .text "get-current")]
  validate config := do
    let action ← chooseAction locationActions config
    if action == "open-maps" && !(Value.field "useCurrentLocation" config).isTrue then
      let _ ← Config.number config "latitude"
      let _ ← Config.number config "longitude"
  execute config context := do
    let action ← chooseAction locationActions config
    if action == "get-current" then reportPosition context
    else if action == "share" then sharePosition config context
    else openMap config context

end Stepwise.Steps
