import Stepwise.Value.Entries

/-! # Settings

What can be adjusted for every run. Settings are read from an object whose keys are the names of the
fields; other keys are ignored and a missing key leaves its default. The values are taken as they
are: whether a value is fit for its purpose shows when a step uses it. -/

namespace Stepwise

/-- What can be adjusted for every run. -/
structure Settings where
  /-- How long to wait for an answer to a request, in seconds. -/
  httpTimeout : Value := .float (Binary64.roundRatio false 30 1)
  /-- The method of a request whose step names none. -/
  defaultHttpMethod : Value := .text "POST"
  /-- The title of a notification whose step gives none. -/
  defaultNotificationTitle : Value := .text "Notification"
  /-- The pattern of an address that shows a place on a map. -/
  mapsUrl : Value := .text "https://maps.google.com/?q=\x7blatitude\x7d,\x7blongitude\x7d"
  /-- The longest delay that a step may ask for, in milliseconds; null for no limit. -/
  maxDelayMs : Value := .null
  deriving Repr

namespace Settings

/-- The default settings. -/
instance : Inhabited Settings := ⟨{}⟩

/-- The settings that an object gives, the others having their defaults. -/
def ofFields (fields : Fields) : Settings :=
  let setting (name : String) (default : Value) : Value := (fields.find? name).getD default
  { httpTimeout := setting "http_timeout" ({} : Settings).httpTimeout
    defaultHttpMethod := setting "default_http_method" ({} : Settings).defaultHttpMethod
    defaultNotificationTitle :=
      setting "default_notification_title" ({} : Settings).defaultNotificationTitle
    mapsUrl := setting "maps_url" ({} : Settings).mapsUrl
    maxDelayMs := setting "max_delay_ms" ({} : Settings).maxDelayMs }

/-- The settings that a value gives, which must be an object. -/
def ofValue (data : Value) : Except Fault Settings := (data.fieldsFor "items").map ofFields

/-- The settings as an object. -/
def toFields (settings : Settings) : Fields := [
  ("http_timeout", settings.httpTimeout),
  ("default_http_method", settings.defaultHttpMethod),
  ("default_notification_title", settings.defaultNotificationTitle),
  ("maps_url", settings.mapsUrl),
  ("max_delay_ms", settings.maxDelayMs)]

/-- An empty object leaves every default. -/
@[simp] theorem ofFields_nil : ofFields [] = {} := rfl

end Settings

end Stepwise
