import Stepwise.Handler
import Stepwise.Url.Percent
import Stepwise.Unicode.LetterCase

/-! # Opening addresses

The steps `open-url`, `call` and `open-app` hand an address to the navigation collaborator, which
says whether anything can open it. An app is found by its name in an `AppDirectory`; on a device, an
app that is not listed is tried by a scheme of its name, with the spaces left out. -/

namespace Stepwise.Steps

variable {σ : Type}

/-- Open an address; an address that nothing can open is an external failure. -/
def openAddress (context : Context σ) (url : Value) : Action σ Unit := do
  let opened ←
    Action.call context.platform s!"Could not open {url.toText}" (.openUrl url)
  if !opened then
    Action.note (.warning s!"Navigator refused URL: {url.toText}")
    Action.fail (.external s!"Cannot open URL: {url.toText}")

/-- The handler of `open-url` steps. -/
def openUrl : Handler σ where
  name := "OpenUrlStep"
  stepType := "open-url"
  requires := [Collaborator.navigation.name]
  sampleValues := [("url", .text "https://example.com")]
  validate config := do
    let url ← Config.requireText config "url"
    if !url.toList.contains ':' then throw (.configuration "url" s!"'{url}' is not a URL")
  execute config context := do
    context.reach Collaborator.navigation.name "open-url"
    let url ← Config.trimmed config "url"
    openAddress context (.text url)
    return .object [("action", .text "url_opened"), ("url", .text url)]

/-- The handler of `call` steps. -/
def call : Handler σ where
  name := "CallStep"
  stepType := "call"
  requires := [Collaborator.navigation.name]
  validate config := do
    let _ ← Config.requireText config "phoneNumber"
  execute config context := do
    context.reach Collaborator.navigation.name "call"
    let phone ← Config.trimmed config "phoneNumber"
    openAddress context (.text ("tel:" ++ Url.encode ['+'] phone))
    return .object [("action", .text "call_initiated"), ("phoneNumber", .text phone)]

/-! ## Apps -/

/-- The apps that every device has. -/
def nativeApps : Fields := [
  ("settings", .text "app-settings:"), ("phone", .text "tel:"), ("messages", .text "sms:"),
  ("mail", .text "mailto:"), ("maps", .text "maps:")]

/-- The apps that can be opened in a browser. -/
def webApps : Fields := [
  ("phone", .text "tel:"), ("messages", .text "sms:"), ("mail", .text "mailto:"),
  ("maps", .text "https://maps.google.com"), ("calendar", .text "https://calendar.google.com"),
  ("contacts", .text "https://contacts.google.com"), ("notes", .text "https://keep.google.com"),
  ("photos", .text "https://photos.google.com"), ("drive", .text "https://drive.google.com"),
  ("youtube", .text "https://youtube.com"), ("twitter", .text "https://twitter.com"),
  ("facebook", .text "https://facebook.com"), ("instagram", .text "https://instagram.com"),
  ("linkedin", .text "https://linkedin.com"), ("github", .text "https://github.com"),
  ("spotify", .text "https://open.spotify.com"), ("netflix", .text "https://netflix.com"),
  ("whatsapp", .text "https://web.whatsapp.com"), ("telegram", .text "https://web.telegram.org"),
  ("discord", .text "https://discord.com/app"), ("slack", .text "https://app.slack.com")]

end Steps

namespace AppDirectory

/-- The directory of a device. -/
def native : AppDirectory := { urls := Steps.nativeApps }

/-- The directory of a browser, where a scheme opens nothing. -/
def web : AppDirectory := { urls := Steps.webApps, schemeFallback := false }

/-- The address that opens an app, or null. -/
def resolve (directory : AppDirectory) (appName : String) : Value :=
  let key := Unicode.lower (Text.trim appName.toList)
  match directory.urls.find? (String.ofList key) with
  | some url => url
  | none =>
    if directory.schemeFallback && !key.isEmpty then
      .text (String.ofList (key.filter (· != ' ')) ++ "://")
    else .null

end AppDirectory

namespace Steps

variable {σ : Type}

/-- The handler of `open-app` steps that finds apps in a directory. -/
def openApp (directory : AppDirectory) : Handler σ where
  name := "OpenAppStep"
  stepType := "open-app"
  requires := [Collaborator.navigation.name]
  directory := some directory
  validate config := do
    if (Config.firstSet config ["url", "appName"]).isNull then
      throw (.configuration "appName" "either 'appName' or 'url' is required")
  execute config context := do
    context.reach Collaborator.navigation.name "open-app"
    let appName := (Value.field "appName" config).orElse (.text "")
    let url := (Value.field "url" config).orElse (directory.resolve appName.toText)
    if !url.isTrue then
      Action.fail (.configuration "appName" s!"no known URL for app '{appName.toText}'")
    openAddress context url
    return .object [("action", .text "app_opened"), ("appName", appName), ("url", url)]

end Stepwise.Steps
