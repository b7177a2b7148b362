import Stepwise.Handler
import Stepwise.Unicode.LetterCase
import Stepwise.Url.Parts

/-! # Requests to servers

The step `webhook` sends a request to a web address and reports the answer. The method comes from
the configuration or the settings and is written in upper case; names and values of headers are
written as texts. An answer with a status of 400 or above is an external failure. -/

namespace Stepwise.Steps

variable {σ : Type}

/-- The methods that a request may have. -/
def httpMethods : List String := ["GET", "POST", "PUT", "PATCH", "DELETE"]

/-- A text in upper case. -/
def upperText (s : String) : String := String.ofList (Unicode.upper s.toList)

/-- The headers of a configuration as texts; a value that counts as false gives none. -/
def headerTexts (value : Value) : Except Fault (Bindings String) :=
  if !value.isTrue then .ok [] else do
    let fields ← value.fieldsFor "items"
    return fields.map fun (name, item) => (name, item.toText)

/-- Whether a value can be the headers of a request. -/
def isHeaders : Value → Bool
  | .null | .object _ => true
  | _ => false

/-- The handler of `webhook` steps, where an edition of the rules for addresses is in force. -/
def webhook (edition : Url.Edition := .early) : Handler σ where
  name := "WebhookStep"
  stepType := "webhook"
  requires := [Collaborator.http.name]
  sampleValues := [("url", .text "https://example.com"), ("method", .text "POST")]
  validate config := do
    let url ← Config.requireText config "url"
    if !(← Url.isWeb edition (Text.trimmed url)) then
      throw (.configuration "url" "must be a valid HTTP/HTTPS URL")
    let method := Value.field "method" config
    if method.isTrue && !httpMethods.contains (upperText method.toText) then
      throw (.configuration "method" ("must be one of: " ++ String.intercalate ", " httpMethods))
    if !isHeaders (Value.field "headers" config) then
      throw (.configuration "headers" "must be an object")
  execute config context := do
    context.reach Collaborator.http.name "webhook"
    let url ← Config.trimmed config "url"
    let method := upperText
      ((Value.field "method" config).orElse context.settings.defaultHttpMethod).toText
    let headers ← headerTexts (Value.field "headers" config)
    let body := Value.field "body" config
    Action.note (.info s!"Webhook {method} {url}")
    let response ← Action.call context.platform s!"Webhook {method} {url} failed"
      (.send method url headers body context.settings.httpTimeout)
    if !response.ok then
      Action.fail (.external s!"Webhook {method} {url} returned HTTP {response.status}")
    return .object [("url", .text url), ("method", .text method),
      ("statusCode", .int response.status), ("response", response.body)]

end Stepwise.Steps
