import Stepwise.Handler

/-! # Showing a notification

The step `notification` shows its `message` under its `title`, or under the title of the settings if
it gives none. -/

namespace Stepwise.Steps

variable {σ : Type}

/-- The handler of `notification` steps. -/
def notification : Handler σ where
  name := "NotificationStep"
  stepType := "notification"
  requires := [Collaborator.notifications.name]
  validate config := do
    let _ ← Config.requireText config "message"
  execute config context := do
    context.reach Collaborator.notifications.name "notification"
    let title :=
      (Value.field "title" config).orElse context.settings.defaultNotificationTitle
    let message ← Config.item config "message"
    Action.call context.platform "Could not show notification" (.show title.toText message)
    return .object [("title", title), ("message", message)]

end Stepwise.Steps
