/-
# Client.Listener -- what a client hears on its notification channel

A listener takes one notification after another from its channel. It ends where the channel ends,
and it ends for good at the first notification that it cannot read: nothing after that is heard.
-/
import KeyWatch.Warning
import KeyWatch.Wire.Reading

namespace KeyWatch.Client

set_option autoImplicit false

/-- What a listener heard, and why it stopped before the end of its channel, if it did. -/
structure Heard where
  notifications : List Notification := []
  trouble : Option Warning := none
  deriving Repr

def listen (bytes : Bytes) : Heard :=
  if _ready : bytes.length < notificationSize then {}
  else
    match Notification.decode (bytes.take notificationSize) with
    | .error fault => { trouble := some (.badNotification (.protocol fault)) }
    | .ok notification =>
      let later := listen (bytes.drop notificationSize)
      { later with notifications := notification :: later.notifications }
  termination_by bytes.length
  decreasing_by
    simp only [notificationSize, keyWidth, List.length_drop] at *
    omega

end KeyWatch.Client
