/-
# Warning -- what goes wrong on the side

An operation can succeed although something beside it failed: a client that could not be told, a
line that is no command. Such a failure is kept as a warning and stops nothing.
-/
import KeyWatch.Error
import KeyWatch.Table.Watcher

namespace KeyWatch

set_option autoImplicit false

/-- Something that went wrong on the side and is reported, while the operation goes on. -/
inductive Warning where
  | notNotified (client : ClientId) (key : String) (error : Error)
  | subscriptionDropped (client : ClientId) (key : String) (error : Error)
  | subscriptionLimit (client : ClientId) (max : Nat)
  | notUnsubscribed (client : ClientId) (key : String) (error : Error)
  | malformedConnect (fault : WireFault)
  | pipeNotRemoved (path : String) (fault : IoFault)
  | badLine (job : String) (line : Nat) (error : Error)
  | failedCommand (job : String) (line : Nat) (error : Error)
  | failedJob (job : String) (error : Error)
  | badNotification (error : Error)
  deriving Repr

def Warning.message : Warning → String
  | .notNotified client key error =>
      "Failed to notify client " ++ toString client ++ " about " ++ Text.quote key ++ ": "
        ++ error.message
  | .subscriptionDropped client key error =>
      "Dropping subscription " ++ Text.quote key ++ " of client " ++ toString client ++ ": "
        ++ error.message
  | .subscriptionLimit client max =>
      "Client " ++ toString client ++ " reached its subscription limit (" ++ toString max ++ ")"
  | .notUnsubscribed client key error =>
      "Failed to unsubscribe client " ++ toString client ++ " from " ++ Text.quote key ++ ": "
        ++ error.message
  | .malformedConnect fault => "Dropping malformed connect message: " ++ fault.message
  | .pipeNotRemoved path fault => "Failed to remove " ++ path ++ ": " ++ fault.message
  | .badLine job line error =>
      job ++ ":" ++ toString line ++ ": Invalid command. See HELP for usage (" ++ error.message
        ++ ")"
  | .failedCommand job line error => job ++ ":" ++ toString line ++ ": " ++ error.message
  | .failedJob job error => "Job " ++ job ++ " failed: " ++ error.message
  | .badNotification error => "Failed to read notification: " ++ error.message

end KeyWatch
