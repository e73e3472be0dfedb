/-
# Error -- everything that an operation can answer instead of its result

One constructor for each cause. `Error.kind` names the part that is to blame, `Error.message` gives
the full text; the wording of the parts is that of the part (`IoFault`, `SyntaxFault`, `WireFault`,
`SessionFault`, `SettingsFault`). Whatever can fail does so at its first step that fails, so it
succeeds exactly if all its steps do (`bind_eq_ok_iff`).
-/
import KeyWatch.Command.Fault
import KeyWatch.Session.Fault
import KeyWatch.Settings
import KeyWatch.Stream.Fault
import KeyWatch.Wire.Fault

namespace KeyWatch

set_option autoImplicit false

/-- Why an operation failed. -/
inductive Error where
  | io (fault : IoFault)
  | notInitialized
  | alreadyInitialized
  | invalidKey (key : String)
  | valueTooLong (key : String) (length max : Nat)
  | batchTooLarge (length max : Nat)
  | emptyBatch
  | parse (fault : SyntaxFault)
  /-- The file of a backup cannot be opened. -/
  | backupNotOpened (path : String) (fault : IoFault)
  | protocol (fault : WireFault)
  | session (fault : SessionFault)
  | settings (fault : SettingsFault)
  deriving Repr, DecidableEq

def Error.kind : Error → String
  | .io _ => "Io"
  | .notInitialized => "NotInitialized"
  | .alreadyInitialized => "AlreadyInitialized"
  | .invalidKey _ => "InvalidKey"
  | .valueTooLong .. => "ValueTooLong"
  | .batchTooLarge .. => "BatchTooLarge"
  | .emptyBatch => "EmptyBatch"
  | .parse _ => "Parse"
  | .backupNotOpened .. => "Backup"
  | .protocol _ => "Protocol"
  | .session _ => "Session"
  | .settings _ => "Config"

def Error.message : Error → String
  | .io fault => "IO error: " ++ fault.message
  | .notInitialized => "KVS state must be initialized"
  | .alreadyInitialized => "KVS state has already been initialized"
  | .invalidKey key => "Invalid key: " ++ Text.quote key
  | .valueTooLong key length max =>
      "Value too long for key " ++ Text.quote key ++ " (" ++ toString length ++ " bytes, max "
        ++ toString max ++ ")"
  | .batchTooLarge length max =>
      "Batch too large: " ++ toString length ++ " entries (max " ++ toString max ++ ")"
  | .emptyBatch => "Empty batch"
  | .parse fault => "Parse error: " ++ fault.message
  | .backupNotOpened path fault =>
      "Backup error: Failed to open backup file " ++ path ++ ": " ++ fault.message
  | .protocol fault => "Protocol error: " ++ fault.message
  | .session fault => "Session error: " ++ fault.message
  | .settings fault => "Configuration error: " ++ fault.message

/-! ## Steps that can fail -/

section Steps

variable {ε α β : Type}

/-- What is done in two steps succeeds if both do. -/
theorem bind_eq_ok_iff (found : Except ε α) (next : α → Except ε β) (answer : β) :
    found >>= next = .ok answer ↔ ∃ value, found = .ok value ∧ next value = .ok answer := by
  cases found with
  | error fault =>
    constructor
    · rintro ⟨⟩
    · rintro ⟨_, failed, -⟩
      cases failed
  | ok value =>
    constructor
    · exact fun done => ⟨value, rfl, done⟩
    · rintro ⟨_, same, done⟩
      cases same
      exact done

theorem map_eq_ok_iff (found : Except ε α) (change : α → β) (answer : β) :
    found.map change = .ok answer ↔ ∃ value, found = .ok value ∧ change value = answer := by
  cases found <;> simp [Except.map]

end Steps

end KeyWatch
