/-
# Command.Fault -- why a command line cannot be read

One constructor for each way a line of a job script or of a client's input is not a command. A
constructor keeps the text that the message quotes.
-/
import KeyWatch.Text.Quoted

namespace KeyWatch

set_option autoImplicit false

inductive SyntaxFault where
  | unknownCommand (word : String)
  | unexpectedArguments (text : String)
  | listExpected (text : String)
  | emptyKeyList
  | emptyKey
  | pairExpected (text : String)
  | unterminatedPair
  | pairWithoutValue (text : String)
  | emptyPairPart
  | emptyPairList
  /-- The delay of a job script is not a number. -/
  | waitExpected (text : String)
  /-- The delay of a client is not a number. -/
  | delayExpected (text : String)
  | invalidCommand (line : String)
  | keyExpected (text : String)
  | oneKeyExpected (text : String)
  deriving Repr, DecidableEq

def SyntaxFault.message : SyntaxFault → String
  | .unknownCommand word => "Unknown command " ++ Text.quote word
  | .unexpectedArguments text => "Unexpected arguments " ++ Text.quote text
  | .listExpected text => "Expected a [...] list, got " ++ Text.quote text
  | .emptyKeyList => "Empty key list"
  | .emptyKey => "Empty key in list"
  | .pairExpected text => "Expected '(' at " ++ Text.quote text
  | .unterminatedPair => "Unterminated pair"
  | .pairWithoutValue text => "Pair without value: " ++ Text.quote text
  | .emptyPairPart => "Empty key or value in pair"
  | .emptyPairList => "Empty pair list"
  | .waitExpected text => "WAIT expects a delay in ms, got " ++ Text.quote text
  | .delayExpected text => "DELAY expects ms, got " ++ Text.quote text
  | .invalidCommand line => "Invalid command " ++ Text.quote line
  | .keyExpected text => "Expected [key], got " ++ Text.quote text
  | .oneKeyExpected text => "Expected exactly one key, got " ++ Text.quote text

end KeyWatch
