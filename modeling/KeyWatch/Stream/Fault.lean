/-
# Stream.Fault -- why reading, writing or opening failed

A fault is a cause, not a text: the end of a stream inside a message, a device that takes nothing,
bytes that are no text, a name that cannot be a file's, a refusal of the operating system, or a
device's own reason. `IoFault.message` is the one place where they are put into words.
-/

namespace KeyWatch

set_option autoImplicit false

/-- Refusals of the operating system that opening, creating and removing files can meet. -/
inductive SystemFault where
  | notPermitted
  | noEntry
  | fileExists
  | notDirectory
  | isDirectory
  | brokenPipe
  | nameTooLong
  | notEmpty
  deriving Repr, DecidableEq

def SystemFault.number : SystemFault → Nat
  | .notPermitted => 1
  | .noEntry => 2
  | .fileExists => 17
  | .notDirectory => 20
  | .isDirectory => 21
  | .brokenPipe => 32
  | .nameTooLong => 36
  | .notEmpty => 39

def SystemFault.text : SystemFault → String
  | .notPermitted => "Operation not permitted"
  | .noEntry => "No such file or directory"
  | .fileExists => "File exists"
  | .notDirectory => "Not a directory"
  | .isDirectory => "Is a directory"
  | .brokenPipe => "Broken pipe"
  | .nameTooLong => "File name too long"
  | .notEmpty => "Directory not empty"

inductive IoFault where
  | endOfStream
  /-- A write took none of the bytes it was offered. -/
  | nothingWritten
  | notText
  | nulInName
  | system (fault : SystemFault)
  | device (reason : String)
  deriving Repr, DecidableEq

def IoFault.message : IoFault → String
  | .endOfStream => "failed to fill whole buffer"
  | .nothingWritten => "failed to write whole buffer"
  | .notText => "stream did not contain valid UTF-8"
  | .nulInName => "file name contained an unexpected NUL byte"
  | .system fault => fault.text ++ " (os error " ++ toString fault.number ++ ")"
  | .device reason => reason

end KeyWatch
