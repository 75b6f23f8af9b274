/-
All the ways in which an operation can fail.

Only refusals and errors of the file system are answered inside a run. The other failures pass
through: a malformed setting, an interrupt by the user, and the faults for which the program has
no message at all.
-/
import Tablewright.Failure.Refusal

set_option autoImplicit false

namespace Tablewright

/-- Causes for which the file system turns an operation down. -/
inductive SystemCause where
  /-- Nothing exists there. -/
  | noEntry
  /-- Access is denied. -/
  | accessDenied
  /-- Something exists there already. -/
  | alreadyExists
  /-- A directory is needed. -/
  | notDirectory
  /-- A directory is in the way. -/
  | isDirectory
  /-- A name is too long. -/
  | nameTooLong
  /-- Links lead in a circle. -/
  | linkLoop
deriving DecidableEq

namespace SystemCause

/-- The number of a cause. -/
def number : SystemCause → Nat
  | noEntry => 2
  | accessDenied => 13
  | alreadyExists => 17
  | notDirectory => 20
  | isDirectory => 21
  | nameTooLong => 36
  | linkLoop => 40

/-- The wording of a cause. -/
def message : SystemCause → Text
  | noEntry => "No such file or directory"
  | accessDenied => "Permission denied"
  | alreadyExists => "File exists"
  | notDirectory => "Not a directory"
  | isDirectory => "Is a directory"
  | nameTooLong => "File name too long"
  | linkLoop => "Too many levels of symbolic links"

end SystemCause

/-- An error of the file system at a path. -/
structure SystemError where
  /-- What went wrong. -/
  cause : SystemCause
  /-- The path as it was given to the file system. -/
  path : Text
deriving DecidableEq

/-- The wording of an error of the file system. -/
def SystemError.message (e : SystemError) : Text :=
  "[Errno " ++ Text.ofNat e.cause.number ++ "] " ++ e.cause.message ++ ": " ++ Text.quoted e.path

/-- Values that are turned down with a message but are no refusals. -/
inductive BadValue where
  /-- A command with a quote that is not closed. -/
  | openQuote
  /-- A command that ends in a backslash. -/
  | openEscape
  /-- A step budget below one. -/
  | budget
  /-- An integer with too many digits. -/
  | tooManyDigits (digits : Nat)
  /-- A log layout without a single field. -/
  | badLogLayout (layout : Text)
  /-- A log layout that ends inside a field. -/
  | openLogField
  /-- A log layout that ends inside the name of a field. -/
  | openLogName
  /-- A log layout with a field of an unknown form at a position. -/
  | unknownLogForm (form : CodePoint) (position : Nat)
  /-- A log layout that names a field the record does not have. -/
  | noLogField (name : Text)
  /-- A port that is no integer. -/
  | badPort (text : Text)
  /-- A number that is no code point. -/
  | noCodePoint
  /-- A word of a command, or the directory it is to run in, that cannot be handed to the system. -/
  | badWord (flaw : HandoverFlaw)
  /-- A process whose outputs did not come to be read, for a reason. -/
  | unreadOutput (reason : Text)
deriving DecidableEq

/-- The wording of a bad value. -/
def BadValue.message : BadValue → Text
  | openQuote => "No closing quotation"
  | openEscape => "No escaped character"
  | budget => "budget must be at least 1"
  | tooManyDigits n => (JsonError.tooManyDigits n).message
  | badLogLayout layout => "Invalid format '" ++ layout ++ "' for '%' style"
  | openLogField => "incomplete format"
  | openLogName => "incomplete format key"
  | unknownLogForm form position =>
    let shown : CodePoint := if 31 < form.val && form.val < 127 then form else '?'
    "unsupported format character '" ++ [shown] ++ "' (0x" ++ Text.hex 1 form.val ++ ") at index "
      ++ Text.ofNat position
  | noLogField name => "Formatting field not found in record: " ++ Text.quoted name
  | badPort text => "invalid literal for int() with base 10: " ++ (Text.quoted text).take 200
  | noCodePoint => "chr() arg not in range(0x110000)"
  | badWord flaw => flaw.message
  | unreadOutput reason => reason

/-- What is wrong with a table file that breaks the rules of its format. -/
inductive TableFault where
  /-- A code point that may not stand in it. -/
  | badCode
  /-- Something that is no part of the format, or stands where it may not. -/
  | badToken
  /-- Parts in the wrong order or at the wrong indentation. -/
  | badStructure
  /-- A reference to nothing, or a second document. -/
  | badReference
  /-- A value its place cannot hold. -/
  | badValue
  /-- An escape with a number that is no code point. -/
  | noCodePoint (number : Nat)
deriving DecidableEq

/-- Faults the program has no message for. -/
inductive Defect where
  /-- A value of the wrong kind. -/
  | wrongKind
  /-- A value without a part that is looked up in it. -/
  | noPart
  /-- A mapping without a key that is looked up in it. -/
  | noKey
  /-- Links that lead in a circle where a path is resolved. -/
  | linkLoop
  /-- Text that cannot be encoded. -/
  | unencodable
  /-- A value nested too deeply. -/
  | tooDeep
  /-- A run that is recorded already. -/
  | duplicateRun
  /-- A ledger that cannot be opened. -/
  | ledgerUnavailable
  /-- A ledger file that is something else. -/
  | notALedger
  /-- A malformed database address. -/
  | badAddress
  /-- A database of an unknown kind. -/
  | unknownDatabase
  /-- A database whose client is not installed. -/
  | noDatabaseClient
  /-- A number too large to be stored. -/
  | overflow
  /-- A table file that breaks the rules of its format. -/
  | malformedTable (fault : TableFault)
deriving DecidableEq

/-- Why an operation failed. -/
inductive Failure where
  /-- The request is turned down. -/
  | refused (r : Refusal)
  /-- The file system turned an operation down. -/
  | system (e : SystemError)
  /-- A value is malformed. -/
  | badValue (v : BadValue)
  /-- The user interrupted the operation. -/
  | interrupted
  /-- A fault without a message. -/
  | defect (d : Defect)

instance : Coe Refusal Failure := ⟨.refused⟩

/-- The failure for a fault of a table file. A number that is no code point has a message, unless
it takes more than 31 bits. -/
def TableFault.failure : TableFault → Failure
  | .noCodePoint n => if n < twoTo 31 then .badValue .noCodePoint else .defect .overflow
  | fault => .defect (.malformedTable fault)

/-- A computation that can only be refused, as one that can fail. -/
def liftRefusal {α : Type} : Except Refusal α → Except Failure α
  | .ok a => .ok a
  | .error r => .error (.refused r)

instance : MonadLift (Except Refusal) (Except Failure) := ⟨liftRefusal⟩

end Tablewright
