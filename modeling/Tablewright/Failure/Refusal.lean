/-
Refusals: every cause for which the program turns down a request with a message of its own.

A refusal is data; its class and its wording are functions of it. Everything that compiles an
entity or checks an argument fails with a refusal or not at all.
-/
import Tablewright.Json.Display
import Tablewright.Json.Reader
import Tablewright.Text.Utf8
import Tablewright.Workflow.Stage

set_option autoImplicit false

namespace Tablewright

/-- The class of a refusal, as the reasoning engine is told it. -/
inductive RefusalClass where
  /-- Malformed or misplaced input. -/
  | validation
  /-- A field that collides with another column. -/
  | namingConflict
  /-- An edit whose place is not determined. -/
  | ambiguousEdit
  /-- The engine or a process failed. -/
  | external
  /-- The engine or a process took too long. -/
  | timeout
  /-- The engine answered with something that is no answer. -/
  | protocol
deriving DecidableEq

/-- The word for a class of refusal. -/
def RefusalClass.label : RefusalClass → Text
  | validation => "validation"
  | namingConflict => "naming_conflict"
  | ambiguousEdit => "ambiguous_edit"
  | external => "external"
  | timeout => "timeout"
  | protocol => "protocol"

/-- What is wrong with a value of a sample row. -/
inductive ValueFlaw where
  /-- A text field needs a text. -/
  | notText
  /-- A short text is limited in length. -/
  | tooLong (limit : Nat)
  /-- An integer field needs an integer. -/
  | notInteger
  /-- A boolean field needs a truth value. -/
  | notBoolean
  /-- A timestamp field needs a timestamp. -/
  | notTimestamp
deriving DecidableEq

/-- The wording of a value's flaw. -/
def ValueFlaw.message : ValueFlaw → Text
  | notText => "expected a string"
  | tooLong limit => "longer than " ++ Text.ofNat limit ++ " characters"
  | notInteger => "expected an integer"
  | notBoolean => "expected true or false"
  | notTimestamp => "expected an ISO 8601 timestamp string"

/-- What is wrong with one place of a tool's arguments. -/
inductive ArgumentFlaw where
  /-- A required argument is missing. -/
  | missing
  /-- An argument that is not declared. -/
  | undeclared
  /-- A text is required. -/
  | notText
  /-- A list is required. -/
  | notList
  /-- An object is required. -/
  | notObject
  /-- An object described by a record is required. -/
  | notRecord (record : Text)
  /-- The list has to have an item. -/
  | emptyList
  /-- The text, or the name of a member, holds a code point that cannot be encoded. -/
  | notUnicode
deriving DecidableEq

/-- The wording of an argument's flaw. -/
def ArgumentFlaw.message : ArgumentFlaw → Text
  | missing => "Field required"
  | undeclared => "Extra inputs are not permitted"
  | notText => "Input should be a valid string"
  | notList => "Input should be a valid list"
  | notObject => "Input should be a valid dictionary"
  | notRecord record => "Input should be a valid dictionary or instance of " ++ record
  | emptyList => "List should have at least 1 item after validation, not 0"
  | notUnicode => "Input should be a valid string, unable to parse raw data as a unicode string"

/-- One flaw of a tool's arguments with the path to its place. -/
structure ArgumentProblem where
  /-- The keys and positions that lead to the place, outermost first. -/
  place : List Text
  /-- What is wrong there. -/
  flaw : ArgumentFlaw
deriving DecidableEq

/-- A problem in words: its place with dots, then the flaw. -/
def ArgumentProblem.message (p : ArgumentProblem) : Text :=
  (Text.join "." p.place).ifEmpty "input" ++ ": " ++ p.flaw.message

/-! ## Texts that are handed to the system -/

/-- What keeps a text from being handed to the system, be it a path or a word of a command. -/
inductive HandoverFlaw where
  /-- A null byte, which would end the text there. -/
  | nullByte
  /-- Code points without bytes, from one position to another. The code is that of the first. -/
  | surrogates (code : CodePoint) (first last : Nat)
deriving DecidableEq

/-- The wording of a flaw. One code point is shown, several are only counted. -/
def HandoverFlaw.message : HandoverFlaw → Text
  | nullByte => "embedded null byte"
  | surrogates code first last =>
    if first = last then
      "'utf-8' codec can't encode character '\\u" ++ Text.hex 4 code.val ++ "' in position "
        ++ Text.ofNat first ++ ": surrogates not allowed"
    else
      "'utf-8' codec can't encode characters in position " ++ Text.ofNat first ++ "-"
        ++ Text.ofNat last ++ ": surrogates not allowed"

/-- What keeps a text from being handed to the system, if anything. The whole text is encoded before
null bytes are looked for, and a code point without bytes is reported together with all surrogates
right behind it. Positions are counted from `offset` on, since the text may be the end of a longer
one that is handed over. -/
def Text.handoverFlaw? (offset : Nat) (t : Text) : Option HandoverFlaw :=
  match t.dropWhile CodePoint.hasSystemBytes with
  | c :: r =>
    let first := offset + (t.takeWhile CodePoint.hasSystemBytes).length
    some (.surrogates c first (first + (r.takeWhile CodePoint.isSurrogate).length))
  | [] => if t.any (fun c => c.val = 0) then some .nullByte else none

/-- Whether a text can be handed to the system. -/
def Text.isSound (t : Text) : Bool := (t.handoverFlaw? 0).isNone

/-- What has to exist before a tool may be called for an entity. -/
inductive Prerequisite where
  /-- The schema. -/
  | schema
  /-- The endpoint. -/
  | endpoint
deriving DecidableEq

/-- The stage that shows that a prerequisite is met. -/
def Prerequisite.stage : Prerequisite → Stage
  | schema => .schemaWritten
  | endpoint => .endpointWritten

/-- What to do about a missing prerequisite. -/
def Prerequisite.advice : Prerequisite → Text
  | schema => "Create the schema"
  | endpoint => "Create the API endpoint"

/-- Why a request is turned down. -/
inductive Refusal where
  /-- A word that is no constraint. -/
  | unknownConstraint (raw : Json)
  /-- A field name that is no identifier or is a reserved word. -/
  | badFieldName (name : Text)
  /-- Two fields of one name. -/
  | duplicateField (field : Text) (label : Json)
  /-- A field named like a column every table has. -/
  | reservedField (field entity : Text)
  /-- A field whose column is in use. -/
  | columnTaken (field entity column holder : Text)
  /-- A method no endpoint has. -/
  | unsupportedMethod (raw : Json)
  /-- No method at all. -/
  | noMethods
  /-- No sample rows. -/
  | noRows (entity : Text)
  /-- A sample row with members that are no fields. -/
  | unknownRowFields (row : Nat) (entity : Text) (keys : List Text)
  /-- A sample row without a required value. -/
  | missingRowField (row : Nat) (entity field : Text)
  /-- A sample row with a value its field cannot hold. -/
  | badRowValue (row : Nat) (entity field : Text) (flaw : ValueFlaw)
  /-- A template without trigger phrases. -/
  | noTriggers (name : Json)
  /-- A template table that is no mapping. -/
  | badTemplateTable
  /-- No path given. -/
  | noPath
  /-- A path with a code point that no name can hold. -/
  | badPath (path : Text) (flaw : HandoverFlaw)
  /-- A path that leaves the project. -/
  | outsideProject (path : Text)
  /-- A file that is no text. -/
  | notText (path : Text)
  /-- An edit that would change nothing. -/
  | sameText
  /-- A directory where a file is to be edited. -/
  | editsDirectory (path : Text)
  /-- The text to replace does not occur. -/
  | noMatch (path : Text)
  /-- The text to replace occurs more than once. -/
  | manyMatches (path : Text) (count : Nat)
  /-- A directory that is never listed. -/
  | hiddenDirectory (path : Text)
  /-- Something else where a directory is to be listed. -/
  | notDirectory (path : Text)
  /-- Nothing, or no file, where a file is to be read. -/
  | noFile (path : Text)
  /-- An entity that is not tracked. -/
  | unknownEntity (name : Text)
  /-- A migration without a schema. -/
  | nothingToMigrate
  /-- A migration to apply before one is generated. -/
  | nothingToApply
  /-- An artifact whose prerequisite is missing. -/
  | missingPrerequisite (what : Prerequisite) (entity : Text)
  /-- A tool that does not exist. -/
  | unknownTool (name : Text) (available : List Text)
  /-- Arguments that are not JSON. -/
  | argumentsNotJson (tool : Text) (error : JsonError)
  /-- Arguments that are no JSON object. -/
  | argumentsNotObject (tool : Text)
  /-- Arguments that break the tool's contract. -/
  | badArguments (tool : Text) (problems : List ArgumentProblem)
  /-- A command without words. -/
  | emptyCommand
  /-- A program that cannot be started. -/
  | cannotRun (program reason : Text)
  /-- A process that ended with a status other than zero. -/
  | processFailed (command : List Text) (status : Int) (detail : Text)
  /-- A process that was stopped. -/
  | processTimeout (command : List Text) (limit : Text)
  /-- The engine took longer than its limit. -/
  | engineTimeout (limit : Text)
  /-- The engine's service reported an error. -/
  | engineError (reason : Text)
  /-- The engine cannot be reached for want of settings. -/
  | engineUnavailable (reason : Text)
  /-- The engine gave no answer. -/
  | noChoices
  /-- The engine proposed several calls at once. -/
  | manyToolCalls (calls : Nat)
  /-- The engine gave neither text nor a call. -/
  | emptyAnswer
  /-- The engine proposed a call of nothing. -/
  | namelessCall
  /-- A failure of the engine reported with its class and its own wording. -/
  | reported (kind : RefusalClass) (message : Text)

namespace Refusal

/-- The class of a refusal. -/
def kind : Refusal → RefusalClass
  | reservedField .. | columnTaken .. => .namingConflict
  | noMatch .. | manyMatches .. => .ambiguousEdit
  | emptyCommand | cannotRun .. | processFailed .. | engineError .. | engineUnavailable .. => .external
  | processTimeout .. | engineTimeout .. => .timeout
  | noChoices | manyToolCalls .. | emptyAnswer | namelessCall => .protocol
  | reported kind _ => kind
  | _ => .validation

/-- A command on one line. -/
def commandLine (command : List Text) : Text := Text.join " " command

/-- The wording of a refusal. -/
def message : Refusal → Text
  | unknownConstraint raw =>
    "Unknown constraint '" ++ raw.display ++ "'. Expected one of: required, unique, primary"
  | badFieldName name => "Field name '" ++ name ++ "' is not a valid identifier"
  | duplicateField field label =>
    "Duplicate field '" ++ field ++ "' in entity '" ++ label.display ++ "'"
  | reservedField field entity =>
    "Field '" ++ field ++ "' in '" ++ entity
      ++ "' is reserved: id, createdAt and updatedAt are added automatically"
  | columnTaken field entity column holder =>
    "Field '" ++ field ++ "' in '" ++ entity ++ "' maps to column '" ++ column
      ++ "', already used by '" ++ holder ++ "'"
  | unsupportedMethod raw =>
    "Unsupported method '" ++ raw.display ++ "'. Expected GET, POST, PUT or DELETE"
  | noMethods => "At least one method is required to generate an endpoint"
  | noRows entity => "At least one row is required to seed '" ++ entity ++ "'"
  | unknownRowFields row entity keys =>
    "Row " ++ Text.ofNat row ++ " for '" ++ entity ++ "' has unknown field(s): "
      ++ Text.join ", " keys
  | missingRowField row entity field =>
    "Row " ++ Text.ofNat row ++ " for '" ++ entity ++ "' is missing required field '" ++ field ++ "'"
  | badRowValue row entity field flaw =>
    "Row " ++ Text.ofNat row ++ " for '" ++ entity ++ "', field '" ++ field ++ "': " ++ flaw.message
  | noTriggers name => "Template '" ++ name.display ++ "' has no triggers"
  | badTemplateTable => "Entity template table must be a mapping with 'rules' and 'fallbacks'"
  | noPath => "A path is required"
  | badPath path flaw => "Invalid path '" ++ path ++ "': " ++ flaw.message
  | outsideProject path => "Path '" ++ path ++ "' is outside the project root"
  | notText path => "'" ++ path ++ "' is not a UTF-8 text file"
  | sameText => "old_str and new_str must be different"
  | editsDirectory path => "'" ++ path ++ "' is a directory"
  | noMatch path => "old_str not found in '" ++ path ++ "'"
  | manyMatches path n =>
    "old_str matches " ++ Text.ofNat n ++ " times in '" ++ path ++ "'; it must match exactly once"
  | hiddenDirectory path => "You cannot list the path: " ++ path
  | notDirectory path => "'" ++ path ++ "' is not a directory"
  | noFile path => "File '" ++ path ++ "' does not exist"
  | unknownEntity name => "Unknown entity '" ++ name ++ "'"
  | nothingToMigrate => "Create at least one schema before generating a migration"
  | nothingToApply => "Generate a migration before applying it"
  | missingPrerequisite what entity =>
    what.advice ++ " for '" ++ entity ++ "' first (missing stage: " ++ what.stage.label ++ ")"
  | unknownTool name available =>
    "Unknown tool '" ++ name ++ "'. Available: " ++ Text.join ", " available
  | argumentsNotJson tool error =>
    "Arguments for '" ++ tool ++ "' are not valid JSON: " ++ error.message
  | argumentsNotObject tool => "Arguments for '" ++ tool ++ "' must be a JSON object"
  | badArguments tool problems =>
    "Invalid arguments for '" ++ tool ++ "': "
      ++ Text.join "; " (problems.map ArgumentProblem.message)
  | emptyCommand => "Empty command"
  | cannotRun program reason => "Could not run '" ++ program ++ "': " ++ reason
  | processFailed command status detail =>
    "'" ++ commandLine command ++ "' exited with status " ++ Text.ofInt status ++ ": " ++ detail
  | processTimeout command limit =>
    "'" ++ commandLine command ++ "' timed out after " ++ limit ++ "s"
  | engineTimeout limit => "Reasoning engine timed out after " ++ limit ++ "s"
  | engineError reason => "Reasoning engine error: " ++ reason
  | engineUnavailable reason => "Could not create reasoning engine client: " ++ reason
  | noChoices => "Reasoning engine returned no choices"
  | manyToolCalls n =>
    "Reasoning engine proposed " ++ Text.ofNat n ++ " tool calls; exactly one is allowed per step"
  | emptyAnswer => "Reasoning engine returned neither text nor a tool call"
  | namelessCall => "Reasoning engine proposed a tool call without a function name"
  | reported _ message => message

end Refusal

end Tablewright
