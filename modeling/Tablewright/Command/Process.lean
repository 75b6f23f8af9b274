/-
Running processes.

A command line is split into words. Blanks separate words. Single quotes keep everything between them;
double quotes keep everything but a backslash before a double quote or a backslash; outside quotes a
backslash keeps the code point after it. A quoted empty text is a word.

What a process does is not known here: it is the next event of a script, which is part of the world a
run takes place in. Every start of a process is logged. A process is only started when the words of
its command and its directory can be handed to the system, and what it wrote is only seen when it is
text; where one of these fails, the failure is no refusal (`Action.spawn`, `Command.run`).
-/
import Tablewright.Failure.Basic
import Tablewright.Files.Action
import Tablewright.Workflow.Duration

set_option autoImplicit false

namespace Tablewright

/-! ## The words of a command line -/

namespace CommandLine

/-- Where the reader stands. -/
inductive Mode where
  /-- Between words. -/
  | between
  /-- Inside a word. -/
  | word
  /-- Inside quotes. -/
  | quoted (quote : CodePoint)
  /-- After a backslash, outside quotes. -/
  | escape
  /-- After a backslash inside quotes. -/
  | quotedEscape (quote : CodePoint)
deriving DecidableEq

/-- The blanks between words. -/
def isSeparator (c : CodePoint) : Bool := c = ' ' || c = '\t' || c = '\r' || c = '\n'

/-- Whether a code point is a quote. -/
def isQuote (c : CodePoint) : Bool := c = '\'' || c = '"'

/-- The words from a mode on. The accumulator holds the word being read, last code point first. -/
def wordsFrom : Mode → Text → Text → Except BadValue (List Text)
  | .between, _, [] => .ok []
  | .word, acc, [] => .ok [acc.reverse]
  | .quoted _, _, [] => .error .openQuote
  | .escape, _, [] => .error .openEscape
  | .quotedEscape _, _, [] => .error .openEscape
  | .between, _, c :: r =>
    if isSeparator c then wordsFrom .between [] r
    else if c = '\\' then wordsFrom .escape [] r
    else if isQuote c then wordsFrom (.quoted c) [] r
    else wordsFrom .word [c] r
  | .word, acc, c :: r =>
    if isSeparator c then (wordsFrom .between [] r).map (acc.reverse :: ·)
    else if c = '\\' then wordsFrom .escape acc r
    else if isQuote c then wordsFrom (.quoted c) acc r
    else wordsFrom .word (c :: acc) r
  | .quoted q, acc, c :: r =>
    if c = q then wordsFrom .word acc r
    else if c = '\\' && q = '"' then wordsFrom (.quotedEscape q) acc r
    else wordsFrom (.quoted q) (c :: acc) r
  | .escape, acc, c :: r => wordsFrom .word (c :: acc) r
  | .quotedEscape q, acc, c :: r =>
    if c = q || c = '\\' then wordsFrom (.quoted q) (c :: acc) r
    else wordsFrom (.quoted q) (c :: '\\' :: acc) r

/-- The words of a command line, split as a shell would, quotes and backslashes taken away. -/
def words (line : Text) : Except BadValue (List Text) := wordsFrom .between [] line

end CommandLine

/-! ## Processes -/

/-- What happens when a process is started. -/
inductive ProcessEvent where
  /-- It ends with a status, having written to its outputs. -/
  | ended (status : Int) (stdout stderr : Text)
  /-- It takes too long and is stopped. -/
  | timedOut
  /-- It cannot be started. -/
  | refused (cause : SystemCause)
  /-- It is started, but what it writes does not come to be read: it is no text, or the limit is
  longer than the system can wait. The process may have ended with a status all the same. -/
  | unread (status : Option Int) (reason : Text)
  /-- The user interrupts it. -/
  | interrupted

/-- The status a process ended with, if it came to an end of its own. -/
def ProcessEvent.status? : ProcessEvent → Option Int
  | ended status _ _ => some status
  | unread status _ => status
  | timedOut | refused _ | interrupted => none

/-- The start of a process, as it is asked of the system. -/
structure Spawn where
  /-- The words of the command. -/
  command : List Text
  /-- The directory it is started in. -/
  directory : Option Text
  /-- How long it may take. -/
  limit : Option Duration

/-- What keeps a process from being started, if anything. The words of the command are handed over in
their order and the directory after them; the first one with a flaw decides. -/
def Spawn.flaw? (s : Spawn) : Option HandoverFlaw :=
  (s.command ++ s.directory.toList).findSome? (Text.handoverFlaw? 0)

/-- A process that ended (`ProcessResult`). -/
structure ProcessResult where
  /-- The words of the command. -/
  command : List Text
  /-- The status it ended with. -/
  status : Int
  /-- What it wrote to its output. -/
  stdout : Text
  /-- What it wrote to its error output. -/
  stderr : Text

/-- Whether a process ended well. -/
def ProcessResult.ok (r : ProcessResult) : Bool := r.status = 0

/-- The world a run takes place in: the files, what the next processes will do, and the processes
started so far. -/
structure World where
  /-- The file system. -/
  tree : Tree
  /-- What the next processes will do; beyond it processes end well and silently. -/
  script : List ProcessEvent
  /-- The starts of processes, in their order. -/
  spawned : List Spawn

/-- An operation in the world that may fail. What it did before it failed stays done. -/
abbrev Action (α : Type) := ExceptT Failure (StateM World) α

namespace Action

/-- An operation by what it does to a world. -/
def ofFunction {α : Type} (f : World → Except Failure α × World) : Action α := f

/-- An operation on the files. -/
def onFiles {α : Type} (a : FileAction α) : Action α :=
  ofFunction fun w =>
    let (result, tree) := a.run w.tree
    (result, { w with tree })

/-- An operation that only looks at the files. -/
def look {α : Type} (f : Tree → Except Failure α) : Action α :=
  ofFunction fun w => (f w.tree, w)

/-- A result as an operation. -/
def ofExcept {α : Type} (r : Except Failure α) : Action α := ofFunction fun w => (r, w)

/-- A result that can only be refused, as an operation. -/
def ofRefusal {α : Type} (r : Except Refusal α) : Action α := ofExcept (liftRefusal r)

/-- Start a process: the start is logged and the next event of the script is what happens. A process
whose words or whose directory cannot be handed over is not started, and nothing is logged. -/
def spawn (s : Spawn) : Action ProcessEvent :=
  ofFunction fun w =>
    match s.flaw?, w.script with
    | some flaw, _ => (.error (.badValue (.badWord flaw)), w)
    | none, [] => (.ok (.ended 0 [] []), { w with spawned := w.spawned ++ [s] })
    | none, e :: rest => (.ok e, { w with script := rest, spawned := w.spawned ++ [s] })

end Action

/-! ## Commands -/

/-- A command as it is configured: a line, or its words (the two forms `build_command` takes). -/
inductive Command where
  /-- A line to be split into words. -/
  | line (text : Text)
  /-- The words. -/
  | words (ws : List Text)

/-- The words of a command with a label after them, behind its flag if there is one
(`build_command`). Empty label and empty flag count as none. -/
def Command.build (c : Command) (label flag : Option Text) : Except Failure (List Text) := do
  let words ←
    match c with
    | .words ws => .ok ws
    | .line text => (CommandLine.words text).mapError .badValue
  if words.isEmpty then throw (.refused .emptyCommand)
  let given (t : Option Text) : List Text := t.toList.filter fun t => !t.isEmpty
  match given label with
  | [] => return words
  | label => return words ++ given flag ++ label

/-- Run a command and wait for its end (`run_command`). A status other than zero is a result; a
process that takes too long or cannot be started is refused. Outputs that are not read are a fault
whatever the status is, since they are read before the status is looked at. -/
def Command.run (c : Command) (label flag directory : Option Text) (limit : Option Duration) :
    Action ProcessResult := do
  let words ← Action.ofExcept (c.build label flag)
  match ← Action.spawn ⟨words, directory, limit⟩ with
  | .ended status stdout stderr => return ⟨words, status, stdout, stderr⟩
  | .timedOut => throw (.refused (.processTimeout words (Duration.limitText limit)))
  | .refused cause =>
    let program := words.headD []
    throw (.refused (.cannotRun program (SystemError.message ⟨cause, program⟩)))
  | .unread _ reason => throw (.badValue (.unreadOutput reason))
  | .interrupted => throw .interrupted

end Tablewright
