/-
The command line: a command, its options and its argument.

Options may stand before or behind the argument. A long option may be shortened as long as it
stays the only one meant, and short ones may be written together. What looks like a negative
number or holds a blank is an argument, and so is everything behind `--`. Words no one asked for
are collected and turned down at the end.
-/
import Tablewright.Text.Numeral
import Tablewright.Text.Quoted
import Tablewright.Text.Search

set_option autoImplicit false

namespace Tablewright

/-! ## Counts

A count on the command line is an integer from one on. -/

/-- Why a text is no count. -/
inductive CountFlaw where
  /-- It writes no integer. -/
  | notInteger (text : Text)
  /-- It writes an integer below one. -/
  | belowOne (n : Int)
deriving DecidableEq

/-- The wording of a count's flaw. -/
def CountFlaw.message : CountFlaw → Text
  | notInteger text => "invalid integer: " ++ Text.quoted text
  | belowOne n => "must be at least 1, got " ++ Text.ofInt n

/-- Read a count (`positive_int`). -/
def readCount (t : Text) : Except CountFlaw Int :=
  match Text.toInt? t with
  | none => .error (.notInteger t)
  | some n => if n < 1 then .error (.belowOne n) else .ok n

/-! ## What can be asked for -/

/-- A command with what was asked for. -/
inductive CommandLine where
  /-- Create the scaffold of a project. -/
  | scaffold
  /-- Carry out a request. -/
  | query (request : Text) (verbose dryRun : Bool) (budget : Option Int)
  /-- Show the state of a project. -/
  | status (all : Bool)
deriving DecidableEq

/-- What an option does. -/
inductive OptionEffect where
  /-- Show how the program is used, and nothing else. -/
  | help
  /-- Show every step. -/
  | verbose
  /-- Leave files and processes alone. -/
  | dryRun
  /-- Set how many steps a run may take. -/
  | budget
  /-- Show everything. -/
  | all
deriving DecidableEq

/-- An option. -/
structure CliOption where
  /-- Its names, with their dashes. Only an option without a value has a short name. -/
  names : List Text
  /-- What it does. -/
  effect : OptionEffect
  /-- Whether it takes a value. -/
  takesValue : Bool
deriving DecidableEq

/-- An option as messages name it. -/
def CliOption.label (o : CliOption) : Text := Text.join "/" o.names

/-- Why a command line cannot be carried out. -/
inductive UsageError where
  /-- A shortened option that may be several. -/
  | ambiguous (given : Text) (candidates : List Text)
  /-- A value for an option that takes none. -/
  | needlessValue (option : Text) (value : Text)
  /-- An option without its value. -/
  | noValue (option : Text)
  /-- A value that is no count. -/
  | badCount (option : Text) (flaw : CountFlaw)
  /-- An argument that is missing. -/
  | noArgument (name : Text)
  /-- A word that is no command. -/
  | unknownCommand (word : Text) (commands : List Text)
  /-- Words no one asked for. -/
  | unrecognized (words : List Text)
deriving DecidableEq

/-- The wording of an error about an option or an argument. -/
def UsageError.message : UsageError → Text
  | ambiguous given candidates =>
    "ambiguous option: " ++ given ++ " could match " ++ Text.join ", " candidates
  | needlessValue option value =>
    "argument " ++ option ++ ": ignored explicit argument " ++ Text.quoted value
  | noValue option => "argument " ++ option ++ ": expected one argument"
  | badCount option flaw => "argument " ++ option ++ ": " ++ flaw.message
  | noArgument name => "the following arguments are required: " ++ name
  | unknownCommand word commands =>
    "argument command: invalid choice: " ++ Text.quoted word ++ " (choose from "
      ++ Text.join ", " (commands.map Text.quoted) ++ ")"
  | unrecognized words => "unrecognized arguments: " ++ Text.join " " words

/-- Why reading a command line ends early. -/
inductive EarlyEnd where
  /-- The user wants to know how the program is used. -/
  | help
  /-- The command line is wrong; the program, or the command in it, says why. -/
  | wrong (program : Text) (error : UsageError)
deriving DecidableEq

namespace CommandLine

/-- The name the program goes by. -/
def program : Text := "schemapilot"

/-! ## Recognizing options -/

/-- A word of the command line that names an option. -/
structure Mention where
  /-- The option; none when there is no such option. -/
  option : Option CliOption
  /-- Whether the name has a single dash. -/
  isShort : Bool
  /-- What is written together with the name, and whether behind an equals sign. -/
  joined : Option (Bool × Text)

/-- What a word of the command line is. -/
inductive Word where
  /-- An argument. -/
  | argument (t : Text)
  /-- The mark behind which everything is an argument. -/
  | separator
  /-- An option, with the word it was given in. -/
  | option (given : Text) (m : Mention)

/-- The mark behind which everything is an argument. -/
def separatorMark : Text := "--"

/-- Whether a text is a run of digits. -/
def isDigits (t : Text) : Bool := !t.isEmpty && t.all fun c => c.digitValue?.isSome

/-- Whether a word looks like a negative number, whole or with a point; a line feed may end it. -/
def isNegativeNumber (t : Text) : Bool :=
  match Text.after? '-' t with
  | none => false
  | some r =>
    let body :=
      match r.reverse with
      | c :: s => if c = '\n' then s.reverse else r
      | [] => r
    isDigits body ||
      match Text.cutAtFirst? "." body with
      | some (whole, fraction) => (whole.isEmpty || isDigits whole) && isDigits fraction
      | none => false

/-- The option with a name. -/
def find? (options : List CliOption) (name : Text) : Option CliOption :=
  options.find? fun o => o.names.contains name

/-- A word cut at its first equals sign. -/
def cutAtEquals (t : Text) : Text × Option (Bool × Text) :=
  match Text.cutAtFirst? "=" t with
  | some (name, value) => (name, some (true, value))
  | none => (t, none)

/-- The names of long options that begin with a text, with their options. -/
def longCandidates (options : List CliOption) (start : Text) : List (Text × CliOption) :=
  options.flatMap fun o => (o.names.filter fun n => Text.startsWith n start).map fun n => (n, o)

/-- What a word is that begins with a dash and is no full name of an option. -/
def recognizeShortened (options : List CliOption) (t : Text) : Except UsageError Word :=
  if Text.startsWith t "--" then
    let (start, joined) := cutAtEquals t
    match longCandidates options start with
    | [] => .ok (.option t ⟨none, false, none⟩)
    | [(_, o)] => .ok (.option t ⟨some o, false, joined⟩)
    | several => .error (.ambiguous t (several.map (·.1)))
  else
    match find? options (t.take 2) with
    | some o => .ok (.option t ⟨some o, true, some (false, t.drop 2)⟩)
    | none => .ok (.option t ⟨none, true, none⟩)

/-- What stands for an option that does not exist: an argument if it looks like a negative number
or holds a space. -/
def orArgument (t : Text) : Word → Word
  | .option given ⟨none, short, joined⟩ =>
    if isNegativeNumber t || t.contains (CodePoint.ofChar ' ') then .argument t
    else .option given ⟨none, short, joined⟩
  | w => w

/-- Whether the name of an option has a single dash. -/
def isShortName (name : Text) : Bool := !Text.startsWith name "--"

/-- What a word before the separator is. -/
def recognize (options : List CliOption) (t : Text) : Except UsageError Word :=
  if !Text.startsWith t "-" || t.length = 1 then .ok (.argument t)
  else
    let (name, joined) := cutAtEquals t
    match find? options t, find? options name with
    | some o, _ => .ok (.option t ⟨some o, isShortName t, none⟩)
    | none, some o => .ok (.option t ⟨some o, isShortName name, joined⟩)
    | none, none => (recognizeShortened options t).map (orArgument t)

/-- What the words of a command line are. -/
def recognizeAll (options : List CliOption) : List Text → Except UsageError (List Word)
  | [] => .ok []
  | t :: r =>
    if t = separatorMark then .ok (.separator :: r.map .argument)
    else do
      let w ← recognize options t
      let ws ← recognizeAll options r
      return w :: ws

/-! ## Taking options -/

/-- What was read so far. -/
structure Reading where
  /-- The argument. -/
  argument : Option Text := none
  /-- The options that were given and take no value. -/
  effects : List OptionEffect := []
  /-- The number of steps. -/
  budget : Option Int := none
  /-- Words no one asked for. -/
  extras : List Text := []

/-- The options written together with a short one. -/
structure Cluster where
  /-- The options in their order. -/
  options : List CliOption
  /-- What is left and is no option. -/
  extra : Option Text

/-- Take apart what is written together with a short option that takes no value. -/
def cluster (options : List CliOption) (o : CliOption) : Bool → Text → Except UsageError Cluster
  | _, [] => .error (.needlessValue o.label [])
  | behindEquals, c :: r =>
    if behindEquals || c = '-' then .error (.needlessValue o.label (c :: r))
    else
      match find? options ("-" ++ [c]) with
      | none => .ok ⟨[o], some ("-" ++ [c] ++ r)⟩
      | some next =>
        match r with
        | [] => .ok ⟨[o, next], none⟩
        | d :: s => do
          let rest ←
            if d = '=' then cluster options next true s else cluster options next false (d :: s)
          return { rest with options := o :: rest.options }

/-- The reading with an option that takes no value. -/
def Reading.give (s : Reading) (o : CliOption) : Except EarlyEnd Reading :=
  match o.effect with
  | .help => .error .help
  | effect => .ok { s with effects := s.effects ++ [effect] }

/-- The reading with the value of an option. -/
def Reading.set (s : Reading) (o : CliOption) (value : Text) : Except UsageError Reading :=
  match readCount value with
  | .ok n => .ok { s with budget := some n }
  | .error flaw => .error (.badCount o.label flaw)

/-- An error of one program, as the end of reading. -/
def blame {α : Type} (by_ : Text) (r : Except UsageError α) : Except EarlyEnd α :=
  r.mapError (.wrong by_)

/-- The reading with an option that takes no value, given in a word. -/
def Reading.giveFlag (s : Reading) (options : List CliOption) (program : Text) (o : CliOption)
    (isShort : Bool) : Option (Bool × Text) → Except EarlyEnd Reading
  | none => s.give o
  | some (behindEquals, value) => do
    if !isShort then throw (.wrong program (.needlessValue o.label value))
    let c ← blame program (cluster options o behindEquals value)
    let s ← c.options.foldlM Reading.give { s with extras := s.extras ++ c.extra.toList }
    return s

/-- The reading with a word no one asked for. -/
def Reading.refuse (s : Reading) (t : Text) : Reading := { s with extras := s.extras ++ [t] }

/-- A command as it is written: its name, its options, and the name of its argument if it takes
one. -/
structure CommandForm where
  /-- The name of the command. -/
  name : Text
  /-- The options. -/
  options : List CliOption
  /-- The name of the argument. -/
  argument : Option Text

/-- The program with a command, as errors name them. -/
def CommandForm.program (f : CommandForm) : Text := CommandLine.program ++ " " ++ f.name

/-- Whether the argument of a command is still to come. -/
def CommandForm.waits (f : CommandForm) (s : Reading) : Bool :=
  f.argument.isSome && s.argument.isNone

/-- Read the words of a command. A separator next to the argument belongs to it; `behind` says
whether the argument comes just before. -/
def readWords (f : CommandForm) : Bool → Reading → List Word → Except EarlyEnd Reading
  | _, s, [] => .ok s
  | _, s, .option given ⟨none, _, _⟩ :: r => readWords f false (s.refuse given) r
  | _, s, .option _ ⟨some o, isShort, joined⟩ :: r =>
    if o.takesValue then
      match joined, r with
      | some (_, value), r => do
        let s ← blame f.program (s.set o value)
        readWords f false s r
      | none, .argument value :: r => do
        let s ← blame f.program (s.set o value)
        readWords f false s r
      | none, _ => .error (.wrong f.program (.noValue o.label))
    else do
      let s ← s.giveFlag f.options f.program o isShort joined
      readWords f false s r
  | behind, s, .separator :: r =>
    if behind || (f.waits s && !r.isEmpty) then readWords f false s r
    else readWords f false (s.refuse separatorMark) r
  | _, s, .argument t :: r =>
    if f.waits s then readWords f true { s with argument := some t } r
    else readWords f false (s.refuse t) r

/-- Read what is written behind the name of a command. -/
def CommandForm.read (f : CommandForm) (words : List Text) : Except EarlyEnd Reading := do
  let words ← blame f.program (recognizeAll f.options words)
  let s ← readWords f false {} words
  match f.argument with
  | some name => if s.argument.isNone then throw (.wrong f.program (.noArgument name)) else return s
  | none => return s

/-! ## The commands -/

/-- The option that shows how the program is used. -/
def helpOption : CliOption := ⟨["-h", "--help"], .help, false⟩

/-- The form of the command that creates the scaffold. -/
def scaffoldForm : CommandForm := ⟨"init", [helpOption], none⟩

/-- The form of the command that carries out a request. -/
def queryForm : CommandForm where
  name := "query"
  options := [
    helpOption,
    ⟨["--verbose", "-v"], .verbose, false⟩,
    ⟨["--dry-run"], .dryRun, false⟩,
    ⟨["--budget"], .budget, true⟩]
  argument := some "text"

/-- The form of the command that shows the state of a project. -/
def statusForm : CommandForm := ⟨"status", [helpOption, ⟨["--all"], .all, false⟩], none⟩

/-- All forms with the commands they give. -/
def forms : List (CommandForm × (Reading → CommandLine)) := [
    (scaffoldForm, fun _ => .scaffold),
    (queryForm, fun s => .query (Text.orEmpty s.argument) (s.effects.contains .verbose)
      (s.effects.contains .dryRun) s.budget),
    (statusForm, fun s => .status (s.effects.contains .all))]

/-- The names of all commands. -/
def names : List Text := forms.map fun f => f.1.name

/-- A word as it was given. -/
def Word.given : Word → Text
  | .argument t => t
  | .separator => separatorMark
  | .option given _ => given

/-- Read a command by its name and what is written behind it. `extras` are words before it. -/
def readCommand (extras : List Text) (name : Text) (words : List Text) :
    Except EarlyEnd CommandLine :=
  match forms.find? fun f => f.1.name = name with
  | none => .error (.wrong program (.unknownCommand name names))
  | some (form, command) => do
    let s ← form.read words
    let extras := extras ++ s.extras
    if extras.isEmpty then return command s else throw (.wrong program (.unrecognized extras))

/-- Read the words up to the command. -/
def readFront : Reading → List Word → Except EarlyEnd CommandLine
  | _, [] => .error (.wrong program (.noArgument "command"))
  | s, .option given ⟨none, _, _⟩ :: r => readFront (s.refuse given) r
  | s, .option _ ⟨some o, isShort, joined⟩ :: r => do
    let s ← s.giveFlag [helpOption] program o isShort joined
    readFront s r
  | s, .separator :: r =>
    if r.isEmpty then readFront (s.refuse separatorMark) r
    else .error (.wrong program (.unknownCommand separatorMark names))
  | s, .argument name :: r => readCommand s.extras name (r.map Word.given)

/-- Read a command line. -/
def read (words : List Text) : Except EarlyEnd CommandLine := do
  let words ← blame program (recognizeAll [helpOption] words)
  readFront {} words

end CommandLine

end Tablewright
