import PackageRecipe.Recipe

/-!
The arguments of the command line: options that all commands share, a command, and
its own options and operands. Arguments are taken strictly in their order, and the
first that is wrong decides.
-/

namespace PackageRecipe

namespace CommandLine

/-! What arguments ask for, and why they are refused. -/

inductive Shell where
  | bash
  | elvish
  | fish
  | powershell
  | zsh
  deriving DecidableEq, Repr

inductive Command where
  | inspect (recipe : String)
  | render (recipe : String) (normalized : Bool)
  | dist (recipe : String)
  | depends (recipe : String) (kind : DependencyKind)
  | facts
  | completions (shell : Shell)
  deriving DecidableEq, Repr

structure Options where
  settingsFile : Option String
  overrides : Configuration.Overrides
  json : Bool
  verbose : Bool
  trace : Bool
  deriving DecidableEq, Repr

inductive Request where
  | run (options : Options) (command : Command)
  | version
  | help
  deriving DecidableEq, Repr

inductive UsageError where
  | unknownOption (written : String)
  | unexpectedValue (written : String)
  | missingValue (written : String)
  | invalidValue (written : String)
  | repeatedOption (written : String)
  | unexpectedOperand (written : String)
  | unknownCommand (written : String)
  | missingCommand
  | missingOperand
  deriving DecidableEq, Repr

def UsageError.message : UsageError → String
  | .unknownOption written => s!"unexpected argument '{written}'"
  | .unexpectedValue written => s!"unexpected value for '{written}'"
  | .missingValue written => s!"a value is required for '{written}'"
  | .invalidValue written => s!"invalid value '{written}'"
  | .repeatedOption written => s!"the argument '{written}' cannot be used multiple times"
  | .unexpectedOperand written => s!"unexpected argument '{written}'"
  | .unknownCommand written => s!"unrecognized subcommand '{written}'"
  | .missingCommand => "a subcommand is required"
  | .missingOperand => "a required argument is missing"

/-! The words of commands, and the options, with and without a value. Some options belong
to one command, and are options only among its arguments. -/

inductive CommandWord where
  | inspect
  | render
  | dist
  | depends
  | facts
  | completions
  deriving DecidableEq, Repr

def CommandWord.all : List (String × CommandWord) :=
  [("inspect", .inspect), ("render", .render), ("dist", .dist), ("depends", .depends),
    ("namespace", .facts), ("completions", .completions)]

inductive Flag where
  | json
  | verbose
  | trace
  | normalized
  deriving DecidableEq, Repr

inductive Setting where
  | config
  | subdir
  | python
  | numpy
  | kind
  deriving DecidableEq, Repr

def flag? (command : Option CommandWord) (name : String) : Option Flag :=
  match name with
  | "json" => some .json
  | "verbose" => some .verbose
  | "trace" => some .trace
  | "normalized" => if command = some .render then some .normalized else none
  | _ => none

def setting? (command : Option CommandWord) (name : String) : Option Setting :=
  match name with
  | "config" => some .config
  | "subdir" => some .subdir
  | "python" => some .python
  | "numpy" => some .numpy
  | "kind" => if command = some .depends then some .kind else none
  | _ => none

/-- A version on the command line may have a sign. -/
def version? (text : String) : Option UInt32 :=
  match text.toList with
  | '-' :: digits => if Text.readDigits? digits = some 0 then some 0 else none
  | characters => (Text.readUnsigned? Configuration.versionBound characters).map UInt32.ofNat

def kind? : String → Option DependencyKind
  | "build" => some .build
  | "run" => some .run
  | _ => none

def shell? : String → Option Shell
  | "bash" => some .bash
  | "elvish" => some .elvish
  | "fish" => some .fish
  | "powershell" => some .powershell
  | "zsh" => some .zsh
  | _ => none

def Setting.accepts (setting : Setting) (value : String) : Bool :=
  match setting with
  | .config => value != ""
  | .subdir => true
  | .python | .numpy => (version? value).isSome
  | .kind => (kind? value).isSome

/-! What was given so far before a command, or among the arguments of one. -/

structure Given where
  flags : List Flag
  settings : List (Setting × String)
  operand : Option String
  deriving Repr

/-- Why the arguments are not read to their end: they are refused, or one of them asks
for something else. -/
inductive Stop where
  | usage (error : UsageError)
  | request (request : Request)
  deriving DecidableEq, Repr

namespace Given

def nothing : Given :=
  ⟨[], [], none⟩

def addFlag (given : Given) (written : String) (flag : Flag) : Except Stop Given :=
  if given.flags.contains flag then .error (.usage (.repeatedOption written))
  else .ok { given with flags := flag :: given.flags }

def addSetting (given : Given) (setting : Setting) (written value : String) :
    Except Stop Given :=
  if (given.settings.lookup setting).isSome then .error (.usage (.repeatedOption written))
  else if setting.accepts value then
    .ok { given with settings := (setting, value) :: given.settings }
  else .error (.usage (.invalidValue value))

def addOperand (given : Given) (command : CommandWord) (value : String) : Except Stop Given :=
  if command = .facts ∨ given.operand.isSome then
    .error (.usage (.unexpectedOperand value))
  else if value = "" ∨ (command = .completions ∧ shell? value = none) then
    .error (.usage (.invalidValue value))
  else .ok { given with operand := some value }

end Given

/-! Taking arguments one after the other. -/

/-- A lone hyphen is an operand. -/
inductive Form where
  | long (name : String) (value : Option String)
  | short (letters : List Char)
  | separator
  | operand
  deriving DecidableEq, Repr

def form (argument : String) : Form :=
  match argument.toList with
  | ['-', '-'] => .separator
  | '-' :: '-' :: rest =>
      match Text.splitFirst? '=' rest with
      | some (name, value) => .long (String.ofList name) (some (String.ofList value))
      | none => .long (String.ofList rest) none
  | '-' :: letter :: rest => .short (letter :: rest)
  | _ => .operand

def addLetter (command : Option CommandWord) (given : Given) (letter : Char) :
    Except Stop Given :=
  let written := String.ofList ['-', letter]
  if letter = 'v' then given.addFlag written .verbose
  else if letter = 'h' then .error (.request .help)
  else if letter = 'V' ∧ command = none then .error (.request .version)
  else .error (.usage (.unknownOption written))

def addName (command : Option CommandWord) (given : Given) (name : String) :
    Except Stop Given :=
  match flag? command name with
  | some flag => given.addFlag ("--" ++ name) flag
  | none =>
      if name = "help" then .error (.request .help)
      else if name = "version" ∧ command = none then .error (.request .version)
      else .error (.usage (.unknownOption ("--" ++ name)))

/-- Takes arguments up to the first operand, which is left with those after it. All
arguments of a command are taken. -/
def take (command : Option CommandWord) (given : Given) :
    List String → Except Stop (Given × List String)
  | [] => .ok (given, [])
  | argument :: rest =>
      match form argument with
      | .operand =>
          match command with
          | none => .ok (given, argument :: rest)
          | some word => do take command (← given.addOperand word argument) rest
      | .separator =>
          match command, rest with
          | none, [] => .ok (given, [])
          | none, operand :: _ => .error (.usage (.unexpectedOperand operand))
          | some word, operands => do
              return (← operands.foldlM (·.addOperand word) given, [])
      | .short letters => do take command (← letters.foldlM (addLetter command) given) rest
      | .long name value =>
          match setting? command name, value, rest with
          | some setting, some value, rest => do
              take command (← given.addSetting setting ("--" ++ name) value) rest
          | some setting, none, value :: rest => do
              if form value = .operand then
                take command (← given.addSetting setting ("--" ++ name) value) rest
              else throw (.usage (.missingValue ("--" ++ name)))
          | some _, none, [] => .error (.usage (.missingValue ("--" ++ name)))
          | none, none, rest => do take command (← addName command given name) rest
          | none, some _, _ =>
              if (flag? command name).isSome then .error (.usage (.unexpectedValue ("--" ++ name)))
              else .error (.usage (.unknownOption ("--" ++ name)))

/-- Options among the arguments of a command go before those in front of it. -/
def options (outer inner : Given) : Options :=
  let value := fun setting => (inner.settings.lookup setting).or (outer.settings.lookup setting)
  let flag := fun flag => inner.flags.contains flag || outer.flags.contains flag
  ⟨value .config, ⟨value .subdir, (value .python).bind version?, (value .numpy).bind version?⟩,
    flag .json, flag .verbose, flag .trace⟩

/-- The recipe is the current directory unless it is given. -/
def command (word : CommandWord) (given : Given) : Except Stop Command :=
  let recipe := given.operand.getD "."
  match word with
  | .inspect => .ok (.inspect recipe)
  | .render => .ok (.render recipe (given.flags.contains .normalized))
  | .dist => .ok (.dist recipe)
  | .depends => .ok (.depends recipe (((given.settings.lookup .kind).bind kind?).getD .run))
  | .facts => .ok .facts
  | .completions =>
      match given.operand.bind shell? with
      | some shell => .ok (.completions shell)
      | none => .error (.usage .missingOperand)

/-- Whether help can be asked for with the given words: for all commands, or for one
of them, among which the request for help counts too. -/
def hasHelp : List String → Bool
  | [] => true
  | [word] => word = "help" || (CommandWord.all.lookup word).isSome
  | _ => false

def read (arguments : List String) : Except Stop Request := do
  let (outer, rest) ← take none Given.nothing arguments
  match rest with
  | [] => throw (.usage .missingCommand)
  | word :: rest =>
      match CommandWord.all.lookup word with
      | some found =>
          let (inner, _) ← take (some found) Given.nothing rest
          return .run (options outer inner) (← command found inner)
      | none =>
          if word = "help" ∧ hasHelp rest then return .help
          else throw (.usage (.unknownCommand word))

def request (arguments : List String) : Except UsageError Request :=
  match read arguments with
  | .ok request => .ok request
  | .error (.request request) => .ok request
  | .error (.usage error) => .error error

end CommandLine

end PackageRecipe
