/-!
# Command lines

A command line names a command, perhaps with a command of its own inside it, and gives options and
operands at each of these levels. A `Grammar` says what a level may hold; `Grammar.read` takes a
list of arguments apart by it and gives what stands at each level, outermost first.

An option is written `--name`, and its value, where it takes one, is the next argument or follows
an equals sign. The next argument is no value if it looks like an option itself. After `--` alone
there are only operands. Some options ask for a notice, such as a summary of the options, and end
the reading there.
-/

namespace FaultDiagnosis.CommandLine

/-- What an option takes. -/
inductive OptionKind
  /-- No value. It may be given once. -/
  | flag
  /-- One value. -/
  | single
  /-- A value each time it is given. -/
  | repeated
  /-- No value. It asks for a notice instead of anything else, and may be shortened to a hyphen and
  a letter. -/
  | notice (letter : Char)
  deriving DecidableEq, Repr

/-- **What a level of a command line may hold.** -/
inductive Grammar
  /-- A command with options and, perhaps, operands. -/
  | command (options : List (String × OptionKind)) (operands : Bool)
  /-- A choice of commands, after options. -/
  | choice (options : List (String × OptionKind)) (commands : List (String × Grammar))

namespace Grammar

/-- The options of a level. -/
def options : Grammar → List (String × OptionKind)
  | command options _ => options
  | choice options _ => options

/-- The commands to choose from. -/
def commands : Grammar → List (String × Grammar)
  | command _ _ => []
  | choice _ commands => commands

/-- May there be operands? -/
def hasOperands : Grammar → Bool
  | command _ operands => operands
  | choice _ _ => false

/-- May a level end here, without a command inside it? -/
def isFinal : Grammar → Bool
  | command _ _ => true
  | choice _ _ => false

end Grammar

/-- Why a command line is not taken apart. -/
inductive Stop
  /-- It does not follow the grammar. -/
  | misuse
  /-- It asks for the notice of that name. -/
  | notice (name : String)
  deriving DecidableEq, Repr

/-- What stands at a level of a command line. -/
structure Level where
  /-- The name of the command, empty for the program itself. -/
  name : String
  /-- The options in order, each with its value. The value of a flag is empty. -/
  options : List (String × String) := []
  operands : List String := []
  deriving DecidableEq, Repr

namespace Level

/-- The level with one more option. An option that may be given once is not given again. -/
def addOption (l : Level) (name : String) (kind : OptionKind) (value : String) :
    Except Stop Level :=
  if kind ≠ .repeated ∧ (l.options.lookup name).isSome then .error .misuse
  else .ok { l with options := l.options ++ [(name, value)] }

/-- The level with one more operand. -/
def addOperand (l : Level) (operand : String) : Level :=
  { l with operands := l.operands ++ [operand] }

/-- Is the flag given? -/
def flag (l : Level) (name : String) : Bool :=
  (l.options.lookup name).isSome

/-- The value of an option that may be given once. -/
def value? (l : Level) (name : String) : Option String :=
  l.options.lookup name

/-- All values of an option. -/
def values (l : Level) (name : String) : List String :=
  (l.options.filter fun o => o.1 = name).map Prod.snd

end Level

/-! ### Single arguments -/

/-- The kinds of arguments, by their first characters. -/
inductive Argument
  /-- The sign that only operands follow. -/
  | separator
  /-- An option, perhaps with a value after an equals sign. -/
  | option (name : String) (value : Option String)
  /-- A letter with a single hyphen before it, and perhaps more after it. -/
  | letter (letter : Char)
  | plain (text : String)
  deriving DecidableEq, Repr

/-- The name and the value of an option that is written in one argument. -/
def Argument.ofOption (cs : List Char) : Argument :=
  let name := String.ofList (cs.takeWhile (· ≠ '='))
  match cs.dropWhile (· ≠ '=') with
  | [] => .option name none
  | _ :: value => .option name (some (String.ofList value))

/-- What an argument is. A hyphen alone is plain text. -/
def Argument.ofText (text : String) : Argument :=
  match text.toList with
  | ['-', '-'] => .separator
  | '-' :: '-' :: cs => .ofOption cs
  | '-' :: c :: _ => .letter c
  | _ => .plain text

/-- The text of an argument that may be the value of the option before it. -/
def Argument.asValue? (text : String) : Option String :=
  match ofText text with
  | .plain value => some value
  | _ => none

/-! ### Reading a command line -/

namespace Grammar

/-- The notice that a letter asks for. -/
def noticeOf? (g : Grammar) (letter : Char) : Option String :=
  (g.options.find? fun o => o.2 = .notice letter).map Prod.fst

/-- The level with the operands after a separator. -/
def closed (g : Grammar) (l : Level) (operands : List String) : Except Stop (List Level) :=
  if g.isFinal && (g.hasOperands || operands.isEmpty) then
    .ok [{ l with operands := l.operands ++ operands }]
  else .error .misuse

/-- Do the names lead from a choice to a command inside it? -/
def leadsOn (g : Grammar) : List String → Bool
  | [] => true
  | name :: names =>
    match g.commands.lookup name with
    | some inner => leadsOn inner names
    | none => false

/-- The name under which every choice has one more command: it asks for help about another. -/
def helpName : String := "help"

/-- What an argument that names no command and is no operand leads to. -/
def stopAt (g : Grammar) (text : String) (rest : List String) : Stop :=
  if !g.isFinal && text = helpName && g.leadsOn rest then .notice helpName else .misuse

/-- Reads the arguments from a level on. -/
def readFrom (g : Grammar) (l : Level) : List String → Except Stop (List Level)
  | [] => if g.isFinal then .ok [l] else .error .misuse
  | text :: rest =>
    match Argument.ofText text with
    | .separator => g.closed l rest
    | .letter c => .error ((g.noticeOf? c).elim .misuse .notice)
    | .option name value =>
      match g.options.lookup name, value with
      | none, _ => .error .misuse
      | some (.notice _), none => .error (.notice name)
      | some (.notice _), some _ => .error .misuse
      | some .flag, some _ => .error .misuse
      | some .flag, none => do readFrom g (← l.addOption name .flag "") rest
      | some kind, some value => do readFrom g (← l.addOption name kind value) rest
      | some kind, none =>
        match rest with
        | [] => .error .misuse
        | next :: rest =>
          match Argument.asValue? next with
          | none => .error .misuse
          | some value => do readFrom g (← l.addOption name kind value) rest
    | .plain text =>
      match g.commands.lookup text with
      | some inner => (l :: ·) <$> readFrom inner { name := text } rest
      | none =>
        if g.hasOperands then readFrom g (l.addOperand text) rest
        else .error (g.stopAt text rest)

/-- **What stands at each level of a command line**, outermost first, if it follows the grammar. -/
def read (g : Grammar) (args : List String) : Except Stop (List Level) :=
  g.readFrom { name := "" } args

end Grammar

end FaultDiagnosis.CommandLine
