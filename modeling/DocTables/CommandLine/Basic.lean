import DocTables.Migration.Plan

/-!
# The words of the command line

Options come before the command, and the files it works on after it. A value may be attached to its
option or be the next word, unless that word is spelled like an option itself. No option may be
given twice.
-/

namespace DocTables.CommandLine

/-- What is done with schema files. -/
inductive Command where
  /-- Prints the statements that create the tables. -/
  | ddl
  /-- Prints the plans of the migrations. -/
  | plan
  /-- Carries out the migrations. -/
  | alter
deriving DecidableEq, Repr

namespace Command

/-- Every command. -/
def all : List Command := [.ddl, .plan, .alter]

/-- The word for a command. -/
def word : Command → String
  | .ddl => "ddl"
  | .plan => "plan"
  | .alter => "alter"

/-- The command of a word. -/
def ofWord? (word : String) : Option Command := all.find? fun command => command.word == word

end Command

/-- What help is given about. -/
inductive Topic where
  /-- The program as a whole. -/
  | program
  /-- One command. -/
  | command (command : Command)
  /-- The help itself. -/
  | help
deriving DecidableEq, Repr

/-- What the words ask for. -/
inductive Request where
  /-- Help. -/
  | help (topic : Topic)
  /-- The version. -/
  | version
  /-- A command for files. -/
  | run (options : MigrationOptions) (command : Command) (files : List String)
deriving DecidableEq, Repr

/-! ### Options -/

/-- The options that take a value. -/
inductive ValueOption where
  /-- The database. -/
  | database
  /-- What is appended to the name of a table to name its shadow. -/
  | shadowSuffix
deriving DecidableEq, Repr

/-- The options without a value. -/
inductive Flag where
  /-- Tells more of what is done. -/
  | verbose
  /-- No indexes are created. -/
  | noIndexes
  /-- Help is asked for. -/
  | help
  /-- The version is asked for. -/
  | version
deriving DecidableEq, Repr

/-- An option of either sort. -/
inductive OptionName where
  /-- It takes a value. -/
  | value (option : ValueOption)
  /-- It takes none. -/
  | flag (flag : Flag)
deriving DecidableEq, Repr

/-- The option of a long name. -/
def longOption? (name : String) : Option OptionName :=
  if name = "database" then some (.value .database)
  else if name = "shadow-suffix" then some (.value .shadowSuffix)
  else if name = "verbose" then some (.flag .verbose)
  else if name = "no-indexes" then some (.flag .noIndexes)
  else if name = "help" then some (.flag .help)
  else if name = "version" then some (.flag .version)
  else none

/-- The option of a letter. -/
def shortOption? : Char → Option OptionName
  | 'd' => some (.value .database)
  | 'v' => some (.flag .verbose)
  | 'h' => some (.flag .help)
  | 'V' => some (.flag .version)
  | _ => none

/-- The options that have been read. -/
structure Settings where
  /-- The database, if it was given. -/
  database : Option String
  /-- What is appended to the name of a table to name its shadow, if it was given. -/
  shadowSuffix : Option String
  /-- Whether more is told. -/
  verbose : Bool
  /-- Whether no indexes are created. -/
  noIndexes : Bool
  /-- Whether the last option repeats one and its value was a word of its own. Such a repetition is
  found out late: help that a command gives comes before it. -/
  repeated : Bool
deriving DecidableEq, Repr

namespace Settings

/-- No option has been read. -/
def empty : Settings := ⟨none, none, false, false, false⟩

/-- The value of an option, if it was given. -/
def get? (settings : Settings) : ValueOption → Option String
  | .database => settings.database
  | .shadowSuffix => settings.shadowSuffix

/-- Sets the value of an option. -/
def set (settings : Settings) (option : ValueOption) (value : String) : Settings :=
  match option with
  | .database => { settings with database := some value }
  | .shadowSuffix => { settings with shadowSuffix := some value }

/-- Sets an option with the value attached to it, unless it was given before. -/
def setAttached? (settings : Settings) (option : ValueOption) (value : String) : Option Settings :=
  if (settings.get? option).isSome then none else some (settings.set option value)

/-- Sets an option with the next word as its value. -/
def setDetached (settings : Settings) (option : ValueOption) (value : String) : Settings :=
  { settings.set option value with repeated := (settings.get? option).isSome }

/-- How migrations are done with these settings. -/
def options (settings : Settings) : MigrationOptions :=
  let defaults : MigrationOptions := {}
  { defaults with
    shadowSuffix := settings.shadowSuffix.getD defaults.shadowSuffix
    createIndexes := !settings.noIndexes }

end Settings

/-! ### Words -/

/-- A word as it is read. -/
inductive Word where
  /-- Two dashes: what follows is no option. -/
  | endOfOptions
  /-- A long option, with a value attached to it. -/
  | long (name : String) (value : Option String)
  /-- The letters of short options. -/
  | short (letters : List Char)
  /-- Any other word. -/
  | plain (word : String)
deriving DecidableEq, Repr

/-- Reads a word. A single dash is an ordinary word. -/
def Word.ofString (word : String) : Word :=
  match word.toList with
  | ['-', '-'] => .endOfOptions
  | '-' :: '-' :: rest =>
    let name := String.ofList (rest.takeWhile (· != '='))
    match rest.dropWhile (· != '=') with
    | [] => .long name none
    | _ :: value => .long name (some (String.ofList value))
  | ['-'] => .plain word
  | '-' :: letters => .short letters
  | _ => .plain word

/-- What a word with options comes to. -/
inductive Progress where
  /-- Options were read. -/
  | settings (settings : Settings)
  /-- Options were read, and the next word is the value of one more. -/
  | awaiting (settings : Settings) (option : ValueOption)
  /-- Help or the version is asked for, whatever follows. -/
  | request (request : Request)

/-- Reads an option without a value. -/
def readFlag? (settings : Settings) : Flag → Option Progress
  | .verbose =>
    if settings.verbose then none else some (.settings { settings with verbose := true })
  | .noIndexes =>
    if settings.noIndexes then none else some (.settings { settings with noIndexes := true })
  | .help => some (.request (.help .program))
  | .version => some (.request .version)

/-- Reads a long option. -/
def readLong? (settings : Settings) (name : String) (value : Option String) : Option Progress :=
  match longOption? name, value with
  | some (.value option), some value => (settings.setAttached? option value).map .settings
  | some (.value option), none => some (.awaiting settings option)
  | some (.flag flag), none => readFlag? settings flag
  | some (.flag _), some _ => none
  | none, _ => none

/-- Reads the letters of short options. What follows the letter of an option with a value is that
value, after an equals sign if there is one. -/
def readShort? (settings : Settings) : List Char → Option Progress
  | [] => some (.settings settings)
  | letter :: rest =>
    match shortOption? letter with
    | none => none
    | some (.value option) =>
      match rest with
      | [] => some (.awaiting settings option)
      | '=' :: value => (settings.setAttached? option (String.ofList value)).map .settings
      | value => (settings.setAttached? option (String.ofList value)).map .settings
    | some (.flag flag) =>
      match readFlag? settings flag with
      | some (.settings settings) => readShort? settings rest
      | progress => progress

/-! ### Requests -/

/-- The topic that the words after `help` name. -/
def helpTopic? : List String → Option Topic
  | [] => some .program
  | [word] => if word = "help" then some .help else (Command.ofWord? word).map .command
  | _ => none

/-- Reads the words after a command. -/
def readFiles? (options : MigrationOptions) (command : Command) (files : List String)
    (onlyFiles : Bool) : List String → Option Request
  | [] =>
    if files.isEmpty ∨ "" ∈ files then none else some (.run options command files)
  | word :: rest =>
    let help := if "" ∈ files then none else some (.help (.command command))
    if onlyFiles then readFiles? options command (files ++ [word]) true rest
    else match Word.ofString word with
      | .endOfOptions => readFiles? options command files true rest
      | .long name none => if name = "help" then help else none
      | .long _ (some _) => none
      | .short letters => if letters.head? = some 'h' then help else none
      | .plain word => readFiles? options command (files ++ [word]) false rest

/-- Reads the words after a command, with the settings before it. -/
def readCommand? (settings : Settings) (command : Command) (words : List String) :
    Option Request :=
  match readFiles? settings.options command [] false words with
  | some (.run options command files) =>
    if settings.repeated then none else some (.run options command files)
  | request => request

/-- Reads the words of the command line. -/
def readWords? (settings : Settings) (awaiting : Option ValueOption) : List String → Option Request
  | [] => none
  | word :: rest =>
    match awaiting, Word.ofString word with
    | some option, .plain value => readWords? (settings.setDetached option value) none rest
    | some _, _ => none
    | none, .endOfOptions => none
    | none, .plain word =>
      if word = "help" then (helpTopic? rest).map .help
      else match Command.ofWord? word with
        | some command => readCommand? settings command rest
        | none => none
    | none, spelled =>
      if settings.repeated then none
      else
        let progress := match spelled with
          | .long name value => readLong? settings name value
          | .short letters => readShort? settings letters
          | _ => none
        match progress with
        | none => none
        | some (.settings settings) => readWords? settings none rest
        | some (.awaiting settings option) => readWords? settings (some option) rest
        | some (.request request) => some request

/-- What the words of the command line ask for; `none` if they are not understood. -/
def parse? (words : List String) : Option Request := readWords? .empty none words

end DocTables.CommandLine
