import DocSentences.Command.Arguments

/-!
# Reading command lines

A command line is read word by word. Each command has options of its own beside those that all of
them share, and once a command has been named, all words after it belong to it. The value of an
option is only looked at when the next option begins or the words have ended, so that of several
mistakes the one that is found first this way is reported.
-/

namespace DocSentences.Command

/-- Why a command line is answered by a word on the usage. -/
inductive UsageError
  | unknownArgument
  | invalidSubcommand
  | missingSubcommand
  | missingRequiredArgument
  | argumentConflict
  /-- No value, or one that the option does not know. -/
  | invalidValue
  /-- A value that is no number. -/
  | valueValidation
  | tooManyValues
  | displayHelp
  | displayHelpOnMissing
  | displayVersion
  deriving DecidableEq, Repr

/-- The name of a usage error. -/
def UsageError.name : UsageError → String
  | unknownArgument => "UnknownArgument"
  | invalidSubcommand => "InvalidSubcommand"
  | missingSubcommand => "MissingSubcommand"
  | missingRequiredArgument => "MissingRequiredArgument"
  | argumentConflict => "ArgumentConflict"
  | invalidValue => "InvalidValue"
  | valueValidation => "ValueValidation"
  | tooManyValues => "TooManyValues"
  | displayHelp => "DisplayHelp"
  | displayHelpOnMissing => "DisplayHelpOnMissingArgumentOrSubcommand"
  | displayVersion => "DisplayVersion"

/-- The options. -/
inductive Flag
  | format
  | noColor
  | config
  | verbose
  | help
  | version
  | numThreads
  | output
  | relativeRoot
  | selector
  | fragmentKeys
  | placeholder
  | drainTimeout
  | followLinks
  | noProgress
  | force
  deriving DecidableEq, Repr

/-- The command that words belong to. -/
inductive Level
  | top
  | extract
  | config
  | configShow
  | configPath
  | configInit
  deriving DecidableEq, Repr

namespace Level

/-- The command that a word names among those of another one. -/
def subcommand? : Level → String → Option Level
  | top, "extract" => some extract
  | top, "config" => some config
  | config, "show" => some configShow
  | config, "path" => some configPath
  | config, "init" => some configInit
  | _, _ => none

/-- Whether a command is made of others. -/
def hasSubcommands : Level → Bool
  | top | config => true
  | _ => false

end Level

namespace Flag

/-- All options. -/
def all : List Flag :=
  [format, noColor, config, verbose, help, version, numThreads, output, relativeRoot, selector,
    fragmentKeys, placeholder, drainTimeout, followLinks, noProgress, force]

/-- The name of an option after two hyphens. -/
def long : Flag → String
  | format => "format"
  | noColor => "no-color"
  | config => "config"
  | verbose => "verbose"
  | help => "help"
  | version => "version"
  | numThreads => "num-threads"
  | output => "output"
  | relativeRoot => "relative-root"
  | selector => "selector"
  | fragmentKeys => "fragment-keys"
  | placeholder => "placeholder"
  | drainTimeout => "drain-timeout"
  | followLinks => "follow-links"
  | noProgress => "no-progress"
  | force => "force"

/-- The letter of an option after one hyphen. -/
def short? : Flag → Option Char
  | format => some 'f'
  | config => some 'c'
  | verbose => some 'v'
  | help => some 'h'
  | version => some 'V'
  | numThreads => some 'n'
  | output => some 'o'
  | _ => none

/-- Whether an option has a value. -/
def takesValue : Flag → Bool
  | format | config | numThreads | output | relativeRoot | selector | placeholder | drainTimeout =>
      true
  | _ => false

/-- Whether a command has an option. -/
def isAt (level : Level) : Flag → Bool
  | format | noColor | config | verbose | help => true
  | version => level = .top
  | force => level = .configInit
  | _ => level = .extract

/-- The option of a command with the given name. -/
def ofLong? (level : Level) (name : String) : Option Flag :=
  all.find? fun flag => flag.isAt level && flag.long = name

/-- The option of a command with the given letter. -/
def ofShort? (level : Level) (letter : Char) : Option Flag :=
  all.find? fun flag => flag.isAt level && flag.short? = some letter

end Flag

/-- The value of a number of 64 bits, which may have a plus sign. -/
def number? (text : String) : Option Nat :=
  let digits := match text.toList with
    | '+' :: rest => rest
    | s => s
  if digits.isEmpty || !digits.all Char.isDigit then none
  else
    let n := digits.foldl (fun n c => 10 * n + (c.toNat - 0x30)) 0
    if n < 18446744073709551616 then some n else none

/-- What is wrong with the value of an option. -/
def valueError? (flag : Flag) (value : String) : Option UsageError :=
  match flag with
  | .format => if (SummaryFormat.ofName? value).isNone then some .invalidValue else none
  | .config | .output | .relativeRoot => if value.isEmpty then some .invalidValue else none
  | .numThreads | .drainTimeout => if (number? value).isNone then some .valueValidation else none
  | _ => none

/-- Values that have been read, but not looked at yet. -/
inductive Pending
  | nothing
  /-- The value of an option, if it has come. -/
  | option (flag : Flag) (value : Option String)
  | sources (values : List String)
  deriving DecidableEq, Repr

/-- The words of one command. -/
structure Frame where
  level : Level
  /-- The options that were given, with their values. -/
  given : List (Flag × String) := []
  /-- How often the option was given that may be repeated. -/
  verbose : Nat := 0
  sources : List String := []
  pending : Pending := .nothing
  /-- Whether all words are sources from now on. -/
  onlySources : Bool := false
  deriving DecidableEq, Repr

namespace Frame

/-- Takes an option with its value. -/
def take (f : Frame) (flag : Flag) (value : String) : Except UsageError Frame :=
  if f.given.any (·.1 = flag) then .error .argumentConflict
  else match valueError? flag value with
    | some error => .error error
    | none => .ok { f with given := (flag, value) :: f.given }

/-- Looks at the values that have been read. -/
def settle (f : Frame) : Except UsageError Frame :=
  let settled := { f with pending := .nothing }
  match f.pending with
  | .nothing => .ok f
  | .option _ none => .error .invalidValue
  | .option flag (some value) => settled.take flag value
  | .sources values =>
      if values.any String.isEmpty then .error .invalidValue
      else .ok { settled with sources := f.sources ++ values }

/-- Takes an option that has no value. -/
def switch (f : Frame) (flag : Flag) : Except UsageError Frame := do
  let f ← f.settle
  match flag with
  | .help => .error .displayHelp
  | .version => .error .displayVersion
  | .verbose => .ok { f with verbose := min 255 (f.verbose + 1) }
  | _ => f.take flag "true"

/-- Takes an option that has a value, which may stand in the same word. -/
def option (f : Frame) (flag : Flag) (attached : Option String) : Except UsageError Frame := do
  let f ← f.settle
  match attached with
  | some value => f.take flag value
  | none => .ok { f with pending := .option flag none }

/-- Takes a word of options with one letter each. -/
def letters (f : Frame) : List Char → Except UsageError Frame
  | [] => .ok f
  | letter :: rest =>
      match Flag.ofShort? f.level letter with
      | none => .error .unknownArgument
      | some flag =>
          if flag.takesValue then
            f.option flag (match rest with
              | [] => none
              | '=' :: value => some (String.ofList value)
              | value => some (String.ofList value))
          else do letters (← f.switch flag) rest

/-- Takes a word with the name of an option, without the hyphens. -/
def named (f : Frame) (word : List Char) : Except UsageError Frame :=
  let name := String.ofList (word.takeWhile (· != '='))
  let value := match word.dropWhile (· != '=') with
    | [] => none
    | _ :: value => some (String.ofList value)
  match Flag.ofLong? f.level name with
  | none => .error .unknownArgument
  | some flag =>
      if flag.takesValue then f.option flag value
      else if value.isSome then .error .tooManyValues
      else f.switch flag

/-- Takes a word that is neither an option nor the value of one. -/
def source (f : Frame) (word : String) : Except UsageError Frame :=
  match f.level with
  | .extract =>
      match f.pending with
      | .sources values => .ok { f with pending := .sources (values ++ [word]) }
      | _ => do return { ← f.settle with pending := .sources [word] }
  | .top | .config =>
      if f.onlySources && ((f.level.subcommand? word).isSome || word = "help") then
        .error .unknownArgument
      else .error .invalidSubcommand
  | _ => .error .unknownArgument

/-- Whether the next word is the value of an option unless it looks like an option. -/
def awaitsValue (f : Frame) : Bool :=
  match f.pending with
  | .option _ none => true
  | _ => false

/-- Takes a word that does not name a command. -/
def word (f : Frame) (text : String) : Except UsageError Frame :=
  if f.onlySources then f.source text
  else match text.toList with
    | ['-', '-'] => .ok { f with onlySources := true }
    | '-' :: '-' :: rest => f.named rest
    | '-' :: letter :: rest => f.letters (letter :: rest)
    | _ =>
        match f.pending with
        | .option flag none => .ok { f with pending := .option flag (some text) }
        | _ => f.source text

/-- The words of a command once they have ended. `config` is the path in the environment, which
counts as given if no other one is. -/
def finish (f : Frame) (config : Option String) (hasSubcommand : Bool) :
    Except UsageError Frame := do
  let f ← f.settle
  let isGiven := f.given.any (·.1 = .config)
  if !isGiven && config = some "" then throw .invalidValue
  if f.level.hasSubcommands && !hasSubcommand then
    if f.given.isEmpty && f.verbose = 0 && config.isNone then throw .displayHelpOnMissing
    throw .missingSubcommand
  if f.level = .extract && f.sources.isEmpty then throw .missingRequiredArgument
  return f

/-- The value of an option, if it was given. -/
def value? (f : Frame) (flag : Flag) : Option String := f.given.lookup flag

end Frame

/-- What has been read of a command line. -/
inductive Reading
  /-- The words of each command, the innermost first. -/
  | words (current : Frame) (outer : List Frame)
  /-- Help was asked for on a command; `isHelp` is set for the command that gives help. -/
  | help (level : Level) (isHelp : Bool)
  deriving DecidableEq, Repr

namespace Reading

/-- Reads one more word. -/
def step : Reading → String → Except UsageError Reading
  | .words current outer, text =>
      if current.onlySources || current.awaitsValue then
        return .words (← current.word text) outer
      else if text = "help" && current.level.hasSubcommands then return .help current.level false
      else match current.level.subcommand? text with
        | some level => return .words { level := level } (current :: outer)
        | none => return .words (← current.word text) outer
  | .help level isHelp, text =>
      if isHelp then .error .invalidSubcommand
      else if text = "help" && level.hasSubcommands then return .help level true
      else match level.subcommand? text with
        | some level => return .help level false
        | none => .error .invalidSubcommand

end Reading

/-- The value of a shared option: the innermost one that was given. -/
def sharedValue? (frames : List Frame) (flag : Flag) : Option String :=
  frames.findSome? (·.value? flag)

/-- What the innermost command asks for. -/
def requestOf (f : Frame) : Request :=
  match f.level with
  | .extract =>
      .extract {
        sources := f.sources
        numThreads := (f.value? .numThreads).bind number?
        output := f.value? .output
        relativeRoot := f.value? .relativeRoot
        selector := f.value? .selector
        fragmentKeys := (f.value? .fragmentKeys).isSome
        placeholder := f.value? .placeholder
        drainTimeout := (f.value? .drainTimeout).bind number?
        followLinks := (f.value? .followLinks).isSome
        noProgress := (f.value? .noProgress).isSome }
  | .configPath => .configPath
  | .configInit => .configInit (f.value? .force).isSome
  | .top | .config | .configShow => .configShow

/-- Reads a command line. `config` is the path of the configuration file in the environment. -/
def Arguments.read (config : Option String) (args : List String) : Except UsageError Arguments := do
  match ← args.foldlM Reading.step (.words { level := .top } []) with
  | .help _ _ => .error .displayHelp
  | .words current outer =>
      let current ← current.finish config false
      let outer ← outer.mapM (·.finish config true)
      let frames := current :: outer
      return {
        format := (sharedValue? frames .format).bind SummaryFormat.ofName?
        noColor := (sharedValue? frames .noColor).isSome
        config := (sharedValue? frames .config).or config
        verbose := ((frames.find? (0 < ·.verbose)).map (·.verbose)).getD 0
        request := requestOf current }

end DocSentences.Command
