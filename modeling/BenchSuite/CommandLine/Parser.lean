import BenchSuite.CommandLine.Options

/-!
# Reading the command line

The words of a command line are read from left to right.  The value of an option is the word behind
it, unless it is attached: to a long form by an equals sign, to a short form directly.  Short forms
may stand together behind one dash.  A value is tested when the next option is met or the words of
its level are at an end, so that the first fault in this order is the one reported.  The options of
the program may stand in front of the command and behind it, and what stands behind it counts.
-/

namespace BenchSuite.CommandLine

/-- An option that has not been taken into account yet. -/
inductive Pending
  | none
  | awaiting (option : OptionName)
  | complete (option : OptionName) (value : String)
deriving DecidableEq, Repr

/-- What the words of a level have said so far.  Behind two dashes nothing is an option. -/
structure Progress where
  settings : Settings := {}
  pending : Pending := .none
  onlyOperands : Bool := false
deriving DecidableEq, Repr

namespace Progress

def settle (progress : Progress) : Except UsageError Settings :=
  match progress.pending with
  | .none => .ok progress.settings
  | .awaiting _ => .error .invalidValue
  | .complete option value => progress.settings.set option value

def flag (progress : Progress) (option : OptionName) : Except UsageError Progress := do
  let settings ← (← progress.settle).flag option
  pure { progress with settings, pending := .none }

def attached (progress : Progress) (option : OptionName) (value : String) :
    Except UsageError Progress := do
  let settings ← (← progress.settle).set option value
  pure { progress with settings, pending := .none }

def await (progress : Progress) (option : OptionName) : Except UsageError Progress := do
  let settings ← progress.settle
  pure { progress with settings, pending := .awaiting option }

/-- Takes the long form of an option, with the value attached to it, if any. -/
def long (level : Level) (progress : Progress) (form : String) (value? : Option String) :
    Except UsageError Progress :=
  match level.long? form, value? with
  | none, _ => .error .unknownArgument
  | some option, none => if option.isFlag then progress.flag option else progress.await option
  | some option, some value =>
      if option.isFlag then .error .unneededValue else progress.attached option value

/-- Takes the short forms that stand behind one dash.  What follows the first one that takes a value
is the value, with or without an equals sign in front. -/
def short (level : Level) (progress : Progress) : List Char → Except UsageError Progress
  | [] => .ok progress
  | c :: rest =>
      match level.short? c with
      | none => .error .unknownArgument
      | some option =>
          if option.isFlag then do
            short level (← progress.flag option) rest
          else
            match rest with
            | [] => progress.await option
            | '=' :: value => progress.attached option (String.ofList value)
            | value => progress.attached option (String.ofList value)

def provide (progress : Progress) (option : OptionName) (value : String) : Progress :=
  { progress with pending := .complete option value }

/-- The option that takes the next word for its value, whatever the word begins with. -/
def takesAnything (progress : Progress) : Bool :=
  match progress.pending with
  | .awaiting option => option.takesAnything
  | _ => false

def isAwaiting (progress : Progress) : Bool :=
  match progress.pending with
  | .awaiting _ => true
  | _ => false

/-- Takes a word that is no option: the value of the last option, or one word too many. -/
def operand (level : Level) (progress : Progress) (word : String) : Except UsageError Progress :=
  match progress.pending, progress.onlyOperands with
  | .awaiting option, false => .ok (progress.provide option word)
  | _, _ =>
      if level = .program && !(progress.onlyOperands && isCommandWord word) then
        .error .invalidCommand
      else .error .unknownArgument

/-- A long form without its dashes, and the value behind its equals sign, if it has one. -/
def splitLong (form : List Char) : String × Option String :=
  let name := String.ofList (form.takeWhile (· ≠ '='))
  match form.dropWhile (· ≠ '=') with
  | [] => (name, none)
  | _ :: value => (name, some (String.ofList value))

def word (level : Level) (progress : Progress) (word : String) : Except UsageError Progress :=
  if progress.onlyOperands || progress.takesAnything then progress.operand level word
  else
    match word.toList with
    | ['-', '-'] => .ok { progress with onlyOperands := true }
    | '-' :: '-' :: form =>
        let (name, value?) := splitLong form
        progress.long level name value?
    | '-' :: c :: rest => progress.short level (c :: rest)
    | _ => progress.operand level word

def meetsCommand (level : Level) (progress : Progress) (word : String) : Bool :=
  level = .program && !progress.onlyOperands && !progress.isAwaiting && isCommandWord word

/-- Takes words up to the first command.  The words from there on are returned. -/
def words (level : Level) (progress : Progress) :
    List String → Except UsageError (Progress × List String)
  | [] => .ok (progress, [])
  | word :: rest =>
      if progress.meetsCommand level word then .ok (progress, word :: rest)
      else do
        let progress ← progress.word level word
        words level progress rest

end Progress

def helpOutcome : List String → UsageError
  | [] => .helpRequested
  | [word] => if isCommandWord word then .helpRequested else .invalidCommand
  | _ => .invalidCommand

def commandOf (level : Level) (settings : Settings) : Except UsageError Command :=
  match level with
  | .program => .error .missingCommand
  | .list => .ok (.list settings.manifest? settings.choice)
  | .listGroups => .ok (.listGroups settings.manifest?)
  | .select =>
      .ok
        (.select
          { manifest? := settings.manifest?
            choice := settings.choice
            output? := settings.output?
            format := settings.format?.getD .plain
            allowsNothing := settings.allowsNothing
            environment? := settings.environment? })

/-- Reads the options of a command and joins them with those in front of it. -/
def parseCommand (level : Level) (program : Progress) (words : List String) :
    Except UsageError Arguments := do
  let (progress, _) ← Progress.words level {} words
  let inner ← progress.settle
  let outer ← program.settle
  let command ← commandOf level inner
  pure
    { verbose := outer.verbose || inner.verbose
      quiet := outer.quiet || inner.quiet
      config? := inner.config?.or outer.config?
      command }

def parse (words : List String) : Except UsageError Arguments := do
  let (program, rest) ← Progress.words .program {} words
  match rest with
  | [] =>
      let settings ← program.settle
      throw (if settings.isEmpty then .missingArguments else .missingCommand)
  | word :: words =>
      match Level.ofCommand? word with
      | some level => parseCommand level program words
      | none => throw (helpOutcome words)

end BenchSuite.CommandLine
