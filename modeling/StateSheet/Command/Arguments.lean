import StateSheet.Command.Basic

/-!
# Arguments

A command is read from the arguments of the program. Behind the name of the
command every argument that does not start with a dash is an input glob. An
option that takes a value takes the argument behind it, whatever that looks
like; the last value given for the output, the settings or the interval
counts. Inputs and options may stand in any order.

The options of `watch` that it does not share with `build` are set aside in a
first pass over the arguments and read in a second one.
-/

set_option autoImplicit false

namespace StateSheet

/-! ## Faults -/

/-- A command that takes arguments. -/
inductive Verb where
  | scan
  | build
  | watch
deriving DecidableEq, Repr

/-- The name of a command. -/
def Verb.name : Verb → Text
  | .scan => "scan".toList
  | .build => "build".toList
  | .watch => "watch".toList

/-- Why arguments are not a command. -/
inductive UsageFault where
  | unknownCommand (name : Text)
  | unknownOption (verb : Verb) (option : Text)
  | missingValue (verb : Verb) (option : Text)
  | missingInput (verb : Verb)
  | badInterval (value : Text)
deriving DecidableEq, Repr

/-- The message that reports a fault. -/
def UsageFault.message : UsageFault → Text
  | .unknownCommand name => "unknown command: ".toList ++ name
  | .unknownOption verb option => "unknown ".toList ++ verb.name ++ " flag: ".toList ++ option
  | .missingValue verb option => verb.name ++ " requires a value for ".toList ++ option
  | .missingInput verb => verb.name ++ " requires at least one input glob".toList
  | .badInterval value =>
      "--poll-interval requires a positive integer, got '".toList ++ value ++ ['\'']

/-! ## Options -/

/-- The spellings of the option for the output. -/
def outputOptions : List Text := ["--out".toList, "--output".toList, "-o".toList]

/-- The spellings of the option for the settings. -/
def configOptions : List Text := ["--config".toList, "-c".toList]

/-- The spellings of the option for an ignore glob. -/
def ignoreOptions : List Text := ["--ignore".toList, "-I".toList]

/-- The spellings of the option to minify. -/
def minifyOptions : List Text := ["--minify".toList, "-m".toList]

/-- The option to poll for changes. -/
def pollOption : Text := "--poll".toList

/-- The option for the polling interval. -/
def intervalOption : Text := "--poll-interval".toList

/-- Does an argument start like an option? -/
def looksLikeOption (argument : Text) : Bool := argument.head? == some '-'

/-! ## The arguments of `scan` -/

/-- Adds the files that the remaining arguments select. -/
def readSelection (selection : Selection) : List Text → Except UsageFault Selection
  | [] => if selection.inputs = [] then .error (.missingInput .scan) else .ok selection
  | argument :: rest =>
      if argument ∈ ignoreOptions then
        match rest with
        | [] => .error (.missingValue .scan "--ignore".toList)
        | value :: rest =>
            readSelection { selection with ignore := selection.ignore ++ [value] } rest
      else if looksLikeOption argument then .error (.unknownOption .scan argument)
      else readSelection { selection with inputs := selection.inputs ++ [argument] } rest

/-! ## The arguments that `build` and `watch` share -/

/-- The build order with one more input glob. -/
def BuildOrder.addInput (order : BuildOrder) (input : Text) : BuildOrder :=
  { order with selection.inputs := order.selection.inputs ++ [input] }

/-- The build order with one more ignore glob. -/
def BuildOrder.addIgnore (order : BuildOrder) (ignore : Text) : BuildOrder :=
  { order with selection.ignore := order.selection.ignore ++ [ignore] }

/-- Adds what the remaining arguments say to a build order and sets the other
options aside, in their order, the polling interval together with its value. -/
def readOrder (verb : Verb) (order : BuildOrder) (aside : List Text) :
    List Text → Except UsageFault (BuildOrder × List Text)
  | [] =>
      if order.selection.inputs = [] then .error (.missingInput verb) else .ok (order, aside)
  | argument :: rest =>
      if argument ∈ outputOptions then
        match rest with
        | [] => .error (.missingValue verb "--output".toList)
        | value :: rest => readOrder verb { order with output? := some value } aside rest
      else if argument ∈ configOptions then
        match rest with
        | [] => .error (.missingValue verb "--config".toList)
        | value :: rest => readOrder verb { order with config? := some value } aside rest
      else if argument ∈ ignoreOptions then
        match rest with
        | [] => .error (.missingValue verb "--ignore".toList)
        | value :: rest => readOrder verb (order.addIgnore value) aside rest
      else if argument ∈ minifyOptions then
        readOrder verb { order with minify := true } aside rest
      else if argument = intervalOption then
        match rest with
        | [] => readOrder verb order (aside ++ [argument]) []
        | value :: rest => readOrder verb order (aside ++ [argument, value]) rest
      else if looksLikeOption argument then readOrder verb order (aside ++ [argument]) rest
      else readOrder verb (order.addInput argument) aside rest

/-- A build order, with no option left over. -/
def readBuild (arguments : List Text) : Except UsageFault BuildOrder :=
  match readOrder .build {} [] arguments with
  | .error fault => .error fault
  | .ok (order, []) => .ok order
  | .ok (_, option :: _) => .error (.unknownOption .build option)

/-! ## The arguments of `watch` alone -/

/-- The value of decimal digits, if there is one and all are digits. -/
def readDigits? (digits : Text) : Option Nat :=
  if digits ≠ [] ∧ digits.all Char.isDigit then
    some (digits.foldl (fun value digit => 10 * value + (digit.toNat - '0'.toNat)) 0)
  else none

/-- The number of milliseconds that a text gives: digits behind an optional
plus sign, of a value that fits into 64 bits. -/
def readInterval? (text : Text) : Option Nat :=
  let digits := if text.head? = some '+' then text.tail else text
  (readDigits? digits).filter fun value => value < UInt64.size

/-- Adds what the options set aside say about polling. -/
def readPolling (polling : Polling) : List Text → Except UsageFault Polling
  | [] => .ok polling
  | option :: rest =>
      if option = pollOption then readPolling { polling with enabled := true } rest
      else if option = intervalOption then
        match rest with
        | [] => .error (.missingValue .watch intervalOption)
        | value :: rest =>
            match readInterval? value with
            | none => .error (.badInterval value)
            | some interval => readPolling { polling with interval } rest
      else .error (.unknownOption .watch option)

/-- A build order and the way to notice changes. -/
def readWatch (arguments : List Text) : Except UsageFault (BuildOrder × Polling) :=
  match readOrder .watch {} [] arguments with
  | .error fault => .error fault
  | .ok (order, aside) => (readPolling {} aside).map fun polling => (order, polling)

/-! ## All arguments -/

/-- The arguments that ask for an explanation. -/
def helpWords : List Text := ["-h".toList, "--help".toList, "help".toList]

/-- The command that the arguments of the program make. -/
def Command.read : List Text → Except UsageFault Command
  | [] => .ok .help
  | name :: rest =>
      if name = Verb.scan.name then (readSelection {} rest).map .scan
      else if name = Verb.build.name then (readBuild rest).map .build
      else if name = Verb.watch.name then
        (readWatch rest).map fun order => .watch order.1 order.2
      else if name ∈ helpWords then .ok .help
      else .error (.unknownCommand name)

end StateSheet
