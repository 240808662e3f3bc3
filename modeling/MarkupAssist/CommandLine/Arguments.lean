import MarkupAssist.Text.Lowercase

/-!
# Command lines

A command line names a command, with its operands in order and its switches anywhere among
them; some switches may stand before the command too. A switch is written with one letter
or with a word, and at most once in each of the two places.

- `Command`, `Invocation`  : what is to be done
- `Stop`                   : why nothing is done
- `scan`                   : switches and operands told apart
- `Invocation.ofArguments` : the whole command line
-/

namespace MarkupAssist
namespace CommandLine

inductive OutputFormat
  | json
  | plain
  deriving DecidableEq, Repr

inductive Command
  | complete (file : String) (line column : Nat) (language catalogue : Option String)
      (format : OutputFormat)
  | preview (keyword : String) (stylesheet : Option String)
  | identify (keyword : String)
  deriving DecidableEq, Repr

structure Invocation where
  /-- The file of the settings. -/
  settings : Option String
  verbose : Bool
  command : Command
  deriving DecidableEq, Repr

inductive Stop
  | usageFault
  | helpWanted
  | versionWanted
  deriving DecidableEq, Repr

/-! ## Values -/

/-- The names of formats are compared without regard to case. -/
def formatOf? (name : String) : Option OutputFormat :=
  match Text.lowercaseText name with
  | "json" => some .json
  | "plain" => some .plain
  | "text" => some .plain
  | _ => none

/-- Digits, perhaps behind a plus sign, that make up a number of 64 bits. -/
def numberOf? (text : String) : Option Nat :=
  let digits := match text.toList with
    | '+' :: rest => rest
    | chars => chars
  if digits.isEmpty || !digits.all Char.isDigit then none
  else
    let n := digits.foldl (fun n d => n * 10 + (d.toNat - '0'.toNat)) 0
    if n < Nat.pow 2 64 then some n else none

/-! ## Switches -/

inductive Switch
  | settings
  | verbose
  | help
  | version
  | language
  | catalogue
  | format
  | stylesheet
  deriving DecidableEq, Repr

namespace Switch

def letter : Switch → Char
  | settings => 'c'
  | verbose => 'v'
  | help => 'h'
  | version => 'V'
  | language => 'l'
  | catalogue => 'k'
  | format => 'f'
  | stylesheet => 's'

def word : Switch → String
  | settings => "config"
  | verbose => "verbose"
  | help => "help"
  | version => "version"
  | language => "language"
  | catalogue => "kb"
  | format => "format"
  | stylesheet => "stylesheet"

def takesValue : Switch → Bool
  | settings => true
  | language => true
  | catalogue => true
  | format => true
  | stylesheet => true
  | _ => false

/-- No path is empty. -/
def accepts (value : String) : Switch → Bool
  | settings => value ≠ ""
  | catalogue => value ≠ ""
  | stylesheet => value ≠ ""
  | format => (formatOf? value).isSome
  | _ => true

end Switch

/-! ## Scanning -/

/-- What may stand in one of the two places. -/
structure Place where
  switches : List Switch
  /-- Which words will do as operands. -/
  operands : List (String → Bool)
  commands : List String

structure Words where
  /-- With their values. -/
  switches : List (Switch × String) := []
  operands : List String := []
  deriving DecidableEq, Repr

namespace Words

def addSwitch (switch : Switch) (value : String) (words : Words) : Except Stop Words :=
  match switch with
  | .help => .error .helpWanted
  | .version => .error .versionWanted
  | _ =>
      if (words.switches.lookup switch).isSome || !switch.accepts value then .error .usageFault
      else .ok { words with switches := words.switches ++ [(switch, value)] }

def addOperand (place : Place) (operand : String) (words : Words) : Except Stop Words :=
  match place.operands[words.operands.length]? with
  | some accepts =>
      if accepts operand then .ok { words with operands := words.operands ++ [operand] }
      else .error .usageFault
  | none => .error .usageFault

end Words

/-- A switch as a word, perhaps with a value behind `=`; one that still wants its value is
given back. -/
def scanWord (place : Place) (chars : List Char) (words : Words) :
    Except Stop (Words × Option Switch) :=
  let name := String.ofList (chars.takeWhile (· ≠ '='))
  match place.switches.find? (·.word == name), chars.dropWhile (· ≠ '=') with
  | none, _ => .error .usageFault
  | some switch, [] =>
      if switch.takesValue then .ok (words, some switch)
      else (words.addSwitch switch "").map (·, none)
  | some switch, _ :: value =>
      if switch.takesValue then (words.addSwitch switch (String.ofList value)).map (·, none)
      else .error .usageFault

/-- Switches as letters in a row. What follows a switch with a value is its value. -/
def scanLetters (place : Place) : List Char → Words → Except Stop (Words × Option Switch)
  | [], words => .ok (words, none)
  | letter :: rest, words =>
      match place.switches.find? (·.letter == letter) with
      | none => .error .usageFault
      | some switch =>
          if switch.takesValue then
            match rest with
            | [] => .ok (words, some switch)
            | '=' :: value => (words.addSwitch switch (String.ofList value)).map (·, none)
            | value => (words.addSwitch switch (String.ofList value)).map (·, none)
          else words.addSwitch switch "" >>= scanLetters place rest

/-- A single hyphen is a word like any other. -/
def looksLikeSwitch : List Char → Bool
  | '-' :: _ :: _ => true
  | _ => false

/-- Read up to a command, which comes back with the words after it, or to the end. `pending`
is a switch that wants a value, and `literal` whether a word is an operand, however it looks. -/
def scan (place : Place) : (pending : Option Switch) → (literal : Bool) → List String → Words →
    Except Stop (Words × Option (String × List String))
  | some _, _, [], _ => .error .usageFault
  | none, _, [], words => .ok (words, none)
  | some switch, _, word :: rest, words => do
      if looksLikeSwitch word.toList then throw .usageFault
      scan place none false rest (← words.addSwitch switch word)
  | none, true, word :: rest, words => do
      scan place none true rest (← words.addOperand place word)
  | none, false, word :: rest, words =>
      if place.commands.contains word then .ok (words, some (word, rest))
      else match word.toList with
        | ['-', '-'] => scan place none true rest words
        | '-' :: '-' :: chars => do
            let (words, pending) ← scanWord place chars words
            scan place pending false rest words
        | '-' :: letter :: letters => do
            let (words, pending) ← scanLetters place (letter :: letters) words
            scan place pending false rest words
        | _ => do scan place none false rest (← words.addOperand place word)

/-! ## Invocations -/

/-- Switches that stand on either side of the command. -/
def sharedSwitches : List Switch :=
  [.settings, .verbose, .help]

def commandNames : List String :=
  ["complete", "preview", "uri", "help"]

def outerPlace : Place :=
  ⟨.version :: sharedSwitches, [], commandNames⟩

def innerPlace (switches : List Switch) (operands : List (String → Bool)) : Place :=
  ⟨sharedSwitches ++ switches, operands, []⟩

def isNumber (word : String) : Bool :=
  (numberOf? word).isSome

def completePlace : Place :=
  innerPlace [.language, .catalogue, .format] [(· ≠ ""), isNumber, isNumber]

def completeOf? (words : Words) : Option Command :=
  match words.operands with
  | [file, line, column] => do
      let format := (words.switches.lookup .format).bind formatOf?
      return .complete file (← numberOf? line) (← numberOf? column)
        (words.switches.lookup .language) (words.switches.lookup .catalogue)
        (format.getD .json)
  | _ => none

def previewOf? (words : Words) : Option Command :=
  match words.operands with
  | [keyword] => some (.preview keyword (words.switches.lookup .stylesheet))
  | _ => none

def identifyOf? (words : Words) : Option Command :=
  match words.operands with
  | [keyword] => some (.identify keyword)
  | _ => none

/-- What may follow a command, and what is made of it. -/
def commandOf? : String → Option (Place × (Words → Option Command))
  | "complete" => some (completePlace, completeOf?)
  | "preview" => some (innerPlace [.stylesheet] [fun _ => true], previewOf?)
  | "uri" => some (innerPlace [] [fun _ => true], identifyOf?)
  | _ => none

/-- Help may be asked about one command, or about all. -/
def helpFor : List String → Stop
  | [] => .helpWanted
  | [name] => if commandNames.contains name then .helpWanted else .usageFault
  | _ => .usageFault

/-- A switch next to the operands counts before one that stands in front of the command. -/
def Invocation.of (outer inner : Words) (command : Command) : Invocation where
  settings := (inner.switches.lookup .settings).or (outer.switches.lookup .settings)
  verbose := ((inner.switches.lookup .verbose).or (outer.switches.lookup .verbose)).isSome
  command

def Invocation.ofArguments (arguments : List String) : Except Stop Invocation := do
  let (outer, named) ← scan outerPlace none false arguments {}
  match named with
  | none => throw .usageFault
  | some ("help", rest) => throw (helpFor rest)
  | some (name, rest) =>
      match commandOf? name with
      | none => throw .usageFault
      | some (place, build) =>
          let (inner, _) ← scan place none false rest {}
          match build inner with
          | some command => return .of outer inner command
          | none => throw .usageFault

end CommandLine
end MarkupAssist
