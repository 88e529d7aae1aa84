/-!
Arguments of the command line. Options may stand before and after the command's name and among its
operands, up to a double dash; an option given on both sides of the name has the value on the far
side. What cannot be understood is a usage error.
-/

namespace KernelStore.CommandLine

inductive ColourChoice
  /-- Colours if the environment names a terminal. -/
  | auto
  | always
  | never
  deriving DecidableEq

namespace ColourChoice

def all : List ColourChoice := [.auto, .always, .never]

def name : ColourChoice → String
  | auto => "auto"
  | always => "always"
  | never => "never"

def ofName? (text : String) : Option ColourChoice := all.find? (·.name == text)

end ColourChoice

inductive ReportFormat
  | text
  | json
  deriving DecidableEq

namespace ReportFormat

def all : List ReportFormat := [.text, .json]

def name : ReportFormat → String
  | text => "text"
  | json => "json"

def ofName? (text : String) : Option ReportFormat := all.find? (·.name == text)

end ReportFormat

inductive Command
  | inspect (info : String) (format : ReportFormat)
  | hash (files : List String)
  | verify (directory : Option String) (name : String) (sources : List String)
      (format : ReportFormat)
  deriving DecidableEq

structure Invocation where
  quiet : Bool
  colour : ColourChoice
  config : Option String
  command : Command
  deriving DecidableEq

inductive Request
  | run (invocation : Invocation)
  | version
  | usageError
  deriving DecidableEq

/-! ### Options -/

inductive Flag
  | quiet
  | colour
  | config
  | version
  | directory
  | name
  | source
  | format
  deriving DecidableEq

inductive Arity
  | none
  | one
  | many
  deriving DecidableEq

namespace Flag

def long : Flag → String
  | quiet => "quiet"
  | colour => "color"
  | config => "config"
  | version => "version"
  | directory => "cache-dir"
  | name => "name"
  | source => "source"
  | format => "format"

def short? : Flag → Option Char
  | quiet => some 'q'
  | version => some 'V'
  | format => some 'f'
  | _ => Option.none

def arity : Flag → Arity
  | quiet => .none
  | version => .none
  | source => .many
  | _ => .one

/-- Whether a value can stand for this option. Paths are not empty. -/
def accepts (flag : Flag) (value : String) : Bool :=
  match flag with
  | colour => (ColourChoice.ofName? value).isSome
  | format => (ReportFormat.ofName? value).isSome
  | config | directory | source => value != ""
  | _ => true

/-- The options that are understood on both sides of the command's name. -/
def everywhere : List Flag := [.quiet, .colour, .config]

end Flag

/-! ### Scanning -/

inductive Item
  | option (flag : Flag) (values : List String)
  | operand (text : String)
  deriving DecidableEq

structure Level where
  flags : List Flag
  commands : List String := []

inductive Stop
  | end
  | command (name : String) (rest : List String)
  | version
  | unknown
  deriving DecidableEq

/-- An option that may still take values. -/
structure Awaiting where
  flag : Flag
  values : List String := []

def Awaiting.items : Option Awaiting → List Item
  | none => []
  | some awaiting => [.option awaiting.flag awaiting.values]

/-- What one argument that begins with a dash brings. -/
inductive Dashed
  | understood (items : List Item) (awaiting : Option Awaiting)
  | version (items : List Item)
  | unknown (items : List Item)

def dashedLong (level : Level) (body : List Char) : Dashed :=
  let name := String.ofList (body.takeWhile (· != '='))
  let value := match body.dropWhile (· != '=') with
    | [] => none
    | _ :: value => some (String.ofList value)
  match level.flags.find? (·.long == name) with
  | none => .unknown []
  | some flag =>
      match flag.arity, value with
      | .none, some _ => .unknown []
      | .none, none => if flag = .version then .version [] else .understood [.option flag []] none
      | _, some value => .understood [.option flag [value]] none
      | _, none => .understood [] (some { flag })

/-- Options by their letters. What follows a letter that takes a value is the value, less an equals
sign before it. -/
def dashedShort (level : Level) : List Char → Dashed
  | [] => .understood [] none
  | letter :: rest =>
      match level.flags.find? (·.short? == some letter) with
      | none => .unknown []
      | some flag =>
          match flag.arity, rest with
          | .none, rest =>
              let item : Item := .option flag []
              if flag = .version then .version []
              else match dashedShort level rest with
                | .understood items awaiting => .understood (item :: items) awaiting
                | .version items => .version (item :: items)
                | .unknown items => .unknown (item :: items)
          | _, [] => .understood [] (some { flag })
          | _, '=' :: value => .understood [.option flag [String.ofList value]] none
          | _, value => .understood [.option flag [String.ofList value]] none

def scan (level : Level) (awaiting : Option Awaiting) : List String → List Item × Stop
  | [] => (Awaiting.items awaiting, .end)
  | argument :: rest =>
      let dashed (outcome : Dashed) : List Item × Stop :=
        let earlier := Awaiting.items awaiting
        match outcome with
        | .unknown items => (earlier ++ items, .unknown)
        | .version items => (earlier ++ items, .version)
        | .understood items awaiting =>
            let (later, stop) := scan level awaiting rest
            (earlier ++ items ++ later, stop)
      if awaiting.isNone && level.commands.contains argument then ([], .command argument rest)
      else match argument.toList with
        | ['-', '-'] => (Awaiting.items awaiting ++ rest.map .operand, .end)
        | '-' :: '-' :: body => dashed (dashedLong level body)
        | '-' :: letter :: letters => dashed (dashedShort level (letter :: letters))
        | _ =>
            match awaiting with
            | none =>
                let (later, stop) := scan level none rest
                (.operand argument :: later, stop)
            | some awaiting =>
                let filled := { awaiting with values := awaiting.values ++ [argument] }
                if filled.flag.arity = .many then scan level (some filled) rest
                else
                  let (later, stop) := scan level none rest
                  (.option filled.flag filled.values :: later, stop)

/-! ### Meaning -/

def valuesOf (items : List Item) (flag : Flag) : List String :=
  items.flatMap fun
    | .option given values => if given = flag then values else []
    | .operand _ => []

def valueOf? (items : List Item) (flag : Flag) : Option String := (valuesOf items flag).head?

def operands (items : List Item) : List String :=
  items.filterMap fun
    | .option _ _ => none
    | .operand text => some text

def isGiven (items : List Item) (flag : Flag) : Bool :=
  items.any fun
    | .option given _ => given == flag
    | .operand _ => false

/-- Whether one option has the right number of values, all acceptable. -/
def isSound : Item → Bool
  | .operand _ => true
  | .option flag values =>
      (match flag.arity with
        | .none => values.isEmpty
        | .one => values.length == 1
        | .many => !values.isEmpty) && values.all flag.accepts

/-- Whether no option was given twice that takes at most one value. -/
def areDistinct (items : List Item) : Bool :=
  let single := items.filterMap fun
    | .option flag _ => if flag.arity = .many then none else some flag
    | .operand _ => none
  decide single.Nodup

def areSound (items : List Item) : Bool := items.all isSound && areDistinct items

def before : Level where
  flags := .version :: Flag.everywhere
  commands := ["inspect", "hash", "verify"]

/-- The options that a command adds. -/
def flagsOf (command : String) : List Flag :=
  if command = "inspect" then [.format]
  else if command = "verify" then [.directory, .name, .source, .format]
  else []

def command? (name : String) (items : List Item) : Option Command :=
  let format := ((valueOf? items .format).bind ReportFormat.ofName?).getD .text
  let files := operands items
  if files.any (· == "") then none
  else match name, files with
    | "inspect", [info] => some (.inspect info format)
    | "hash", _ :: _ => some (.hash files)
    | "verify", [] =>
        match valueOf? items .name, valuesOf items .source with
        | some name, source :: sources =>
            some (.verify (valueOf? items .directory) name (source :: sources) format)
        | _, _ => none
    | _, _ => none

def parse (arguments : List String) : Request :=
  let (outer, stop) := scan before none arguments
  if !areSound outer || !(operands outer).isEmpty then .usageError
  else match stop with
    | .version => .version
    | .end | .unknown => .usageError
    | .command name rest =>
        let (inner, stop) := scan { flags := Flag.everywhere ++ flagsOf name } none rest
        if stop ≠ .end || !areSound inner then .usageError
        else match command? name inner with
          | none => .usageError
          | some command =>
              let last? (flag : Flag) : Option String := (valueOf? inner flag).or (valueOf? outer flag)
              .run
                { quiet := isGiven inner .quiet || isGiven outer .quiet
                  colour := ((last? .colour).bind ColourChoice.ofName?).getD .auto
                  config := last? .config
                  command }

end KernelStore.CommandLine
