import Guidebook.Text.Cut

/-!
# Arguments

A command line names a command and settings.  Settings for every command may stand before or behind
the command; each setting is given at most once on either side.  A setting is written as a word
behind two dashes or as a letter behind one dash, and letters may be joined.
-/

namespace Guidebook.CommandLine

open Guidebook.Text

/-- What can be set. -/
inductive Setting where
  | path
  | guide
  | verbose
  | noColor
  | format
  | build
  | lang
  | diff
  | output
deriving DecidableEq

namespace Setting

/-- The word behind two dashes. -/
def word : Setting → String
  | .path => "path"
  | .guide => "guide"
  | .verbose => "verbose"
  | .noColor => "no-color"
  | .format => "format"
  | .build => "build"
  | .lang => "lang"
  | .diff => "diff"
  | .output => "output"

/-- The letter behind one dash. -/
def letter? : Setting → Option Char
  | .path => some 'p'
  | .guide => some 'g'
  | .verbose => some 'v'
  | .output => some 'o'
  | _ => none

/-- Whether the setting has a value. -/
def takesValue : Setting → Bool
  | .verbose => false
  | .noColor => false
  | .diff => false
  | _ => true

/-- Whether a value is one of those that the setting may have. -/
def accepts (setting : Setting) (value : String) : Bool :=
  match setting with
  | .path => value != ""
  | .output => value != ""
  | .format => value == "text" || value == "json"
  | _ => true

/-- The settings for every command. -/
def global : List Setting :=
  [.path, .guide, .verbose, .noColor]

end Setting

/-- The commands. -/
inductive Command where
  | list
  | expand
  | check
  | build
deriving DecidableEq

namespace Command

/-- Every command. -/
def all : List Command :=
  [.list, .expand, .check, .build]

def name : Command → String
  | .list => "list"
  | .expand => "expand"
  | .check => "check"
  | .build => "build"

/-- The settings that may stand behind a command. -/
def settings : Command → List Setting
  | .list => .format :: Setting.global
  | .expand => [.build, .lang, .diff] ++ Setting.global
  | .check => .format :: Setting.global
  | .build => .output :: Setting.global

end Command

/-- Why arguments are refused. -/
inductive UsageError where
  | unexpected (argument : String)
  | unknownCommand (name : String)
  | missingValue (setting : Setting)
  | surplusValue (setting : Setting)
  | invalidValue (setting : Setting) (value : String)
  | repeated (setting : Setting)
deriving DecidableEq

/-- Settings with their values; one without a value has the empty text. -/
abbrev Given := List (Setting × String)

namespace Given

/-- Adds a setting that has not been given yet. -/
def add (given : Given) (setting : Setting) (value : String) : Except UsageError Given :=
  if (given.lookup setting).isSome then .error (.repeated setting)
  else if setting.accepts value then .ok (given ++ [(setting, value)])
  else .error (.invalidValue setting value)

end Given

/-- An argument by its shape. -/
inductive Shape where
  | word (text : List Char)
  /-- Two dashes, behind which no setting follows. -/
  | terminator
  /-- A setting by its word, possibly with its value. -/
  | long (name : String) (value : Option String)
  /-- Settings by their letters. -/
  | short (letters : List Char)

namespace Shape

/-- The shape of an argument.  A single dash is a word. -/
def ofArgument (argument : String) : Shape :=
  match argument.toList with
  | '-' :: '-' :: [] => .terminator
  | '-' :: '-' :: rest =>
    match cut '=' rest with
    | some (name, value) => .long (String.ofList name) (some (String.ofList value))
    | none => .long (String.ofList rest) none
  | '-' :: c :: rest => .short (c :: rest)
  | text => .word text

/-- Whether an argument can be the value of the setting before it. -/
def isValue (argument : String) : Bool :=
  match ofArgument argument with
  | .word _ => true
  | _ => false

end Shape

/-- A setting that waits for its value. -/
abbrev Waiting := Option Setting

/-- Takes the letters of an argument into account. -/
def takeLetters (known : List Setting) (argument : String) (given : Given) :
    List Char → Except UsageError (Given × Waiting)
  | [] => .ok (given, none)
  | c :: rest =>
    match known.find? fun setting => setting.letter? == some c with
    | none => .error (.unexpected argument)
    | some setting =>
      if setting.takesValue then
        match rest with
        | [] => .ok (given, some setting)
        | '=' :: value => (given.add setting (String.ofList value)).map fun given => (given, none)
        | value => (given.add setting (String.ofList value)).map fun given => (given, none)
      else
        match given.add setting "" with
        | .ok given => takeLetters known argument given rest
        | .error reason => .error reason

/-- Takes a setting by its word into account. -/
def takeWord (known : List Setting) (argument name : String) (value : Option String)
    (given : Given) : Except UsageError (Given × Waiting) :=
  match known.find? fun setting => setting.word == name with
  | none => .error (.unexpected argument)
  | some setting =>
    match setting.takesValue, value with
    | true, some value => (given.add setting value).map fun given => (given, none)
    | true, none => .ok (given, some setting)
    | false, none => (given.add setting "").map fun given => (given, none)
    | false, some _ => .error (.surplusValue setting)

/-- The settings at the start of arguments, and the arguments from the first word on. -/
def takeSettings (known : List Setting) (given : Given) (waiting : Waiting) :
    List String → Except UsageError (Given × List String)
  | [] =>
    match waiting with
    | some setting => .error (.missingValue setting)
    | none => .ok (given, [])
  | argument :: rest =>
    match waiting with
    | some setting =>
      if Shape.isValue argument then
        match given.add setting argument with
        | .ok given => takeSettings known given none rest
        | .error reason => .error reason
      else .error (.missingValue setting)
    | none =>
      match Shape.ofArgument argument with
      | .word _ => .ok (given, argument :: rest)
      | .terminator =>
        match rest with
        | [] => .ok (given, [])
        | surplus :: _ => .error (.unexpected surplus)
      | .long name value =>
        match takeWord known argument name value given with
        | .ok (given, waiting) => takeSettings known given waiting rest
        | .error reason => .error reason
      | .short letters =>
        match takeLetters known argument given letters with
        | .ok (given, waiting) => takeSettings known given waiting rest
        | .error reason => .error reason

/-- What a command line asks for. -/
structure Arguments where
  command : Option Command
  /-- The settings before the command. -/
  outer : Given
  /-- The settings behind the command. -/
  inner : Given

namespace Arguments

/-- What arguments ask for. -/
def parse (arguments : List String) : Except UsageError Arguments := do
  let (outer, rest) ← takeSettings Setting.global [] none arguments
  match rest with
  | [] => return ⟨none, outer, []⟩
  | name :: behind =>
    match Command.all.find? fun command => command.name == name with
    | none => throw (.unknownCommand name)
    | some command =>
      let (inner, surplus) ← takeSettings command.settings [] none behind
      match surplus with
      | [] => return ⟨some command, outer, inner⟩
      | argument :: _ => throw (.unexpected argument)

/-- The value of a setting; one behind the command counts rather than one before it. -/
def value? (arguments : Arguments) (setting : Setting) : Option String :=
  (arguments.inner.lookup setting).or (arguments.outer.lookup setting)

/-- Whether a setting is given. -/
def has (arguments : Arguments) (setting : Setting) : Bool :=
  (arguments.value? setting).isSome

end Arguments

end Guidebook.CommandLine
