import TeenyFront.Settings.Basic

/-!
# Requests on the command line

The arguments ask for a command, or for help or the version, or they are misused. They are read
from left to right, so help that is asked for in front of a mistake is given. After two dashes
every argument is a file name.
-/

set_option autoImplicit false

namespace TeenyFront

inductive Command where
  | lex (file : String) (json : Bool)
  | parse (file : String) (format : Option TraceFormat)
  | showSettings
  | initSettings
  deriving DecidableEq, Repr

inductive Request where
  | run (command : Command)
  | information
  | misuse
  deriving DecidableEq, Repr

namespace Request

/-- An argument by its form: the end of options, a long or a short option, or a plain word. -/
inductive Form where
  | endOfOptions
  | long (name : String)
  | short (first : Char)
  | plain (word : String)
  deriving DecidableEq, Repr

def Form.ofArgument (arg : String) : Form :=
  match arg.toList with
  | ['-', '-'] => .endOfOptions
  | '-' :: '-' :: name => .long (String.ofList name)
  | '-' :: c :: _ => .short c
  | _ => .plain arg

def Form.isHelp : Form → Bool
  | .long name => name = "help"
  | .short c => c = 'h'
  | _ => false

def onlyFile (command : String → Command) : Option String → List String → Request
  | some file, [] => .run (command file)
  | none, [file] => if file = "" then .misuse else .run (command file)
  | _, _ => .misuse

def lexArguments (file : Option String) (json : Bool) : List String → Request
  | [] => onlyFile (.lex · json) file []
  | arg :: args =>
    match Form.ofArgument arg with
    | .endOfOptions => onlyFile (.lex · json) file args
    | .plain word =>
      if file.isSome ∨ word = "" then .misuse else lexArguments (some word) json args
    | form =>
      if form.isHelp then .information
      else if form = .long "json" ∧ json = false then lexArguments file true args
      else .misuse

def parseArguments (file : Option String) (format : Option TraceFormat) : List String → Request
  | [] => onlyFile (.parse · format) file []
  | arg :: args =>
    match Form.ofArgument arg with
    | .endOfOptions => onlyFile (.parse · format) file args
    | .plain word =>
      if file.isSome ∨ word = "" then .misuse else parseArguments (some word) format args
    | form =>
      if form.isHelp then .information
      else if format.isSome then .misuse
      else if form = .long "format=text" then parseArguments file (some .text) args
      else if form = .long "format=json" then parseArguments file (some .json) args
      else if form = .long "format" then
        match args with
        | value :: args =>
          match TraceFormat.ofName? value with
          | some f => parseArguments file (some f) args
          | none => .misuse
        | [] => .misuse
      else .misuse

def noArguments (command : Command) : List String → Request
  | [] => .run command
  | arg :: args =>
    match Form.ofArgument arg with
    | .endOfOptions => if args = [] then .run command else .misuse
    | form => if form.isHelp then .information else .misuse

def help : List String → Request
  | [] | ["lex"] | ["parse"] | ["help"] => .information
  | ["config"] | ["config", "show"] | ["config", "init"] | ["config", "help"] => .information
  | _ => .misuse

def helpConfig : List String → Request
  | [] | ["show"] | ["init"] | ["help"] => .information
  | _ => .misuse

def configArguments : List String → Request
  | [] => .misuse
  | "show" :: args => noArguments .showSettings args
  | "init" :: args => noArguments .initSettings args
  | "help" :: args => helpConfig args
  | arg :: _ => if (Form.ofArgument arg).isHelp then .information else .misuse

def ofArguments : List String → Request
  | [] => .misuse
  | "lex" :: args => lexArguments none false args
  | "parse" :: args => parseArguments none none args
  | "config" :: args => configArguments args
  | "help" :: args => help args
  | arg :: _ =>
    let form := Form.ofArgument arg
    if form.isHelp ∨ form = .long "version" ∨ form = .short 'V' then .information else .misuse

end Request

end TeenyFront
