import EditAssist.Language.Detect
import EditAssist.Screen

/-! The command line: it highlights one file and reports what is wrong with it. Everything it does
is a function of its arguments, of the files it can read and of two variables of its environment. -/
namespace EditAssist.CommandLine
open Text

def version : String := "0.1.0"

def usageLines : List String :=
  ["lintpad " ++ version ++ " - syntax highlighting and live diagnostics",
    "",
    "Usage: lintpad [OPTIONS] FILE",
    "",
    "Options:",
    "  -h, --help             Show this help message",
    "  -V, --version          Show version information",
    "  -c, --check            Only report diagnostics; exit 1 if any is an error",
    "  -l, --language NAME    Force the language (kotlin, java, python, cpp, c)",
    "  -v, --verbose          Debug logging on stderr",
    "      --no-color         Plain output (also honours NO_COLOR)",
    "",
    "Settings are read from ~/.lintpad.conf:",
    "  catalog = PATH         TOML rule catalog (built-in rules when unset)",
    "  diagnostics = BOOL     Run the diagnostic pass when highlighting"]

def versionLines : List String :=
  ["lintpad " ++ version, "Languages: kotlin, java, python, cpp, c"]

/-- Lines with their endings. -/
def printed (ls : List String) : List Char := ls.flatMap fun l => l.toList ++ ['\n']

/-- Why the command fails. -/
inductive Failure where
  | unreadable (fault : ReadFault)
  | unknownLanguage (name : List Char)
  | missingLanguage (option : List Char)
  | unknownOption (option : List Char)
  | noInput
  deriving DecidableEq, Repr

def Failure.message : Failure → List Char
  | unreadable fault => "I/O error: ".toList ++ fault.message.toList
  | unknownLanguage name => "Unknown language: ".toList ++ name
  | missingLanguage option => option ++ " requires a language name".toList
  | unknownOption option => "unknown option '".toList ++ option ++ ['\'']
  | noInput => "no input file".toList

/-- What the arguments ask for. -/
structure Options where
  path : Option (List Char) := none
  language : Option Language := none
  check : Bool := false
  verbose : Bool := false
  noColor : Bool := false
  deriving DecidableEq, Repr

/-- What the arguments come to: options, or lines to be printed and nothing else. -/
inductive Request where
  | run (options : Options)
  | say (lines : List String)
  deriving DecidableEq, Repr

/-- Read the arguments from left to right. Help and version end the reading; of several paths and
of several languages the last one counts. -/
def request : Options → List (List Char) → Except Failure Request
  | o, [] => .ok (.run o)
  | o, arg :: args =>
    match String.ofList arg with
    | "--help" | "-h" => .ok (.say usageLines)
    | "--version" | "-V" => .ok (.say versionLines)
    | "--check" | "-c" => request { o with check := true } args
    | "--verbose" | "-v" => request { o with verbose := true } args
    | "--no-color" => request { o with noColor := true } args
    | "--language" | "-l" =>
      match args with
      | [] => .error (.missingLanguage arg)
      | name :: rest =>
        match Language.ofName? name with
        | none => .error (.unknownLanguage name)
        | some l => request { o with language := some l } rest
    | _ =>
      if arg.head? = some '-' then .error (.unknownOption arg)
      else request { o with path := some arg } args

/-- What the command can see of the world around it. -/
structure World where
  read : FileReader
  /-- The home folder, if it is known. -/
  home : Option (List Char)
  /-- Whether colours are unwanted. -/
  noColor : Bool

/-- Where the configuration is looked for. -/
def configPath (home : Option (List Char)) : Option (List Char) := home.map Config.pathIn

/-- The configuration; the default one if there is none to read. -/
def loadConfig (read : FileReader) (home : Option (List Char)) : Config :=
  match (configPath home).bind fun path => (read path).toOption.bind decode? with
  | none => {}
  | some contents => Config.ofContents contents

/-- What the command leaves behind: its exit code, what it printed, and why it failed if it did. -/
structure Outcome where
  code : Nat
  output : List Char
  failure : Option Failure := none

def fail (output : List Char) (f : Failure) : Outcome := ⟨1, output, some f⟩

/-- The reports on a text and their summary. -/
def findings (color : Bool) (path text : List Char) (ds : List Diagnostic) : List Char :=
  let index := LineIndex.ofText text
  ds.flatMap (Screen.report color path text index) ++ Screen.summary ds

/-- What is printed for a text. To check it is to print the findings only; otherwise the text comes
first, in its colours, and the findings only if they are enabled. -/
def present (color : Bool) (check : Bool) (path text : List Char) (h : Highlighter)
    (ts : List Token) : List Char :=
  let ds := h.diagnostics
  (if check then [] else Screen.buffer color h.overlays text ts) ++
    if h.diagnosticsEnabled then
      (if !check && !ds.isEmpty then ['\n'] else []) ++ findings color path text ds
    else []

/-- Highlight a file. -/
def runOn (w : World) (o : Options) (path : List Char) : Outcome :=
  let config := loadConfig w.read w.home
  match w.read path with
  | .error fault => fail [] (.unreadable fault)
  | .ok content =>
    let text := decodeLossy content
    let lang := o.language.getD (Language.detect path text)
    let h := Highlighter.ofConfig config
    let h := if o.check then h.enable else h
    let (ts, h) := h.highlight w.read lang text
    let failed := h.diagnostics.any (·.severity = .error)
    ⟨if o.check && failed then 1 else 0,
      present (!o.noColor && !w.noColor) o.check path text h ts, none⟩

/-- Run the command. -/
def run (w : World) (args : List (List Char)) : Outcome :=
  match request {} args with
  | .error f => fail [] f
  | .ok (.say lines) => ⟨0, printed lines, none⟩
  | .ok (.run o) =>
    match o.path with
    | none => fail (printed usageLines) .noInput
    | some path => runOn w o path

example : request {} ["-c".toList, "a.kt".toList] =
    .ok (.run { path := some "a.kt".toList, check := true }) := by cbv

end EditAssist.CommandLine
