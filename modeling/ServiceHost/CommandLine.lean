/-
  ServiceHost.CommandLine — the arguments of the command.

  Each option is given at most once, with its value behind an equals sign or as the next
  argument. A value that is an argument of its own does not start with a dash, unless it
  is the dash alone. There are no arguments but options.
-/

import ServiceHost.Text.Cut

namespace ServiceHost.CommandLine

open ServiceHost.Text

structure Options where
  /-- The file with the settings. -/
  config? : Option String := none
  /-- A log filter. -/
  logLevel? : Option String := none
  role? : Option String := none
  deriving DecidableEq, Repr

def defaultRole : String := "service-hub"

def Options.role (o : Options) : String := o.role?.getD defaultRole

inductive Request where
  | run (o : Options)
  | help
  | version
  /-- The arguments are wrong. -/
  | usage
  deriving DecidableEq, Repr

inductive Key where
  | config
  | logLevel
  | role
  deriving DecidableEq, Repr

/-- Sets an option that is not set yet. The name of a file is not empty. -/
def Options.set? (o : Options) (k : Key) (value : String) : Option Options :=
  match k with
  | .config => if o.config?.isSome ∨ value = "" then none else some { o with config? := some value }
  | .logLevel => if o.logLevel?.isSome then none else some { o with logLevel? := some value }
  | .role => if o.role?.isSome then none else some { o with role? := some value }

inductive Argument where
  | help
  | version
  /-- An option, with its value if that is in the same argument. -/
  | option (k : Key) (value? : Option String)
  /-- Nothing but further arguments that are no options. -/
  | separator
  | unknown
  deriving DecidableEq, Repr

def longOption (name : String) (value? : Option String) : Argument :=
  match name, value? with
  | "help", none => .help
  | "version", none => .version
  | "config", v => .option .config v
  | "log-level", v => .option .logLevel v
  | "role", v => .option .role v
  | _, _ => .unknown

/-- A value written directly behind a letter, with or without an equals sign. -/
def attached? : List Char → Option String
  | [] => none
  | '=' :: cs => some (String.ofList cs)
  | cs => some (String.ofList cs)

def Argument.read (arg : String) : Argument :=
  match arg.toList with
  | ['-', '-'] => .separator
  | '-' :: '-' :: cs =>
    match cutFirst '=' cs with
    | some (name, value) => longOption (String.ofList name) (some (String.ofList value))
    | none => longOption (String.ofList cs) none
  | '-' :: 'h' :: _ => .help
  | '-' :: 'V' :: _ => .version
  | '-' :: 'c' :: cs => .option .config (attached? cs)
  | _ => .unknown

/-- Whether an argument can be the value of the option before it. -/
def isValue (arg : String) : Bool := arg = "-" || arg.toList.head? ≠ some '-'

/-- Reads the arguments from the left; the first request for help or the version, or the first fault, decides. -/
def parse (o : Options) : List String → Request
  | [] => .run o
  | arg :: rest =>
    match Argument.read arg with
    | .help => .help
    | .version => .version
    | .separator => if rest.isEmpty then .run o else .usage
    | .unknown => .usage
    | .option k (some value) =>
      match o.set? k value with
      | some o => parse o rest
      | none => .usage
    | .option k none =>
      match rest with
      | [] => .usage
      | value :: rest =>
        if !isValue value then .usage
        else
          match o.set? k value with
          | some o => parse o rest
          | none => .usage

def versionText : String := "service-hub 0.1.0"

def usageText : String := "Usage: service-hub [OPTIONS]"

def helpText : String :=
  "\n".intercalate
    ["Hosts pluggable services behind one listener", "", usageText, "", "Options:",
     "  -c, --config <CONFIG>        ", "      --log-level <LOG_LEVEL>  ",
     "      --role <ROLE>            [default: service-hub]", "  -h, --help                   Print help",
     "  -V, --version                Print version"]

end ServiceHost.CommandLine
