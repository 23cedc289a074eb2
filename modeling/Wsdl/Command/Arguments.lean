-- The arguments of the command line.
import Wsdl.File.Path

namespace Wsdl.Command

/-! ## What is asked for -/

/-- The options of a validation, as far as they are given. -/
structure Options where
  file : Option String
  json : Bool
  catalog : Option String
  skipsValidation : Bool
  deriving DecidableEq, Repr

def Options.none : Options := ⟨Option.none, false, Option.none, false⟩

/-- A validation: which file, with which catalog, and how it is reported. -/
structure Validation where
  file : String
  json : Bool
  catalog : Option String
  skipsValidation : Bool
  deriving DecidableEq, Repr

/-- What the arguments ask for. -/
inductive Request where
  | validate (v : Validation)
  | version
  | help
  /-- The arguments are not understood. -/
  | refused
  deriving DecidableEq, Repr

/-! ## Short options -/

/-- What a group of short options leads to. -/
inductive Group where
  | options (o : Options)
  /-- The option for the catalog comes last, and its value is the next
  argument. -/
  | needsCatalog (o : Options)
  | help
  | refused

/-- Gives the catalog, which may be given once and not be empty. -/
def Options.withCatalog (o : Options) (value : String) : Option Options :=
  if value.isEmpty || o.catalog.isSome then Option.none else some { o with catalog := some value }

/-- Asks for JSON, which may be asked for once. -/
def Options.withJson (o : Options) : Option Options :=
  if o.json then Option.none else some { o with json := true }

def Options.withoutValidation (o : Options) : Option Options :=
  if o.skipsValidation then Option.none else some { o with skipsValidation := true }

/-- Gives the file, which may be given once and not be empty. -/
def Options.withFile (o : Options) (value : String) : Option Options :=
  if value.isEmpty || o.file.isSome then Option.none else some { o with file := some value }

/-- Reads a group of short options. The rest of a group after the option
for the catalog is its value, with or without an equals sign. -/
def readGroup (o : Options) : List Char → Group
  | [] => .options o
  | 'v' :: cs => readGroup o cs
  | 'j' :: cs =>
    match o.withJson with
    | some o => readGroup o cs
    | Option.none => .refused
  | 'h' :: _ => .help
  | ['c'] => .needsCatalog o
  | 'c' :: cs =>
    let value := match cs with | '=' :: v => v | v => v
    match o.withCatalog (String.ofList value) with
    | some o => .options o
    | Option.none => .refused
  | _ => .refused

/-! ## Arguments of a validation -/

/-- The value that belongs to a long option, if the argument is that
option with an equals sign. -/
def valueAfter? (option argument : String) : Option String :=
  let start := option.toList ++ ['=']
  if start.isPrefixOf argument.toList then
    some (String.ofList (argument.toList.drop start.length))
  else Option.none

/-- Whether an argument looks like an option. A lone hyphen does not. -/
def looksLikeOption (a : String) : Bool :=
  match a.toList with
  | '-' :: _ :: _ => true
  | _ => false

/-- The request that complete options make. -/
def Options.request (o : Options) : Request :=
  match o.file with
  | some file => .validate ⟨file, o.json, o.catalog, o.skipsValidation⟩
  | Option.none => .refused

/-- The arguments that follow two hyphens: nothing but the file. -/
def readFiles (o : Options) : List String → Request
  | [] => o.request
  | a :: as =>
    match o.withFile a with
    | some o => readFiles o as
    | Option.none => .refused

/-- Reads the arguments of a validation. -/
def readValidation (o : Options) : List String → Request
  | [] => o.request
  | "--" :: as => readFiles o as
  | "--verbose" :: as => readValidation o as
  | "--help" :: _ => .help
  | "--json" :: as =>
    match o.withJson with
    | some o => readValidation o as
    | Option.none => .refused
  | "--no-validation" :: as =>
    match o.withoutValidation with
    | some o => readValidation o as
    | Option.none => .refused
  | ["--catalog"] => .refused
  | "--catalog" :: value :: as =>
    if looksLikeOption value then .refused
    else
      match o.withCatalog value with
      | some o => readValidation o as
      | Option.none => .refused
  | a :: as =>
    match valueAfter? "--catalog" a with
    | some value =>
      match o.withCatalog value with
      | some o => readValidation o as
      | Option.none => .refused
    | Option.none =>
      match a.toList with
      | '-' :: '-' :: _ => .refused
      | '-' :: c :: cs =>
        match readGroup o (c :: cs) with
        | .options o => readValidation o as
        | .help => .help
        | .refused => .refused
        | .needsCatalog o =>
          match as with
          | [] => .refused
          | value :: as =>
            if looksLikeOption value then .refused
            else
              match o.withCatalog value with
              | some o => readValidation o as
              | Option.none => .refused
      | _ =>
        match o.withFile a with
        | some o => readValidation o as
        | Option.none => .refused

/-! ## All arguments -/

/-- What a group of short options before the command asks for; nothing if
they only ask for more to be logged. -/
def readLeadingGroup : List Char → Option Request
  | [] => none
  | 'v' :: cs => readLeadingGroup cs
  | 'V' :: _ => some .version
  | 'h' :: _ => some .help
  | _ => some .refused

/-- Whether there is help on a command. -/
def hasHelp : List String → Bool
  | [] => true
  | [command] => command = "validate" || command = "help"
  | _ => false

/-- Reads the arguments. -/
def readArguments : List String → Request
  | [] => .refused
  | "validate" :: as => readValidation .none as
  | "help" :: commands => if hasHelp commands then .help else .refused
  | "--help" :: _ => .help
  | "--version" :: _ => .version
  | "--verbose" :: as => readArguments as
  | a :: as =>
    match a.toList with
    | '-' :: '-' :: _ => .refused
    | '-' :: c :: cs => (readLeadingGroup (c :: cs)).getD (readArguments as)
    | _ => .refused

end Wsdl.Command
