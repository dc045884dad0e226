import KeyCatalog.Generation
/-!
The command line. Arguments are read from left to right: the first one that is wrong decides, and
a request for help counts if nothing before it is wrong. Only when all of them are read is a
missing destination noticed, and only then is the collection looked up.
-/
namespace KeyCatalog.CommandLine

/-- A flag; every flag takes a value. -/
inductive Flag where
  | input
  | outputGo
  | outputTypeScript
  | collectionType
  | goPackage
  | domainSuffix
deriving DecidableEq, Repr

def Flag.all : List Flag :=
  [.input, .outputGo, .outputTypeScript, .collectionType, .goPackage, .domainSuffix]

def Flag.name : Flag → String
  | .input => "--input"
  | .outputGo => "--output_go"
  | .outputTypeScript => "--output_ts"
  | .collectionType => "--collection_type"
  | .goPackage => "--go_package"
  | .domainSuffix => "--domain_suffix"

def Flag.purpose : Flag → String
  | .input => "Catalog YAML to read; the bundled catalog is used when omitted"
  | .outputGo => "Destination of the Go listing"
  | .outputTypeScript => "Destination of the TypeScript listing"
  | .collectionType => "Collection to generate: annotations or labels"
  | .goPackage => "Go package clause; defaults to the directory containing --output_go"
  | .domainSuffix => "Namespace suffix removed before deriving identifiers"

/-- Holds for a flag whose value is the path of a file, which cannot be empty. -/
def Flag.isPath : Flag → Bool
  | .input | .outputGo | .outputTypeScript => true
  | .collectionType | .goPackage | .domainSuffix => false

def Flag.ofName? (name : Text) : Option Flag :=
  all.find? (·.name.toList = name)

/-- The values of flags, each flag at most once. -/
abbrev Settings := List (Flag × String)

structure Options where
  input : Option String
  outputGo : String
  outputTypeScript : String
  collectionType : String
  goPackage : Option String
  domainSuffix : String
deriving DecidableEq, Repr

inductive Reading where
  | help
  | wrong
  | options (options : Options)
deriving DecidableEq, Repr

def value? (settings : Settings) (flag : Flag) : Option String :=
  (settings.find? (·.1 = flag)).map (·.2)

/-- Gives a flag a value, unless it has one or the value is no good. -/
def add? (settings : Settings) (flag : Flag) (value : String) : Option Settings :=
  if (value? settings flag).isSome || flag.isPath && value = "" then none
  else some ((flag, value) :: settings)

def finish (settings : Settings) : Reading :=
  match value? settings .outputGo, value? settings .outputTypeScript with
  | some outputGo, some outputTypeScript =>
    .options ⟨value? settings .input, outputGo, outputTypeScript,
      (value? settings .collectionType).getD "annotations", value? settings .goPackage,
      (value? settings .domainSuffix).getD defaultSuffix⟩
  | _, _ => .wrong

def asksForHelp (argument : String) : Bool :=
  argument = "--help" || ['-', 'h'].isPrefixOf argument.toList

/-- Holds for an argument that cannot be the value of the flag before it. -/
def isDashed (argument : String) : Bool :=
  ['-'].isPrefixOf argument.toList && argument ≠ "-"

/-- Reads arguments, given the flag that still waits for its value. -/
def read (settings : Settings) : (waiting : Option Flag) → List String → Reading
  | none, [] => finish settings
  | some _, [] => .wrong
  | some flag, value :: rest =>
    if isDashed value then .wrong
    else
      match add? settings flag value with
      | none => .wrong
      | some settings => read settings none rest
  | none, argument :: rest =>
    if argument = "--" then if rest.isEmpty then finish settings else .wrong
    else if asksForHelp argument then .help
    else
      match Flag.ofName? (argument.toList.takeWhile (· ≠ '=')),
        argument.toList.dropWhile (· ≠ '=') with
      | none, _ => .wrong
      | some flag, [] => read settings (some flag) rest
      | some flag, _ :: value =>
        match add? settings flag (String.ofList value) with
        | none => .wrong
        | some settings => read settings none rest

def parse (arguments : List String) : Reading :=
  read [] none arguments

def Options.request (options : Options) : Except Collection.Unrecognized Request :=
  match Collection.parse options.collectionType with
  | .error error => .error error
  | .ok collection =>
    .ok ⟨options.input, collection, options.outputGo, options.outputTypeScript,
      options.goPackage, options.domainSuffix⟩

def success : Nat := 0

def failure : Nat := 1

def misuse : Nat := 2

/-- Runs the command on a tree of files: its exit code, and the tree after it. -/
def run (tree : FileTree) (arguments : List String) : Nat × FileTree :=
  match parse arguments with
  | .help => (success, tree)
  | .wrong => (misuse, tree)
  | .options options =>
    match options.request with
    | .error _ => (failure, tree)
    | .ok request =>
      let outcome := Generation.run tree request
      match outcome.result with
      | .error _ => (failure, outcome.tree)
      | .ok _ => (success, outcome.tree)

end KeyCatalog.CommandLine
