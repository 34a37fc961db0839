import ApiScribe.CommandLine.Options

/-!
Reading the arguments of a command line.  A long name takes its value behind `=` or from the next
argument, a letter from the rest of its argument or from the next one; letters of flags can stand in
one argument.

A value from an argument of its own is looked at only when the next flag or setting follows, or at the
end.  So an argument that cannot be read goes before a wrong value right in front of it.
-/

namespace ApiScribe.CommandLine

/-! ### Names -/

def Flag.ofName? : String → Option Flag
  | "disable-vendoring" => some .disableVendoring
  | "strict" => some .strict
  | "verbose" => some .verbose
  | "help" => some .help
  | "version" => some .version
  | _ => none

def Flag.ofLetter? : Char → Option Flag
  | 'v' => some .verbose
  | 'h' => some .help
  | 'V' => some .version
  | _ => none

def Setting.ofName? : String → Option Setting
  | "api-package" => some .apiPackage
  | "main-api-file" => some .mainApiFile
  | "controller-class" => some .controllerClass
  | "ignore" => some .ignore
  | "vendoring-path" => some .vendoringPath
  | "gopath" => some .goPath
  | "goroot" => some .goRoot
  | "base-path" => some .basePath
  | "marshal-override" => some .marshalOverride
  | "language" => some .language
  | "format" => some .format
  | "output" => some .output
  | _ => none

def Setting.ofLetter? : Char → Option Setting
  | 'l' => some .language
  | 'f' => some .format
  | 'o' => some .output
  | _ => none

/-! ### Arguments -/

/-- One thing that a command line says. -/
inductive Item where
  | flag (f : Flag)
  /-- A setting with its value, or without one. -/
  | setting (s : Setting) (value : Option String)
  | refused (why : Refusal)
  deriving DecidableEq, Repr

/-- A setting whose value stands in an argument of its own, with the value once it is read. -/
abbrev Pending := Option (Setting × Option String)

def Pending.items (p : Pending) : List Item := p.toList.map fun (s, value) => .setting s value

/-- Reads an argument behind its two dashes: what it says, and a setting that waits for its value. -/
def readLong (cs : List Char) : List Item × Option Setting :=
  let (name, value) := match Text.cutFirst (· == '=') cs with
    | some (name, value) => (String.ofList name, some (String.ofList value))
    | none => (String.ofList cs, none)
  match Flag.ofName? name, Setting.ofName? name, value with
  | some f, _, none => ([.flag f], none)
  | some _, _, some _ => ([.refused .unexpectedValue], none)
  | none, some s, none => ([], some s)
  | none, some s, some value => ([.setting s (some value)], none)
  | none, none, _ => ([.refused .unknownArgument], none)

/-- Reads an argument behind its single dash: what it says, and a setting that waits for its value.
An `=` between a letter and its value does not count. -/
def readLetters : List Char → List Item × Option Setting
  | [] => ([], none)
  | c :: cs =>
    match Flag.ofLetter? c, Setting.ofLetter? c, cs with
    | some f, _, _ => ((readLetters cs).1.cons (.flag f), (readLetters cs).2)
    | none, some s, [] => ([], some s)
    | none, some s, '=' :: value => ([.setting s (some (String.ofList value))], none)
    | none, some s, value => ([.setting s (some (String.ofList value))], none)
    | none, none, _ => ([.refused .unknownArgument], none)

/-- What an argument says behind a pending setting. -/
def follow (p : Pending) : List Item → List Item
  | .refused why :: _ => [.refused why]
  | said => p.items ++ said

def items (p : Pending) : List String → List Item
  | [] => p.items
  | arg :: args =>
    match arg.toList with
    | ['-', '-'] => if args.isEmpty then p.items else [.refused .unknownArgument]
    | '-' :: '-' :: cs =>
      let (said, waiting) := readLong cs
      follow p said ++ items (waiting.map fun s => (s, none)) args
    | '-' :: c :: cs =>
      let (said, waiting) := readLetters (c :: cs)
      follow p said ++ items (waiting.map fun s => (s, none)) args
    | _ =>
      match p with
      | some (s, none) => items (some (s, some arg)) args
      | _ => [.refused .unknownArgument]

/-- Carries out one thing that a command line says. -/
def Options.apply (o : Options) : Item → Except Refusal Options
  | .flag f => o.setFlag f
  | .setting s (some value) => o.set value s
  | .setting _ none => .error .invalidValue
  | .refused why => .error why

def read (args : List String) (e : Environment) : Except Refusal Options := do
  let o ← (items none args).foldlM Options.apply {}
  o.complete e

end ApiScribe.CommandLine
