import Traversal.Shell.Command

/-!
# Options of tools

The arguments of a tool are options, which begin with a dash and are made of letters, and operands.  Some
letters have a value: what follows in the same argument, or else the next argument.  Two dashes end the
options.  Reading stops at the first mistake, but what stands before it has been read.
-/

namespace Traversal.Shell

/-- What is wrong with the options of a tool. -/
inductive OptionFault
  /-- No option has this letter. -/
  | letter (c : Char)
  /-- No option has this name. -/
  | name (text : Text)
  /-- The value of the option is missing. -/
  | value (c : Char)
deriving DecidableEq, Repr

namespace OptionFault

/-- What a tool says about a fault. -/
def message : OptionFault → Text
  | letter c => Text.ofString "invalid option -- '" ++ [c, '\'']
  | name text => Text.ofString "unrecognized option '" ++ text ++ ['\'']
  | value c => Text.ofString "option requires an argument -- '" ++ [c, '\'']

end OptionFault

/-- The arguments of a tool, told apart. -/
structure Operation where
  /-- The options in order, each with its value if it has one. -/
  options : List (Char × Text) := []
  operands : List Text := []
  fault? : Option OptionFault := none
deriving DecidableEq, Repr

namespace Operation

/-- Whether an option was given. -/
def has (o : Operation) (letter : Char) : Bool :=
  o.options.any (·.1 = letter)

/-- The value of an option; the last one counts. -/
def value? (o : Operation) (letter : Char) : Option Text :=
  (o.options.filter (·.1 = letter)).getLast?.map (·.2)

end Operation

/-- The options that a tool takes. -/
structure Letters where
  /-- The letters without a value. -/
  plain : Text := []
  /-- The letters with a value. -/
  valued : Text := []
  /-- Whether an operand ends the options. -/
  isStrict : Bool := false
deriving DecidableEq, Repr

namespace Letters

/-- Reads the letters of one argument; the last one may wait for its value. -/
def readWord (l : Letters) : Text → List (Char × Text) × Except OptionFault (Option Char)
  | [] => ([], .ok none)
  | c :: rest =>
    if l.plain.contains c then
      let (options, result) := l.readWord rest
      ((c, []) :: options, result)
    else if l.valued.contains c then
      if rest.isEmpty then ([], .ok (some c)) else ([(c, rest)], .ok none)
    else ([], .error (.letter c))

/-- Tells arguments apart, the first of which may be the value of a letter. -/
def readFrom (l : Letters) : Option Char → List Text → Operation
  | none, [] => {}
  | some c, [] => { fault? := some (.value c) }
  | some c, a :: rest =>
    let o := l.readFrom none rest
    { o with options := (c, a) :: o.options }
  | none, a :: rest =>
    match a with
    | ['-', '-'] => { operands := rest }
    | '-' :: '-' :: _ => { fault? := some (.name a) }
    | '-' :: c :: letters =>
      match l.readWord (c :: letters) with
      | (options, .ok pending) =>
        let o := l.readFrom pending rest
        { o with options := options ++ o.options }
      | (options, .error fault) => { options, fault? := some fault }
    | _ =>
      if l.isStrict then { operands := a :: rest }
      else
        let o := l.readFrom none rest
        { o with operands := a :: o.operands }

/-- Tells arguments apart. -/
def read (l : Letters) (arguments : List Text) : Operation :=
  l.readFrom none arguments

end Letters

end Traversal.Shell
