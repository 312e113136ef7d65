/-!
# Command line options

Arguments are options `--name value` or `--name=value`, switches `--name`, and operands. Options and
operands may be mixed; behind `--` everything is an operand. No option may be given twice.
-/

namespace SpokenCommand.Options

/-- What a program accepts. -/
structure Spec where
  /-- The options that take a value. -/
  valued : List String := []
  /-- The switches. -/
  switches : List String := []
  /-- The greatest number of operands, if there is one. -/
  operands : Option Nat := some 0
  /-- Whether the program tells its version. -/
  versioned : Bool := false

/-- Arguments as they were given, each list in order. -/
structure Given where
  values : List (String × String) := []
  switches : List String := []
  operands : List String := []
deriving DecidableEq, Repr

/-- Why there is nothing to run. -/
inductive Stop where
  /-- The arguments make no sense. -/
  | usage
  /-- Help was asked for. -/
  | help
  /-- The version was asked for. -/
  | version
deriving DecidableEq, Repr

def Given.value? (g : Given) (name : String) : Option String := g.values.lookup name

def Given.has (g : Given) (name : String) : Bool := g.switches.contains name

/-- One more operand, if the program takes it. -/
def addOperand (spec : Spec) (g : Given) (operand : String) : Except Stop Given :=
  match spec.operands with
  | some most =>
    if g.operands.length < most then .ok { g with operands := g.operands ++ [operand] }
    else .error .usage
  | none => .ok { g with operands := g.operands ++ [operand] }

def addValue (g : Given) (name value : String) : Except Stop Given :=
  if (g.value? name).isSome then .error .usage
  else .ok { g with values := g.values ++ [(name, value)] }

def addSwitch (g : Given) (name : String) : Except Stop Given :=
  if g.has name then .error .usage else .ok { g with switches := g.switches ++ [name] }

/-- Whether an argument begins with a dash and is more than that. -/
def isDashed (arg : String) : Bool :=
  match arg.toList with
  | '-' :: _ :: _ => true
  | _ => false

/-- The name of a long option, and the value behind its equals sign. -/
def splitLong (cs : List Char) : String × Option String :=
  let name := cs.takeWhile (· != '=')
  match cs.dropWhile (· != '=') with
  | [] => (String.ofList name, none)
  | _ :: value => (String.ofList name, some (String.ofList value))

/-- What a long option means that the program does not take itself. -/
def stopLong (spec : Spec) (name : String) : Stop :=
  if name = "help" then .help
  else if spec.versioned ∧ name = "version" then .version
  else .usage

/-- What a short option means; programs take none themselves. -/
def stopShort (spec : Spec) (letter : Char) : Stop :=
  if letter = 'h' then .help
  else if spec.versioned ∧ letter = 'V' then .version
  else .usage

/-- Reads arguments into what was given so far. -/
def parseFrom (spec : Spec) (g : Given) (args : List String) : Except Stop Given :=
  match args with
  | [] => .ok g
  | arg :: rest =>
    match arg.toList with
    -- Everything behind a bare pair of dashes is an operand.
    | ['-', '-'] => rest.foldlM (addOperand spec) g
    | '-' :: '-' :: long =>
      let (name, value) := splitLong long
      if spec.valued.contains name then
        match value with
        | some value => do parseFrom spec (← addValue g name value) rest
        | none => match rest with
          | [] => .error .usage
          | value :: rest =>
            -- A value that looks like an option has to stand behind an equals sign.
            if isDashed value then .error .usage
            else do parseFrom spec (← addValue g name value) rest
      else if value.isSome then .error .usage
      else if spec.switches.contains name then do parseFrom spec (← addSwitch g name) rest
      else .error (stopLong spec name)
    | '-' :: letter :: _ => .error (stopShort spec letter)
    | _ => do parseFrom spec (← addOperand spec g arg) rest

def parse (spec : Spec) (args : List String) : Except Stop Given := parseFrom spec {} args

end SpokenCommand.Options
