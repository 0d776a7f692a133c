/-! What a list of command-line arguments asks for. Flags stand before or after the
name of a command, at most once in each of the two places. A formula may begin with a
dash: whatever is no flag of its command is the formula, and after `--` everything
is a value. -/
namespace CellArithmetic

inductive Command where
  | validate (formula : String) (json : Bool)
  | normalize (formula : String)
  | cells (formula : String) (json : Bool)
  | hash (formula : String)
  | diff (left right : String)
  | deps (file : String) (json : Bool)
  | version
deriving DecidableEq, Repr

structure Options where
  quiet : Bool
  verbose : Bool
  /-- Without colors. -/
  plain : Bool
deriving DecidableEq, Repr

inductive Request where
  | run (options : Options) (command : Command)
  | banner
  | help
  | misuse
deriving DecidableEq, Repr

namespace Request

inductive Flag where
  | quiet | verbose | plain | json | help | version
deriving DecidableEq, Repr

def Flag.word : Flag → String
  | quiet => "quiet" | verbose => "verbose" | plain => "no-color" | json => "json"
  | help => "help" | version => "version"

def Flag.letter? : Flag → Option Char
  | quiet => some 'q' | verbose => some 'v' | help => some 'h' | version => some 'V'
  | plain | json => none

/-- What may stand in one place: flags, and a number of values. -/
structure Place where
  flags : List Flag
  values : Nat
  /-- Whether a value may begin with a dash. -/
  dashes : Bool

inductive Meaning where
  | escape
  /-- Flags in the order in which they are raised; nothing stands for an unknown one. -/
  | flags (raised : List (Option Flag))
  | value

/-- The meaning of an argument in a place; `free` tells that a value is still missing. -/
def Place.meaning (place : Place) (free : Bool) (argument : String) : Meaning :=
  match argument.toList with
  | ['-', '-'] => .escape
  | '-' :: '-' :: rest =>
    let word := String.ofList (rest.takeWhile (· != '='))
    match place.flags.find? (·.word == word) with
    | some flag => .flags [if rest.contains '=' then none else some flag]
    | none => if place.dashes && free then .value else .flags [none]
  | '-' :: c :: rest =>
    let raised := (c :: rest).map fun letter => place.flags.find? (·.letter? == some letter)
    if place.dashes && free && raised.contains none then .value else .flags raised
  | _ => .value

/-- Adds raised flags to the flags of a place, none of them twice. A call for help or for
the version is followed at once. -/
def raise (seen : List Flag) : List (Option Flag) → Except Request (List Flag)
  | [] => .ok seen
  | some .help :: _ => .error .help
  | some .version :: _ => .error .banner
  | some flag :: rest => if seen.contains flag then .error .misuse else raise (flag :: seen) rest
  | none :: _ => .error .misuse

/-- Reads all arguments that are left in a place. -/
def Place.read (place : Place) (seen : List Flag) (values : List String) :
    List String → Except Request (List Flag × List String)
  | [] => if values.length = place.values then .ok (seen, values) else .error .misuse
  | argument :: rest =>
    match place.meaning (values.length < place.values) argument with
    | .escape =>
      if (values ++ rest).length = place.values then .ok (seen, values ++ rest) else .error .misuse
    | .flags raised =>
      match raise seen raised with
      | .error stop => .error stop
      | .ok seen => place.read seen values rest
    | .value =>
      if values.length < place.values then place.read seen (values ++ [argument]) rest
      else .error .misuse

/-- The place before the name of a command. -/
def front : Place := ⟨[.quiet, .verbose, .plain, .help, .version], 0, false⟩

def commands : List String :=
  ["validate", "normalize", "variables", "hash", "diff", "deps", "version", "help"]

/-- The place after the name of a command. -/
def behind (name : String) : Option Place :=
  let shared := [Flag.quiet, .verbose, .plain, .help]
  match name with
  | "validate" | "variables" => some ⟨.json :: shared, 1, true⟩
  | "normalize" | "hash" => some ⟨shared, 1, true⟩
  | "diff" => some ⟨shared, 2, true⟩
  | "deps" => some ⟨.json :: shared, 1, false⟩
  | "version" => some ⟨shared, 0, false⟩
  | _ => none

def command? (name : String) (json : Bool) (values : List String) : Option Command :=
  match name, values with
  | "validate", [formula] => some (.validate formula json)
  | "normalize", [formula] => some (.normalize formula)
  | "variables", [formula] => some (.cells formula json)
  | "hash", [formula] => some (.hash formula)
  | "diff", [left, right] => some (.diff left right)
  | "deps", [file] => if file.isEmpty then none else some (.deps file json)
  | "version", [] => some .version
  | _, _ => none

/-- Reads what stands behind the name of a command. -/
def ofCommand (seen : List Flag) (name : String) (arguments : List String) : Request :=
  match behind name with
  | none =>
    if name == "help" && arguments.length ≤ 1 && arguments.all commands.contains then .help else .misuse
  | some place =>
    match place.read [] [] arguments with
    | .error stop => stop
    | .ok (raised, values) =>
      match command? name (raised.contains .json) values with
      | none => .misuse
      | some command =>
        let isRaised := fun flag => seen.contains flag || raised.contains flag
        .run ⟨isRaised .quiet, isRaised .verbose, isRaised .plain⟩ command

def ofArgumentsWith (seen : List Flag) : List String → Request
  | [] => .misuse
  | argument :: rest =>
    match front.meaning false argument with
    | .escape => .misuse
    | .flags raised =>
      match raise seen raised with
      | .error stop => stop
      | .ok seen => ofArgumentsWith seen rest
    | .value => ofCommand seen argument rest

def ofArguments (arguments : List String) : Request := ofArgumentsWith [] arguments

end CellArithmetic.Request
