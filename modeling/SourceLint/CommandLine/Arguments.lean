set_option autoImplicit false

/-!
# Arguments of a command line

The arguments of a command are options and operands. A long option starts with two hyphens, and its
value, if it takes one, follows behind an equals sign or as the next argument, whatever that looks
like. A short option is a hyphen and a letter; several may share one hyphen, and the value of the
last one may follow at once. A double hyphen ends the options, and a single hyphen is an operand.

A command either accepts options among its operands, or its operands start with the first argument
that is no option and take all the rest.

## Main definitions

* `OptionSpec` — a spelling of an option.
* `Arguments` — the options and operands of a command line.
* `Arguments.read?` — reads a command line, unless an option is unknown, lacks its value or has one
  that it does not take.
-/

namespace SourceLint

/-- A spelling of an option: what it stands for, and whether it takes a value. -/
structure OptionSpec (κ : Type) where
  spelling : String
  meaning : κ
  takesValue : Bool := false

/-- The options with their values, empty for those that take none, and the operands, in order. -/
structure Arguments (κ : Type) where
  options : List (κ × String)
  operands : List String

/-- What one argument says: the options that are complete, and the one that waits for its value. -/
structure OptionReading (κ : Type) where
  complete : List (κ × String)
  awaiting : Option κ

namespace Arguments

variable {κ : Type}

/-- The option of a spelling. -/
def specOf? (specs : List (OptionSpec κ)) (spelling : List Char) : Option (OptionSpec κ) :=
  specs.find? (·.spelling.toList == spelling)

/-- Whether a text starts with two hyphens. -/
def isLong (cs : List Char) : Bool :=
  ['-', '-'].isPrefixOf cs

/-- A long option: its spelling, and the value behind an equals sign. -/
def splitValue (cs : List Char) : List Char × Option (List Char) :=
  match cs.dropWhile (· != '=') with
  | [] => (cs, none)
  | _ :: value => (cs.takeWhile (· != '='), some value)

/-- Reads a long option. -/
def readLong? (specs : List (OptionSpec κ)) (cs : List Char) : Option (OptionReading κ) := do
  let (spelling, value) := splitValue cs
  let spec ← specOf? specs spelling
  match spec.takesValue, value with
  | true, some value => some ⟨[(spec.meaning, String.ofList value)], none⟩
  | true, none => some ⟨[], some spec.meaning⟩
  | false, some _ => none
  | false, none => some ⟨[(spec.meaning, "")], none⟩

/-- Reads the letters of short options behind their hyphen. -/
def readShort? (specs : List (OptionSpec κ)) : List Char → Option (OptionReading κ)
  | [] => some ⟨[], none⟩
  | letter :: rest => do
    let spec ← specOf? specs ['-', letter]
    if spec.takesValue then
      if rest.isEmpty then some ⟨[], some spec.meaning⟩
      else some ⟨[(spec.meaning, String.ofList rest)], none⟩
    else
      let others ← readShort? specs rest
      some ⟨(spec.meaning, "") :: others.complete, others.awaiting⟩

/-- Reads an argument that is an option. -/
def readOption? (specs : List (OptionSpec κ)) (cs : List Char) : Option (OptionReading κ) :=
  if isLong cs then readLong? specs cs else readShort? specs (cs.drop 1)

/-- Whether an argument is an option: it starts with a hyphen and goes on. -/
def isOption (cs : List Char) : Bool :=
  cs.head? == some '-' && 1 < cs.length

/-- Arguments with more options in front. -/
def addOptions (options : List (κ × String)) (arguments : Arguments κ) : Arguments κ :=
  { arguments with options := options ++ arguments.options }

/-- Arguments with one more operand in front. -/
def addOperand (operand : String) (arguments : Arguments κ) : Arguments κ :=
  { arguments with operands := operand :: arguments.operands }

/-- Reads a command line; `mixed` says whether options may stand among the operands. -/
def read? (specs : List (OptionSpec κ)) (mixed : Bool) : List String → Option (Arguments κ)
  | [] => some ⟨[], []⟩
  | "--" :: rest => some ⟨[], rest⟩
  | argument :: rest =>
    if isOption argument.toList then
      match readOption? specs argument.toList with
      | none => none
      | some reading =>
        match reading.awaiting, rest with
        | none, rest => (read? specs mixed rest).map (addOptions reading.complete)
        | some _, [] => none
        | some meaning, value :: rest =>
          (read? specs mixed rest).map (addOptions (reading.complete ++ [(meaning, value)]))
    else if mixed then (read? specs mixed rest).map (addOperand argument)
    else some ⟨[], argument :: rest⟩

/-- The value of the last option with a meaning. -/
def lastValue? [BEq κ] (arguments : Arguments κ) (meaning : κ) : Option String :=
  (arguments.options.reverse.find? (·.1 == meaning)).map (·.2)

/-- The values of all options with a meaning. -/
def values [BEq κ] (arguments : Arguments κ) (meaning : κ) : List String :=
  (arguments.options.filter (·.1 == meaning)).map (·.2)

/-- Whether an option was given. -/
def has [BEq κ] (arguments : Arguments κ) (meaning : κ) : Bool :=
  arguments.options.any (·.1 == meaning)

end Arguments

end SourceLint
