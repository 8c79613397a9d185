import NativeFinder.Text.Basic

/-!
# Arguments of a command line

Arguments are words. A word that begins with a dash names an option, by its long name after
two dashes or by its letter after one; several letters may share a dash. Some options take a
value: what is left of their word, behind an equals sign for a long name, or the next word
whatever it looks like. Two dashes alone end the options. All other words are the positional
arguments.

Reading fails if an option is not known, or lacks its value, or has one that it does not take.
-/

namespace NativeFinder

/-- An option that a command knows. -/
structure OptionShape where
  /-- The name that it is known by inside the program. -/
  name : Text
  long : Text
  letter : Option Char
  takesValue : Bool
deriving DecidableEq, Inhabited

/-- What the words of a command line say. -/
structure Arguments where
  /-- The options in their order, with their values; one without a value has the empty text. -/
  options : List (Text × Text)
  positional : List Text
deriving DecidableEq, Inhabited

namespace Arguments

/-- Puts an option in front. -/
def withOption (option : OptionShape) (value : Text) (arguments : Arguments) : Arguments :=
  { arguments with options := (option.name, value) :: arguments.options }

/-- Puts a positional argument in front. -/
def withPositional (word : Text) (arguments : Arguments) : Arguments :=
  { arguments with positional := word :: arguments.positional }

/-- The letters of a word: options without values, and perhaps one with a value at the end. Gives
the options read, and one whose value is the next word. -/
def readLetters? (shapes : List OptionShape) :
    Text → Option (List (OptionShape × Text) × Option OptionShape)
  | [] => some ([], none)
  | letter :: rest => do
    let shape ← shapes.find? fun shape => shape.letter == some letter
    if shape.takesValue then
      if rest.isEmpty then some ([], some shape) else some ([(shape, rest)], none)
    else
      let (options, open?) ← readLetters? shapes rest
      some ((shape, []) :: options, open?)

/-- An option word: the options that it holds, and one whose value is the next word. -/
def readOption? (shapes : List OptionShape) (word : Text) :
    Option (List (OptionShape × Text) × Option OptionShape) :=
  let (name, value) := match Text.splitFirst? ['='] word with
    | some (name, value) => (name, some value)
    | none => (word, none)
  match shapes.find? fun shape => shape.long == name, value with
  | some shape, some value => if shape.takesValue then some ([(shape, value)], none) else none
  | some shape, none =>
    if shape.takesValue then some ([], some shape) else some ([(shape, [])], none)
  | none, _ => if ['-', '-'].isPrefixOf word then none else readLetters? shapes (word.drop 1)

/-- Whether a word names options. -/
def isOption (word : Text) : Bool := word.head? == some '-' && 1 < word.length

/-- Reads words. Where options and positional arguments may not be mixed, the first positional
argument ends the options. -/
def read? (shapes : List OptionShape) (mixed : Bool) : List Text → Option Arguments
  | [] => some ⟨[], []⟩
  | word :: words =>
    if word = ['-', '-'] then some ⟨[], words⟩
    else if isOption word then
      match readOption? shapes word, words with
      | none, _ => none
      | some (options, none), words =>
        (read? shapes mixed words).map fun arguments =>
          options.foldr (fun o arguments => arguments.withOption o.1 o.2) arguments
      | some (_, some _), [] => none
      | some (options, some last), value :: words =>
        (read? shapes mixed words).map fun arguments =>
          options.foldr (fun o arguments => arguments.withOption o.1 o.2)
            (arguments.withOption last value)
    else if mixed then (read? shapes mixed words).map (withPositional word)
    else some ⟨[], word :: words⟩

/-- Whether an option is given. -/
def has (arguments : Arguments) (name : Text) : Bool :=
  arguments.options.any fun option => option.1 == name

/-- All values of an option in order. -/
def values (arguments : Arguments) (name : Text) : List Text :=
  arguments.options.filterMap fun option => if option.1 == name then some option.2 else none

/-- The value of an option; of several the last one counts. -/
def value? (arguments : Arguments) (name : Text) : Option Text :=
  (arguments.values name).getLast?

end Arguments

end NativeFinder
