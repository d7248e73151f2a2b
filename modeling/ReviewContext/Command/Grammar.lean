import ReviewContext.Json.Given
import ReviewContext.Text.Numeral

/-!
# Reading an argument list

A program declares its options and one positional argument, which may stand for a subcommand and
then takes all that follows. Words are read as follows. A word that begins with a hyphen is an
option: by its full name, by an unambiguous beginning of a long name, or as short options written
together; a value may follow an equals sign, and is blank if it is a double hyphen there. Negative
numbers, words with a space and a lone hyphen are arguments, and so is everything behind a double
hyphen. Options that are not known are left over, and so are arguments beyond the positional one.
-/

namespace ReviewContext.Command

open ReviewContext.Text

/-- What an option does. -/
inductive Effect where
  | help
  | version
  | mark
  | takeText
  | takeInteger
  deriving DecidableEq, Repr

structure OptionSpec where
  /-- The name under which occurrences are kept. -/
  key : String
  names : List String
  effect : Effect
  deriving DecidableEq, Repr

def OptionSpec.takesValue (spec : OptionSpec) : Bool :=
  spec.effect == .takeText || spec.effect == .takeInteger

/-- Why reading ends without a result. -/
inductive Stop where
  | usage
  | help
  | version
  deriving DecidableEq, Repr

/-- An option as written: the known option if there is one, the name used, and a value that is
written into the same word, after an equals sign or directly. -/
structure OptionWord where
  spec : Option OptionSpec
  name : String
  value : Option (List Char)
  deriving DecidableEq, Repr

inductive WordClass where
  | option (option : OptionWord)
  | argument
  | separator
  deriving DecidableEq, Repr

structure Word where
  text : String
  cls : WordClass
  deriving DecidableEq, Repr

/-- All names with their options, in the order of declaration. -/
def namedSpecs (specs : List OptionSpec) : List (String × OptionSpec) :=
  specs.flatMap fun spec => spec.names.map fun name => (name, spec)

def findSpec? (specs : List OptionSpec) (name : String) : Option OptionSpec :=
  (namedSpecs specs).lookup name

/-- The characters before the first equals sign, and those behind it if there is one. -/
def splitAtEquals (chars : List Char) : List Char × Option (List Char) :=
  match chars.dropWhile fun c => c != '=' with
  | _ :: value => (chars.takeWhile fun c => c != '=', some value)
  | [] => (chars, none)

def isLong : List Char → Bool
  | '-' :: '-' :: _ => true
  | _ => false

/-- The options of which a word may be an abbreviation or a beginning. -/
def abbreviations (specs : List OptionSpec) (chars : List Char) : List OptionWord :=
  if isLong chars then
    let (head, value) := splitAtEquals chars
    ((namedSpecs specs).filter fun (name, _) => head.isPrefixOf name.toList).map
      fun (name, spec) => ⟨some spec, name, value⟩
  else
    (namedSpecs specs).filterMap fun (name, spec) =>
      if name.toList = chars.take 2 then some ⟨some spec, name, some (chars.drop 2)⟩
      else if chars.isPrefixOf name.toList then some ⟨some spec, name, none⟩
      else none

def isDigitRun (chars : List Char) : Bool :=
  !chars.isEmpty && chars.all isDigit

/-- Whether a word is a negative number: digits behind a hyphen, perhaps with a point in front of
the last ones, and perhaps a line feed at the end. -/
def isNegativeNumber (chars : List Char) : Bool :=
  match chars with
  | '-' :: rest =>
    let digits := if rest.getLast? = some '\n' then rest.dropLast else rest
    let places := digits.dropWhile isDigit
    isDigitRun digits || (places.head? == some '.' && isDigitRun (places.drop 1))
  | _ => false

/-- Reads a word that is no full option name. -/
def readBeginning (specs : List OptionSpec) (text : String) : Except Stop WordClass :=
  match abbreviations specs text.toList with
  | _ :: _ :: _ => .error .usage
  | [option] => .ok (.option option)
  | [] =>
    if isNegativeNumber text.toList || text.toList.contains ' ' then .ok .argument
    else .ok (.option ⟨none, text, none⟩)

/-- Reads a word in front of any separator. -/
def classify (specs : List OptionSpec) (text : String) : Except Stop WordClass :=
  if text.toList.head? ≠ some '-' then .ok .argument
  else
    match findSpec? specs text with
    | some spec => .ok (.option ⟨some spec, text, none⟩)
    | none =>
      if text.length = 1 then .ok .argument
      else
        let (head, value) := splitAtEquals text.toList
        match value, findSpec? specs (String.ofList head) with
        | some value, some spec =>
          .ok (.option ⟨some spec, String.ofList head, some value⟩)
        | _, _ => readBeginning specs text

def classifyAll (specs : List OptionSpec) : List String → Except Stop (List Word)
  | [] => .ok []
  | text :: rest =>
    if text = "--" then
      .ok (⟨text, .separator⟩ :: rest.map fun other => ⟨other, .argument⟩)
    else do
      let cls ← classify specs text
      let words ← classifyAll specs rest
      return ⟨text, cls⟩ :: words

/-- An option that occurred, with its value; one that takes none has a blank. -/
structure Occurrence where
  spec : OptionSpec
  value : Given String
  deriving DecidableEq, Repr

/-- A value written into the word of its option. -/
def writtenValue (chars : List Char) : Given String :=
  if chars = ['-', '-'] then .blank else .filled (String.ofList chars)

/-- Short options written together, from one with the text behind it on, and the last of them if it
is still without its value. Each of them has to be known, and one that takes a value takes all the
text behind it. -/
def readCluster (specs : List OptionSpec) (spec : OptionSpec) :
    List Char → Except Stop (List Occurrence × Option OptionSpec)
  | [] => if spec.takesValue then .ok ([⟨spec, writtenValue []⟩], none) else .error .usage
  | c :: rest =>
    if spec.takesValue then .ok ([⟨spec, writtenValue (c :: rest)⟩], none)
    else
      match findSpec? specs (String.ofList ['-', c]) with
      | none => .error .usage
      | some next =>
        if rest.isEmpty then .ok ([⟨spec, .blank⟩], some next)
        else do
          let (others, last) ← readCluster specs next rest
          return (⟨spec, .blank⟩ :: others, last)

/-- Reads an option with a value in its word, as `readCluster` does. A long option that takes no
value must not have one. -/
def readValued (specs : List OptionSpec) (spec : OptionSpec) (name : String)
    (value : List Char) : Except Stop (List Occurrence × Option OptionSpec) :=
  if isLong name.toList && !spec.takesValue then .error .usage else readCluster specs spec value

/-- What has been read so far. -/
structure Reading where
  occurrences : List Occurrence
  /-- The words of the positional argument once it was met. -/
  positional : Option (List String)
  leftover : List String
  deriving DecidableEq, Repr

namespace Reading

def start : Reading :=
  ⟨[], none, []⟩

/-- Lets an option take effect. -/
def take (reading : Reading) (occurrence : Occurrence) : Except Stop Reading :=
  match occurrence.spec.effect with
  | .help => .error .help
  | .version => .error .version
  | .takeInteger =>
    if occurrence.value.value?.all fun text => (readInteger? text).isSome then
      .ok { reading with occurrences := reading.occurrences ++ [occurrence] }
    else .error .usage
  | _ => .ok { reading with occurrences := reading.occurrences ++ [occurrence] }

def takeAll (reading : Reading) : List Occurrence → Except Stop Reading
  | [] => .ok reading
  | occurrence :: rest => do (← reading.take occurrence).takeAll rest

def leave (reading : Reading) (texts : List String) : Reading :=
  { reading with leftover := reading.leftover ++ texts }

end Reading

/-- An option without a value in its word, and the words behind what it takes. -/
def readPlain (spec : OptionSpec) (words : List Word) :
    Except Stop (Occurrence × List Word) :=
  if spec.takesValue then
    match words with
    | ⟨text, .argument⟩ :: rest => .ok (⟨spec, .filled text⟩, rest)
    | _ => .error .usage
  else .ok (⟨spec, .blank⟩, words)

/-- Reads an option at the head of some words. -/
def readOption (specs : List OptionSpec) (reading : Reading) (text : String)
    (option : OptionWord) (words : List Word) : Except Stop (Reading × List Word) :=
  match option.spec, option.value with
  | none, _ => .ok (reading.leave [text], words)
  | some spec, none => do
    let (occurrence, rest) ← readPlain spec words
    return (← reading.take occurrence, rest)
  | some spec, some value => do
    let (found, last) ← readValued specs spec option.name value
    match last with
    | none => return (← reading.takeAll found, words)
    | some spec =>
      let (occurrence, rest) ← readPlain spec words
      return (← reading.takeAll (found ++ [occurrence]), rest)

/-- How a positional argument is taken: a single word, or a subcommand with all that follows. -/
inductive Positional where
  | single
  | subcommand
  deriving DecidableEq, Repr

namespace Word

def isSeparator (word : Word) : Bool :=
  word.cls == .separator

def isOption (word : Word) : Bool :=
  match word.cls with
  | .option _ => true
  | _ => false

end Word

/-- Takes the positional argument at the head of some words if it is there. -/
def takePositional? (positional : Positional) (words : List Word) :
    Option (List String × List Word) :=
  match words.dropWhile Word.isSeparator with
  | ⟨text, .argument⟩ :: rest =>
    match positional with
    | .single => some ([text], rest.dropWhile Word.isSeparator)
    | .subcommand => some (words.map Word.text, [])
  | _ => none

/-- Reads words, the positional argument as soon as it is met. The number bounds the steps. -/
def readWords (specs : List OptionSpec) (positional : Positional) (reading : Reading) :
    Nat → List Word → Except Stop Reading
  | 0, words => .ok (reading.leave (words.map Word.text))
  | _ + 1, [] => .ok reading
  | fuel + 1, ⟨text, .option option⟩ :: rest => do
    let (reading, rest) ← readOption specs reading text option rest
    readWords specs positional reading fuel rest
  | fuel + 1, word :: rest =>
    match reading.positional, takePositional? positional (word :: rest) with
    | none, some (taken, behind) =>
      readWords specs positional { reading with positional := some taken } fuel behind
    | _, _ =>
      let (skipped, behind) := (word :: rest).span fun other => !other.isOption
      readWords specs positional (reading.leave (skipped.map Word.text)) fuel behind

/-- Reads an argument list. -/
def readArguments (specs : List OptionSpec) (positional : Positional) (arguments : List String) :
    Except Stop Reading := do
  let words ← classifyAll specs arguments
  readWords specs positional Reading.start (words.length + 1) words

namespace Reading

/-- The value of the last occurrence of an option. -/
def last? (reading : Reading) (key : String) : Option (Given String) :=
  (reading.occurrences.reverse.find? fun occurrence => occurrence.spec.key == key).map
    Occurrence.value

/-- The last value of an option unless it is blank. -/
def lastText? (reading : Reading) (key : String) : Option String :=
  (reading.last? key).bind Given.value?

def lastInteger? (reading : Reading) (key : String) : Option (Given Int) :=
  match reading.last? key with
  | some (.filled text) => (readInteger? text).map .filled
  | some .blank => some .blank
  | none => none

def count (reading : Reading) (key : String) : Nat :=
  (reading.occurrences.filter fun occurrence => occurrence.spec.key == key).length

def has (reading : Reading) (key : String) : Bool :=
  reading.count key != 0

end Reading

end ReviewContext.Command
