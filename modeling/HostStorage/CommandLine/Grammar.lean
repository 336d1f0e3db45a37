import HostStorage.Text.Split

/-!
# Words of a command line

A command has options, written `--name value`, `--name=value` or with a dash and a letter, and
words in a fixed order. The words of a command line are read one by one. An option's value is the
next word unless that word looks like an option; after a lone `--` nothing is an option any more.
Some commands pass further words on: the first of them, and any word that looks like an option but
is none, ends the reading of options.
-/
namespace HostStorage.CommandLine

inductive Refusal where
  | help | misuse
  deriving DecidableEq, Repr

/-- An option of a command. An option without a value is a flag. -/
structure OptionForm where
  name : String
  letter : Option Char := none
  takesValue : Bool := true
  repeatable : Bool := false
  accepts : String → Bool := fun _ => true

structure Form where
  options : List OptionForm := []
  words : List (String → Bool) := []
  takesMore : Bool := false
  passesOn : Bool := false

def helpFlag : OptionForm where
  name := "help"
  letter := some 'h'
  takesValue := false

inductive Role where
  | plain | ending | unknown
  | option (o : OptionForm) (value : Option String)

namespace Form

def allOptions (f : Form) : List OptionForm := helpFlag :: f.options

def named? (f : Form) (name : List Char) : Option OptionForm :=
  f.allOptions.find? (·.name.toList == name)

def lettered? (f : Form) (c : Char) : Option OptionForm :=
  f.allOptions.find? (·.letter == some c)

/-- The role of what follows two dashes. -/
def longRole (f : Form) (cs : List Char) : Role :=
  let (name, value) := match Text.cut? ['='] cs with
    | some (name, value) => (name, some (String.ofList value))
    | none => (cs, none)
  match f.named? name with
  | some o => .option o value
  | none => .unknown

/-- The role of what follows one dash: a letter and, for an option with a value, the value. -/
def shortRole (f : Form) (c : Char) (r : List Char) : Role :=
  if f.passesOn && (c :: r).any (f.lettered? · |>.isNone) then .unknown
  else match f.lettered? c with
    | none => .unknown
    | some o =>
      let value := String.ofList (Text.withoutStart ['='] r)
      .option o (if o.takesValue && !r.isEmpty then some value else none)

def role (f : Form) (word : String) : Role :=
  match word.toList with
  | ['-', '-'] => .ending
  | '-' :: '-' :: name => f.longRole name
  | '-' :: c :: r => f.shortRole c r
  | _ => .plain

end Form

/-- What has been read: the options given with their values, the option that waits for its value,
the words, and whether options are still recognised. -/
structure Reading where
  given : List (String × String) := []
  waiting : Option OptionForm := none
  words : List String := []
  optionsEnded : Bool := false

namespace Reading

def settle (s : Reading) (o : OptionForm) (value : String) : Except Refusal Reading :=
  if !o.accepts value || (!o.repeatable && s.given.any (·.1 == o.name)) then .error .misuse
  else .ok { s with given := s.given ++ [(o.name, value)], waiting := none }

def addWord (f : Form) (s : Reading) (word : String) : Except Refusal Reading :=
  match f.words[s.words.length]? with
  | some accepts =>
    if accepts word then .ok { s with words := s.words ++ [word] } else .error .misuse
  | none =>
    if f.takesMore then
      .ok { s with words := s.words ++ [word], optionsEnded := s.optionsEnded || f.passesOn }
    else .error .misuse

def addOption (s : Reading) (o : OptionForm) (value : Option String) : Except Refusal Reading :=
  if s.waiting.isSome then .error .misuse
  else match o.takesValue, value with
    | true, some v => s.settle o v
    | true, none => .ok { s with waiting := some o }
    | false, some _ => .error .misuse
    | false, none => if o.name == helpFlag.name then .error .help else s.settle o ""

/-- Takes a word that is no option: a value if an option waits for one. -/
def addPlain (f : Form) (s : Reading) (word : String) : Except Refusal Reading :=
  match s.waiting with
  | some o => s.settle o word
  | none => s.addWord f word

def next (f : Form) (s : Reading) (word : String) : Except Refusal Reading :=
  if s.optionsEnded then s.addWord f word
  else match f.role word with
    | .plain => s.addPlain f word
    | .ending => if s.waiting.isSome then .error .misuse else .ok { s with optionsEnded := true }
    | .unknown => if f.passesOn then s.addPlain f word else .error .misuse
    | .option o value => s.addOption o value

/-- Refuses a reading in which a value or a word is missing. -/
def complete (f : Form) (s : Reading) : Except Refusal Reading :=
  if s.waiting.isSome || s.words.length < f.words.length then .error .misuse else .ok s

def ofWords (f : Form) (words : List String) : Except Refusal Reading := do
  (← words.foldlM (next f) {}).complete f

def value? (s : Reading) (name : String) : Option String := s.given.lookup name

/-- The value of an option, or an empty text. -/
def value (s : Reading) (name : String) : String := (s.value? name).getD ""

def values (s : Reading) (name : String) : List String :=
  (s.given.filter (·.1 == name)).map (·.2)

def has (s : Reading) (name : String) : Bool := (s.value? name).isSome

def word (s : Reading) (i : Nat) : String := s.words.getD i ""

end Reading
end HostStorage.CommandLine
