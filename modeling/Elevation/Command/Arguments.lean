import Elevation.Text.Blank
import Elevation.Text.Quoted

/-!
Reading the arguments of a command.

A grammar lists the options of a command and the positional arguments it takes; each of them says
what it does to the record `ρ` that is built. Options may stand anywhere and may be cut short as
long as they stay unique. Negative numbers are positional, and so is everything behind the
separator `--`.
-/
namespace Elevation.Command

/-- What an option does. A value that consists of nothing but the separator is left out. -/
inductive Action (ρ : Type) where
  | help
  | mark (change : ρ → ρ)
  | value (read : Option String → ρ → Except String ρ)

def Action.takesValue {ρ : Type} : Action ρ → Bool
  | .value _ => true
  | .help | .mark _ => false

structure Flag (ρ : Type) where
  names : List String
  action : Action ρ

def Flag.title {ρ : Type} (flag : Flag ρ) : String := String.intercalate "/" flag.names

structure Positional (ρ : Type) where
  name : String
  isRequired : Bool
  read : Option String → ρ → Except String ρ

structure Grammar (ρ : Type) where
  program : String
  /-- The line that sums the arguments up. -/
  usage : String
  /-- What is said about the command and its arguments, line by line. -/
  manual : List String
  flags : List (Flag ρ)
  positionals : List (Positional ρ)
  start : ρ

inductive Outcome (ρ : Type) where
  | ready (value : ρ)
  | help
  | misuse (complaint : String)

variable {ρ : Type}

def complaintAbout (title reason : String) : String := "argument " ++ title ++ ": " ++ reason

/-! ### Values -/

def separator : String := "--"

def valueOf (text : String) : Option String := if text = separator then none else some text

def converted {α : Type} (kind : String) (read? : String → Option α) (text : String) :
    Except String α :=
  match read? text with
  | some value => .ok value
  | none => .error ("invalid " ++ kind ++ " value: " ++ Text.quoted text)

def convertedIfGiven {α : Type} (kind : String) (read? : String → Option α) :
    Option String → Except String (Option α)
  | none => .ok none
  | some text => (converted kind read? text).map some

def chosen (choices : List String) (text : String) : Except String String :=
  if choices.contains text then .ok text
  else
    .error ("invalid choice: " ++ Text.quoted text ++ " (choose from "
      ++ String.intercalate ", " (choices.map Text.quoted) ++ ")")

/-! ### Which arguments are options -/

inductive Piece (ρ : Type) where
  | word (text : String)
  /-- An option, with what stands in the same argument behind it. -/
  | known (flag : Flag ρ) (spelling : String) (attached : Option String)
  | unknown (text : String)
  | separator

/-- A minus sign with digits behind it, which may have a point among them but not at their end. A
line feed behind them does not matter. -/
def isNegativeNumber (text : List Char) : Bool :=
  let isDigit (c : Char) : Bool := (Text.digitValue? c).isSome
  match if text.getLast? = some '\n' then text.dropLast else text with
  | '-' :: rest =>
    match rest.span isDigit with
    | (whole, []) => !whole.isEmpty
    | (_, '.' :: fraction) => !fraction.isEmpty && fraction.all isDigit
    | _ => false
  | _ => false

def Grammar.find? (grammar : Grammar ρ) (name : String) : Option (Flag ρ) :=
  grammar.flags.find? fun flag => flag.names.contains name

def Grammar.spellings (grammar : Grammar ρ) : List (Flag ρ × String) :=
  grammar.flags.flatMap fun flag => flag.names.map fun name => (flag, name)

def cutAtEquals (text : String) : String × Option String :=
  match text.toList.span (· ≠ '=') with
  | (name, _ :: value) => (String.ofList name, some (String.ofList value))
  | (_, []) => (text, none)

def Grammar.candidates (grammar : Grammar ρ) (text : String) :
    List (Flag ρ × String × Option String) :=
  if Text.startsWith ['-', '-'] text.toList then
    let (name, value) := cutAtEquals text
    (grammar.spellings.filter fun entry => Text.startsWith name.toList entry.2.toList).map
      fun entry => (entry.1, entry.2, value)
  else
    let short := String.ofList (text.toList.take 2)
    grammar.spellings.filterMap fun entry =>
      if entry.2 = short then
        some (entry.1, entry.2, some (String.ofList (text.toList.drop 2)))
      else if Text.startsWith text.toList entry.2.toList then some (entry.1, entry.2, none)
      else none

def Grammar.classify (grammar : Grammar ρ) (text : String) : Except String (Piece ρ) :=
  if !Text.startsWith ['-'] text.toList then .ok (.word text)
  else
    match grammar.find? text with
    | some flag => .ok (.known flag text none)
    | none =>
      let (name, value) := cutAtEquals text
      match grammar.find? name, value with
      | some flag, some value => .ok (.known flag name (some value))
      | _, _ =>
        if text = "-" then .ok (.word text)
        else
          match grammar.candidates text with
          | [(flag, spelling, attached)] => .ok (.known flag spelling attached)
          | [] =>
            if isNegativeNumber text.toList || text.toList.contains ' ' then .ok (.word text)
            else .ok (.unknown text)
          | several =>
            .error ("ambiguous option: " ++ text ++ " could match "
              ++ String.intercalate ", " (several.map fun entry => entry.2.1))

def Grammar.pieces (grammar : Grammar ρ) : List String → Except String (List (Piece ρ))
  | [] => .ok []
  | text :: rest =>
    if text = separator then .ok (.separator :: rest.map .word)
    else
      match grammar.classify text with
      | .error complaint => .error complaint
      | .ok piece => (grammar.pieces rest).map (piece :: ·)

/-! ### What options do -/

/-- The options that one argument stands for, each with its value if that is attached. -/
abbrev Bundle (ρ : Type) := List (Flag ρ × Option String)

def ignored (flag : Flag ρ) (attached : List Char) : Except String (Bundle ρ) :=
  .error (complaintAbout flag.title
    ("ignored explicit argument " ++ Text.quoted (String.ofList attached)))

/-- Takes apart an argument that starts with an option. Short options that take no value may have
others attached to them. -/
def Grammar.unbundle (grammar : Grammar ρ) (flag : Flag ρ) (isShort : Bool)
    (attached : List Char) : Except String (Bundle ρ) :=
  if flag.action.takesValue then .ok [(flag, some (String.ofList attached))]
  else
    match attached with
    | [] => ignored flag []
    | c :: rest =>
      if !isShort then ignored flag (c :: rest)
      else
        match grammar.find? (String.ofList ['-', c]), rest with
        | none, rest => ignored flag (c :: rest)
        | some next, [] => .ok [(flag, none), (next, none)]
        | some next, rest => (grammar.unbundle next true rest).map ((flag, none) :: ·)
termination_by attached.length

def Grammar.uses (grammar : Grammar ρ) (flag : Flag ρ) (spelling : String)
    (attached : Option String) : Except String (Bundle ρ) :=
  match attached with
  | none => .ok [(flag, none)]
  | some value =>
    let isShort := !Text.startsWith ['-', '-'] spelling.toList
    grammar.unbundle flag isShort value.toList

def Flag.apply (flag : Flag ρ) (value : String) (record : ρ) : Outcome ρ :=
  match flag.action with
  | .help => .help
  | .mark change => .ready (change record)
  | .value read =>
    match read (valueOf value) record with
    | .ok record => .ready record
    | .error reason => .misuse (complaintAbout flag.title reason)

def applyAll (uses : List (Flag ρ × String)) (record : ρ) : Outcome ρ :=
  match uses with
  | [] => .ready record
  | (flag, value) :: rest =>
    match flag.apply value record with
    | .ready record => applyAll rest record
    | outcome => outcome

def wantsNext (used : Flag ρ × Option String) : Bool := used.1.action.takesValue && used.2.isNone

def withValues (next : String) (uses : Bundle ρ) : List (Flag ρ × String) :=
  uses.map fun used => (used.1, used.2.getD next)

/-! ### Going through the arguments -/

structure Progress (ρ : Type) where
  record : ρ
  pending : List (Positional ρ)
  /-- Arguments that nothing takes, in order. -/
  surplus : List String
  /-- Whether a separator belongs to the positional arguments at this place. -/
  isOpen : Bool
  /-- Whether no positional argument has been read since the last option. -/
  isFresh : Bool
  /-- Whether a separator stands in front that belongs to the next word. -/
  isGuarded : Bool

/-- Gives a word to the next positional argument. A word that is the separator itself is a value
only behind a separator of its own. -/
def Progress.word (progress : Progress ρ) (text : String) : Except String (Progress ρ) :=
  match progress.pending with
  | [] => .ok { progress with surplus := progress.surplus ++ [text], isOpen := false }
  | positional :: pending =>
    let value := if progress.isGuarded then some text else valueOf text
    match positional.read value progress.record with
    | .ok record =>
      .ok { progress with
        record := record, pending := pending, isFresh := false, isGuarded := false }
    | .error reason => .error (complaintAbout positional.name reason)

/-- Passes a separator, which belongs to the word before it, to the one behind it, or to none. -/
def Progress.separate (progress : Progress ρ) : Progress ρ :=
  if progress.isOpen then { progress with isGuarded := progress.isFresh }
  else { progress with surplus := progress.surplus ++ [separator] }

def Progress.skip (progress : Progress ρ) (text : String) : Progress ρ :=
  { progress with surplus := progress.surplus ++ [text] }

def Progress.reopen (progress : Progress ρ) : Progress ρ :=
  { progress with isOpen := !progress.pending.isEmpty, isFresh := true }

def Progress.finish (progress : Progress ρ) : Outcome ρ :=
  let missing := (progress.pending.filter Positional.isRequired).map Positional.name
  if !missing.isEmpty then
    .misuse ("the following arguments are required: " ++ String.intercalate ", " missing)
  else if !progress.surplus.isEmpty then
    .misuse ("unrecognized arguments: " ++ String.intercalate " " progress.surplus)
  else .ready progress.record

def Progress.apply (progress : Progress ρ) (bundle : Bundle ρ) (next : String)
    (resume : Progress ρ → Outcome ρ) : Outcome ρ :=
  match applyAll (withValues next bundle) progress.record with
  | .ready record => resume { progress with record := record }.reopen
  | outcome => outcome

def Grammar.read (grammar : Grammar ρ) (progress : Progress ρ) : List (Piece ρ) → Outcome ρ
  | [] => progress.finish
  | .word text :: rest =>
    match progress.word text with
    | .error complaint => .misuse complaint
    | .ok progress => grammar.read progress rest
  | .unknown text :: rest => grammar.read (progress.skip text).reopen rest
  | .separator :: rest => grammar.read progress.separate rest
  | .known flag spelling attached :: rest =>
    match grammar.uses flag spelling attached with
    | .error complaint => .misuse complaint
    | .ok bundle =>
      match bundle.find? wantsNext with
      | none => progress.apply bundle "" fun progress => grammar.read progress rest
      | some (hungry, _) =>
        match rest with
        | .word text :: rest =>
          progress.apply bundle text fun progress => grammar.read progress rest
        | _ => .misuse (complaintAbout hungry.title "expected one argument")

def Grammar.parse (grammar : Grammar ρ) (arguments : List String) : Outcome ρ :=
  match grammar.pieces arguments with
  | .error complaint => .misuse complaint
  | .ok pieces =>
    let isOpen := !grammar.positionals.isEmpty
    grammar.read ⟨grammar.start, grammar.positionals, [], isOpen, true, false⟩ pieces

def Grammar.complaint (grammar : Grammar ρ) (complaint : String) : String :=
  grammar.program ++ ": error: " ++ complaint

def Grammar.help (grammar : Grammar ρ) : String :=
  String.join ((grammar.usage :: "" :: grammar.manual).map (· ++ "\n"))

def misuseCode : Nat := 2

end Elevation.Command
