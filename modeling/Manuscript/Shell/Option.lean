import Manuscript.Shell.Script

/-!
# Options

Options of commands, and the options of the shell itself by their letters and names.
-/

namespace Manuscript.Shell

/-- What is wrong with options. -/
inductive OptionError where
  | illegal (letter : Char)
  | noArgument (letter : Char)
  deriving DecidableEq, Inhabited

/-- The wording of a fault. -/
def OptionError.message : OptionError → List Char
  | illegal letter => "Illegal option -".toList ++ [letter]
  | noArgument letter => "No arg for -".toList ++ [letter] ++ " option".toList

/-- Options with their arguments, and what follows them. -/
abbrev Options := List (Char × List Char) × List (List Char)

/-- The options that the letters of one word are. `allowed` says which letters there are and whether they have
arguments. -/
def letterOptions (allowed : List (Char × Bool)) (rest : List (List Char)) : List Char → Except OptionError Options
  | [] => .ok ([], rest)
  | c :: more =>
    match allowed.lookup c with
    | none => .error (.illegal c)
    | some false => (letterOptions allowed rest more).map (fun found => ((c, []) :: found.1, found.2))
    | some true =>
      if !more.isEmpty then .ok ([(c, more)], rest)
      else
        match rest with
        | [] => .error (.noArgument c)
        | argument :: rest => .ok ([(c, argument)], rest)

/-- The options at the start of words, up to the first word that is none or up to two hyphens. -/
def wordOptions (allowed : List (Char × Bool)) : Nat → List (List Char) → Except OptionError Options
  | 0, words => .ok ([], words)
  | fuel + 1, words =>
    match words with
    | ['-', '-'] :: rest => .ok ([], rest)
    | ('-' :: c :: more) :: rest => do
      let (first, rest) ← letterOptions allowed rest (c :: more)
      let (others, rest) ← wordOptions allowed fuel rest
      return (first ++ others, rest)
    | _ => .ok ([], words)

/-- The options of a command. -/
def Script.options (allowed : List (Char × Bool)) (arguments : List (List Char)) : Script Options := do
  match wordOptions allowed arguments.length arguments with
  | .ok found => return found
  | .error error => fail error.message

/-- The options of the shell with their letters, if they have any. -/
def shellOptions : List (String × Option Char) :=
  [("errexit", some 'e'), ("noglob", some 'f'), ("ignoreeof", some 'I'), ("interactive", some 'i'),
    ("monitor", some 'm'), ("noexec", some 'n'), ("stdin", some 's'), ("xtrace", some 'x'), ("verbose", some 'v'),
    ("vi", some 'V'), ("emacs", some 'E'), ("noclobber", some 'C'), ("allexport", some 'a'), ("notify", some 'b'),
    ("nounset", some 'u'), ("privileged", some 'p'), ("nolog", none), ("debug", none)]

/-- The letter by which an option is kept. Options without a letter of their own have one that no script can write. -/
def optionKey (name : String) : Char :=
  match shellOptions.lookup name with
  | some (some letter) => letter
  | _ => if name = "nolog" then '\x01' else '\x02'

/-- The state with an option set or not. -/
def State.setOption (state : State) (key : Char) (isSet : Bool) : State :=
  let others := state.options.filter (· ≠ key)
  { state with options := if isSet then key :: others else others }

/-- An option of the shell set or not, by its letter. -/
def Script.setLetter (letter : Char) (isSet : Bool) : Script Unit := do
  if shellOptions.any (fun o => o.2 == some letter) then modify (fun state => state.setOption letter isSet)
  else fail ("Illegal option -".toList ++ [letter])

/-- An option of the shell set or not, by its name. -/
def Script.setNamed (name : List Char) (isSet : Bool) : Script Unit := do
  let text := String.ofList name
  if shellOptions.any (fun o => o.1 == text) then modify (fun state => state.setOption (optionKey text) isSet)
  else fail ("Illegal option -o ".toList ++ name)

/-- The options of the shell as a table, or as the commands that would set them. -/
def State.optionTable (state : State) (asCommands : Bool) : List Char :=
  let isSet := fun (name : String) => state.hasOption (optionKey name)
  if asCommands then
    shellOptions.flatMap (fun o => ("set " ++ (if isSet o.1 then "-" else "+") ++ "o " ++ o.1 ++ "\n").toList)
  else
    "Current option settings\n".toList ++
      shellOptions.flatMap (fun o =>
        o.1.toList ++ List.replicate (16 - o.1.length) ' ' ++ (if isSet o.1 then "on\n" else "off\n").toList)

/-- The arguments of the command that sets options taken as such; what is left of them are the new arguments of the
script, if there are any or two hyphens ask for them. -/
def Script.setOptions : Nat → List (List Char) → Script (Option (List (List Char)))
  | 0, _ => return none
  | _ + 1, [] => return none
  | fuel + 1, word :: rest => do
    let letters (isSet : Bool) (letters : List Char) : Script (List (List Char)) :=
      letters.foldlM
        (fun rest letter => do
          if letter ≠ 'o' then
            setLetter letter isSet
            return rest
          match rest with
          | [] =>
            print 1 ((← get).optionTable !isSet)
            return []
          | name :: rest =>
            setNamed name isSet
            return rest)
        rest
    match word with
    | ['-'] =>
      modify (fun state => (state.setOption 'x' false).setOption 'v' false)
      return if rest.isEmpty then none else some rest
    | ['-', '-'] => return some rest
    | '-' :: more => setOptions fuel (← letters true more)
    | '+' :: more => setOptions fuel (← letters false more)
    | _ => return some (word :: rest)

end Manuscript.Shell
