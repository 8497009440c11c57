import Manuscript.Shell.Number
import Manuscript.Shell.Option

/-!
# Commands on variables and arguments

Commands of the shell that set variables, hand them on or protect them, and that work on the arguments of the
script. Each gives its status.
-/

namespace Manuscript.Shell.Builtin

open Script

/-- The number that an argument is. -/
def numberOf (s : List Char) : Script Nat := do
  match integer? 10 s with
  | some n =>
    if n < 0 || 2147483647 < n then failOf ("Illegal number: ".toList ++ s) ""
    return n.toNat
  | none => failOf ("Illegal number: ".toList ++ s) ""

/-- Variables in order, with a word in front of each, as commands that would set them. -/
def listing (word : String) (bindings : List (List Char × Variable)) : List Char :=
  let ordered := bindings.mergeSort (fun a b => decide (String.ofList a.1 ≤ String.ofList b.1))
  ordered.flatMap (fun v =>
    let front := if word.isEmpty then v.1 else word.toList ++ ' ' :: v.1
    let value := match v.2.value with | some value => '=' :: quoteText value | none => []
    front ++ value ++ ['\n'])

/-- Variables handed on or protected, and set where a value is given. -/
def mark (name : String) (arguments : List (List Char)) : Script Nat := do
  let protecting := name == "readonly"
  let (options, arguments) ← options [('p', false)] arguments
  if !options.isEmpty || arguments.isEmpty then
    let marked := (← get).bindings.filter (fun v => if protecting then v.2.readOnly else v.2.exported)
    print 1 (listing name marked)
  else
    for argument in arguments do
      let (name, value) := splitAssignment argument
      match value, (← get).bindings.lookup name with
      | none, some old =>
        let marked := if protecting then { old with readOnly := true } else { old with exported := true }
        modify (fun state => state.put name (some marked))
      | value, _ =>
        if isName name then setKnown name value (!protecting) protecting else failOf name ": bad variable name"
  return 0

/-- Variables that come back after the running function. -/
def makeLocal (arguments : List (List Char)) : Script Nat := do
  if (← get).functionDepth = 0 then failOf [] "not in a function"
  for argument in arguments do
    let (name, value) := splitAssignment argument
    if argument ≠ ['-'] then
      if !isName name then failOf name ": bad variable name"
      hide name
      match value, (← get).bindings.lookup name with
      | none, some _ => pure ()
      | value, _ => setKnown name value false false
  return 0

/-- Variables or functions taken away. -/
def unsetAll (arguments : List (List Char)) : Script Nat := do
  let (options, names) ← options [('v', false), ('f', false)] arguments
  let functions := options.getLast?.any (fun o => o.1 == 'f')
  for name in names do
    if functions then modify (fun state => { state with functions := state.functions.filter (fun f => f.1 != name) })
    else unset name
  return 0

/-- New arguments of the script. -/
def setArguments (arguments : List (List Char)) : Script Unit :=
  modify (fun state => { state with arguments, optionCount := 0, optionPlace := none })

/-- Options and arguments of the script set, or its variables shown. -/
def configure (arguments : List (List Char)) : Script Nat := do
  if arguments.isEmpty then
    print 1 (listing "" ((← get).bindings.filter (fun v => v.2.value.isSome)))
  else
    match ← setOptions (arguments.length + 1) arguments with
    | some arguments => setArguments arguments
    | none => pure ()
  return 0

/-- The first arguments of the script dropped. -/
def shift (arguments : List (List Char)) : Script Nat := do
  let count ← match arguments with | [] => pure 1 | n :: _ => numberOf n
  let state ← get
  if state.arguments.length < count then failOf [] "can't shift that many"
  setArguments (state.arguments.drop count)
  return 0

/-- The place of a search for options. -/
structure OptionSearch where
  /-- How many words have been looked at. -/
  count : Nat
  /-- The characters that are left of the last of them. -/
  letters : List Char
  deriving DecidableEq, Inhabited

/-- The next option among words. -/
def nextOption (allowed target : List Char) (words : List (List Char)) : Script Nat := do
  let state ← get
  let count := if words.length < state.optionCount then 0 else state.optionCount
  let letters :=
    match state.optionPlace with
    | some place => if count = 0 then [] else (words.getD (count - 1) []).drop place
    | none => []
  let start? : Option OptionSearch :=
    if !letters.isEmpty then some ⟨count, letters⟩
    else
      match words[count]? with
      | some ('-' :: c :: more) => some ⟨count + 1, if c = '-' && more.isEmpty then [] else c :: more⟩
      | _ => none
  let quiet := allowed.head? == some ':'
  let finish (name : Char) (search : OptionSearch) : Script Unit := do
    assign "OPTIND".toList (decimalText (search.count + 1))
    assign target [name]
    let place := if search.letters.isEmpty then none
      else some ((words.getD (search.count - 1) []).length - search.letters.length)
    modify (fun state => { state with optionCount := search.count, optionPlace := place })
  let illegal (c : Char) (message : String) (search : OptionSearch) (name : Char) : Script Unit := do
    if quiet then assign "OPTARG".toList [c]
    else
      print 2 (message.toList.flatMap (fun d => if d = '_' then [c] else [d]) ++ ['\n'])
      unset "OPTARG".toList
    finish (if quiet then name else '?') search
  match start? with
  | none =>
    finish '?' ⟨count, []⟩
    return 1
  | some ⟨count, []⟩ =>
    finish '?' ⟨count, []⟩
    return 1
  | some ⟨count, c :: more⟩ =>
    let behind := (allowed.dropWhile (· ≠ c)).drop 1
    if c = ':' || !allowed.contains c then illegal c "Illegal option -_" ⟨count, more⟩ '?'
    else if behind.head? == some ':' then
      match more, words[count]? with
      | [], none => illegal c "No arg for -_ option" ⟨count, []⟩ ':'
      | [], some argument =>
        assign "OPTARG".toList argument
        finish c ⟨count + 1, []⟩
      | more, _ =>
        assign "OPTARG".toList more
        finish c ⟨count, []⟩
    else
      assign "OPTARG".toList []
      finish c ⟨count, more⟩
    return 0

/-- The next option of the script or of the given words. -/
def getOptions (arguments : List (List Char)) : Script Nat := do
  let (_, arguments) ← options [] arguments
  match arguments with
  | allowed :: target :: [] => nextOption allowed target (← get).arguments
  | allowed :: target :: words => nextOption allowed target words
  | _ => failOf [] "Usage: getopts optstring var [arg...]"

/-! ## Aliases -/

/-- An alias as the command that would set it. -/
def aliasText (name text : List Char) : List Char :=
  name ++ '=' :: quoteText text ++ ['\n']

/-- Aliases set or shown. -/
def setAliases (arguments : List (List Char)) : Script Nat := do
  let aliases := (← get).aliases.mergeSort (fun a b => decide (String.ofList a.1 ≤ String.ofList b.1))
  if arguments.isEmpty then
    print 1 (aliases.flatMap (fun a => aliasText a.1 a.2))
    return 0
  let mut status := 0
  for argument in arguments do
    match splitAssignment (argument.drop 1) with
    | (name, some text) =>
      let name := argument.take 1 ++ name
      modify (fun state => { state with aliases := (name, text) :: state.aliases.filter (fun a => a.1 != name) })
    | (_, none) =>
      match (← get).aliases.lookup argument with
      | some text => print 1 (aliasText argument text)
      | none =>
        print 2 ("alias: ".toList ++ argument ++ " not found\n".toList)
        status := 1
  return status

/-- Aliases taken away. -/
def unalias (arguments : List (List Char)) : Script Nat := do
  let (options, names) ← options [('a', false)] arguments
  if !options.isEmpty then
    modify (fun state => { state with aliases := [] })
    return 0
  let mut status := 0
  for name in names do
    if ((← get).aliases.lookup name).isSome then
      modify (fun state => { state with aliases := state.aliases.filter (fun a => a.1 != name) })
    else
      print 2 ("unalias: ".toList ++ name ++ " not found\n".toList)
      status := 1
  return status

end Manuscript.Shell.Builtin
