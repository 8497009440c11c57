/-!
# Shell patterns

A star stands for any text, a question mark for one character, and brackets for one of a set. A character that was
quoted stands for itself.
-/

namespace Manuscript.Shell

/-- A character of a pattern, and whether it was quoted. -/
abbrev PatternChar := Char × Bool

namespace Pattern

/-- Some of the characters that a set holds. -/
inductive Members where
  | range (first last : Char)
  /-- The characters of a class by its name. -/
  | named (name : String)
  deriving DecidableEq, Inhabited

/-- A part of a pattern. -/
inductive Part where
  | exactly (c : Char)
  | one
  | any
  /-- One of the members of a set, or none of them. -/
  | set (members : List Members) (negated : Bool)
  deriving DecidableEq, Inhabited

/-- The names of the classes. -/
def classes : List String :=
  ["alnum", "cntrl", "lower", "space", "alpha", "digit", "print", "upper", "blank", "graph", "punct", "xdigit"]

/-- Whether a character is in a class. Only characters of seven bits are in any. -/
def isInClass (name : String) (c : Char) : Bool :=
  let graphic := '!' ≤ c && c ≤ '~'
  match name with
  | "alnum" => c.isAlphanum
  | "cntrl" => c < ' ' || c == '\x7f'
  | "lower" => c.isLower
  | "space" => c == ' ' || ('\t' ≤ c && c ≤ '\x0d')
  | "alpha" => c.isAlpha
  | "digit" => c.isDigit
  | "print" => graphic || c == ' '
  | "upper" => c.isUpper
  | "blank" => c == ' ' || c == '\t'
  | "graph" => graphic
  | "punct" => graphic && !c.isAlphanum
  | "xdigit" => c.isDigit || ('a' ≤ c && c ≤ 'f') || ('A' ≤ c && c ≤ 'F')
  | _ => false

/-- A pattern in which a backslash that was not quoted quotes the character behind it. -/
def unescape : List PatternChar → List PatternChar
  | ('\\', false) :: (c, _) :: rest => (c, true) :: unescape rest
  | c :: rest => c :: unescape rest
  | [] => []

/-- The class at the start of a pattern behind an opening bracket, and the rest. -/
def class? (pattern : List PatternChar) : Option (String × List PatternChar) :=
  classes.findSome? (fun name =>
    let text := (':' :: name.toList ++ [':', ']']).map (·, false)
    if text.isPrefixOf pattern then some (name, pattern.drop text.length) else none)

/-- The members of a set up to its bracket, and the rest of the pattern. A bracket at the start belongs to the set. -/
def members? : Nat → Bool → List PatternChar → Option (List Members × List PatternChar)
  | 0, _, _ => none
  | _ + 1, _, [] => none
  | fuel + 1, start, (c, quoted) :: rest =>
    if c = ']' && !quoted && !start then some ([], rest)
    else
      let adding := fun (first : Members) (rest : List PatternChar) =>
        (members? fuel false rest).map (fun r => (first :: r.1, r.2))
      match if c = '[' && !quoted then class? rest else none with
      | some (name, rest) => adding (.named name) rest
      | none =>
        match rest with
        | ('-', false) :: (d, q) :: after =>
          if d = ']' && !q then adding (.range c c) rest else adding (.range c d) after
        | _ => adding (.range c c) rest

/-- The parts of a pattern. -/
def parts : Nat → List PatternChar → List Part
  | 0, _ => []
  | _ + 1, [] => []
  | fuel + 1, (c, quoted) :: rest =>
    if quoted then .exactly c :: parts fuel rest
    else if c = '*' then .any :: parts fuel rest
    else if c = '?' then .one :: parts fuel rest
    else if c = '[' then
      let (negated, inside) :=
        match rest with
        | ('!', false) :: inside => (true, inside)
        | _ => (false, rest)
      match members? (inside.length + 1) true inside with
      | some (members, rest) => .set members negated :: parts fuel rest
      | none => .exactly c :: parts fuel rest
    else .exactly c :: parts fuel rest

/-- Whether members of a set are a character. -/
def Members.holds (c : Char) : Members → Bool
  | range first last => first ≤ c && c ≤ last
  | named name => isInClass name c

/-- Whether a part other than a star stands for a character. -/
def Part.accepts (part : Part) (c : Char) : Bool :=
  match part with
  | exactly d => c == d
  | one => true
  | any => true
  | set members negated => members.any (Members.holds c) != negated

/-- Whether parts stand for a text. -/
def accepts : List Part → List Char → Bool
  | [], s => s.isEmpty
  | .any :: rest, s => (List.range (s.length + 1)).any (fun n => accepts rest (s.drop n))
  | part :: rest, s =>
    match s with
    | [] => false
    | c :: s => part.accepts c && accepts rest s

end Pattern

/-- Whether a pattern stands for a text. -/
def matchesPattern (pattern : List PatternChar) (s : List Char) : Bool :=
  Pattern.accepts (Pattern.parts (pattern.length + 1) (Pattern.unescape pattern)) s

/-- A text without the part at its start or end that a pattern stands for; of several parts, the shortest or the
longest. -/
def trimPattern (fromEnd longest : Bool) (pattern : List PatternChar) (s : List Char) : List Char :=
  let parts := Pattern.parts (pattern.length + 1) (Pattern.unescape pattern)
  let lengths := if longest then (List.range (s.length + 1)).reverse else List.range (s.length + 1)
  if fromEnd then
    match lengths.find? (fun n => Pattern.accepts parts (s.drop (s.length - n))) with
    | some n => s.take (s.length - n)
    | none => s
  else
    match lengths.find? (fun n => Pattern.accepts parts (s.take n)) with
    | some n => s.drop n
    | none => s

/-- Texts without the part at their start or end that a pattern stands for. A start is taken from the first text,
and if that is all of it where the longest is asked for, nothing is left; what follows a part taken from the end
goes with it, and the longest is looked for in the first text. -/
def trimParts (fromEnd longest : Bool) (pattern : List PatternChar) (texts : List (List Char)) : List (List Char) :=
  match texts with
  | [] => []
  | first :: rest =>
    let trimmed := trimPattern fromEnd longest pattern first
    if fromEnd then
      if longest then (if trimmed.length < first.length || matchesPattern pattern [] then [trimmed] else texts)
      else (trimLast texts.reverse).reverse
    else if longest && matchesPattern pattern first then [[]]
    else trimmed :: rest
where
  /-- Texts, the last one first, without the shortest part at their end. -/
  trimLast : List (List Char) → List (List Char)
    | [] => []
    | last :: others =>
      let trimmed := trimPattern true false pattern last
      if trimmed.length < last.length || matchesPattern pattern [] then trimmed :: others
      else
        let found := trimLast others
        if found == others then last :: others else found

end Manuscript.Shell
