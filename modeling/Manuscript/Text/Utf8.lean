/-!
# UTF-8

Texts as bytes and bytes as texts. Bytes that are no text are read either not at all or with U+FFFD in the place of
each malformed part: as many bytes as start some character, but at least one. The reader goes byte by byte and keeps
what it has seen of the character it is in.
-/

namespace Manuscript.Utf8

/-- The bytes of a text. -/
def encode (s : List Char) : List UInt8 :=
  s.flatMap String.utf8EncodeChar

/-- A character of which bytes are still missing. -/
structure Pending where
  /-- How many bytes are missing. -/
  missing : Nat
  /-- The least byte that may come next. -/
  low : UInt8
  /-- The greatest byte that may come next. -/
  high : UInt8
  /-- The bits read so far. -/
  bits : Nat
  deriving DecidableEq, Inhabited

/-- What a byte completes, character or malformed part (`none`), and what it leaves open. -/
abbrev Step := List (Option Char) × Option Pending

/-- A byte that follows another one than the first of a character. -/
def lastBits (b : UInt8) : Nat :=
  b.toNat % 64

/-- The first byte of a character. The ranges of the second byte keep out overlong forms, surrogates and code points
that are too great. -/
def first (b : UInt8) : Step :=
  if b < 0x80 then ([some (Char.ofNat b.toNat)], none)
  else if 0xC2 ≤ b ∧ b ≤ 0xDF then ([], some ⟨1, 0x80, 0xBF, b.toNat % 32⟩)
  else if b = 0xE0 then ([], some ⟨2, 0xA0, 0xBF, 0⟩)
  else if b = 0xED then ([], some ⟨2, 0x80, 0x9F, 13⟩)
  else if 0xE1 ≤ b ∧ b ≤ 0xEF then ([], some ⟨2, 0x80, 0xBF, b.toNat % 16⟩)
  else if b = 0xF0 then ([], some ⟨3, 0x90, 0xBF, 0⟩)
  else if 0xF1 ≤ b ∧ b ≤ 0xF3 then ([], some ⟨3, 0x80, 0xBF, b.toNat % 8⟩)
  else if b = 0xF4 then ([], some ⟨3, 0x80, 0x8F, 4⟩)
  else ([none], none)

/-- A byte behind what is pending. One that cannot follow ends a malformed part and starts afresh. -/
def step (pending : Option Pending) (b : UInt8) : Step :=
  match pending with
  | none => first b
  | some p =>
    if p.low ≤ b ∧ b ≤ p.high then
      let bits := p.bits * 64 + lastBits b
      if p.missing ≤ 1 then ([some (Char.ofNat bits)], none) else ([], some ⟨p.missing - 1, 0x80, 0xBF, bits⟩)
    else (none :: (first b).1, (first b).2)

/-- The characters and malformed parts of bytes behind what is pending. -/
def parts : Option Pending → List UInt8 → List (Option Char)
  | none, [] => []
  | some _, [] => [none]
  | pending, b :: rest => (step pending b).1 ++ parts (step pending b).2 rest

/-- The text that bytes are. -/
def decode? (bytes : List UInt8) : Option (List Char) :=
  (parts none bytes).mapM id

/-- The text of bytes with U+FFFD for malformed parts. -/
def decodeLossy (bytes : List UInt8) : List Char :=
  (parts none bytes).map (fun part => part.getD '\uFFFD')

end Manuscript.Utf8
