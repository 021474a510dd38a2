import TableModel.Json.Reader

/-!
# Strings

A JSON string from the character after its opening quote. The reader is a machine that takes one
character at a time; its state says whether it stands between characters, behind a backslash, inside
the four digits of a `\u` escape, or between the two escapes of a surrogate pair. Each escape gives a
UTF-16 unit. A surrogate has to come as a pair, a leading unit and right after it a trailing one,
unless the string is only checked for its form.
-/

namespace TableModel

namespace Read

def hexDigit? (c : Char) : Option Nat :=
  if '0' ≤ c ∧ c ≤ '9' then some (c.toNat - '0'.toNat)
  else if 'a' ≤ c ∧ c ≤ 'f' then some (c.toNat - 'a'.toNat + 10)
  else if 'A' ≤ c ∧ c ≤ 'F' then some (c.toNat - 'A'.toNat + 10)
  else none

/-- The character that a backslash and a letter stand for. -/
def shortEscape? (c : Char) : Option Char :=
  if c = '"' ∨ c = '\\' ∨ c = '/' then some c
  else if c = 'b' then some '\x08'
  else if c = 'f' then some '\x0c'
  else if c = 'n' then some '\n'
  else if c = 'r' then some '\r'
  else if c = 't' then some '\t'
  else none

/-- Whether a UTF-16 unit is the first of a pair. -/
def isLeading (unit : Nat) : Bool :=
  0xD800 ≤ unit && unit ≤ 0xDBFF

def isTrailing (unit : Nat) : Bool :=
  0xDC00 ≤ unit && unit ≤ 0xDFFF

/-- The character that a pair of UTF-16 units stands for. -/
def pairChar (leading trailing : Nat) : Char :=
  Char.ofNat ((leading - 0xD800) * 0x400 + (trailing - 0xDC00) + 0x10000)

/-- Where a reader stands inside a string. -/
inductive StringState where
  /-- Between characters. -/
  | plain
  /-- Behind a backslash. -/
  | escape
  /-- In the digits of a `\u` escape, after so many digits of this value. The unit before it, if
  there is one, was the first of a pair. -/
  | unit (leading : Option Nat) (digits value : Nat)
  /-- Behind the first unit of a pair. -/
  | pair (leading : Nat)
  /-- Behind the first unit of a pair and a backslash. -/
  | pairEscape (leading : Nat)
  deriving DecidableEq, Repr

/-- What a complete unit gives: the next state, with the character if one is complete. -/
def unitDone (paired : Bool) (leading : Option Nat) (unit : Nat) :
    Except SyntaxError (StringState × Option Char) :=
  if !paired then .ok (.plain, none)
  else
    match leading with
    | some first =>
      if isTrailing unit then .ok (.plain, some (pairChar first unit)) else .error .unpairedSurrogate
    | none =>
      if isTrailing unit then .error .unpairedSurrogate
      else if isLeading unit then .ok (.pair unit, none)
      else .ok (.plain, some (Char.ofNat unit))

/-- One character inside a string: the next state, with the character of the string if one is
complete. A `\u` needs four more bytes in `rest`, whatever they are. -/
def stringStep (paired : Bool) (state : StringState) (c : Char) (rest : Text) :
    Except SyntaxError (StringState × Option Char) :=
  let unit (leading : Option Nat) : Except SyntaxError (StringState × Option Char) :=
    if Text.utf8Size (rest.take 4) < 4 then .error .endInString else .ok (.unit leading 0 0, none)
  match state with
  | .plain =>
    if c = '\\' then .ok (.escape, none)
    else if c < ' ' then .error .controlCharacter
    else .ok (.plain, some c)
  | .escape =>
    if c = 'u' then unit none
    else
      match shortEscape? c with
      | some d => .ok (.plain, some d)
      | none => .error .invalidEscape
  | .unit leading digits value =>
    match hexDigit? c with
    | none => .error .invalidEscape
    | some d =>
      if digits = 3 then unitDone paired leading (value * 16 + d)
      else .ok (.unit leading (digits + 1) (value * 16 + d), none)
  | .pair leading => if c = '\\' then .ok (.pairEscape leading, none) else .error .unfinishedPair
  | .pairEscape leading => if c = 'u' then unit (some leading) else .error .unfinishedPair

def stringFrom (paired : Bool) : StringState → Read Text
  | _, [] => malformed .endInString
  | state, c :: rest =>
    if state = .plain ∧ c = '"' then .ok ([], rest)
    else
      match stringStep paired state c rest with
      | .error cause => malformed cause
      | .ok (state, d) => do
        let (t, rest) ← stringFrom paired state rest
        .ok (d.toList ++ t, rest)

/-- Reads a string from the character after its opening quote. -/
def string : Read Text :=
  stringFrom true .plain

/-- Checks the form of a string from the character after its opening quote: its escapes have to be
complete, and surrogates may stand alone. -/
def skipString : Read Unit := fun s => do
  let (_, rest) ← stringFrom false .plain s
  .ok ((), rest)

end Read

end TableModel
