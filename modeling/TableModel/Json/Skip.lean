import TableModel.Json.Container

/-!
# Skipping values

A value that nobody asks for is passed over with a check of its form only. Lists and objects may be
nested to any depth: a stack holds the brackets still open. A step passes over one scalar or one
opening bracket, with the closing brackets and the comma behind it, and so takes at least one
character: the text itself is a budget for the steps.
-/

namespace TableModel

namespace Read

/-- A list or an object that is still open. -/
inductive Bracket where
  | list
  | map
  deriving DecidableEq, Repr

namespace Bracket

def closing : Bracket → Char
  | list => ']'
  | map => '\x7d'

/-- The error for a text that ends inside. -/
def unfinished : Bracket → SyntaxError
  | list => .endInArray
  | map => .endInObject

/-- The error for a value with something else than a comma or the closing bracket behind it. -/
def unexpected : Bracket → SyntaxError
  | list => .expectedCommaOrBracket
  | map => .expectedCommaOrBrace

end Bracket

def skipScalar : Read Unit := fun s =>
  match s with
  | [] => malformed .endInValue
  | c :: rest =>
    if c = 'n' then word () "ull" rest
    else if c = 't' then word () "rue" rest
    else if c = 'f' then word () "alse" rest
    else if c = '"' then skipString rest
    else if c = '-' ∨ c.isDigit then skipNumber (c :: rest)
    else malformed .expectedValue

/-- Passes over closing brackets and the comma behind a value, and returns the brackets still open. -/
def skipClosing : List Bracket → Read (List Bracket)
  | [], s => .ok ([], s)
  | bracket :: outer, s =>
    match skipBlanks s with
    | [] => malformed bracket.unfinished
    | c :: rest =>
      if c = ',' then .ok (bracket :: outer, rest)
      else if c = bracket.closing then skipClosing outer rest
      else malformed bracket.unexpected

/-- Passes over the bracket that closes an empty list or object, if it follows. -/
def skipEmpty (bracket : Bracket) (outer : List Bracket) : Read (List Bracket) := fun s =>
  match skipBlanks s with
  | [] => malformed bracket.unfinished
  | c :: rest =>
    if c = bracket.closing then skipClosing outer rest else .ok (bracket :: outer, c :: rest)

def skipKey : Read Unit := fun s =>
  match skipBlanks s with
  | [] => malformed .endInObject
  | '"' :: rest => do
    let ((), rest) ← skipString rest
    colon rest
  | _ => malformed .keyNotString

/-- Passes over one scalar or opening bracket and what closes behind it, and returns the brackets still
open. -/
def skipStep (opened : List Bracket) : Read (List Bracket) := fun s =>
  match skipBlanks s with
  | '[' :: rest => skipEmpty .list opened rest
  | '\x7b' :: rest => skipEmpty .map opened rest
  | s => do
    let ((), rest) ← skipScalar s
    skipClosing opened rest

/-- Passes over a value in at most as many steps as `budget` has characters. -/
def skipIn : Text → List Bracket → Read Unit
  | [], _, _ => malformed .endInValue
  | _ :: budget, opened, s => do
    let (opened, s) ← skipStep opened s
    match opened with
    | [] => .ok ((), s)
    | .list :: _ => skipIn budget opened s
    | .map :: _ => do
      let ((), s) ← skipKey s
      skipIn budget opened s

def skip : Read Unit := fun s =>
  skipIn s [] s

end Read

end TableModel
