import TableModel.Json.String
import TableModel.Json.Number

/-!
# Lists and objects

The loops over the elements of a list and the members of an object. A loop is told what to do with one
element or one member, so that the same loop reads a tree, a list of statements or the fields of a
record. It takes at least one character a turn, the closing bracket if no other. So the text itself is
a budget for the turns, and when the budget is used up the text has come to its end.
-/

namespace TableModel

namespace Read

/-- Reads elements and the closing bracket, in at most as many turns as `budget` has characters. -/
def elementsIn {σ : Type} (step : σ → Read σ) : Text → Bool → σ → Read σ
  | [], _, _, _ => malformed .endInArray
  | _ :: budget, first, state, s => do
    let (more, s) ← nextElement first s
    if more then
      let (state, s) ← step state s
      elementsIn step budget false state s
    else .ok (state, s.drop 1)

/-- Reads the elements of a list and the closing bracket, a step for each element; `first` says that
none has been read before. -/
def elements {σ : Type} (step : σ → Read σ) (first : Bool) (state : σ) : Read σ := fun s =>
  elementsIn step s first state s

def membersIn {σ : Type} (step : σ → Text → Read σ) : Text → Bool → σ → Read σ
  | [], _, _, _ => malformed .endInObject
  | _ :: budget, first, state, s => do
    let (more, s) ← nextMember first s
    if more then
      let (name, s) ← string s
      let (state, s) ← step state name s
      membersIn step budget false state s
    else .ok (state, s.drop 1)

/-- Reads the members of an object and the closing brace, a step for each key. The step begins before
the colon. -/
def members {σ : Type} (step : σ → Text → Read σ) (state : σ) : Read σ := fun s =>
  membersIn step s true state s

/-- Reads inside a list or an object, one level deeper, if there is a level left. -/
def nested {α : Type} (levels : Nat) (inner : Nat → Read α) : Read α :=
  match levels with
  | 0 => fun _ => malformed .nestedTooDeep
  | levels + 1 => inner levels

def word {α : Type} (value : α) : Text → Read α
  | [], s => .ok (value, s)
  | _ :: _, [] => malformed .endInValue
  | c :: letters, d :: rest => if c = d then word value letters rest else malformed .expectedWord

/-- Reads a value that is neither a list nor an object. -/
def scalar : Read Json := fun s =>
  match s with
  | [] => malformed .endInValue
  | c :: rest =>
    if c = 'n' then word .null "ull" rest
    else if c = 't' then word (.boolean true) "rue" rest
    else if c = 'f' then word (.boolean false) "alse" rest
    else if c = '"' then do
      let (t, rest) ← string rest
      .ok (.string t, rest)
    else if c = '-' ∨ c.isDigit then do
      let (n, rest) ← number (c :: rest)
      .ok (.number n, rest)
    else malformed .expectedValue

/-- Reads a value by its first character: `list` and `map` go on behind an opening bracket, and any
other value is read here and then judged by `accept`. -/
def valueBy {α : Type} (accept : Json → Except ShapeError α) (list map : Read α) : Read α := fun s =>
  match skipBlanks s with
  | '[' :: rest => list rest
  | '\x7b' :: rest => map rest
  | s => do
    let (value, rest) ← scalar s
    match accept value with
    | .ok a => .ok (a, rest)
    | .error cause => mismatch cause

end Read

end TableModel
