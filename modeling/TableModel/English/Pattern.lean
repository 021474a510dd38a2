import TableModel.Unicode.Word

/-!
# Patterns of words

A pattern describes a part of a word, without regard to case. Matching is a search with an order of
preference: `run` lists every way to match, the preferred one first, and the first one is taken at the
leftmost place that has any. There is no unbounded repetition, so that the list is found by recursion
on the pattern.
-/

namespace TableModel

/-- A pattern. Letters and sets are given in lower case. -/
inductive Pattern where
  /-- Nothing at all. -/
  | empty
  | letter (c : Char)
  | oneOf (set : Text)
  | noneOf (set : Text)
  | nonWord
  | start
  | finish
  /-- A place between a word character and something else. -/
  | boundary
  | sequence (first second : Pattern)
  /-- The first pattern, or else the second. -/
  | choice (preferred other : Pattern)
  /-- A pattern whose match is kept. -/
  | group (inner : Pattern)
  deriving Repr

namespace Pattern

/-- One pattern after the other. -/
instance : Append Pattern := ⟨sequence⟩

def letters (t : Text) : Pattern :=
  t.foldr (fun c p => letter c ++ p) empty

/-- The first of the patterns that matches. -/
def anyOf : List Pattern → Pattern
  | [] => empty
  | [p] => p
  | p :: ps => choice p (anyOf ps)

def word (ts : List Text) : Pattern :=
  anyOf (ts.map letters)

/-- The pattern or nothing, the pattern preferred. -/
def optional (p : Pattern) : Pattern :=
  choice p empty

/-- A character without its case, as far as it can stand for a letter of a pattern: the long s and the
Kelvin sign stand for the letters that they look like. -/
def fold (c : Char) : Char :=
  if 'A' ≤ c ∧ c ≤ 'Z' then Char.ofNat (c.toNat + 32)
  else if c = 'ſ' then 's'
  else if c = '\u212a' then 'k'
  else if c = 'É' then 'é'
  else c

/-- A place in a word: the characters before it, the nearest first, the characters after it, and the
groups matched so far in the order in which they end. -/
structure Place where
  before : Text
  after : Text
  groups : List Text
  deriving DecidableEq, Repr

def Place.step (place : Place) (accepts : Char → Bool) : List Place :=
  match place.after with
  | [] => []
  | c :: after => if accepts c then [{ place with before := c :: place.before, after }] else []

def Place.require (place : Place) (condition : Bool) : List Place :=
  if condition then [place] else []

def startsWord (t : Text) : Bool :=
  match t with
  | [] => false
  | c :: _ => isWordCharacter c

/-- The places where a match that starts at a place can end, the preferred one first. -/
def run : Pattern → Place → List Place
  | empty, place => [place]
  | letter d, place => place.step (fold · == d)
  | oneOf set, place => place.step fun c => set.contains (fold c)
  | noneOf set, place => place.step fun c => !set.contains (fold c)
  | nonWord, place => place.step fun c => !isWordCharacter c
  | start, place => place.require place.before.isEmpty
  | finish, place => place.require place.after.isEmpty
  | boundary, place => place.require (startsWord place.before != startsWord place.after)
  | sequence p q, place => (p.run place).flatMap q.run
  | choice p q, place => p.run place ++ q.run place
  | group p, place => (p.run place).map fun stop =>
    { stop with
      groups :=
        stop.groups ++ [(stop.before.take (stop.before.length - place.before.length)).reverse] }

/-- A match in a word: the text before it, the whole match followed by its groups, and the text after
it. -/
structure Hit where
  before : Text
  groups : List Text
  after : Text
  deriving DecidableEq, Repr

/-- The preferred match between the characters before it, the nearest first, and the text from its
start on. -/
def matchAt? (p : Pattern) (before after : Text) : Option Hit :=
  (p.group.run { before, after, groups := [] }).head?.map fun stop =>
    { before := before.reverse
      groups := stop.groups.getLast?.toList ++ stop.groups.dropLast
      after := stop.after }

/-- The leftmost match that starts behind `before` or later. -/
def findAfter? (p : Pattern) (before : Text) : Text → Option Hit
  | [] => p.matchAt? before []
  | c :: rest =>
    match p.matchAt? before (c :: rest) with
    | some hit => some hit
    | none => findAfter? p (c :: before) rest

def find? (p : Pattern) (word : Text) : Option Hit :=
  p.findAfter? [] word

end Pattern

end TableModel
