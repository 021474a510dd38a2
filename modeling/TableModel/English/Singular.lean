import TableModel.English.Case
import TableModel.English.Rules

/-!
# English singulars

The singular of an English word. The irregular words come first, then the words without a plural, and
then the rules, the most special one first. A word that nothing applies to is taken for a singular.
-/

namespace TableModel.English

/-- The text with every mark `$` that has the digit behind it, and the digit, replaced by `value`. -/
def substitute (digit : Char) (value : Text) : Text → Text
  | [] => []
  | [c] => [c]
  | c :: d :: rest =>
    if c = '$' ∧ d = digit then value ++ substitute digit value rest
    else c :: substitute digit value (d :: rest)

/-- The text without any mark `$`, and without the character behind each. -/
def dropMarks : Text → Text
  | [] => []
  | [c] => if c = '$' then [] else [c]
  | c :: d :: rest => if c = '$' then dropMarks rest else c :: dropMarks (d :: rest)

/-- Puts groups, numbered from `number` on, in the place of their marks, each in the case of the
word. -/
def fillMarks (word : Text) (number : Nat) : List Text → Text → Except Fault Text
  | [], t => .ok t
  | group :: groups, t => do
    let value ← restoreCase word group
    fillMarks word (number + 1) groups (substitute (Nat.digitChar number) value t)

def Rule.replace (rule : Rule) (word : Text) (hit : Pattern.Hit) : Except Fault Text := do
  let replacement ← restoreCase word rule.replacement
  let ending ← fillMarks word 0 hit.groups replacement
  .ok (dropMarks (hit.before ++ ending ++ hit.after))

def applyFirst (word : Text) : List Rule → Except Fault Text
  | [] => .ok word
  | rule :: others =>
    match rule.pattern.find? word with
    | some hit => rule.replace word hit
    | none => applyFirst word others

/-- The singular of a plural that follows no rule. Of several singulars with one plural the last one in
the table is taken. -/
def irregularSingular? (token : Text) : Option Text :=
  if irregular.any (·.1 == token) then some token
  else (irregular.reverse.find? (·.2 == token)).map (·.1)

def singular (word : Text) : Except Fault Text :=
  let token := word.toLowercase
  match irregularSingular? token with
  | some form => restoreCase word form
  | none =>
    if token.isEmpty || uncountable.contains token then .ok word
    else applyFirst word rules.reverse

end TableModel.English
