import TableModel.Text.Basic

/-!
# Type expressions

The expression that declares the type of a field, such as `INTEGER(11).UNSIGNED`: a symbol, arguments,
and modifiers. Arguments and modifiers are added at the end and nothing is ever taken away, so that an
expression depends only on what was added and in what order.
-/

namespace TableModel

structure TypeExpression where
  symbol : Text
  args : List Text := []
  modifiers : List Text := []
  deriving DecidableEq, Repr

namespace TypeExpression

def withArgs (e : TypeExpression) (args : List Text) : TypeExpression :=
  { e with args := e.args ++ args }

def withModifier (e : TypeExpression) (modifier : Text) : TypeExpression :=
  { e with modifiers := e.modifiers ++ [modifier] }

def withModifierIf (e : TypeExpression) (condition : Bool) (modifier : Text) : TypeExpression :=
  if condition then e.withModifier modifier else e

/-- One step of building an expression. -/
inductive Step where
  | args (args : List Text)
  | modifier (modifier : Text)
  | modifierIf (condition : Bool) (modifier : Text)
  deriving DecidableEq, Repr

def apply (e : TypeExpression) : Step → TypeExpression
  | .args args => e.withArgs args
  | .modifier modifier => e.withModifier modifier
  | .modifierIf condition modifier => e.withModifierIf condition modifier

/-- The arguments in parentheses, or nothing if there are none. -/
def argsText (args : List Text) : Text :=
  if args.isEmpty then "" else "(" ++ List.intercalate "," args ++ ")"

def text (e : TypeExpression) : Text :=
  e.symbol ++ argsText e.args ++ e.modifiers.flatMap ('.' :: ·)

end TypeExpression

end TableModel
