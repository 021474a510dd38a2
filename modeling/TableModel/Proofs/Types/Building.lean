import TableModel.Proofs.Model.Imports

/-!
# Building a type expression

An expression is built on a symbol by steps in any number and any order. A step only adds at the end: arguments to the
arguments, or a modifier to the modifiers. So what the steps build is told by two lists, the arguments of all steps and
the modifiers of all steps, each in the order of the steps, and in which order steps of the two kinds meet is lost.
-/

namespace TableModel

namespace TypeExpression

def Step.newArgs : Step → List Text
  | .args added => added
  | .modifier _ => []
  | .modifierIf _ _ => []

/-- The modifiers that a step adds: none if its condition does not hold. -/
def Step.newModifiers : Step → List Text
  | .args _ => []
  | .modifier added => [added]
  | .modifierIf condition added => if condition then [added] else []

def build (symbol : Text) (steps : List Step) : TypeExpression :=
  steps.foldl apply { symbol }

theorem apply_eq (e : TypeExpression) (step : Step) :
    e.apply step =
      { symbol := e.symbol, args := e.args ++ step.newArgs, modifiers := e.modifiers ++ step.newModifiers } := by
  cases step with
  | args args => rw [apply, withArgs, Step.newArgs, Step.newModifiers, List.append_nil]
  | modifier modifier => rw [apply, withModifier, Step.newArgs, Step.newModifiers, List.append_nil]
  | modifierIf condition modifier =>
    rw [apply, Step.newArgs, Step.newModifiers, List.append_nil, withModifierIf]
    split
    · rfl
    · rw [List.append_nil]

theorem foldl_apply (e : TypeExpression) (steps : List Step) :
    steps.foldl apply e =
      { symbol := e.symbol, args := e.args ++ steps.flatMap Step.newArgs,
        modifiers := e.modifiers ++ steps.flatMap Step.newModifiers } := by
  induction steps generalizing e with
  | nil => rw [List.foldl_nil, List.flatMap_nil, List.flatMap_nil, List.append_nil, List.append_nil]
  | cons step steps ih =>
    rw [List.foldl_cons, ih, apply_eq, List.flatMap_cons, List.flatMap_cons, List.append_assoc, List.append_assoc]

/-- What steps build is the symbol with all of their arguments and all of their modifiers. -/
theorem build_eq (symbol : Text) (steps : List Step) :
    build symbol steps =
      { symbol, args := steps.flatMap Step.newArgs, modifiers := steps.flatMap Step.newModifiers } := by
  rw [build, foldl_apply, List.nil_append, List.nil_append]

theorem build_eq_build_iff (symbol : Text) (steps others : List Step) :
    build symbol steps = build symbol others ↔
      steps.flatMap Step.newArgs = others.flatMap Step.newArgs ∧
        steps.flatMap Step.newModifiers = others.flatMap Step.newModifiers := by
  rw [build_eq, build_eq, mk.injEq, eq_self_iff_true, true_and]

/-- Steps in the middle may be exchanged for others that add the same. -/
theorem build_middle {steps others : List Step} (hargs : steps.flatMap Step.newArgs = others.flatMap Step.newArgs)
    (hmodifiers : steps.flatMap Step.newModifiers = others.flatMap Step.newModifiers) (symbol : Text)
    (front back : List Step) :
    build symbol (front ++ steps ++ back) = build symbol (front ++ others ++ back) := by
  rw [build_eq_build_iff]
  constructor
  · rw [List.flatMap_append, List.flatMap_append, hargs, ← List.flatMap_append, ← List.flatMap_append]
  · rw [List.flatMap_append, List.flatMap_append, hmodifiers, ← List.flatMap_append, ← List.flatMap_append]

/-- A step without modifiers and a step without arguments do not meet. -/
theorem build_swap {step other : Step} (hstep : step.newModifiers = []) (hother : other.newArgs = []) (symbol : Text)
    (front back : List Step) :
    build symbol (front ++ [step, other] ++ back) = build symbol (front ++ [other, step] ++ back) := by
  apply build_middle
  · simp only [List.flatMap_cons, List.flatMap_nil, hother, List.append_nil, List.nil_append]
  · simp only [List.flatMap_cons, List.flatMap_nil, hstep, List.append_nil, List.nil_append]

theorem text_of_no_args {e : TypeExpression} (h : e.args = []) :
    e.text = e.symbol ++ e.modifiers.flatMap ('.' :: ·) := by
  rw [text, argsText, h, List.isEmpty_nil, if_pos rfl]
  exact congrArg (· ++ _) (List.append_nil e.symbol)

theorem text_of_some_args {e : TypeExpression} (h : e.args ≠ []) :
    e.text = e.symbol ++ "(" ++ List.intercalate "," e.args ++ ")" ++ e.modifiers.flatMap ('.' :: ·) := by
  have hempty : ¬ e.args.isEmpty = true := by rwa [List.isEmpty_iff]
  rw [text, argsText, if_neg hempty]
  simp only [List.append_assoc]

/-- An expression is the symbol, all arguments between brackets if there is any, and all modifiers behind dots. The
symbol is kept by every step, lists of arguments in a row are one list, arguments and modifiers may change places, two
runs of steps build the same expression exactly when they add the same, and the symbol is read off the text of the
expression. -/
theorem build_text (symbol : Text) (steps : List Step) :
    let e := build symbol steps
    let args := steps.flatMap Step.newArgs
    let modifiers := steps.flatMap Step.newModifiers
    (args = [] → e.text = symbol ++ modifiers.flatMap ('.' :: ·)) ∧
    (args ≠ [] → e.text = symbol ++ "(" ++ List.intercalate "," args ++ ")" ++ modifiers.flatMap ('.' :: ·)) ∧
    (∀ front, front <+: steps → (build symbol front).symbol = symbol) ∧
    (∀ front first second back,
      build symbol (front ++ [.args first, .args second] ++ back) =
        build symbol (front ++ [.args (first ++ second)] ++ back)) ∧
    (∀ front values name back,
      build symbol (front ++ [.args values, .modifier name] ++ back) =
        build symbol (front ++ [.modifier name, .args values] ++ back)) ∧
    (∀ front values condition name back,
      build symbol (front ++ [.args values, .modifierIf condition name] ++ back) =
        build symbol (front ++ [.modifierIf condition name, .args values] ++ back)) ∧
    (∀ others, build symbol others = e ↔
      others.flatMap Step.newArgs = args ∧ others.flatMap Step.newModifiers = modifiers) ∧
    ('(' ∉ symbol → '.' ∉ symbol → leadingIdentifier e.text = symbol) := by
  intro e args modifiers
  have he : e = { symbol, args, modifiers } := build_eq symbol steps
  have hsymbol : e.symbol = symbol := by rw [he]
  have hargs : e.args = args := by rw [he]
  refine ⟨?_, ?_, ?_, ?_, ?_, ?_, ?_, ?_⟩
  · intro hnone
    rw [text_of_no_args (hargs.trans hnone), he]
  · intro hsome
    have hne : e.args ≠ [] := by rwa [hargs]
    rw [text_of_some_args hne, he]
  · intro front _
    rw [build_eq]
  · intro front first second back
    apply build_middle
    · rw [List.flatMap_cons, List.flatMap_singleton, List.flatMap_singleton, Step.newArgs, Step.newArgs, Step.newArgs]
    · rfl
  · intro front values name back
    apply build_swap
    · rfl
    · rfl
  · intro front values condition name back
    apply build_swap
    · rfl
    · rfl
  · intro others
    exact build_eq_build_iff symbol others steps
  · intro hbracket hdot
    rw [← hsymbol] at hbracket hdot
    rw [leadingIdentifier_text_of_not_mem hbracket hdot, hsymbol]

def mixedSteps : List Step :=
  [.args [], .modifier "UNSIGNED", .args [""], .modifierIf false "BINARY", .args ["11", "2"], .modifierIf true "ZEROFILL"]

theorem build_text_mixedSteps :
    (build "INTEGER" mixedSteps).text = "INTEGER(,11,2).UNSIGNED.ZEROFILL" ∧
      leadingIdentifier (build "INTEGER" mixedSteps).text = "INTEGER" ∧
      (build "JSON" []).text = "JSON" := by
  obtain ⟨-, htext, -, -, -, -, -, hsymbol⟩ := build_text "INTEGER" mixedSteps
  obtain ⟨hbare, -⟩ := build_text "JSON" []
  exact ⟨htext (by decide), hsymbol (by decide) (by decide), hbare rfl⟩

end TypeExpression

end TableModel
