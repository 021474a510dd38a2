import TableModel.Json.Value
import TableModel.Number.Numeral

/-!
# How JSON is written

The written forms of a JSON value. A value has many: blanks may stand between any two tokens, a character
of a string may stand for itself or be escaped in one of several ways, and a number may be any numeral
that has its value. `Json.Spelling v t` says that the text `t` is a form of the value `v`, from its first
token to its last. Nothing here mentions a reader.
-/

namespace TableModel

def Text.Blank (t : Text) : Prop :=
  ∀ c ∈ t, c = ' ' ∨ c = '\t' ∨ c = '\n' ∨ c = '\r'

namespace Json

/-! ### Strings -/

/-- The letters of the short escapes, each with the character that it stands for. -/
def shortEscapes : List (Char × Char) :=
  [('"', '"'), ('\\', '\\'), ('/', '/'), ('b', '\x08'), ('f', '\x0c'), ('n', '\n'), ('r', '\r'), ('t', '\t')]

/-- A hexadecimal digit, small or capital. -/
def HexDigit (value : Nat) (c : Char) : Prop :=
  value < 16 ∧ (c = Nat.digitChar value ∨ c = (Nat.digitChar value).toUpper)

/-- Four hexadecimal digits of a UTF-16 unit. -/
inductive UnitSpelling : Nat → Text → Prop
  | digits {i j k l : Nat} {a b c d : Char} (ha : HexDigit i a) (hb : HexDigit j b) (hc : HexDigit k c)
      (hd : HexDigit l d) : UnitSpelling (((i * 16 + j) * 16 + k) * 16 + l) [a, b, c, d]

def leadingUnit (c : Char) : Nat :=
  0xD800 + (c.toNat - 0x10000) / 0x400

def trailingUnit (c : Char) : Nat :=
  0xDC00 + (c.toNat - 0x10000) % 0x400

inductive CharSpelling (c : Char) : Text → Prop
  | raw (hcontrol : ' ' ≤ c) (hquote : c ≠ '"') (hbackslash : c ≠ '\\') : CharSpelling c [c]
  | short {letter : Char} (h : (letter, c) ∈ shortEscapes) : CharSpelling c ['\\', letter]
  | unit {digits : Text} (h : UnitSpelling c.toNat digits) : CharSpelling c ('\\' :: 'u' :: digits)
  | pair {leading trailing : Text} (hastral : 0x10000 ≤ c.toNat) (hleading : UnitSpelling (leadingUnit c) leading)
      (htrailing : UnitSpelling (trailingUnit c) trailing) :
      CharSpelling c ('\\' :: 'u' :: (leading ++ '\\' :: 'u' :: trailing))

inductive TextSpelling : Text → Text → Prop
  | nil : TextSpelling [] []
  | cons {c : Char} {t front back : Text} (hchar : CharSpelling c front) (hrest : TextSpelling t back) :
      TextSpelling (c :: t) (front ++ back)

/-! ### Numbers -/

/-- Digits, at least one. -/
def Digits (t : Text) : Prop :=
  t ≠ [] ∧ ∀ c ∈ t, c.isDigit

inductive FractionSpelling : Option Text → Text → Prop
  | none : FractionSpelling none []
  | some {digits : Text} (h : Digits digits) : FractionSpelling (some digits) ('.' :: digits)

inductive ExponentSpelling : Option (Bool × Text) → Text → Prop
  | none : ExponentSpelling none []
  | unsigned {mark : Char} {digits : Text} (hmark : mark = 'e' ∨ mark = 'E') (h : Digits digits) :
      ExponentSpelling (some (false, digits)) (mark :: digits)
  | plus {mark : Char} {digits : Text} (hmark : mark = 'e' ∨ mark = 'E') (h : Digits digits) :
      ExponentSpelling (some (false, digits)) (mark :: '+' :: digits)
  | minus {mark : Char} {digits : Text} (hmark : mark = 'e' ∨ mark = 'E') (h : Digits digits) :
      ExponentSpelling (some (true, digits)) (mark :: '-' :: digits)

/-- The forms of a numeral. A zero at the start of the whole part stands alone. -/
inductive NumeralSpelling : Numeral → Text → Prop
  | parts {negative : Bool} {whole : Text} {fraction : Option Text} {exponent : Option (Bool × Text)}
      {behindPoint behindMark : Text} (hwhole : Digits whole)
      (hzero : whole.head? = some '0' → whole.length = 1) (hfraction : FractionSpelling fraction behindPoint)
      (hexponent : ExponentSpelling exponent behindMark) :
      NumeralSpelling { negative, whole, fraction, exponent }
        ((if negative then ['-'] else []) ++ (whole ++ (behindPoint ++ behindMark)))

/-- The integers of 64 bits, with and without a sign. -/
def InRange (n : Int) : Prop :=
  -9223372036854775808 ≤ n ∧ n < 18446744073709551616

/-! ### Values -/

/-- A value of a list as it is written, with the blanks around it. -/
structure Element where
  before : Text
  value : Json
  text : Text
  after : Text

def Element.written (e : Element) : Text :=
  e.before ++ (e.text ++ e.after)

/-- A member of an object as it is written: the key between its quotes with the blanks around it, and the
value behind the colon. -/
structure Member where
  before : Text
  key : Text
  keyText : Text
  gap : Text
  element : Element

def Member.written (m : Member) : Text :=
  m.before ++ '"' :: (m.keyText ++ '"' :: (m.gap ++ ':' :: m.element.written))

def Member.pair (m : Member) : Text × Json :=
  (m.key, m.element.value)

structure Element.Sound (e : Element) : Prop where
  hbefore : e.before.Blank
  hafter : e.after.Blank

structure Member.Sound (m : Member) : Prop where
  hbefore : m.before.Blank
  hkey : TextSpelling m.key m.keyText
  hgap : m.gap.Blank
  helement : m.element.Sound

/-- The forms of a value. An integer of 64 bits may always be written in its own digits. -/
inductive Spelling : Json → Text → Prop
  | null : Spelling .null "null"
  | true : Spelling (.boolean true) "true"
  | false : Spelling (.boolean false) "false"
  | integer {n : Int} (h : InRange n) : Spelling (.number (.integer n)) (Text.ofInt n)
  | numeral {x : Numeral} {n : Number} {t : Text} (h : NumeralSpelling x t) (hvalue : x.value? = some n) :
      Spelling (.number n) t
  | string {t u : Text} (h : TextSpelling t u) : Spelling (.string t) ('"' :: (u ++ ['"']))
  | array {blanks : Text} {elements : List Element} (hblanks : blanks.Blank) (hsound : ∀ e ∈ elements, e.Sound)
      (h : ∀ e ∈ elements, Spelling e.value e.text) :
      Spelling (.array (elements.map Element.value))
        ('[' :: (blanks ++ (List.intercalate [','] (elements.map Element.written) ++ [']'])))
  | object {blanks : Text} {members : List Member} (hblanks : blanks.Blank) (hsound : ∀ m ∈ members, m.Sound)
      (h : ∀ m ∈ members, Spelling m.element.value m.element.text) :
      Spelling (.object (members.map Member.pair))
        ('\x7b' :: (blanks ++ (List.intercalate [','] (members.map Member.written) ++ ['\x7d'])))

/-- A text that is one document: a form of a value with any blanks around it. -/
def DocumentSpelling (v : Json) (t : Text) : Prop :=
  ∃ before text after, t = before ++ (text ++ after) ∧ before.Blank ∧ after.Blank ∧ v.Spelling text

/-- Lists and objects stand inside each other at most so many deep. -/
def Fits : Nat → Json → Prop
  | 0, .array _ | 0, .object _ => False
  | levels + 1, .array values => ∀ v ∈ values, Fits levels v
  | levels + 1, .object members => ∀ m ∈ members, Fits levels m.2
  | _, _ => True

end Json

end TableModel
