import Mathlib.Order.Basic
import Mathlib.Tactic.SplitIfs
import TableModel.Json.Print
import TableModel.Proofs.Json.Grammar

/-!
# What is printed

The printed text of a value is one of its forms: a string is printed with each character raw or escaped, and lists
and objects without any blanks. Of the numbers only the integers of 64 bits are treated here.
-/

namespace TableModel

namespace Json

/-- A value whose numbers are integers of 64 bits. -/
inductive Integral : Json → Prop
  | null : Integral .null
  | boolean (b : Bool) : Integral (.boolean b)
  | integer {n : Int} (h : InRange n) : Integral (.number (.integer n))
  | string (t : Text) : Integral (.string t)
  | array {values : List Json} (h : ∀ v ∈ values, Integral v) : Integral (.array values)
  | object {members : List (Text × Json)} (h : ∀ m ∈ members, Integral m.2) : Integral (.object members)

@[simp] theorem integral_null : Integral .null := .null

@[simp] theorem integral_boolean (b : Bool) : (boolean b).Integral := .boolean b

@[simp] theorem integral_string (t : Text) : (string t).Integral := .string t

@[simp] theorem integral_integer {n : Int} : (number (.integer n)).Integral ↔ InRange n :=
  ⟨fun h => by cases h; assumption, .integer⟩

@[simp] theorem integral_array {values : List Json} : (array values).Integral ↔ ∀ v ∈ values, v.Integral :=
  ⟨fun h => by cases h; assumption, .array⟩

@[simp] theorem integral_object {members : List (Text × Json)} :
    (object members).Integral ↔ ∀ m ∈ members, m.2.Integral :=
  ⟨fun h => by cases h; assumption, .object⟩

theorem charSpelling_print (c : Char) : CharSpelling c (printChar c) := by
  unfold printChar
  split_ifs with hquote hbackslash hb hf hn hr ht hcontrol
  · exact .short (by rw [hquote]; decide)
  · exact .short (by rw [hbackslash]; decide)
  · exact .short (by rw [hb]; decide)
  · exact .short (by rw [hf]; decide)
  · exact .short (by rw [hn]; decide)
  · exact .short (by rw [hr]; decide)
  · exact .short (by rw [ht]; decide)
  · have hlt : c.toNat < 32 := hcontrol
    have hunit : c.toNat = ((0 * 16 + 0) * 16 + c.toNat / 16) * 16 + c.toNat % 16 := by omega
    refine .unit ?_
    conv => arg 1; rw [hunit]
    exact .digits ⟨by decide, .inl rfl⟩ ⟨by decide, .inl rfl⟩ ⟨by omega, .inl rfl⟩ ⟨by omega, .inl rfl⟩
  · exact .raw (Char.not_lt.1 hcontrol) hquote hbackslash

theorem textSpelling_print (t : Text) : TextSpelling t (t.flatMap printChar) := by
  induction t with
  | nil => exact .nil
  | cons c t ih => exact .cons (charSpelling_print c) ih

theorem printElements_eq (values : List Json) :
    printElements values = List.intercalate [','] (values.map print) := by
  induction values with
  | nil => rfl
  | cons v values ih =>
    cases values with
    | nil => simp [printElements]
    | cons w values =>
      rw [printElements, ih]
      · simp [List.intercalate_cons_cons]
      · simp

def printMember (member : Text × Json) : Text :=
  printString member.1 ++ ":" ++ member.2.print

theorem printMembers_eq (members : List (Text × Json)) :
    printMembers members = List.intercalate [','] (members.map printMember) := by
  induction members with
  | nil => rfl
  | cons m members ih =>
    cases members with
    | nil => simp [printMembers, printMember]
    | cons n members =>
      rw [printMembers, ih]
      · simp [List.intercalate_cons_cons, printMember]
      · simp

def printedElement (v : Json) : Element :=
  { before := [], value := v, text := v.print, after := [] }

def printedMember (m : Text × Json) : Member :=
  { before := [], key := m.1, keyText := m.1.flatMap printChar, gap := [], element := printedElement m.2 }

@[simp] theorem written_printedElement (v : Json) : (printedElement v).written = v.print := by
  simp [printedElement, Element.written]

@[simp] theorem written_printedMember (m : Text × Json) : (printedMember m).written = printMember m := by
  simp [printedMember, printedElement, Member.written, Element.written, printMember, printString]

@[simp] theorem value_printedElement (v : Json) : (printedElement v).value = v := rfl

@[simp] theorem pair_printedMember (m : Text × Json) : (printedMember m).pair = m := rfl

/-- The printed text of a value is one of its forms. -/
theorem spelling_print {v : Json} (h : v.Integral) : v.Spelling v.print := by
  have hblank : Text.Blank [] := by simp [Text.Blank]
  induction h with
  | null => exact .null
  | boolean b => cases b <;> constructor
  | integer h => exact .integer h
  | string t => exact .string (textSpelling_print t)
  | @array values _ ih =>
    have hsound : ∀ e ∈ values.map printedElement, e.Sound := List.forall_mem_map.2 fun _ _ => ⟨hblank, hblank⟩
    have hspelling := Spelling.array hblank hsound (List.forall_mem_map.2 ih)
    rw [print, printElements_eq]
    simpa [Function.comp_def] using hspelling
  | @object members _ ih =>
    have hsound : ∀ m ∈ members.map printedMember, m.Sound :=
      List.forall_mem_map.2 fun m _ => ⟨hblank, textSpelling_print m.1, hblank, hblank, hblank⟩
    have hspelling := Spelling.object hblank hsound (List.forall_mem_map.2 ih)
    rw [print, printMembers_eq]
    simpa [Function.comp_def] using hspelling

theorem documentSpelling_print {v : Json} (h : v.Integral) : DocumentSpelling v v.print :=
  ⟨[], v.print, [], by simp, by simp [Text.Blank], by simp [Text.Blank], spelling_print h⟩

end Json

end TableModel
