import Mathlib.Data.List.Basic
import TableModel.Proofs.Model.SinglePass

/-!
# One layout for all widths

Each part of a script is indented as a text, again and again, and what is lost at a break on the way depends on the
strings of the model. Yet the lines that come of it and their depths are the same at every width of an indentation
step. Two widths are enough to read them off, so that there is only one such list of lines.
-/

namespace TableModel

open Text

variable {model : Model}

namespace Layout

variable {front back : Layout}

theorem line_eq_of_pad {line other : Nat × Text} (hzero : pad 0 line = pad 0 other) (hone : pad 1 line = pad 1 other) :
    line = other := by
  obtain ⟨depth, t⟩ := line
  obtain ⟨otherDepth, u⟩ := other
  have htext : t = u := by simpa [pad, spaces] using hzero
  have hdepth : depth = otherDepth := by
    have hlength := congrArg List.length hone
    simpa [pad, spaces, htext] using hlength
  rw [htext, hdepth]

theorem eq_of_map_pad (hzero : front.map (pad 0) = back.map (pad 0)) (hone : front.map (pad 1) = back.map (pad 1)) :
    front = back := by
  have hinjective : Function.Injective fun line : Nat × Text => (pad 0 line, pad 1 line) := by
    intro line other h
    exact line_eq_of_pad (Prod.mk.inj h).1 (Prod.mk.inj h).2
  apply List.map_injective_iff.2 hinjective
  rw [← List.zip_map', ← List.zip_map', hzero, hone]

/-- Two layouts with the same text at every width are the same. -/
theorem eq_of_text (hfront : ∀ line ∈ front, '\n' ∉ line.2) (hback : ∀ line ∈ back, '\n' ∉ line.2)
    (hfrontNe : front ≠ []) (hbackNe : back ≠ []) (h : ∀ width ≤ 1, text width front = text width back) :
    front = back := by
  have hlines (width : Nat) (hwidth : width ≤ 1) : front.map (pad width) = back.map (pad width) := by
    rw [← splitOn_text width hfront hfrontNe, h width hwidth, splitOn_text width hback hbackNe]
  exact eq_of_map_pad (hlines 0 (Nat.zero_le 1)) (hlines 1 (Nat.le_refl 1))

end Layout

namespace Model

open Layout

/-- What stands behind the code of a script: an empty line and the comment that describes the type. -/
def tail (model : Model) : Text :=
  "\n\n" ++ model.typedef ++ "\n"

/-- Lines with depths that the code of a model consists of, however wide a step of indentation is. -/
structure LaidOut (model : Model) (layout : Layout) : Prop where
  hlines : ∀ line ∈ layout, '\n' ∉ line.2
  hlast : layout.getLast? = some (0, "\x7d;".toList)
  hrender : ∀ (options : Options) (file : ModelFile), options.render model = .ok file ↔
    options.indentWidth ≤ Options.greatestIndentWidth ∧ file = {
      name := options.fileName model.baseName
      content := joinLines (layout.map fun line => spaces (options.indentWidth * line.1) ++ line.2) ++ model.tail }

theorem render_eq_tail (width : Nat) (model : Model) :
    model.render (spaces width) = text width model.codeLayout ++ model.tail := by
  rw [render_eq, tail]
  simp [joinLines, List.intercalate]

theorem getLast?_codeLayout (model : Model) : model.codeLayout.getLast? = some (0, "\x7d;".toList) := by
  simp [codeLayout, line, List.getLast?_cons]

theorem laidOut_codeLayout (model : Model) : model.LaidOut model.codeLayout := by
  refine ⟨model.not_mem_codeLayout, model.getLast?_codeLayout, ?_⟩
  intro options file
  rw [Options.render_eq_ok_iff, render_eq_tail]
  rfl

variable {layout other : Layout}

theorem LaidOut.ne_nil (h : model.LaidOut layout) : layout ≠ [] := by
  intro hnil
  have hlast := h.hlast
  rw [hnil] at hlast
  cases hlast

theorem LaidOut.eq (h : model.LaidOut layout) (hother : model.LaidOut other) : layout = other := by
  refine eq_of_text h.hlines hother.hlines h.ne_nil hother.ne_nil fun width hwidth => ?_
  have hgreatest : width ≤ Options.greatestIndentWidth := Nat.le_trans hwidth (by decide)
  have hrender := (h.hrender { indentWidth := width } _).2 ⟨hgreatest, rfl⟩
  obtain ⟨-, hfile⟩ := (hother.hrender _ _).1 hrender
  exact List.append_cancel_right (ModelFile.mk.inj hfile).2

/-- The code of a script has one layout, whatever strings the model holds: at every width that an indentation step can
have the code is joined of its lines, each behind as many steps as it is deep, and the rest is the same. Without breaks
in the strings it is the layout that is printed in one pass. -/
theorem render_layout (model : Model) :
    ∃ layout, model.LaidOut layout ∧ (∀ other, model.LaidOut other → other = layout) ∧
      (model.Plain → layout = model.printed) :=
  ⟨model.codeLayout, model.laidOut_codeLayout, fun _ hother => hother.eq model.laidOut_codeLayout, Plain.codeLayout⟩

def noteModel : Model where
  tableName := "notes"
  baseName := "note"
  fields := [{ name := "text", dataType := { symbol := "STRING", args := ["20".toList] } }]
  comment := some "All notes"
  requiredSymbols := ["STRING"]

theorem render_layout_noteModel : noteModel.Plain ∧ noteModel.LaidOut noteModel.printed := by
  have hname : Text.Unbroken "text" := by decide
  have hcomment : Text.Unbroken "All notes" := by decide
  have hunbroken : noteModel.Unbroken := by
    refine ⟨by decide, by simpa [noteModel] using hcomment, ?_⟩
    intro field hfield
    rw [List.mem_singleton.1 hfield]
    exact ⟨hname, by decide, by simp, by simp⟩
  have hfixed : ∀ field ∈ noteModel.fields, field.dataType.Fixed := by
    intro field hfield
    rw [List.mem_singleton.1 hfield]
    exact .of_symbol (by decide) _
  have hplain : noteModel.Plain := ⟨hunbroken, hfixed, by decide⟩
  obtain ⟨layout, hlayout, -, hprinted⟩ := render_layout noteModel
  rw [hprinted hplain] at hlayout
  exact ⟨hplain, hlayout⟩

/-- A name falls into two lines at its break. Each of the three times that it is indented takes a carriage return. -/
example : [(3, "a".toList), (3, "b: \x7b".toList)] <:+: codeLayout {
    tableName := "t"
    baseName := "t"
    fields := [{ name := "a\r\r\nb", dataType := { symbol := "TEXT" } }]
    requiredSymbols := ["TEXT"] } := by
  decide +kernel

/-- Between the braces of no fields stands an empty line. -/
example : [(2, "\x7b".toList), (2, []), (2, "\x7d,".toList)] <:+: codeLayout {
    tableName := "t"
    baseName := "t"
    fields := []
    requiredSymbols := [] } := by
  decide +kernel

end Model

end TableModel
