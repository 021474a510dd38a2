import Mathlib.Data.List.Infix
import TableModel.English.Pattern

/-!
# What a match is made of

A match of a pattern reads a piece of the word, from the place where it starts to the place where it ends. Each of
its groups is a piece of what it reads, and the first one is all of it.
-/

namespace TableModel.Pattern

/-- From one place to another a text is read, and groups in it are kept. -/
structure Reads (start stop : Place) (text : Text) (groups : List Text) : Prop where
  hbefore : stop.before = text.reverse ++ start.before
  hafter : start.after = text ++ stop.after
  hgroups : stop.groups = start.groups ++ groups
  hpieces : ∀ group ∈ groups, group <:+: text

namespace Reads

variable {start middle stop : Place} {text rest : Text} {groups others : List Text}

theorem refl (place : Place) : Reads place place [] [] where
  hbefore := rfl
  hafter := rfl
  hgroups := (List.append_nil _).symm
  hpieces := by simp

theorem trans (h : Reads start middle text groups) (h' : Reads middle stop rest others) :
    Reads start stop (text ++ rest) (groups ++ others) where
  hbefore := by rw [h'.hbefore, h.hbefore, List.reverse_append, List.append_assoc]
  hafter := by rw [h.hafter, h'.hafter, List.append_assoc]
  hgroups := by rw [h'.hgroups, h.hgroups, List.append_assoc]
  hpieces := by
    refine List.forall_mem_append.2 ⟨fun group hmem => ?_, fun group hmem => ?_⟩
    · exact (h.hpieces group hmem).trans (List.prefix_append _ _).isInfix
    · exact (h'.hpieces group hmem).trans (List.suffix_append _ _).isInfix

theorem group (h : Reads start stop text groups) :
    Reads start
      { stop with groups := stop.groups ++ [(stop.before.take (stop.before.length - start.before.length)).reverse] }
      text (groups ++ [text]) := by
  have htext : (stop.before.take (stop.before.length - start.before.length)).reverse = text := by
    simp [h.hbefore]
  refine ⟨h.hbefore, h.hafter, ?_, ?_⟩
  · rw [htext, h.hgroups, List.append_assoc]
  · exact List.forall_mem_append.2 ⟨h.hpieces, by simp⟩

end Reads

variable {p : Pattern} {place stop : Place}

theorem Place.step_reads {accepts : Char → Bool} (h : stop ∈ place.step accepts) : ∃ c, Reads place stop [c] [] := by
  unfold step at h
  split at h
  · simp at h
  · rename_i c after hafter
    split at h
    · obtain rfl := List.mem_singleton.1 h
      exact ⟨c, rfl, hafter, by simp, by simp⟩
    · simp at h

theorem Place.eq_of_require {condition : Bool} (h : stop ∈ place.require condition) : stop = place := by
  unfold require at h
  split at h
  · exact List.mem_singleton.1 h
  · simp at h

/-- Every way to match reads a piece of the word. -/
theorem run_reads (h : stop ∈ p.run place) : ∃ text groups, Reads place stop text groups := by
  induction p generalizing place stop with
  | empty =>
    obtain rfl := List.mem_singleton.1 h
    exact ⟨[], [], .refl _⟩
  | letter _ | oneOf _ | noneOf _ | nonWord =>
    obtain ⟨c, hreads⟩ := Place.step_reads h
    exact ⟨[c], [], hreads⟩
  | start | finish | boundary =>
    obtain rfl := Place.eq_of_require h
    exact ⟨[], [], .refl _⟩
  | sequence p q hp hq =>
    obtain ⟨middle, hmiddle, hstop⟩ := List.mem_flatMap.1 h
    obtain ⟨text, groups, hreads⟩ := hp hmiddle
    obtain ⟨rest, others, hrest⟩ := hq hstop
    exact ⟨_, _, hreads.trans hrest⟩
  | choice p q hp hq =>
    rcases List.mem_append.1 h with h | h
    · exact hp h
    · exact hq h
  | group p ih =>
    obtain ⟨stop, hstop, rfl⟩ := List.mem_map.1 h
    obtain ⟨text, groups, hreads⟩ := ih hstop
    exact ⟨text, _, hreads.group⟩

/-- A hit lies in a word: the word is what stands before it, its first group, and what stands after it, and the
other groups are pieces of the first one. -/
def Hit.In (hit : Hit) (word : Text) : Prop :=
  ∃ text groups, word = hit.before ++ text ++ hit.after ∧ hit.groups = text :: groups ∧
    ∀ group ∈ groups, group <:+: text

theorem matchAt?_in {before after : Text} {hit : Hit} (h : p.matchAt? before after = some hit) :
    hit.In (before.reverse ++ after) := by
  obtain ⟨stop, hstop, rfl⟩ := Option.map_eq_some_iff.1 h
  obtain ⟨inner, hinner, rfl⟩ := List.mem_map.1 (List.mem_of_mem_head? hstop)
  obtain ⟨text, groups, hreads⟩ := run_reads hinner
  have hafter : after = text ++ inner.after := hreads.hafter
  have hgroups := hreads.group.hgroups
  rw [List.nil_append] at hgroups
  refine ⟨text, groups, ?_, ?_, hreads.hpieces⟩
  · rw [hafter, List.append_assoc]
  · rw [hgroups, List.getLast?_concat, List.dropLast_concat, Option.toList_some, List.singleton_append]

theorem findAfter?_in {before after : Text} {hit : Hit} (h : p.findAfter? before after = some hit) :
    hit.In (before.reverse ++ after) := by
  induction after generalizing before with
  | nil => exact matchAt?_in h
  | cons c rest ih =>
    rw [findAfter?] at h
    split at h
    · rename_i found hfound
      cases h
      exact matchAt?_in hfound
    · simpa using ih h

/-- The match that is found in a word lies in it. -/
theorem find?_in {word : Text} {hit : Hit} (h : p.find? word = some hit) : hit.In word :=
  findAfter?_in h

theorem Hit.In.isInfix {hit : Hit} {word : Text} (h : hit.In word) : ∀ group ∈ hit.groups, group <:+: word := by
  obtain ⟨text, groups, rfl, hgroups, hpieces⟩ := h
  have htext : text <:+: hit.before ++ text ++ hit.after := ⟨hit.before, hit.after, rfl⟩
  rw [hgroups]
  exact List.forall_mem_cons.2 ⟨htext, fun group hmem => (hpieces group hmem).trans htext⟩

end TableModel.Pattern
