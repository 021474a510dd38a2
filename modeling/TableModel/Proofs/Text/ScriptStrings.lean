import Mathlib.Data.List.Basic
import TableModel.Json.String
import TableModel.Proofs.Text.Quoted

/-!
# Strings of a script

How a script reads a string in single quotes (ECMAScript 2019, strict mode), as a machine that takes one character
at a time, and which quoted texts it reads back. In a text without a backslash the machine finds no escapes but those
that quoting has put there: of breaks, and of the first quote. A second quote ends the string too early, and where
breaks have no escape the first of them is refused.
-/

namespace TableModel

/-! ### The reader -/

def codeUnits (n : Nat) : List Nat :=
  if n < 0x10000 then [n] else [0xD800 + (n - 0x10000) / 0x400, 0xDC00 + (n - 0x10000) % 0x400]

/-- The UTF-16 units of a text, which are the value of a string in a script. -/
def Text.units (t : Text) : List Nat :=
  t.flatMap fun c => codeUnits c.toNat

/-- Where a reader stands inside a string of a script. -/
inductive ScriptState where
  /-- Between characters. -/
  | plain
  /-- Behind a backslash. -/
  | escape
  /-- Behind a backslash and a carriage return, which a line feed may belong to. -/
  | continued
  /-- Behind `\0`, where no digit may follow. -/
  | zero
  /-- In an escape that still needs so many digits, behind digits of this value. -/
  | digits (left value : Nat)
  /-- Behind `\u`. -/
  | unicode
  /-- In the braces of an escape, behind digits of this value if there are any. -/
  | braced (value : Option Nat)
  deriving DecidableEq, Repr

namespace ScriptState

/-- Whether a quote ends the string here. -/
def mayClose : ScriptState → Bool
  | plain | continued | zero => true
  | escape | digits _ _ | unicode | braced _ => false

/-- What a character between characters gives. Line and paragraph separators may stand there, other breaks may not. -/
def plainStep (c : Char) : Option (ScriptState × List Nat) :=
  if c = '\\' then some (escape, [])
  else if c = '\r' ∨ c = '\n' then none
  else some (plain, codeUnits c.toNat)

/-- The value of a single character behind a backslash: of a letter with a meaning of its own, or of itself. -/
def escapeValue (c : Char) : List Nat :=
  if c = 'b' then [0x8]
  else if c = 't' then [0x9]
  else if c = 'n' then [0xA]
  else if c = 'v' then [0xB]
  else if c = 'f' then [0xC]
  else if c = 'r' then [0xD]
  else codeUnits c.toNat

/-- What a character behind a backslash gives. A break there goes on with the string on the next line. -/
def escapeStep (c : Char) : Option (ScriptState × List Nat) :=
  if c = 'x' then some (digits 2 0, [])
  else if c = 'u' then some (unicode, [])
  else if c = '0' then some (zero, [0])
  else if '1' ≤ c ∧ c ≤ '9' then none
  else if c = '\r' then some (continued, [])
  else if c = '\n' ∨ c = '\u2028' ∨ c = '\u2029' then some (plain, [])
  else some (plain, escapeValue c)

/-- One character inside a string: the next state, and the units that it completes. -/
def step : ScriptState → Char → Option (ScriptState × List Nat)
  | plain, c => plainStep c
  | escape, c => escapeStep c
  | continued, c => if c = '\n' then some (plain, []) else plainStep c
  | zero, c => if '0' ≤ c ∧ c ≤ '9' then none else plainStep c
  | digits left value, c => do
    let digit ← Read.hexDigit? c
    if left ≤ 1 then some (plain, [value * 16 + digit]) else some (digits (left - 1) (value * 16 + digit), [])
  | unicode, c =>
    if c = '{' then some (braced none, [])
    else do
      let digit ← Read.hexDigit? c
      some (digits 3 digit, [])
  | braced value, c =>
    if c = '}' then do
      let point ← value
      if point ≤ 0x10FFFF then some (plain, codeUnits point) else none
    else do
      let digit ← Read.hexDigit? c
      some (braced (some (value.getD 0 * 16 + digit)), [])

end ScriptState

def prepend (units : List Nat) (reading : Option (List Nat × Text)) : Option (List Nat × Text) :=
  reading.map fun (value, rest) => (units ++ value, rest)

def scriptFrom : ScriptState → Text → Option (List Nat × Text)
  | _, [] => none
  | state, c :: rest =>
    if c = '\'' ∧ state.mayClose then some ([], rest)
    else do
      let (next, units) ← state.step c
      prepend units (scriptFrom next rest)

/-- Reads a string in single quotes at the front of a text: its value, and what is behind it. -/
def readScriptString : Text → Option (List Nat × Text)
  | [] => none
  | c :: rest => if c = '\'' then scriptFrom .plain rest else none

/-- The whole text is one string of a script and has this value. -/
def IsScriptString (t : Text) (value : List Nat) : Prop :=
  readScriptString t = some (value, [])

instance (t : Text) (value : List Nat) : Decidable (IsScriptString t value) :=
  inferInstanceAs (Decidable (_ = _))

/-- The text without the backslash just before its first quote. -/
def Text.unescapeQuote : Text → Text
  | [] => []
  | c :: rest =>
    if c = '\'' then c :: rest
    else if c = '\\' ∧ rest.head? = some '\'' then rest
    else c :: unescapeQuote rest

namespace Text

variable {s t : Text} {c : Char} {value : List Nat}

/-! ### Units -/

theorem codeUnits_append_inj {d : Char} {left right : List Nat}
    (h : codeUnits c.toNat ++ left = codeUnits d.toNat ++ right) : c = d ∧ left = right := by
  have hc : c.toNat < 0xD800 ∨ 0xDFFF < c.toNat ∧ c.toNat < 0x110000 := c.valid
  have hd : d.toNat < 0xD800 ∨ 0xDFFF < d.toNat ∧ d.toNat < 0x110000 := d.valid
  suffices hsame : c.toNat = d.toNat ∧ left = right from ⟨Char.toNat_inj.1 hsame.1, hsame.2⟩
  unfold codeUnits at h
  split_ifs at h
  · obtain ⟨hhead, hrest⟩ := List.cons.inj h
    exact ⟨hhead, hrest⟩
  · -- a single unit is never the first of a pair
    obtain ⟨hhead, -⟩ := List.cons.inj h
    omega
  · obtain ⟨hhead, -⟩ := List.cons.inj h
    omega
  · obtain ⟨hhead, htail⟩ := List.cons.inj h
    obtain ⟨hsecond, hrest⟩ := List.cons.inj htail
    exact ⟨by omega, hrest⟩

theorem codeUnits_ne_nil (n : Nat) : codeUnits n ≠ [] := by
  unfold codeUnits
  split_ifs <;> exact List.cons_ne_nil _ _

/-- A text is determined by its units. -/
theorem units_inj (h : s.units = t.units) : s = t := by
  induction s generalizing t with
  | nil =>
    cases t with
    | nil => rfl
    | cons d t => exact absurd (List.append_eq_nil_iff.1 h.symm).1 (codeUnits_ne_nil _)
  | cons c s ih =>
    cases t with
    | nil => exact absurd (List.append_eq_nil_iff.1 h).1 (codeUnits_ne_nil _)
    | cons d t =>
      obtain ⟨rfl, hrest⟩ := codeUnits_append_inj h
      rw [ih hrest]

/-! ### Removing the escape -/

theorem unescapeQuote_escapeQuote (t : Text) : t.escapeQuote.unescapeQuote = t := by
  induction t with
  | nil => rfl
  | cons c t ih =>
    by_cases hc : c = '\''
    · rw [escapeQuote, if_pos hc, hc]
      rfl
    · have hrest : (escapeQuote t).head? ≠ some '\'' := by
        intro h
        obtain ⟨rest, hrest⟩ := List.head?_eq_some_iff.1 h
        exact escapeQuote_ne_quote_cons t rest hrest
      rw [escapeQuote, if_neg hc, unescapeQuote, if_neg hc, if_neg fun h => hrest h.2, ih]

/-! ### What a reader makes of a written text -/

theorem prepend_nil (reading : Option (List Nat × Text)) : prepend [] reading = reading := by
  cases reading <;> rfl

theorem prepend_eq_some_iff {units : List Nat} {reading : Option (List Nat × Text)} {rest : Text} :
    prepend units reading = some (value, rest) ↔ ∃ v, reading = some (v, rest) ∧ value = units ++ v := by
  cases reading with
  | none => simp [prepend]
  | some result => simp [prepend, Prod.ext_iff, and_comm, eq_comm]

theorem scriptFrom_of_step {state next : ScriptState} {units : List Nat} (hclose : ¬(c = '\'' ∧ state.mayClose))
    (hstep : state.step c = some (next, units)) (rest : Text) :
    scriptFrom state (c :: rest) = prepend units (scriptFrom next rest) := by
  rw [scriptFrom, if_neg hclose, hstep]
  rfl

theorem scriptFrom_plain (hquote : c ≠ '\'') (hescape : c ≠ '\\') (hbreak : ¬(c = '\r' ∨ c = '\n')) (rest : Text) :
    scriptFrom .plain (c :: rest) = prepend (codeUnits c.toNat) (scriptFrom .plain rest) := by
  apply scriptFrom_of_step
  · exact fun h => hquote h.1
  · show ScriptState.plainStep c = _
    rw [ScriptState.plainStep, if_neg hescape, if_neg hbreak]

theorem scriptFrom_break (hbreak : c = '\r' ∨ c = '\n') (rest : Text) : scriptFrom .plain (c :: rest) = none := by
  rcases hbreak with rfl | rfl <;> rfl

theorem scriptFrom_escape {units : List Nat} (hstep : ScriptState.escapeStep c = some (.plain, units)) (rest : Text) :
    scriptFrom .plain ('\\' :: c :: rest) = prepend units (scriptFrom .plain rest) := by
  have hescape : scriptFrom .plain ('\\' :: c :: rest) = prepend [] (scriptFrom .escape (c :: rest)) :=
    scriptFrom_of_step (by decide) rfl _
  rw [hescape, prepend_nil]
  apply scriptFrom_of_step
  · exact fun h => absurd h.2 Bool.false_ne_true
  · exact hstep

/-- A way to write characters in a string, with the characters that may be written. Quotes and backslashes stay as they
are, other characters are read back or refused. -/
structure Writes (write : Char → Text) (Safe : Char → Prop) : Prop where
  quote : write '\'' = ['\'']
  escape : write '\\' = ['\\']
  safe_quote : Safe '\''
  read {c : Char} (rest : Text) : c ≠ '\'' → c ≠ '\\' → Safe c →
    scriptFrom .plain (write c ++ rest) = prepend (codeUnits c.toNat) (scriptFrom .plain rest)
  refuse {c : Char} (rest : Text) : ¬Safe c → scriptFrom .plain (write c ++ rest) = none

/-- Characters as they are, without breaks. -/
theorem writes_plain : Writes (fun c => [c]) fun c => ¬(c = '\r' ∨ c = '\n') where
  quote := rfl
  escape := rfl
  safe_quote := by decide
  read rest hquote hescape hsafe := scriptFrom_plain hquote hescape hsafe rest
  refuse rest hunsafe := scriptFrom_break (not_not.1 hunsafe) rest

/-- All characters, with escapes for breaks. -/
theorem writes_escapeBreak : Writes escapeBreak fun _ => True where
  quote := rfl
  escape := rfl
  safe_quote := trivial
  read {c} rest hquote hescape _ := by
    by_cases hreturn : c = '\r'
    · rw [hreturn]
      exact scriptFrom_escape rfl rest
    by_cases hfeed : c = '\n'
    · rw [hfeed]
      exact scriptFrom_escape rfl rest
    · rw [escapeBreak, if_neg hreturn, if_neg hfeed]
      exact scriptFrom_plain hquote hescape (not_or.2 ⟨hreturn, hfeed⟩) rest
  refuse rest hunsafe := absurd trivial hunsafe

section Writes

variable {write : Char → Text} {Safe : Char → Prop} {whole : Prop}

/-- One more character in front of what is read as a text under some condition. -/
theorem prepend_read_iff {reading : Option (List Nat × Text)}
    (h : ∀ v, reading = some (v, []) ↔ whole ∧ (∀ d ∈ t, Safe d) ∧ v = t.units) (hsafe : Safe c) :
    prepend (codeUnits c.toNat) reading = some (value, []) ↔
      whole ∧ (∀ d ∈ c :: t, Safe d) ∧ value = units (c :: t) := by
  rw [prepend_eq_some_iff, List.forall_mem_cons, and_iff_right hsafe]
  simp only [h]
  constructor
  · rintro ⟨v, ⟨hwhole, hall, rfl⟩, rfl⟩
    exact ⟨hwhole, hall, rfl⟩
  · rintro ⟨hwhole, hall, rfl⟩
    exact ⟨t.units, ⟨hwhole, hall, rfl⟩, rfl⟩

theorem Writes.read_cons_iff (h : Writes write Safe) (hquote : c ≠ '\'') (hescape : c ≠ '\\') {back : Text}
    (hback : ∀ v, scriptFrom .plain back = some (v, []) ↔ whole ∧ (∀ d ∈ t, Safe d) ∧ v = t.units) :
    scriptFrom .plain (write c ++ back) = some (value, []) ↔
      whole ∧ (∀ d ∈ c :: t, Safe d) ∧ value = units (c :: t) := by
  by_cases hsafe : Safe c
  · rw [h.read back hquote hescape hsafe]
    exact prepend_read_iff hback hsafe
  · rw [h.refuse back hsafe]
    apply iff_of_false (Option.some_ne_none _).symm
    exact fun hread => hsafe (hread.2.1 c List.mem_cons_self)

/-- A text up to the closing quote is read as a whole if it holds no quote itself. -/
theorem Writes.read_body_iff (h : Writes write Safe) (hescape : '\\' ∉ t) :
    scriptFrom .plain (t.flatMap write ++ ['\'']) = some (value, []) ↔
      '\'' ∉ t ∧ (∀ c ∈ t, Safe c) ∧ value = t.units := by
  induction t generalizing value with
  | nil => simp [scriptFrom, ScriptState.mayClose, units, eq_comm]
  | cons c t ih =>
    obtain ⟨hc, ht⟩ := not_or.1 (mt List.mem_cons.2 hescape)
    rw [List.flatMap_cons, List.append_assoc]
    by_cases hquote : c = '\''
    · -- the string ends here, and its closing quote is left
      rw [hquote, h.quote]
      simp [scriptFrom, ScriptState.mayClose]
    · rw [List.mem_cons, or_iff_right (Ne.symm hquote)]
      exact h.read_cons_iff hquote (Ne.symm hc) fun v => ih ht

/-- With an escape before its first quote, a text may hold this one quote. -/
theorem Writes.read_escaped_iff (h : Writes write Safe) (hescape : '\\' ∉ t) :
    scriptFrom .plain (t.escapeQuote.flatMap write ++ ['\'']) = some (value, []) ↔
      t.count '\'' ≤ 1 ∧ (∀ c ∈ t, Safe c) ∧ value = t.units := by
  induction t generalizing value with
  | nil => simp [escapeQuote, scriptFrom, ScriptState.mayClose, units, eq_comm]
  | cons c t ih =>
    obtain ⟨hc, ht⟩ := not_or.1 (mt List.mem_cons.2 hescape)
    rw [escapeQuote]
    by_cases hquote : c = '\''
    · have hcount : (c :: t).count '\'' ≤ 1 ↔ '\'' ∉ t := by
        rw [hquote, List.count_cons_self, ← List.count_eq_zero]
        omega
      have hread : scriptFrom .plain (('\\' :: '\'' :: t).flatMap write ++ ['\'']) =
          prepend (codeUnits c.toNat) (scriptFrom .plain (t.flatMap write ++ ['\''])) := by
        rw [List.flatMap_cons, List.flatMap_cons, h.escape, h.quote, hquote]
        exact scriptFrom_escape rfl _
      rw [if_pos hquote, hread, hcount]
      exact prepend_read_iff (fun v => h.read_body_iff ht) (hquote ▸ h.safe_quote)
    · rw [if_neg hquote, List.flatMap_cons, List.append_assoc, List.count_cons_of_ne hquote]
      exact h.read_cons_iff hquote (Ne.symm hc) fun v => ih ht

end Writes

/-! ### Which quoted texts are read back -/

theorem isScriptString_quote_iff (hescape : '\\' ∉ s) :
    IsScriptString (quote s) value ↔ s.count '\'' ≤ 1 ∧ value = s.units := by
  have hsafe : ∀ c ∈ s, True := fun _ _ => trivial
  rw [← and_iff_right (b := value = s.units) hsafe]
  exact writes_escapeBreak.read_escaped_iff hescape

example : ¬IsScriptString (quote "it's 'odd'") (units "it's 'odd'") := by decide

theorem isScriptString_inQuotes_iff (hescape : '\\' ∉ s) :
    IsScriptString (inQuotes s) value ↔ s.count '\'' ≤ 1 ∧ s.Unbroken ∧ value = s.units := by
  have hsafe : (∀ c ∈ s, ¬(c = '\r' ∨ c = '\n')) ↔ s.Unbroken := by
    constructor
    · intro h
      exact ⟨fun hmem => h _ hmem (.inl rfl), fun hmem => h _ hmem (.inr rfl)⟩
    · rintro h c hmem (rfl | rfl)
      · exact h.1 hmem
      · exact h.2 hmem
  show scriptFrom .plain (s.escapeQuote ++ ['\'']) = some (value, []) ↔ _
  rw [← hsafe, ← List.flatMap_singleton' s.escapeQuote]
  exact writes_plain.read_escaped_iff hescape

/-- A quoted text has no breaks, and without backslashes a script reads it back if it holds one quote at most. Where
breaks have no escape it must hold none besides. The escape of the first quote can be taken away again from any text. -/
theorem quoted_reads_back (s : Text) :
    (quote s).Unbroken ∧
    ('\\' ∉ s → ∀ value,
      (IsScriptString (quote s) value ↔ s.count '\'' ≤ 1 ∧ value = s.units) ∧
      (IsScriptString (Literal.text s).toScript value ↔ s.count '\'' ≤ 1 ∧ s.Unbroken ∧ value = s.units)) ∧
    s.escapeQuote.unescapeQuote = s ∧
    ∀ t : Text, (t.units = s.units → t = s) ∧ (t.escapeQuote = s.escapeQuote → t = s) := by
  refine ⟨Unbroken.quote s, ?_, unescapeQuote_escapeQuote s, fun t => ⟨units_inj, escapeQuote_inj⟩⟩
  intro hescape value
  exact ⟨isScriptString_quote_iff hescape, isScriptString_inQuotes_iff hescape⟩

theorem quoted_reads_back_brokenText :
    IsScriptString (quote "it's\nhere") (units "it's\nhere") ∧
      ¬IsScriptString (Literal.text "it's\nhere").toScript (units "it's\nhere") := by
  obtain ⟨-, hread, -⟩ := quoted_reads_back "it's\nhere"
  obtain ⟨hquote, hscript⟩ := hread (by decide) (units "it's\nhere")
  refine ⟨hquote.2 ⟨by decide, rfl⟩, ?_⟩
  intro h
  exact absurd (hscript.1 h).2.1 (by decide)

end Text

end TableModel
