import WidgetBindings.Source

/-!
# Reading string literals

How a string literal of C is read, character by character: a quote ends it, a backslash changes what
follows, and an octal escape takes as many digits as there are, up to three. A line feed may not
stand in it. Hexadecimal and universal escapes are refused, and there are no trigraphs, as in the
C standard of 2023 and the C++ standard of 2017.

* `readWith_literal`: what was written as a literal is read as the text it was made of, whatever
  comes after, and whatever else than the letters it was written with the reader knows (`readWith`);
* `printable_literal`: no control stands in a literal;
* `literal_read_back`: so a literal ends where its quote is, and tells the text it was made of;
* `lex_literal`: in a line of code around one literal, this literal is found, and nothing else.
-/

namespace WidgetBindings.Source

namespace Literal

/-- How far the reading of a literal has come. -/
inductive State
  | plain
  /-- A backslash has been read. -/
  | escape
  /-- Octal digits have been read, which spell `code`; up to `more` may follow. -/
  | octal (more code : Nat)

/-- What a character does to the reading of a literal. Either way characters may have been read. -/
inductive Step
  | malformed
  | closed (read : List Char)
  | further (read : List Char) (next : State)

/-- The step with a character read before it. -/
def Step.after (c : Char) : Step → Step
  | malformed => malformed
  | closed read => closed (c :: read)
  | further read next => further (c :: read) next

/-- What a character stands for behind a backslash, if it is not the first of several digits. -/
def escaped? (c : Char) : Option Char :=
  if c ∈ ['\\', '"', '?', Char.ofNat 39] then some c
  else if c = 'a' then some (Char.ofNat 7)
  else if c = 'b' then some (Char.ofNat 8)
  else if c = 't' then some '\t'
  else if c = 'n' then some '\n'
  else if c = 'v' then some (Char.ofNat 11)
  else if c = 'f' then some (Char.ofNat 12)
  else if c = 'r' then some '\r'
  else none

def octalDigit? (c : Char) : Option Nat :=
  if 48 ≤ c.toNat ∧ c.toNat < 56 then some (c.toNat - 48) else none

/-- The step of a character that continues no escape. -/
def plainStep (c : Char) : Step :=
  if c = '"' then .closed []
  else if c = '\\' then .further [] .escape
  else if c = '\n' then .malformed
  else .further [c] .plain

def State.step : State → Char → Step
  | plain, c => plainStep c
  | escape, c =>
    match escaped? c, octalDigit? c with
    | some d, _ => .further [d] plain
    | none, some digit => .further [] (octal 2 digit)
    | none, none => .malformed
  | octal more code, c =>
    match more, octalDigit? c with
    | more + 1, some digit => .further [] (octal more (8 * code + digit))
    | _, _ => (plainStep c).after (Char.ofNat code)

/-- Reads a literal to its end. Returns the text that it spells, and what comes after. -/
def read (state : State) : List Char → Option (List Char × List Char)
  | [] => none
  | c :: rest =>
    match state.step c with
    | .malformed => none
    | .closed text => some (text, rest)
    | .further text next => (read next rest).map fun p => (text ++ p.1, p.2)

/-! ## Readers that know less, or more -/

/-- The letters that literals are written with, and what each stands for behind a backslash. -/
def letters : List (Char × Char) :=
  [('\\', '\\'), ('"', '"'), ('n', '\n'), ('r', '\r'), ('t', '\t')]

/-- The step of a reader that knows these letters, and others besides. -/
def State.stepWith (others : Char → Option Char) : State → Char → Step
  | plain, c => plainStep c
  | escape, c =>
    match octalDigit? c, (letters.lookup c).or (others c) with
    | some digit, _ => .further [] (octal 2 digit)
    | none, some d => .further [d] plain
    | none, none => .malformed
  | octal more code, c => (octal more code).step c

/-- Reads a literal as `read` does, knowing other letters than that. -/
def readWith (others : Char → Option Char) (state : State) :
    List Char → Option (List Char × List Char)
  | [] => none
  | c :: rest =>
    match state.stepWith others c with
    | .malformed => none
    | .closed text => some (text, rest)
    | .further text next => (readWith others next rest).map fun p => (text ++ p.1, p.2)

theorem octalDigit_spec {d : Nat} (h : d < 8) :
    escaped? (literalChar.octalDigit d) = none ∧
      octalDigit? (literalChar.octalDigit d) = some d := by
  revert d
  decide

theorem letters_spec {letter c : Char} (h : (letter, c) ∈ letters) :
    letters.lookup letter = some c ∧ escaped? letter = some c ∧ octalDigit? letter = none ∧
      32 ≤ letter.toNat ∧ letter.toNat ≠ 127 := by
  simp only [letters, List.mem_cons, Prod.mk.injEq, List.not_mem_nil, or_false] at h
  obtain ⟨rfl, rfl⟩ | ⟨rfl, rfl⟩ | ⟨rfl, rfl⟩ | ⟨rfl, rfl⟩ | ⟨rfl, rfl⟩ := h <;> decide

/-- A reader that knows what C knows is the reader of C. -/
theorem readWith_escaped? : readWith escaped? = read := by
  have digits {c : Char} {d : Nat} (h : octalDigit? c = some d) : escaped? c = none := by
    unfold octalDigit? at h
    split at h
    · rename_i digit
      have small : c.toNat - 48 < 8 := by omega
      have same : literalChar.octalDigit (c.toNat - 48) = c := by
        rw [literalChar.octalDigit, Nat.add_sub_cancel' digit.1, Char.ofNat_toNat]
      exact same ▸ (octalDigit_spec small).1
    · cases h
  have known (c : Char) : (letters.lookup c).or (escaped? c) = escaped? c := by
    cases found : letters.lookup c with
    | none => rfl
    | some d =>
      obtain ⟨before, after, same, _⟩ := List.lookup_eq_some_iff.1 found
      have mem : (c, d) ∈ letters := by simp [same]
      rw [(letters_spec mem).2.1]
      rfl
  have step (state : State) (c : Char) : state.stepWith escaped? c = state.step c := by
    cases state with
    | plain | octal => rfl
    | escape =>
      rw [State.stepWith, State.step, known]
      cases digit : octalDigit? c with
      | none => cases escaped? c <;> rfl
      | some d => rw [digits digit]
  funext state cs
  induction cs generalizing state with
  | nil => rfl
  | cons c cs ih => simp only [readWith, read, step, ih]

/-! ## Literals -/

section
variable (others : Char → Option Char)

/-- Three octal digits are all that an escape takes. -/
theorem readWith_octal_zero (code : Nat) (cs : List Char) :
    readWith others (.octal 0 code) cs =
      (readWith others .plain cs).map fun p => (Char.ofNat code :: p.1, p.2) := by
  cases cs with
  | nil => rfl
  | cons c rest =>
    simp only [readWith, State.stepWith, State.step]
    cases plainStep c <;> simp [Step.after, Function.comp_def]

/-- A character stands in a literal as a backslash with a letter, as a backslash with three octal
digits, or as itself. -/
theorem literalChar_cases (c : Char) :
    (∃ letter, literalChar c = ['\\', letter] ∧ (letter, c) ∈ letters) ∨
    (∃ a b d, a < 8 ∧ b < 8 ∧ d < 8 ∧ 8 * (8 * a + b) + d = c.toNat ∧
      literalChar c = '\\' :: [a, b, d].map literalChar.octalDigit) ∨
    (literalChar c = [c] ∧ c ≠ '"' ∧ c ≠ '\\' ∧ 32 ≤ c.toNat ∧ c.toNat ≠ 127) := by
  by_cases letter : c ∈ ['\\', '"', '\n', '\r', '\t']
  · simp only [List.mem_cons, List.not_mem_nil, or_false] at letter
    obtain rfl | rfl | rfl | rfl | rfl := letter
    · exact .inl ⟨'\\', rfl, by decide⟩
    · exact .inl ⟨'"', rfl, by decide⟩
    · exact .inl ⟨'n', rfl, by decide⟩
    · exact .inl ⟨'r', rfl, by decide⟩
    · exact .inl ⟨'t', rfl, by decide⟩
  simp only [List.mem_cons, List.not_mem_nil, or_false, not_or] at letter
  obtain ⟨backslash, quote, lineFeed, carriageReturn, tab⟩ := letter
  rw [literalChar, if_neg backslash, if_neg quote, if_neg lineFeed, if_neg carriageReturn,
    if_neg tab]
  by_cases control : c.toNat < 32 ∨ c.toNat = 127
  · rw [if_pos control]
    refine .inr (.inl ⟨c.toNat / 64, c.toNat / 8 % 8, c.toNat % 8, ?_, ?_, ?_, ?_, rfl⟩) <;> omega
  · rw [if_neg control]
    exact .inr (.inr ⟨rfl, quote, backslash, by omega, by omega⟩)

/-- What stands for a character is read as that character. -/
theorem readWith_literalChar (c : Char) (cs : List Char) :
    readWith others .plain (literalChar c ++ cs) =
      (readWith others .plain cs).map fun p => (c :: p.1, p.2) := by
  obtain ⟨letter, written, meant⟩ | ⟨a, b, d, ha, hb, hd, code, written⟩ |
    ⟨written, quote, backslash, printable, _⟩ := literalChar_cases c
  · obtain ⟨stands, _, no_digit, _⟩ := letters_spec meant
    rw [written]
    simp [readWith, State.stepWith, plainStep, stands, no_digit, Function.comp_def]
  · have first := (octalDigit_spec ha).2
    have second := (octalDigit_spec hb).2
    have third := (octalDigit_spec hd).2
    rw [written]
    simp [readWith, State.stepWith, State.step, plainStep, first, second, third,
      readWith_octal_zero, code, Function.comp_def]
  · have lineFeed : c ≠ '\n' := by
      rintro rfl
      exact absurd printable (by decide)
    rw [written]
    simp [readWith, State.stepWith, plainStep, backslash, quote, lineFeed]

/-- A text written as a literal is read as it was, and the reading goes on with what follows it. -/
theorem readWith_literal (text cs : List Char) :
    readWith others .plain (text.flatMap literalChar ++ cs) =
      (readWith others .plain cs).map fun p => (text ++ p.1, p.2) := by
  induction text with
  | nil => simp
  | cons c text ih =>
    rw [List.flatMap_cons, List.append_assoc, readWith_literalChar, ih, Option.map_map]
    rfl

/-- At the quote behind it the literal ends, and what comes after that is left. -/
theorem readWith_literal_quote (text rest : List Char) :
    readWith others .plain (text.flatMap literalChar ++ '"' :: rest) = some (text, rest) := by
  have ends : readWith others .plain ('"' :: rest) = some ([], rest) := rfl
  rw [readWith_literal, ends, Option.map_some, List.append_nil]

end

/-- A text written as a literal is read as it was, and what follows the literal is left. -/
theorem read_literal (text rest : List Char) :
    read .plain (text.flatMap literalChar ++ '"' :: rest) = some (text, rest) := by
  rw [← readWith_escaped?, readWith_literal_quote]

/-- A digit behind an octal escape is read as what it is. -/
example : read .plain "\\0018\", a".toList = some ([Char.ofNat 1, '8'], ", a".toList) := by decide

/-- No control stands in a literal. -/
theorem printable_literal {text : List Char} {c : Char} (h : c ∈ text.flatMap literalChar) :
    32 ≤ c.toNat ∧ c.toNat ≠ 127 := by
  obtain ⟨d, _, mem⟩ := List.mem_flatMap.1 h
  obtain ⟨letter, written, meant⟩ | ⟨x, y, z, hx, hy, hz, _, written⟩ |
    ⟨written, _, _, printable⟩ := literalChar_cases d
  · have printable := (letters_spec meant).2.2.2
    rw [written] at mem
    simp only [List.mem_cons, List.not_mem_nil, or_false] at mem
    obtain rfl | rfl := mem
    · decide
    · exact printable
  · have digit : ∀ n < 8, 32 ≤ (literalChar.octalDigit n).toNat ∧
        (literalChar.octalDigit n).toNat ≠ 127 := by
      decide
    rw [written] at mem
    simp only [List.map_cons, List.map_nil, List.mem_cons, List.not_mem_nil, or_false] at mem
    obtain rfl | rfl | rfl | rfl := mem
    · decide
    · exact digit x hx
    · exact digit y hy
    · exact digit z hz
  · rw [written, List.mem_singleton] at mem
    exact mem ▸ printable

/-- **What is written as a literal is read back, whatever follows it.** The reader knows the five
letters that literals are written with and octal escapes of up to three digits; what other letters
it knows does not matter. It stops at the quote behind the literal, has read the text that the
literal was made of, and leaves what comes after. No escape takes in anything of what follows the
literal, be it a quote or not. There is no control in a literal, and two texts that are written
alike up to the quote are the same text. -/
theorem literal_read_back (others : Char → Option Char) (text : String) :
    (∀ rest, readWith others .plain ((literal text).toList ++ '"' :: rest) =
      some (text.toList, rest)) ∧
    (∀ cs, readWith others .plain ((literal text).toList ++ cs) =
      (readWith others .plain cs).map fun p => (text.toList ++ p.1, p.2)) ∧
    (∀ c ∈ (literal text).toList, 32 ≤ c.toNat ∧ c.toNat ≠ 127) ∧
    (∀ (other : String) (rest rest' : List Char),
      (literal text).toList ++ '"' :: rest = (literal other).toList ++ '"' :: rest' →
        text = other ∧ rest = rest') ∧
    ∀ other, literal text = literal other → text = other := by
  have written (t : String) : (literal t).toList = t.toList.flatMap literalChar :=
    String.toList_ofList
  have back (t : String) (rest : List Char) :
      readWith others .plain ((literal t).toList ++ '"' :: rest) = some (t.toList, rest) := by
    rw [written, readWith_literal_quote]
  have alone : ∀ (other : String) (rest rest' : List Char),
      (literal text).toList ++ '"' :: rest = (literal other).toList ++ '"' :: rest' →
        text = other ∧ rest = rest' := by
    intro other rest rest' same
    have read := back text rest
    rw [same, back other rest'] at read
    obtain ⟨texts, rests⟩ := Prod.mk.inj (Option.some.inj read)
    exact ⟨(String.toList_inj.1 texts).symm, rests.symm⟩
  refine ⟨back text, fun cs => ?_, fun c mem => ?_, alone, fun other same => ?_⟩
  · rw [written, readWith_literal]
  · rw [written] at mem
    exact printable_literal mem
  · exact (alone other [] [] (by rw [same])).1

/-- A reader that knows no other letters, and a text with a control in front of a digit and with a
backslash at its end. -/
theorem literal_read_back_digits :
    literal "\x1b1\\" = "\\0331\\\\" ∧
    readWith (fun _ => none) .plain "\\0331\\\\\"7\"".toList = some ("\x1b1\\".toList, ['7', '"']) ∧
    ∀ other, "\\0331\\\\" = literal other → "\x1b1\\" = other := by
  have written : literal "\x1b1\\" = "\\0331\\\\" := by decide
  obtain ⟨back, _, _, _, alone⟩ := literal_read_back (fun _ => none) "\x1b1\\"
  rw [written] at back alone
  exact ⟨written, back ['7', '"'], alone⟩

/-! ## Lines of code -/

/-- A line of code with its string literals emptied, and the texts that these spell. -/
structure Line where
  code : List Char
  literals : List (List Char)
  deriving DecidableEq, Repr

/-- Takes the literals out of a line. Inside a literal, `inside` says how far its reading has come
and what it has read. A line in the middle of which a literal does not end is refused. -/
def lex (inside : Option (State × List Char)) : List Char → Option Line
  | [] => if inside.isNone then some ⟨[], []⟩ else none
  | c :: rest =>
    match inside with
    | none =>
      let inside := if c = '"' then some (.plain, []) else none
      (lex inside rest).map fun l => ⟨c :: l.code, l.literals⟩
    | some (state, text) =>
      match state.step c with
      | .malformed => none
      | .closed more => (lex none rest).map fun l => ⟨'"' :: l.code, (text ++ more) :: l.literals⟩
      | .further more next => lex (some (next, text ++ more)) rest

/-- A literal is read to its end, and then the line goes on. -/
theorem lex_inside {state : State} {cs more rest : List Char}
    (h : read state cs = some (more, rest)) (text : List Char) :
    lex (some (state, text)) cs =
      (lex none rest).map fun l => ⟨'"' :: l.code, (text ++ more) :: l.literals⟩ := by
  induction cs generalizing state text more with
  | nil => cases h
  | cons c cs ih =>
    rw [read] at h
    rw [lex]
    cases step : state.step c with
    | malformed => simp [step] at h
    | closed read =>
      simp only [step, Option.some.injEq, Prod.mk.injEq] at h
      obtain ⟨rfl, rfl⟩ := h
      rfl
    | further first next =>
      simp only [step, Option.map_eq_some_iff, Prod.mk.injEq, Prod.exists] at h
      obtain ⟨others, _, later, rfl, rfl⟩ := h
      simp only
      rw [ih later, List.append_assoc]

theorem lex_code {code : List Char} (h : '"' ∉ code) (cs : List Char) :
    lex none (code ++ cs) = (lex none cs).map fun l => ⟨code ++ l.code, l.literals⟩ := by
  induction code with
  | nil => simp
  | cons c code ih =>
    obtain ⟨first, others⟩ := not_or.1 (mt List.mem_cons.2 h)
    rw [List.cons_append, lex, if_neg (Ne.symm first), ih others]
    simp [Function.comp_def]

/-- In code without a quote there is no literal. -/
theorem lex_plain {code : List Char} (h : '"' ∉ code) : lex none code = some ⟨code, []⟩ := by
  have whole := lex_code h []
  rw [List.append_nil] at whole
  rw [whole]
  simp [lex]

/-- In a line around one literal just this literal is found, and what is around it. -/
theorem lex_literal {before after : List Char} (hb : '"' ∉ before) (ha : '"' ∉ after)
    (text : List Char) :
    lex none (before ++ '"' :: (text.flatMap literalChar ++ '"' :: after)) =
      some ⟨before ++ '"' :: '"' :: after, [text]⟩ := by
  rw [lex_code hb, lex, if_pos rfl, lex_inside (read_literal text after), lex_plain ha]
  rfl

end Literal

end WidgetBindings.Source
