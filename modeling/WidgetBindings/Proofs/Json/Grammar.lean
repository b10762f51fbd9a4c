import WidgetBindings.Proofs.Json.Numbers

/-!
# The grammar of JSON

Which bytes spell a value, whoever reads them. Strings and numbers are taken as the grammar has
them: an escape need not stand for a character, and a number may have any size. Blanks may stand in
front of everything; those after a value belong to what follows it.

* `Spells`: the bytes of a value, and of the parts of a container;
* `Spells.ended`: what follows a value in a container cannot go on with it.
-/

namespace WidgetBindings.Json

open Read

/-! ## Strings -/

def isHexDigit (b : UInt8) : Bool := (hexValue? b).isSome

/-- The bytes of a string after the opening quote, through the closing one. -/
inductive IsString : List UInt8 → Prop
  | close : IsString [34]
  | plain {b : UInt8} {bytes : List UInt8} (visible : 32 ≤ b) (quote : b ≠ 34)
      (backslash : b ≠ 92) : IsString bytes → IsString (b :: bytes)
  | escape {letter : UInt8} {bytes : List UInt8}
      (known : letter ∈ [34, 92, 47, 98, 102, 110, 114, 116]) :
      IsString bytes → IsString (92 :: letter :: bytes)
  | code {a b c d : UInt8} {bytes : List UInt8} (hex : ∀ h ∈ [a, b, c, d], isHexDigit h) :
      IsString bytes → IsString (92 :: 117 :: a :: b :: c :: d :: bytes)

/-! ## Numbers -/

def IsDigits (bytes : List UInt8) : Prop := bytes ≠ [] ∧ ∀ b ∈ bytes, isDigit b

/-- The digits before the point. No zero stands in front of others. -/
inductive IsWhole : List UInt8 → Prop
  | zero : IsWhole [48]
  | digits {b : UInt8} {bytes : List UInt8} (first : isDigit b) (zero : b ≠ 48)
      (others : ∀ b ∈ bytes, isDigit b) : IsWhole (b :: bytes)

/-- The point and the digits after it, if there are any. -/
inductive IsFraction : List UInt8 → Prop
  | none : IsFraction []
  | digits {bytes : List UInt8} : IsDigits bytes → IsFraction (46 :: bytes)

/-- The exponent, if there is one. -/
inductive IsExponent : List UInt8 → Prop
  | none : IsExponent []
  | power {mark : UInt8} {sign bytes : List UInt8} (marked : mark = 101 ∨ mark = 69)
      (signed : sign ∈ [[], [43], [45]]) : IsDigits bytes → IsExponent (mark :: (sign ++ bytes))

/-- The bytes of a number behind its sign. -/
inductive IsMagnitude : List UInt8 → Prop
  | of {whole fraction exponent : List UInt8} : IsWhole whole → IsFraction fraction →
      IsExponent exponent → IsMagnitude (whole ++ (fraction ++ exponent))

inductive IsNumber : List UInt8 → Prop
  | positive {bytes : List UInt8} : IsMagnitude bytes → IsNumber bytes
  | negative {bytes : List UInt8} : IsMagnitude bytes → IsNumber (45 :: bytes)

theorem IsMagnitude.exists_cons {bytes : List UInt8} (h : IsMagnitude bytes) :
    ∃ b rest, bytes = b :: rest ∧ isDigit b := by
  cases h with
  | of whole fraction exponent =>
    cases whole with
    | zero => exact ⟨48, _, rfl, rfl⟩
    | digits first zero others => exact ⟨_, _, rfl, first⟩

/-! ## Values -/

/-- The parts of a text: a value, the items of a list or the members of an object through the
closing bracket, a single member, and its colon with its value. -/
inductive Shape
  | value
  | items (first : Bool)
  | members (first : Bool)
  | member
  | colon

/-- The words for null and the truth values. -/
def words : List (List UInt8) :=
  [[110, 117, 108, 108], [116, 114, 117, 101], [102, 97, 108, 115, 101]]

/-- The bytes spell such a part of a JSON text. -/
inductive Spells : Shape → List UInt8 → Prop
  | blank {shape : Shape} {b : UInt8} {bytes : List UInt8} :
      isBlankByte b → Spells shape bytes → Spells shape (b :: bytes)
  | word {bytes : List UInt8} : bytes ∈ words → Spells .value bytes
  | number {bytes : List UInt8} : IsNumber bytes → Spells .value bytes
  | string {bytes : List UInt8} : IsString bytes → Spells .value (34 :: bytes)
  | list {bytes : List UInt8} : Spells (.items true) bytes → Spells .value (91 :: bytes)
  | object {bytes : List UInt8} : Spells (.members true) bytes → Spells .value (123 :: bytes)
  | listEnd (first : Bool) : Spells (.items first) [93]
  | item {bytes more : List UInt8} : Spells .value bytes → Spells (.items false) more →
      Spells (.items true) (bytes ++ more)
  | nextItem {bytes more : List UInt8} : Spells .value bytes → Spells (.items false) more →
      Spells (.items false) (44 :: (bytes ++ more))
  | objectEnd (first : Bool) : Spells (.members first) [125]
  | firstMember {bytes more : List UInt8} : Spells .member bytes → Spells (.members false) more →
      Spells (.members true) (bytes ++ more)
  | nextMember {bytes more : List UInt8} : Spells .member bytes → Spells (.members false) more →
      Spells (.members false) (44 :: (bytes ++ more))
  | member {key bytes : List UInt8} : IsString key → Spells .colon bytes →
      Spells .member (34 :: (key ++ bytes))
  | colon {bytes : List UInt8} : Spells .value bytes → Spells .colon (58 :: bytes)

def Blank (bytes : List UInt8) : Prop := ∀ b ∈ bytes, isBlankByte b

theorem Spells.blanks {shape : Shape} {blanks bytes : List UInt8} (h : Blank blanks)
    (spells : Spells shape bytes) :
    Spells shape (blanks ++ bytes) := by
  induction blanks with
  | nil => exact spells
  | cons b blanks ih =>
    obtain ⟨first, others⟩ := List.forall_mem_cons.1 h
    exact .blank first (ih others)

/-! ## What stands around a value -/

theorem ended_nil : Ended [] := by
  intro b hb
  cases hb

theorem ended_blank {b : UInt8} (h : isBlankByte b) (rest : List UInt8) : Ended (b :: rest) := by
  intro c hc
  rw [List.head?_cons, Option.mem_some_iff] at hc
  exact .inl (hc ▸ h)

/-- Nothing that could go on with a value follows it in a container. -/
theorem Spells.ended {shape : Shape} {bytes : List UInt8} (h : Spells shape bytes)
    (inner : shape = .items false ∨ shape = .members false) (rest : List UInt8) :
    Ended (bytes ++ rest) := by
  cases h with
  | blank blank _ => exact ended_blank blank _
  | listEnd | objectEnd | nextItem | nextMember => exact ended_cons (by decide) _
  | _ => simp at inner

/-- A value does not begin as the end of a list. -/
theorem Spells.begins {bytes : List UInt8} (h : Spells .value bytes) (rest : List UInt8) :
    ∃ b found, skipBlanks (bytes ++ rest) = b :: found ∧ b ≠ 93 := by
  generalize same : Shape.value = shape at h
  induction h with
  | @blank shape b bytes blank _ ih =>
    obtain ⟨c, found, begins, apart⟩ := ih same
    refine ⟨c, found, ?_, apart⟩
    rw [List.cons_append, skipBlanks, List.dropWhile_cons_of_pos blank]
    exact begins
  | word known =>
    simp only [words, List.mem_cons, List.not_mem_nil, or_false] at known
    obtain rfl | rfl | rfl := known
    · exact ⟨110, _, rfl, by decide⟩
    · exact ⟨116, _, rfl, by decide⟩
    · exact ⟨102, _, rfl, by decide⟩
  | number number =>
    cases number with
    | positive magnitude =>
      obtain ⟨b, more, rfl, digit⟩ := magnitude.exists_cons
      exact ⟨b, _, skipBlanks_cons (isBlankByte_of_isDigit digit) _, ne_of_isDigit digit rfl⟩
    | negative => exact ⟨45, _, rfl, by decide⟩
  | string => exact ⟨34, _, rfl, by decide⟩
  | list => exact ⟨91, _, rfl, by decide⟩
  | object => exact ⟨123, _, rfl, by decide⟩
  | _ => cases same

end WidgetBindings.Json
