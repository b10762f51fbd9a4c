import Mathlib.Data.List.DropRight
import Mathlib.Data.Option.Basic
import WidgetBindings.Declaration

/-!
# The grammar of declarations

A line declares an identifier when it can be put together from certain parts (`Parts`). The scanner
looks for the parts from the left, each as long as it gets, and never turns back:

* `declaredAt?_eq_some_iff`: nothing is lost by that, for no part can begin with what the part
  before it is made of;
* `onLine?_eq_some_iff`: of several ways to put a line together the one with the least in front
  counts;
* `scan_iff_grammar`: a header declares what its lines declare, each line at most once.
-/

namespace WidgetBindings

namespace Text

theorem after?_eq_some_iff {word cs rest : List Char} :
    after? word cs = some rest ↔ cs = word ++ rest := by
  induction word generalizing cs with
  | nil => simp [after?]
  | cons w word ih =>
    cases cs with
    | nil => simp [after?]
    | cons c cs =>
      by_cases h : w = c
      · simp [after?, h, ih]
      · simp [after?, h, Ne.symm h]

/-- Only white space. -/
def AllBlank (cs : List Char) : Prop := ∀ c ∈ cs, isBlank c = true

/-- No white space at the front. -/
def BlankFree (cs : List Char) : Prop := ∀ c, cs.head? = some c → isBlank c = false

theorem dropWhile_blank {ws rest : List Char} (blank : AllBlank ws) (free : BlankFree rest) :
    (ws ++ rest).dropWhile isBlank = rest := by
  rw [List.dropWhile_append_of_pos blank]
  cases rest with
  | nil => rfl
  | cons c rest => simp [free c rfl]

theorem allBlank_takeWhile (cs : List Char) : AllBlank (cs.takeWhile isBlank) := by
  intro c hc
  exact List.all_eq_true.1 List.all_takeWhile c hc

theorem blanks_append {cs rest : List Char} (h : cs.dropWhile isBlank = rest) :
    cs.takeWhile isBlank ++ rest = cs := by
  rw [← h]
  exact List.takeWhile_append_dropWhile

theorem blankFree_dropWhile (cs : List Char) : BlankFree (cs.dropWhile isBlank) := by
  intro c hc
  have := List.head?_dropWhile_not isBlank cs
  rw [hc] at this
  simpa using this

theorem blankFree_trimChars (cs : List Char) : BlankFree (trimChars cs) := by
  intro c hc
  obtain ⟨tail, whole⟩ : trimChars cs <+: cs.dropWhile isBlank :=
    List.rdropWhile_prefix isBlank _
  apply blankFree_dropWhile cs
  rw [← whole, List.head?_append, hc]
  rfl

end Text

namespace Declaration

open Text (AllBlank BlankFree)

/-- A letter of the basic alphabet or an underscore, and word characters after it. -/
def IsIdentifier (name : List Char) : Prop :=
  ∃ c rest, name = c :: rest ∧ startsIdentifier c = true ∧ ∀ d ∈ rest, Text.isWord d = true

/-- No word goes on at the front of `cs`. -/
def WordFree (cs : List Char) : Prop := ∀ c, cs.head? = some c → Text.isWord c = false

/-- No word ends at the end of `cs`. -/
def EndsNoWord (cs : List Char) : Prop := ∀ c, cs.getLast? = some c → Text.isWord c = false

/-- What a line with a declaration is put together from, apart from the fixed words. -/
structure Parts where
  before : List Char
  gap : List Char
  beforeStar : List Char
  afterStar : List Char
  name : List Char
  after : List Char

/-- A declaration and all that follows it in its line. -/
def Parts.tail (wanted : List Char) (p : Parts) : List Char :=
  "extern".toList ++ (p.gap ++ (wanted ++ (p.beforeStar ++ '*' :: (p.afterStar ++
    (p.name ++ p.after)))))

/-- The line that parts make up. -/
def Parts.line (wanted : List Char) (p : Parts) : List Char := p.before ++ p.tail wanted

/-- What each part has to be. -/
structure Parts.WellFormed (p : Parts) : Prop where
  before : EndsNoWord p.before
  gap_ne_nil : p.gap ≠ []
  gap : AllBlank p.gap
  beforeStar : AllBlank p.beforeStar
  afterStar : AllBlank p.afterStar
  name : IsIdentifier p.name
  after : WordFree p.after

/-- The line declares an identifier, with `before` in front of the declaration. -/
def Declares (wanted line before name : List Char) : Prop :=
  ∃ p : Parts, p.WellFormed ∧ p.line wanted = line ∧ p.before = before ∧ p.name = name

theorem blank_of_startsIdentifier {c : Char} (h : startsIdentifier c = true) :
    Text.isBlank c = false := by
  have codes : 33 ≤ c.toNat ∧ c.toNat ≤ 122 := by
    change (decide (65 ≤ c.val ∧ c.val ≤ 90) || (97 ≤ c.val && c.val ≤ 122) || decide (c = '_')) =
      true at h
    simp only [Bool.or_eq_true, Bool.and_eq_true, decide_eq_true_eq, UInt32.le_iff_toNat_le] at h
    change ((65 ≤ c.toNat ∧ c.toNat ≤ 90) ∨ (97 ≤ c.toNat ∧ c.toNat ≤ 122)) ∨ c = '_' at h
    obtain (upper | lower) | rfl := h
    · omega
    · omega
    · decide
  simp only [Text.isBlank, Text.blankRanges, Text.inRanges]
  rw [if_neg (by omega), if_neg (by omega), if_pos (by omega)]
  simp only [decide_eq_false_iff_not]
  omega

theorem identifier?_eq_some_iff {cs name : List Char} :
    identifier? cs = some name ↔
      IsIdentifier name ∧ ∃ after, cs = name ++ after ∧ WordFree after := by
  cases cs with
  | nil =>
    simp only [identifier?, false_iff, reduceCtorEq]
    rintro ⟨⟨c, rest, rfl, _⟩, after, h, _⟩
    cases h
  | cons c rest =>
    rw [identifier?]
    constructor
    · intro h
      split at h
      · rename_i starts
        cases h
        refine ⟨⟨c, _, rfl, starts, fun d hd => List.all_eq_true.1 List.all_takeWhile d hd⟩,
          rest.dropWhile Text.isWord, by simp, fun d hd => ?_⟩
        have := List.head?_dropWhile_not Text.isWord rest
        rw [hd] at this
        simpa using this
      · cases h
    · rintro ⟨⟨d, word, rfl, starts, inside⟩, after, h, free⟩
      obtain ⟨rfl, rfl⟩ := List.cons.inj h
      have whole : (word ++ after).takeWhile Text.isWord = word := by
        rw [List.takeWhile_append_of_pos inside]
        cases after with
        | nil => simp
        | cons e after => simp [free e rfl]
      rw [if_pos starts]
      exact congrArg (fun w => some (c :: w)) whole

/-- What is read as an identifier to its end is one. -/
theorem isIdentifier_of_identifier? {name : List Char} (h : identifier? name = some name) :
    IsIdentifier name :=
  (identifier?_eq_some_iff.1 h).1

/-- A character that belongs to no identifier. -/
theorem IsIdentifier.not_mem {name : List Char} (h : IsIdentifier name) {c : Char}
    (starts : startsIdentifier c = false) (word : Text.isWord c = false) : c ∉ name := by
  obtain ⟨first, rest, rfl, first_starts, others⟩ := h
  intro mem
  obtain rfl | mem := List.mem_cons.1 mem
  · rw [starts] at first_starts
    cases first_starts
  · rw [others c mem] at word
    cases word

theorem blankFree_of_isIdentifier {name : List Char} (h : IsIdentifier name)
    (after : List Char) : BlankFree (name ++ after) := by
  obtain ⟨c, rest, rfl, starts, _⟩ := h
  intro d hd
  cases hd
  exact blank_of_startsIdentifier starts

theorem blankFree_star (cs : List Char) : BlankFree ('*' :: cs) := by
  intro c hc
  cases hc
  decide

/-- Blanks up to the object type are skipped together with the gap, also if there is no object
type at all. -/
theorem after?_wanted {wanted gap beforeStar rest : List Char} (trimmed : BlankFree wanted)
    (hg : AllBlank gap) (hb : AllBlank beforeStar) (free : BlankFree rest) :
    ∃ cs, Text.after? wanted ((gap ++ (wanted ++ (beforeStar ++ rest))).dropWhile Text.isBlank) =
      some cs ∧ cs.dropWhile Text.isBlank = rest := by
  cases wanted with
  | nil =>
    have nothing : AllBlank [] := by simp [AllBlank]
    refine ⟨rest, ?_, Text.dropWhile_blank nothing free⟩
    have both : AllBlank (gap ++ beforeStar) := by
      intro c hc
      exact (List.mem_append.1 hc).elim (hg c) (hb c)
    rw [List.nil_append, ← List.append_assoc, Text.dropWhile_blank both free]
    rfl
  | cons w wanted =>
    refine ⟨beforeStar ++ rest, ?_, Text.dropWhile_blank hb free⟩
    have starts : BlankFree (w :: wanted ++ (beforeStar ++ rest)) := by
      intro c hc
      exact trimmed c hc
    rw [Text.dropWhile_blank hg starts]
    exact Text.after?_eq_some_iff.2 rfl

/-- What the scanner finds at the front of `cs`, one part after the other. -/
theorem declaredAt?_steps {wanted cs name : List Char} :
    declaredAt? wanted cs = some name ↔
      ∃ afterWord, cs = "extern".toList ++ afterWord ∧
        afterWord.head?.any Text.isBlank = true ∧
        ∃ afterType, Text.after? wanted (afterWord.dropWhile Text.isBlank) = some afterType ∧
        ∃ afterStar, afterType.dropWhile Text.isBlank = '*' :: afterStar ∧
        IsIdentifier name ∧
        ∃ after, afterStar.dropWhile Text.isBlank = name ++ after ∧ WordFree after := by
  simp only [declaredAt?, Option.bind_eq_bind, Option.bind_eq_some_iff, Option.guard_eq_some',
    @Text.after?_eq_some_iff "extern".toList, @Text.after?_eq_some_iff ['*'],
    identifier?_eq_some_iff, List.singleton_append, exists_const]

/-- The front of `cs` declares an identifier exactly if it is put together from such parts. -/
theorem declaredAt?_eq_some_iff {wanted cs name : List Char} (trimmed : BlankFree wanted) :
    declaredAt? wanted cs = some name ↔
      ∃ p : Parts, p.before = [] ∧ p.WellFormed ∧ p.tail wanted = cs ∧ p.name = name := by
  rw [declaredAt?_steps]
  constructor
  · rintro ⟨afterWord, rfl, spaced, afterType, hType, afterStar, hStar, named, after, hName, free⟩
    refine ⟨⟨[], afterWord.takeWhile Text.isBlank, afterType.takeWhile Text.isBlank,
      afterStar.takeWhile Text.isBlank, name, after⟩, rfl, ?_, ?_, rfl⟩
    · refine ⟨by simp [EndsNoWord], ?_, Text.allBlank_takeWhile _, Text.allBlank_takeWhile _,
        Text.allBlank_takeWhile _, named, free⟩
      cases afterWord with
      | nil => simp at spaced
      | cons c rest =>
        have : Text.isBlank c = true := by simpa using spaced
        simp [this]
    · rw [Text.after?_eq_some_iff] at hType
      have whole : afterWord.takeWhile Text.isBlank ++ (wanted ++
          (afterType.takeWhile Text.isBlank ++ '*' :: (afterStar.takeWhile Text.isBlank ++
            (name ++ after)))) = afterWord := by
        rw [Text.blanks_append hName, Text.blanks_append hStar, Text.blanks_append hType]
      exact congrArg ("extern".toList ++ ·) whole
  · rintro ⟨p, _, ok, rfl, rfl⟩
    have spaced : (p.gap ++ (wanted ++ (p.beforeStar ++ '*' :: (p.afterStar ++
        (p.name ++ p.after))))).head?.any Text.isBlank = true := by
      have blank := ok.gap
      cases hg : p.gap with
      | nil => exact absurd hg ok.gap_ne_nil
      | cons c rest =>
        rw [hg] at blank
        simpa using blank c List.mem_cons_self
    obtain ⟨afterType, hType, hStar⟩ := after?_wanted trimmed ok.gap ok.beforeStar
      (blankFree_star (p.afterStar ++ (p.name ++ p.after)))
    have hName := Text.dropWhile_blank ok.afterStar (blankFree_of_isIdentifier ok.name p.after)
    exact ⟨_, rfl, spaced, afterType, hType, _, hStar, ok.name, p.after, hName, ok.after⟩

/-! ## The first declaration in a line -/

/-- No word goes on across the front of `before`, when `inWord` says whether one does before it, and
none ends at its end. -/
def Boundary : (inWord : Bool) → (before : List Char) → Prop
  | inWord, [] => inWord = false
  | _, c :: before => Boundary (Text.isWord c) before

theorem boundary_iff (before : List Char) : Boundary false before ↔ EndsNoWord before := by
  have run : ∀ (inWord : Bool) (cs : List Char), Boundary inWord cs ↔
      (cs = [] ∧ inWord = false) ∨ ∃ c, cs.getLast? = some c ∧ Text.isWord c = false := by
    intro inWord cs
    induction cs generalizing inWord with
    | nil => simp [Boundary]
    | cons c cs ih =>
      rw [Boundary, ih]
      cases cs with
      | nil => simp
      | cons d cs => simp [List.getLast?_cons]
  rw [run, EndsNoWord]
  cases h : before.getLast? with
  | none => simp [List.getLast?_eq_none_iff.1 h]
  | some c =>
    have : before ≠ [] := by
      rintro rfl
      cases h
    simp [this]

/-- The scanner stops at the first place where a declaration begins. -/
theorem firstDeclared?_eq_some_iff {wanted cs name : List Char} {inWord : Bool} :
    firstDeclared? wanted inWord cs = some name ↔
      ∃ before rest, before ++ rest = cs ∧ Boundary inWord before ∧
        declaredAt? wanted rest = some name ∧
        ∀ before' rest', before' ++ rest' = cs → Boundary inWord before' →
          (declaredAt? wanted rest').isSome → before.length ≤ before'.length := by
  have nothing : declaredAt? wanted [] = none := rfl
  induction cs generalizing inWord with
  | nil =>
    simp only [firstDeclared?, reduceCtorEq, false_iff]
    rintro ⟨before, rest, h, _, found, _⟩
    rw [(List.append_eq_nil_iff.1 h).2, nothing] at found
    cases found
  | cons c cs ih =>
    rw [firstDeclared?]
    cases here : if inWord then none else declaredAt? wanted (c :: cs) with
    | some first =>
      obtain ⟨outside, found⟩ : inWord = false ∧ declaredAt? wanted (c :: cs) = some first := by
        cases inWord <;> simp_all
      constructor
      · rintro ⟨⟩
        exact ⟨[], c :: cs, rfl, outside, found, fun _ _ _ _ _ => Nat.zero_le _⟩
      · rintro ⟨before, rest, whole, _, found', least⟩
        have : before = [] := by
          have := least [] (c :: cs) rfl outside (by simp [found])
          simpa using this
        subst this
        cases whole
        rw [← found, found']
    | none =>
      have later : ∀ before rest, before ++ rest = c :: cs → Boundary inWord before →
          (declaredAt? wanted rest).isSome → ∃ tail, before = c :: tail ∧ tail ++ rest = cs := by
        intro before rest whole bound found
        cases before with
        | nil =>
          cases whole
          simp_all [Boundary]
        | cons d tail =>
          obtain ⟨rfl, rfl⟩ := List.cons.inj whole
          exact ⟨tail, rfl, rfl⟩
      refine ih.trans ?_
      constructor
      · rintro ⟨before, rest, rfl, bound, found, least⟩
        refine ⟨c :: before, rest, rfl, bound, found, fun before' rest' whole bound' found' => ?_⟩
        obtain ⟨tail, rfl, rest_whole⟩ := later before' rest' whole bound' found'
        exact Nat.succ_le_succ (least tail rest' rest_whole bound' found')
      · rintro ⟨before, rest, whole, bound, found, least⟩
        obtain ⟨tail, rfl, rfl⟩ := later before rest whole bound (by simp [found])
        refine ⟨tail, rest, rfl, bound, found, fun before' rest' whole bound' found' => ?_⟩
        have := least (c :: before') rest' (congrArg (c :: ·) whole) bound' found'
        exact Nat.le_of_succ_le_succ this

/-- A line declares `name` after `before` exactly if the scanner finds it there. -/
theorem declares_iff {wanted line before name : List Char} (trimmed : BlankFree wanted) :
    Declares wanted line before name ↔
      ∃ rest, before ++ rest = line ∧ Boundary false before ∧
        declaredAt? wanted rest = some name := by
  simp only [declaredAt?_eq_some_iff trimmed, boundary_iff]
  constructor
  · rintro ⟨p, ok, rfl, rfl, rfl⟩
    have bare : { p with before := [] }.WellFormed := { ok with before := by simp [EndsNoWord] }
    exact ⟨p.tail wanted, rfl, ok.before, { p with before := [] }, rfl, bare, rfl, rfl⟩
  · rintro ⟨rest, rfl, bound, p, _, ok, rfl, rfl⟩
    exact ⟨{ p with before }, { ok with before := bound }, rfl, rfl, rfl⟩

/-- What stands in front of a declaration leaves only one identifier. -/
theorem declares_unique {wanted line before name name' : List Char} (trimmed : BlankFree wanted)
    (h : Declares wanted line before name) (h' : Declares wanted line before name') :
    name = name' := by
  obtain ⟨rest, whole, _, found⟩ := (declares_iff trimmed).1 h
  obtain ⟨rest', whole', _, found'⟩ := (declares_iff trimmed).1 h'
  have : rest = rest' := List.append_cancel_left (whole.trans whole'.symm)
  subst this
  exact Option.some.inj (found.symm.trans found')

/-- The line declares `name`, with as little as possible in front of the declaration. -/
def DeclaresFirst (wanted line name : List Char) : Prop :=
  ∃ before, Declares wanted line before name ∧
    ∀ before' name', Declares wanted line before' name' → before.length ≤ before'.length

theorem onLine?_eq_some_iff {wanted line name : List Char} (trimmed : BlankFree wanted) :
    onLine? wanted line = some name ↔ DeclaresFirst wanted line name := by
  rw [onLine?, firstDeclared?_eq_some_iff, DeclaresFirst]
  simp only [declares_iff trimmed]
  constructor
  · rintro ⟨before, rest, whole, bound, found, least⟩
    refine ⟨before, ⟨rest, whole, bound, found⟩, ?_⟩
    rintro before' name' ⟨rest', whole', bound', found'⟩
    exact least before' rest' whole' bound' (by simp [found'])
  · rintro ⟨before, ⟨rest, whole, bound, found⟩, least⟩
    refine ⟨before, rest, whole, bound, found, fun before' rest' whole' bound' found' => ?_⟩
    obtain ⟨name', found'⟩ := Option.isSome_iff_exists.1 found'
    exact least before' name' ⟨rest', whole', bound', found'⟩

/-- If a line can be put together at all, then in a way with the least in front. -/
theorem declaresFirst_of_declares {wanted line before name : List Char}
    (h : Declares wanted line before name) : ∃ first, DeclaresFirst wanted line first := by
  induction len : before.length using Nat.strongRecOn generalizing before name with
  | ind n ih =>
    by_cases shorter : ∃ before' name', Declares wanted line before' name' ∧ before'.length < n
    · obtain ⟨before', name', h', lt⟩ := shorter
      exact ih before'.length lt h' rfl
    · refine ⟨name, before, h, fun before' name' h' => ?_⟩
      exact Nat.le_of_not_lt fun lt => shorter ⟨before', name', h', len ▸ lt⟩

/-! ## The declarations of a header -/

/-- The object type as it is looked for. -/
abbrev sought (objectType : String) : List Char := Text.trimChars objectType.toList

theorem mem_scan_iff {objectType text : String} {d : Declaration} :
    d ∈ scan objectType text ↔ ∃ line, 0 < d.line ∧
      (Text.lines text.toList)[d.line - 1]? = some line ∧
      onLine? (sought objectType) line = some d.identifier.toList := by
  simp only [scan, List.mem_filterMap, Option.map_eq_some_iff]
  constructor
  · rintro ⟨⟨line, number⟩, mem, name, found, rfl⟩
    obtain ⟨positive, at_line⟩ := List.mk_mem_zipIdx_iff_le_and_getElem?_sub.1 mem
    exact ⟨line, positive, at_line, by simpa using found⟩
  · rintro ⟨line, positive, at_line, found⟩
    refine ⟨(line, d.line), ?_, d.identifier.toList, found, by simp⟩
    exact List.mk_mem_zipIdx_iff_le_and_getElem?_sub.2 ⟨positive, at_line⟩

theorem scan_increasing (objectType text : String) :
    (scan objectType text).Pairwise fun d d' => d.line < d'.line := by
  have numbers : ((Text.lines text.toList).zipIdx 1).Pairwise fun p q => p.2 < q.2 := by
    rw [← List.pairwise_map (f := Prod.snd) (R := (· < ·)), List.zipIdx_map_snd]
    exact List.pairwise_lt_range'
  refine numbers.filterMap _ fun p q lt d hd d' hd' => ?_
  obtain ⟨_, _, rfl⟩ := Option.map_eq_some_iff.1 hd
  obtain ⟨_, _, rfl⟩ := Option.map_eq_some_iff.1 hd'
  exact lt

/-- **The scanner accepts exactly its grammar.** The lines of the declarations increase, so each
line has one at most. A line has one if and only if it can be put together from the parts of a
declaration, and what it declares is the identifier of a way to do so with the least in front. With
a given text in front there is only one identifier. -/
theorem scan_iff_grammar (objectType text : String) :
    let wanted := sought objectType
    let lines := Text.lines text.toList
    let declarations := scan objectType text
    declarations.Pairwise (fun d d' => d.line < d'.line) ∧
    (∀ i line, lines[i]? = some line →
      ((∃ d ∈ declarations, d.line = i + 1) ↔ ∃ before name, Declares wanted line before name)) ∧
    (∀ d, d ∈ declarations ↔ ∃ line, 0 < d.line ∧ lines[d.line - 1]? = some line ∧
      DeclaresFirst wanted line d.identifier.toList) ∧
    (∀ line before name name', Declares wanted line before name →
      Declares wanted line before name' → name = name') := by
  intro wanted lines declarations
  have trimmed : BlankFree (sought objectType) := Text.blankFree_trimChars _
  refine ⟨scan_increasing objectType text, fun i line at_i => ⟨?_, ?_⟩, fun d => ?_,
    fun line before name name' => declares_unique trimmed⟩
  · rintro ⟨d, mem, number⟩
    obtain ⟨other, _, at_line, found⟩ := mem_scan_iff.1 mem
    obtain ⟨before, declares, _⟩ := (onLine?_eq_some_iff trimmed).1 found
    have : other = line := by
      rw [number, Nat.add_sub_cancel] at at_line
      exact Option.some.inj (at_line.symm.trans at_i)
    exact ⟨before, _, this ▸ declares⟩
  · rintro ⟨before, name, declares⟩
    obtain ⟨first, h⟩ := declaresFirst_of_declares declares
    refine ⟨⟨String.ofList first, i + 1⟩, mem_scan_iff.2 ⟨line, Nat.succ_pos i, at_i, ?_⟩, rfl⟩
    simpa using (onLine?_eq_some_iff trimmed).2 h
  · rw [mem_scan_iff]
    simp only [onLine?_eq_some_iff trimmed]
    rfl

/-- An object type may itself hold what the grammar gives a meaning to. -/
example : onLine? ['*'] "externs * *a, extern * *b, extern **c".toList = some ['b'] := by decide

end Declaration

end WidgetBindings
