import WidgetBindings.Proofs.Build.Selection

/-!
# Builds by different rules

One header, scanned by rules that accept more or less. Repetitions make the stores drift apart, so
they are compared by what each of them selects (`toList_ofDeclarations_of_kept`), not place by
place.

* `accept_all_only_adds`: accepting all symbols, or enlarging the table, keeps the entries that were
  there, as they were and in their order.
-/

namespace WidgetBindings

/-- A larger table maps each prefix that a table maps, and to the same. -/
def PrefixTable.EnlargedTo (table larger : PrefixTable) : Prop :=
  ∀ text mapping, table.lookup? text = some mapping → larger.lookup? text = some mapping

/-- A mapping for a prefix that was not there enlarges a table. -/
theorem PrefixTable.enlargedTo_insert {table larger : PrefixTable} {text : String}
    {mapping : Mapping} (new : table.lookup? text = none)
    (inserted : table.insert text mapping = .ok larger) : table.EnlargedTo larger := by
  intro other known found
  unfold PrefixTable.insert at inserted
  split at inserted
  · cases inserted
    unfold lookup? at found new ⊢
    rw [Std.ExtTreeMap.getElem?_insert]
    by_cases same : text = other
    · subst same
      rw [new] at found
      cases found
    · rw [if_neg (by simpa using same), found]
  · cases inserted

namespace Classifier

variable {rules : Classifier} {id : String} {e : Entry}

/-- Rules that do not accept all symbols accept those with a known prefix. -/
theorem known_of_accepted (strict : rules.acceptAll = false)
    (accepted : rules.accepted? id = some e) :
    ∃ mapping, rules.mapping? (rules.strip id) = some mapping ∧
      e = .ofMapping id (displayName (rules.strip id)) mapping := by
  have known : rules.knows id = true := by
    have yes : rules.accepts id = true := by rw [accepts, accepted, Option.isSome_some]
    rw [accepts_eq, strict, Bool.or_false] at yes
    exact yes
  obtain ⟨mapping, found⟩ := Option.isSome_iff_exists.1 known
  rw [accepted?_of_known found] at accepted
  exact ⟨mapping, found, (Option.some.inj accepted).symm⟩

/-- A larger table maps the prefix of every name for which the table maps it. -/
theorem mapping?_of_enlargedTo {table larger : PrefixTable} (enlarged : table.EnlargedTo larger)
    {constantPrefix : String} {acceptAll : Bool} {stripped : List Char} {mapping : Mapping}
    (found : mapping? ⟨table, constantPrefix, acceptAll⟩ stripped = some mapping) :
    mapping? ⟨larger, constantPrefix, acceptAll⟩ stripped = some mapping := by
  obtain ⟨front, rest, cut, three, mapped⟩ := mapping?_eq_some_iff.1 found
  exact mapping?_eq_some_iff.2 ⟨front, rest, cut, three, enlarged _ _ mapped⟩

end Classifier

namespace Build

open Declaration (identifiers)

/-- When some rules accept at least what other rules accept, and as the same entries, then the
others select from what they select. -/
theorem toList_ofDeclarations_of_kept {small large : Classifier}
    (kept : ∀ id e, small.accepted? id = some e → large.accepted? id = some e)
    (declarations : List Declaration) :
    (ofDeclarations small declarations).store.toList =
      (ofDeclarations large declarations).store.toList.filter
        fun e => small.accepts e.identifier := by
  rw [(selected_ofDeclarations small declarations).entries,
    (selected_ofDeclarations large declarations).entries, List.filter_filterMap]
  -- both select from the same identifiers, so one identifier at a time can be compared
  refine List.filterMap_congr fun id _ => ?_
  cases accepted : small.accepted? id with
  | some e =>
    have yes : small.accepts e.identifier = true := by
      rw [Classifier.accepts, Classifier.identifier_of_accepted accepted, accepted,
        Option.isSome_some]
    rw [kept id e accepted]
    simp [Option.filter, yes]
  | none =>
    cases other : large.accepted? id with
    | none => rfl
    | some e =>
      have no : small.accepts e.identifier = false := by
        rw [Classifier.accepts, Classifier.identifier_of_accepted other, accepted,
          Option.isSome_none]
      simp [Option.filter, no]

variable (table : PrefixTable) (constantPrefix : String)

/-- A mapping counts whether all symbols are accepted or not. -/
theorem kept_by_lenient (id : String) (e : Entry)
    (accepted : Classifier.accepted? ⟨table, constantPrefix, false⟩ id = some e) :
    Classifier.accepted? ⟨table, constantPrefix, true⟩ id = some e := by
  obtain ⟨mapping, known, rfl⟩ := Classifier.known_of_accepted rfl accepted
  exact Classifier.accepted?_of_known known

theorem kept_by_larger {larger : PrefixTable} (enlarged : table.EnlargedTo larger) (id : String)
    (e : Entry) (accepted : Classifier.accepted? ⟨table, constantPrefix, false⟩ id = some e) :
    Classifier.accepted? ⟨larger, constantPrefix, false⟩ id = some e := by
  obtain ⟨mapping, known, rfl⟩ := Classifier.known_of_accepted rfl accepted
  exact Classifier.accepted?_of_known (Classifier.mapping?_of_enlargedTo enlarged known)

/-- Strict rules repeat no more than lenient ones, which accept every declaration. -/
theorem duplicates_strict_le (declarations : List Declaration) :
    (ofDeclarations ⟨table, constantPrefix, false⟩ declarations).summary.duplicates ≤
      (ofDeclarations ⟨table, constantPrefix, true⟩ declarations).summary.duplicates := by
  have strict := duplicates_ofDeclarations ⟨table, constantPrefix, false⟩ declarations
  have lenient := duplicates_ofDeclarations ⟨table, constantPrefix, true⟩ declarations
  have all : (identifiers declarations).filter
      (Classifier.accepts ⟨table, constantPrefix, true⟩) = identifiers declarations := by
    refine List.filter_eq_self.2 fun id _ => ?_
    rw [Classifier.accepts_eq, Bool.or_true]
  have repeated := repetitions_filter_le (Classifier.accepts ⟨table, constantPrefix, false⟩)
    (identifiers declarations)
  rw [all] at lenient
  omega

/-- What falls back under lenient rules is rejected by strict ones, and nothing else differs. -/
theorem counts_compared (declarations : List Declaration) :
    let strict := (ofDeclarations ⟨table, constantPrefix, false⟩ declarations).summary
    let full := (ofDeclarations ⟨table, constantPrefix, true⟩ declarations).summary
    strict.declarations = full.declarations ∧ strict.mapped = full.mapped ∧
      full.fallback = strict.rejected ∧ strict.fallback = 0 ∧ full.rejected = 0 := by
  intro strict full
  have chosen := selected_ofDeclarations ⟨table, constantPrefix, false⟩ declarations
  have all := selected_ofDeclarations ⟨table, constantPrefix, true⟩ declarations
  have never (outcome : Declaration → Bool) (no : ∀ d, outcome d = false) :
      declarations.countP outcome = 0 := by
    refine List.countP_eq_zero.2 fun d _ => ?_
    rw [no]
    exact Bool.false_ne_true
  refine ⟨?_, ?_, ?_, ?_, ?_⟩
  · have met := (balanced_ofDeclarations ⟨table, constantPrefix, false⟩ declarations).met
    exact met.trans (balanced_ofDeclarations ⟨table, constantPrefix, true⟩ declarations).met.symm
  · rw [chosen.mapped, all.mapped]
    simp only [Classifier.isMapped_classify]
    rfl
  · rw [all.fallback, chosen.rejected]
    simp only [Classifier.isFallback_classify, Classifier.isRejected_classify, Bool.not_false]
    rfl
  · rw [chosen.fallback]
    exact never _ fun d => by rw [Classifier.isFallback_classify, Bool.and_false]
  · rw [all.rejected]
    exact never _ fun d => by rw [Classifier.isRejected_classify, Bool.not_true, Bool.and_false]

theorem notes_lenient (declarations : List Declaration) :
    (ofDeclarations ⟨table, constantPrefix, true⟩ declarations).notes = [] := by
  rw [(selected_ofDeclarations ⟨table, constantPrefix, true⟩ declarations).notes]
  refine List.filterMap_eq_nil_iff.2 fun d _ => ?_
  rw [Classifier.rejectedName?_classify, Bool.not_true, Bool.and_false]
  rfl

/-- Strict rules leave a note on each declaration that falls back under lenient ones. -/
theorem notes_strict (declarations : List Declaration) :
    let lenient : Classifier := ⟨table, constantPrefix, true⟩
    (ofDeclarations ⟨table, constantPrefix, false⟩ declarations).notes =
      (declarations.filter fun d => (lenient.classify d.identifier).isFallback).map
        fun d => rejectionNote (String.ofList (lenient.strip d.identifier)) := by
  intro lenient
  have same (id : String) : Classifier.knows ⟨table, constantPrefix, false⟩ id =
      lenient.knows id := rfl
  rw [(selected_ofDeclarations ⟨table, constantPrefix, false⟩ declarations).notes,
    ← List.filterMap_eq_map, List.filterMap_filter]
  refine List.filterMap_congr fun d _ => ?_
  rw [Classifier.rejectedName?_classify, Classifier.isFallback_classify, same, Bool.not_false,
    Bool.and_true]
  cases lenient.knows d.identifier <;> rfl

/-- **Accepting all symbols only adds.** A header is scanned by strict rules and by rules that
accept all symbols. The strict store is what the full one holds of mapped symbols, in its order.
Both builds count the same declarations and the same mapped ones; what falls back in one is rejected
in the other. The full build leaves no note, and the strict one names, in order, the symbols that
fall back in the full one. Likewise a larger table keeps the entries of the strict store, as they
are and in their order. -/
theorem accept_all_only_adds (objectType text : String) :
    let declarations := Declaration.scan objectType text
    let lenient : Classifier := ⟨table, constantPrefix, true⟩
    let strict := ofDeclarations ⟨table, constantPrefix, false⟩ declarations
    let full := ofDeclarations lenient declarations
    strict.store.toList =
      full.store.toList.filter (fun e => (lenient.classify e.identifier).isMapped) ∧
    strict.summary.declarations = full.summary.declarations ∧
    strict.summary.mapped = full.summary.mapped ∧
    full.summary.fallback = strict.summary.rejected ∧
    strict.summary.fallback = 0 ∧
    full.summary.rejected = 0 ∧
    strict.summary.duplicates ≤ full.summary.duplicates ∧
    full.notes = [] ∧
    strict.notes = (declarations.filter fun d => (lenient.classify d.identifier).isFallback).map
      (fun d => rejectionNote (String.ofList (lenient.strip d.identifier))) ∧
    ∀ larger : PrefixTable, table.EnlargedTo larger → strict.store.toList =
      (ofDeclarations ⟨larger, constantPrefix, false⟩ declarations).store.toList.filter
        fun e => (lenient.classify e.identifier).isMapped := by
  intro declarations lenient strict full
  have mapped : (fun e : Entry => (lenient.classify e.identifier).isMapped) =
      fun e => Classifier.accepts ⟨table, constantPrefix, false⟩ e.identifier := by
    funext e
    rw [Classifier.isMapped_classify, Classifier.accepts_eq, Bool.or_false]
    rfl
  obtain ⟨met, known, fallen, none_falls, none_rejected⟩ :=
    counts_compared table constantPrefix declarations
  refine ⟨?_, met, known, fallen, none_falls, none_rejected,
    duplicates_strict_le table constantPrefix declarations,
    notes_lenient table constantPrefix declarations,
    notes_strict table constantPrefix declarations, fun larger enlarged => ?_⟩
  · rw [mapped]
    exact toList_ofDeclarations_of_kept (kept_by_lenient table constantPrefix) declarations
  · rw [mapped]
    exact toList_ofDeclarations_of_kept (kept_by_larger table constantPrefix enlarged) declarations

/-- A symbol with a known prefix between two declarations of one whose prefix is unknown. -/
def mixedHeader : String :=
  "extern lv_obj_t *ui_xyz_b;\nextern lv_obj_t *ui_btn_a;\nextern lv_obj_t *ui_xyz_b;\n"

/-- The table that is known from the start, and one more prefix. -/
def widerTable : PrefixTable := ⟨PrefixTable.standard.mappings.insert "xyz" ⟨.slider, .released⟩⟩

theorem accept_all_only_adds_mixed :
    PrefixTable.standard.EnlargedTo widerTable ∧
    (ofDeclarations ⟨.standard, "ui_", false⟩
      (Declaration.scan "lv_obj_t" mixedHeader)).store.toList =
      [.ofMapping "ui_btn_a" "a" ⟨.button, .clicked⟩] := by
  have enlarged : PrefixTable.standard.EnlargedTo widerTable :=
    @PrefixTable.enlargedTo_insert .standard widerTable "xyz" ⟨.slider, .released⟩
      (by decide +kernel) rfl
  obtain ⟨_, _, _, _, _, _, _, _, _, kept⟩ :=
    accept_all_only_adds .standard "ui_" "lv_obj_t" mixedHeader
  exact ⟨enlarged, (kept widerTable enlarged).trans (by decide +kernel)⟩

end Build

end WidgetBindings
