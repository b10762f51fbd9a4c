import WidgetBindings.Proofs.Classification.Outcome
import WidgetBindings.Proofs.Outcome
import WidgetBindings.Proofs.PrefixTable.Insertion

/-!
# The lengths of prefixes

Inserting looks at the length of a prefix, and reading a table from its text does not.

* `built_iff`: inserting gives the tables in which each prefix has three characters;
* `classify_congr`: a prefix of any other length stands for nothing, since three characters are
  looked up;
* `lengths_checked_by_insert`: so a prefix of any length gets into a table by a text, stays there
  whatever is inserted, and is the classification of no identifier.
-/

namespace WidgetBindings

open Json.Read

namespace PrefixTable

variable {table other : PrefixTable}

/-- The tables that come of inserting. -/
inductive Built : PrefixTable → Prop
  | empty : Built empty
  | standard : Built standard
  | insert {table next : PrefixTable} {text : String} {mapping : Mapping} (built : Built table)
      (done : table.insert text mapping = .ok next) : Built next

/-- Each prefix has three characters. -/
def EachOfThree (table : PrefixTable) : Prop := ∀ m ∈ table.toList, m.1.length = 3

theorem eachOfThree_iff : table.EachOfThree ↔
    ∀ text, text.length ≠ 3 → table.lookup? text = none := by
  constructor
  · intro three text wrong
    rw [Option.eq_none_iff_forall_ne_some]
    exact fun mapping known => wrong (three _ (mem_toList_iff.2 known))
  · intro none m listed
    by_cases three : m.1.length = 3
    · exact three
    · have known := mem_toList_iff.1 listed
      rw [none _ three] at known
      cases known

/-- A prefix of any other length is neither added nor taken away. -/
theorem lookup?_insertAll_of_length_ne (table : PrefixTable) (calls : List (String × Mapping))
    {text : String} (wrong : text.length ≠ 3) :
    (table.insertAll calls).lookup? text = table.lookup? text := by
  have untouched : (accepted calls).filter (·.1 = text) = [] := by
    rw [List.filter_eq_nil_iff]
    intro call listed same
    have three := of_decide_eq_true (List.mem_filter.1 listed).2
    exact wrong (of_decide_eq_true same ▸ three)
  rw [lookup?_insertAll, last?, untouched]
  rfl

theorem EachOfThree.insertAll (h : table.EachOfThree) (calls : List (String × Mapping)) :
    (table.insertAll calls).EachOfThree := by
  rw [eachOfThree_iff] at h ⊢
  intro text wrong
  rw [lookup?_insertAll_of_length_ne table calls wrong, h text wrong]

theorem eachOfThree_empty : empty.EachOfThree := by
  intro m listed
  cases listed

theorem Built.eachOfThree (built : Built table) : table.EachOfThree := by
  induction built with
  | empty => exact eachOfThree_empty
  | standard =>
    have same : PrefixTable.empty.insertAll standardMappings = PrefixTable.standard := by
      decide +kernel
    rw [← same]
    exact eachOfThree_empty.insertAll _
  | @insert table next text mapping _ done ih =>
    have same : next = table.insertAll [(text, mapping)] := by
      rw [PrefixTable.insertAll, List.foldl_cons, List.foldl_nil, put, done]
      rfl
    rw [same]
    exact ih.insertAll _

theorem Built.insertAll (built : Built table) (calls : List (String × Mapping)) :
    Built (table.insertAll calls) := by
  induction calls generalizing table with
  | nil => exact built
  | cons call calls ih =>
    refine ih ?_
    by_cases three : call.1.length = prefixLength
    · exact built.insert (insert_eq_ok_iff.2 ⟨three, put_of_length three⟩)
    · rw [put_of_length_ne three]
      exact built

/-- Inserting gives the tables in which each prefix has three characters. -/
theorem built_iff : Built table ↔ table.EachOfThree := by
  refine ⟨Built.eachOfThree, fun three => ?_⟩
  have all : accepted table.toList = table.toList :=
    List.filter_eq_self.2 fun m listed => decide_eq_true (three m listed)
  have same : empty.insertAll table.toList = table := by
    rw [insertAll_eq, all, putAll_toList]
  rw [← same]
  exact Built.empty.insertAll _

end PrefixTable

/-! ## What a prefix stands for -/

namespace Classifier

variable {rules : Classifier}

/-- A listed prefix of three characters is that of some identifier. -/
theorem classify_prefix {text : String} {mapping : Mapping}
    (known : rules.table.lookup? text = some mapping) (three : text.length = 3) :
    rules.classify (rules.constantPrefix ++ text) =
      .mapped (.ofMapping (rules.constantPrefix ++ text) "" mapping) := by
  have stripped : rules.strip (rules.constantPrefix ++ text) = text.toList := by
    rw [strip, Text.after?_eq_some_iff.2 String.toList_append]
    rfl
  have length : text.toList.length = prefixLength := three
  have found : rules.mapping? text.toList = some mapping :=
    mapping?_eq_some_iff.2 ⟨text.toList, [], (List.append_nil _).symm, length,
      by rw [String.ofList_toList, known]⟩
  rw [classify_of_known (by rw [stripped, found]), stripped,
    displayName_of_append (List.append_nil _).symm length]
  rfl

/-- Only prefixes of three characters are looked up. -/
theorem classify_congr {table other : PrefixTable}
    (alike : ∀ text, text.length = 3 → other.lookup? text = table.lookup? text)
    (constantPrefix : String) (acceptAll : Bool) (identifier : String) :
    classify ⟨other, constantPrefix, acceptAll⟩ identifier =
      classify ⟨table, constantPrefix, acceptAll⟩ identifier := by
  have found (stripped : List Char) : mapping? ⟨other, constantPrefix, acceptAll⟩ stripped =
      mapping? ⟨table, constantPrefix, acceptAll⟩ stripped := by
    rw [mapping?, mapping?]
    split
    · rename_i long
      refine alike _ ?_
      rw [String.length_ofList, List.length_take_of_le long]
      rfl
    · rfl
  rw [classify, classify, found]
  rfl

end Classifier

/-! ## What inserting checks and reading does not -/

/-- **The length of a prefix is checked when it is inserted, and only then.** Inserting gives the
tables in which each prefix has three characters. But any table comes back from its text, whatever
its prefixes are, and inserting leaves those of any other length as they are. Of what is listed, the
prefixes of three characters are those of some identifier, and the others make no difference. -/
theorem PrefixTable.lengths_checked_by_insert (table : PrefixTable) :
    (Built table ↔ ∀ m ∈ table.toList, m.1.length = 3) ∧
    all (PrefixTable.read nestingLimit) (Text.toBytes table.toJson.compact) = .ok table ∧
    (∀ calls text, text.length ≠ 3 →
      (table.insertAll calls).lookup? text = table.lookup? text) ∧
    (∀ rules : Classifier, rules.table = table → ∀ m ∈ table.toList, m.1.length = 3 →
      rules.classify (rules.constantPrefix ++ m.1) =
        .mapped (.ofMapping (rules.constantPrefix ++ m.1) "" m.2)) ∧
    ∀ other, (∀ text, text.length = 3 → other.lookup? text = table.lookup? text) →
      ∀ (constantPrefix : String) (acceptAll : Bool) (identifier : String),
        Classifier.classify ⟨other, constantPrefix, acceptAll⟩ identifier =
          Classifier.classify ⟨table, constantPrefix, acceptAll⟩ identifier := by
  refine ⟨built_iff, read_compact table,
    fun calls text wrong => lookup?_insertAll_of_length_ne table calls wrong, ?_, ?_⟩
  · rintro rules rfl m listed three
    exact Classifier.classify_prefix (mem_toList_iff.1 listed) three
  · intro other alike constantPrefix acceptAll identifier
    exact Classifier.classify_congr alike constantPrefix acceptAll identifier

/-- The text of a table with a prefix of two characters. -/
def PrefixTable.textOfTwo : String :=
  "\x7b\"mappings\":\x7b\"bt\":" ++
    "\x7b\"control_type\":\"BUTTON_CT\",\"event\":\"LV_EVENT_CLICKED\"\x7d\x7d\x7d"

/-- It is read as a table that does not come of inserting. -/
theorem PrefixTable.prefix_of_two :
    ∃ table, all (PrefixTable.read nestingLimit) (Text.toBytes textOfTwo) = .ok table ∧
      (∃ m ∈ table.toList, m.1.length = 2) ∧ ¬ Built table := by
  have found : all (PrefixTable.read nestingLimit) (Text.toBytes textOfTwo) =
      .ok (empty.putAll [("bt", ⟨.button, .clicked⟩)]) :=
    eq_ok_of_toOption (by decide +kernel)
  have listed : ("bt", ⟨.button, .clicked⟩) ∈
      (empty.putAll [("bt", ⟨.button, .clicked⟩)]).toList := by
    decide +kernel
  refine ⟨_, found, ⟨_, listed, by decide⟩, fun built => ?_⟩
  exact absurd (built.eachOfThree _ listed) (by decide)

end WidgetBindings
