import WidgetBindings.Build
import WidgetBindings.Proofs.Classification.Outcome
import WidgetBindings.Proofs.Store.Contents

/-!
# What a build counts

A build takes in declarations one after the other. `Balanced` relates its counts and its store to
the declarations taken in so far; every declaration keeps it so (`balanced_add`), and so does a
whole scan (`balanced_ofDeclarations`).
-/

namespace WidgetBindings

namespace Build

/-- The counts of a build, its store and the declarations that it has taken in belong together. -/
structure Balanced (build : Build) (declarations : List Declaration) : Prop where
  met : build.summary.declarations = declarations.length
  judged : build.summary.declarations =
    build.summary.mapped + build.summary.fallback + build.summary.rejected
  entered : build.store.size + build.summary.duplicates =
    build.summary.mapped + build.summary.fallback
  declared : ∀ id ∈ build.store.identifiers, ∃ d ∈ declarations, d.identifier = id

theorem balanced_empty : empty.Balanced [] :=
  ⟨rfl, rfl, rfl, fun _ h => by cases h⟩

variable {rules : Classifier} {build : Build}

/-- A build that has counted one more declaration with its outcome. -/
def counted (build : Build) (outcome : Classification) : Build :=
  { build with summary := { build.summary with
      declarations := build.summary.declarations + 1
      mapped := build.summary.mapped + outcome.isMapped.toNat
      fallback := build.summary.fallback + outcome.isFallback.toNat
      rejected := build.summary.rejected + outcome.isRejected.toNat } }

theorem add_of_accepted {d : Declaration} {e : Entry}
    (accepted : rules.accepted? d.identifier = some e) :
    build.add rules d = (build.counted (rules.classify d.identifier)).enter d e := by
  unfold Classifier.accepted? at accepted
  unfold add
  cases outcome : rules.classify d.identifier with
  | mapped entry =>
    rw [outcome] at accepted
    cases accepted
    rfl
  | fallback entry =>
    rw [outcome] at accepted
    cases accepted
    rfl
  | rejected name =>
    rw [outcome] at accepted
    cases accepted

theorem add_of_rejected {d : Declaration} {name : String}
    (rejected : rules.classify d.identifier = .rejected name) :
    build.add rules d = { build.counted (.rejected name) with
      incidents := build.incidents ++ [.rejected d name] } := by
  unfold add
  rw [rejected]
  rfl

/-- An accepted declaration becomes an entry or counts as a repetition. -/
theorem enter_cases (build : Build) (d : Declaration) (e : Entry) :
    (e.identifier ∉ build.store.identifiers ∧ ∃ store, store.toList = build.store.toList ++ [e] ∧
      build.enter d e = { build with store }) ∨
    (e.identifier ∈ build.store.identifiers ∧ build.enter d e = { build with
      summary.duplicates := build.summary.duplicates + 1
      incidents := build.incidents ++ [.repeated d] }) := by
  unfold enter
  cases h : build.store.insert e with
  | ok store =>
    obtain ⟨new, added⟩ := Store.insert_eq_ok_iff.1 h
    exact .inl ⟨new, store, added, rfl⟩
  | error r => exact .inr ⟨(Store.insert_eq_error_iff.1 h).1, rfl⟩

/-- Entering keeps the balance of a build whose counts already allow for one more entry. -/
theorem balanced_enter {build : Build} {ds : List Declaration} {d : Declaration} {e : Entry}
    (same : e.identifier = d.identifier)
    (met : build.summary.declarations = (ds ++ [d]).length)
    (judged : build.summary.declarations =
      build.summary.mapped + build.summary.fallback + build.summary.rejected)
    (entered : build.store.size + build.summary.duplicates + 1 =
      build.summary.mapped + build.summary.fallback)
    (declared : ∀ id ∈ build.store.identifiers, ∃ d ∈ ds, d.identifier = id) :
    (build.enter d e).Balanced (ds ++ [d]) := by
  have earlier : ∀ id ∈ build.store.identifiers, ∃ d' ∈ ds ++ [d], d'.identifier = id := by
    intro id mem
    obtain ⟨d', hd', h⟩ := declared id mem
    exact ⟨d', List.mem_append_left _ hd', h⟩
  obtain ⟨_, store, added, h⟩ | ⟨_, h⟩ := build.enter_cases d e
  · rw [h]
    refine ⟨met, judged, ?_, ?_⟩
    · have : store.size = build.store.size + 1 := by
        rw [← store.length_toList, added, List.length_append, build.store.length_toList]
        rfl
      dsimp only
      omega
    · intro id mem
      rw [Store.identifiers, added, List.map_append, List.mem_append] at mem
      obtain old | new := mem
      · exact earlier id old
      · have : id = e.identifier := by simpa using new
        exact ⟨d, by simp, (this.trans same).symm⟩
  · rw [h]
    refine ⟨met, judged, ?_, earlier⟩
    dsimp only
    omega

theorem balanced_add (rules : Classifier) {build : Build} {ds : List Declaration}
    (h : build.Balanced ds) (d : Declaration) : (build.add rules d).Balanced (ds ++ [d]) := by
  obtain ⟨met, judged, entered, declared⟩ := h
  have one := (rules.classify d.identifier).one_outcome
  obtain ⟨e, accepted, silent⟩ | ⟨name, rejected, _⟩ := rules.accepted_or_rejected d.identifier
  · have passed : (rules.classify d.identifier).isRejected.toNat = 0 := by
      rw [Classification.isRejected, silent]
      rfl
    rw [add_of_accepted accepted]
    refine balanced_enter (Classifier.identifier_of_accepted accepted) ?_ ?_ ?_ declared
    · simp [counted, met]
    · dsimp only [counted]
      omega
    · dsimp only [counted]
      omega
  · rw [add_of_rejected rejected]
    rw [rejected] at one
    refine ⟨by simp [counted, met], ?_, entered, fun id mem => ?_⟩
    · dsimp only [counted]
      omega
    · obtain ⟨d', hd', same⟩ := declared id mem
      exact ⟨d', List.mem_append_left _ hd', same⟩

/-- Every declaration of a scan is counted once, and every entry comes from one. -/
theorem balanced_ofDeclarations (rules : Classifier) (declarations : List Declaration) :
    (ofDeclarations rules declarations).Balanced declarations := by
  have run : ∀ (rest seen : List Declaration) (build : Build), build.Balanced seen →
      (rest.foldl (add rules) build).Balanced (seen ++ rest) := by
    intro rest
    induction rest with
    | nil =>
      intro seen build h
      simpa using h
    | cons d rest ih =>
      intro seen build h
      simpa using ih (seen ++ [d]) _ (balanced_add rules h d)
  exact run declarations [] empty balanced_empty

end Build

end WidgetBindings
