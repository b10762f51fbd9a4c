import WidgetBindings.Project
import WidgetBindings.Proofs.Disk.Location
import WidgetBindings.Proofs.Path.Components

/-!
# The files of a project

A save writes four files: the document, the source, and beside each one the file in which it is
prepared. They lie in one directory (`parent?_sourcePath`), and no two of them are the same file
(`pairwise_location`). None of their paths goes up unless a setting does (`plain_outputPaths`).
-/

namespace WidgetBindings.Project

/-- The paths that a save writes to. -/
def outputPaths (project : Project) : List String :=
  Path.written project.documentPath ++ Path.written project.sourcePath

/-- The path of the generated files, without what follows the dot. -/
def outputBase (project : Project) : String :=
  Path.join project.workingDirectory project.bindingName

theorem isEnding_json : Path.IsEnding ".json" := ⟨by decide, 'n', by decide, by decide⟩

theorem isEnding_cpp : Path.IsEnding ".cpp" := ⟨by decide, 'p', by decide, by decide⟩

variable (project : Project)

theorem documentPath_eq : project.documentPath = project.outputBase ++ ".json" :=
  Path.join_append isEnding_json _ _

theorem sourcePath_eq : project.sourcePath = project.outputBase ++ ".cpp" :=
  Path.join_append isEnding_cpp _ _

theorem parent?_sourcePath :
    Path.parent? project.sourcePath = Path.parent? project.documentPath := by
  rw [sourcePath_eq, documentPath_eq, Path.parent?_append isEnding_cpp,
    Path.parent?_append isEnding_json]

/-- No two of the files that a save writes are the same, wherever paths are taken to lead, if a path
with an ending leads to a name with that ending. -/
theorem pairwise_lead {lead : String → Location}
    (named : ∀ {ending : String}, Path.IsEnding ending → ∀ front : String,
      ∃ parent stem, lead (front ++ ending) = parent ++ [stem ++ ending]) :
    project.outputPaths.Pairwise fun p q => lead p ≠ lead q := by
  have differ {ending other : String} (h : Path.IsEnding ending) (g : Path.IsEnding other)
      (apart : ¬ending.toList <:+ other.toList ∧ ¬other.toList <:+ ending.toList)
      (front behind : String) : lead (front ++ ending) ≠ lead (behind ++ other) := by
    obtain ⟨parent, stem, at_ending⟩ := named h front
    obtain ⟨parent', stem', at_other⟩ := named g behind
    rw [at_ending, at_other]
    exact Path.concat_ne apart _ _ _ _
  obtain ⟨document, preparedDocument⟩ := Path.temporary_append isEnding_json project.outputBase
  obtain ⟨source, preparedSource⟩ := Path.temporary_append isEnding_cpp project.outputBase
  rw [outputPaths, Path.written, Path.written, documentPath_eq, sourcePath_eq, preparedDocument,
    preparedSource, List.cons_append, List.cons_append, List.nil_append]
  have json := isEnding_json
  have cpp := isEnding_cpp
  have json_tmp := json.append Path.isEnding_tmp
  have cpp_tmp := cpp.append Path.isEnding_tmp
  refine .cons ?_ (.cons ?_ (.cons ?_ (.cons ?_ .nil)))
  · rintro p hp
    simp only [List.mem_cons, List.not_mem_nil, or_false] at hp
    obtain rfl | rfl | rfl := hp
    · exact differ json json_tmp (by decide) _ _
    · exact differ json cpp (by decide) _ _
    · exact differ json cpp_tmp (by decide) _ _
  · rintro p hp
    simp only [List.mem_cons, List.not_mem_nil, or_false] at hp
    obtain rfl | rfl := hp
    · exact differ json_tmp cpp (by decide) _ _
    · exact differ json_tmp cpp_tmp (by decide) _ _
  · rintro p hp
    obtain rfl := List.mem_singleton.1 hp
    exact differ cpp cpp_tmp (by decide) _ _
  · rintro p hp
    cases hp

theorem pairwise_place (disk : Disk) :
    project.outputPaths.Pairwise fun p q => disk.place p ≠ disk.place q :=
  project.pairwise_lead (Path.place_append disk)

theorem pairwise_location (disk : Disk) :
    project.outputPaths.Pairwise fun p q => disk.location p ≠ disk.location q :=
  project.pairwise_lead (Disk.location_append disk)

/-- Paths with an ending have a name, and go up only if a setting does. -/
theorem plain_written {ending : String} (h : Path.IsEnding ending)
    (plain : ".." ∉ Disk.namesOf project.outputBase) :
    ∀ p ∈ Path.written (project.outputBase ++ ending), ".." ∉ Disk.namesOf p := by
  obtain ⟨_, _, _, _, plain_temporary⟩ :=
    Path.place_temporary ⟨∅, []⟩ (Path.fileName?_append h project.outputBase)
  have plain_path := Path.plain_append h plain
  rintro p hp
  simp only [Path.written, List.mem_cons, List.not_mem_nil, or_false] at hp
  obtain rfl | rfl := hp
  · exact plain_path
  · exact plain_temporary plain_path

theorem plain_outputPaths (plain : ".." ∉ Disk.namesOf project.workingDirectory)
    (plain_name : ".." ∉ Disk.namesOf project.bindingName) :
    ∀ p ∈ project.outputPaths, ".." ∉ Disk.namesOf p := by
  have plain_base := Path.plain_join plain plain_name
  rw [outputPaths, documentPath_eq, sourcePath_eq]
  rintro p hp
  obtain hp | hp := List.mem_append.1 hp
  · exact project.plain_written isEnding_json plain_base p hp
  · exact project.plain_written isEnding_cpp plain_base p hp

end WidgetBindings.Project
