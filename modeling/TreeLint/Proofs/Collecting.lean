import Mathlib.Data.List.Nodup
import Mathlib.Data.String.Basic
import TreeLint.Cli.Run
import TreeLint.Proofs.Merging
import TreeLint.Proofs.PathNames

/-! The files that a folder is searched for: leaving out folders on the way down amounts to a
condition on the way of each single file. -/

namespace TreeLint

namespace FileTree

/-- What a disk can hold: the entries of a folder have names, and different ones. -/
inductive Sound : FileTree → Prop
  | file (content : ByteArray) : Sound (.file content)
  | folder {entries : List (String × FileTree)} (names : ∀ e ∈ entries, Path.IsName e.1)
      (distinct : (entries.map Prod.fst).Nodup) (below : ∀ e ∈ entries, Sound e.2) :
      Sound (.folder entries)

variable {entries : List (String × FileTree)} {t entry : FileTree} {name : String}
  {above way rest : Location} {content : ByteArray}

theorem lookup_eq_some_iff_mem (distinct : (entries.map Prod.fst).Nodup) :
    entries.lookup name = some entry ↔ (name, entry) ∈ entries := by
  induction entries with
  | nil => simp
  | cons e others ih =>
      obtain ⟨key, first⟩ := e
      simp only [List.map_cons, List.nodup_cons, List.mem_map, not_exists, not_and] at distinct
      by_cases same : name = key
      · subst same
        have absent : (name, entry) ∉ others := fun listed => distinct.1 _ listed rfl
        simp [absent, eq_comm]
      · simp [List.lookup_cons, beq_false_of_ne same, same, ih distinct.2]

theorem find_folder_eq_ok_iff (distinct : (entries.map Prod.fst).Nodup) :
    (folder entries).find (name :: rest) = .ok t ↔
      ∃ entry, (name, entry) ∈ entries ∧ entry.find rest = .ok t := by
  simp only [find, ← lookup_eq_some_iff_mem distinct]
  cases entries.lookup name <;> simp

theorem names_of_find (sound : t.Sound) (found : t.find way = .ok entry) :
    ∀ name ∈ way, Path.IsName name := by
  induction sound generalizing way with
  | file content =>
      cases way with
      | nil => simp
      | cons => cases found
  | folder names distinct _ ih =>
      cases way with
      | nil => simp
      | cons name rest =>
          obtain ⟨below, listed, found⟩ := (find_folder_eq_ok_iff distinct).1 found
          exact List.forall_mem_cons.2 ⟨names _ listed, ih _ listed found⟩

def isFolder : FileTree → Bool
  | file _ => false
  | folder _ => true

def isLeftOut (e : String × FileTree) : Bool := e.2.isFolder && isSkipped e.1

theorem filesOf_eq (above : Location) (entries : List (String × FileTree)) :
    filesOf above entries =
      (entries.filter (!isLeftOut ·)).flatMap fun e => e.2.filesBelow (above ++ [e.1]) := by
  induction entries with
  | nil => rw [filesOf.eq_def]; rfl
  | cons e others ih =>
      obtain ⟨name, entry⟩ := e
      rw [filesOf.eq_def]
      cases entry with
      | file content => simp [isLeftOut, isFolder, filesBelow, ih]
      | folder inner =>
          by_cases skipped : isSkipped name <;> simp [isLeftOut, isFolder, filesBelow, skipped, ih]

/-- The last name on the way to a file is its own, the others are those of folders. -/
theorem passes_cons_iff (found : entry.find rest = .ok (.file content)) :
    (∀ folder ∈ (name :: rest).dropLast, isSkipped folder = false) ↔
      isLeftOut (name, entry) = false ∧ ∀ folder ∈ rest.dropLast, isSkipped folder = false := by
  cases entry with
  | file own =>
      cases rest with
      | nil => simp [isLeftOut, isFolder]
      | cons => cases found
  | folder inner =>
      cases rest with
      | nil => cases found
      | cons => simp [isLeftOut, isFolder]

/-- The search finds the files that are not below a folder it passes over. -/
theorem mem_filesBelow_iff (sound : t.Sound) :
    way ∈ t.filesBelow above ↔
      ∃ rest content, way = above ++ rest ∧ t.find rest = .ok (.file content) ∧
        ∀ folder ∈ rest.dropLast, isSkipped folder = false := by
  induction sound generalizing above way with
  | file own =>
      rw [filesBelow, List.mem_singleton]
      constructor
      · rintro rfl
        exact ⟨[], own, by simp, rfl, by simp⟩
      · rintro ⟨rest, content, rfl, found, -⟩
        cases rest with
        | nil => simp
        | cons => cases found
  | @folder entries names distinct below ih =>
      rw [filesBelow, filesOf_eq, List.mem_flatMap]
      constructor
      · rintro ⟨⟨name, entry⟩, kept, inside⟩
        obtain ⟨listed, stays⟩ := List.mem_filter.1 kept
        obtain ⟨rest, content, rfl, found, passes⟩ := (ih _ listed).1 inside
        refine ⟨name :: rest, content, by simp, ?_, ?_⟩
        · exact (find_folder_eq_ok_iff distinct).2 ⟨entry, listed, found⟩
        · apply (passes_cons_iff found).2
          exact ⟨by simpa using stays, passes⟩
      · rintro ⟨way, content, rfl, found, passes⟩
        cases way with
        | nil => cases found
        | cons name rest =>
            obtain ⟨entry, listed, found⟩ := (find_folder_eq_ok_iff distinct).1 found
            obtain ⟨stays, passes⟩ := (passes_cons_iff found).1 passes
            refine ⟨(name, entry), List.mem_filter.2 ⟨listed, by simp [stays]⟩, ?_⟩
            exact (ih _ listed).2 ⟨rest, content, by simp, found, passes⟩

theorem nodup_filesBelow (sound : t.Sound) (above : Location) : (t.filesBelow above).Nodup := by
  induction sound generalizing above with
  | file content => simp [filesBelow]
  | @folder entries names distinct below ih =>
      rw [filesBelow, filesOf_eq]
      have apart : (entries.filter (!isLeftOut ·)).Pairwise fun e e' => e.1 ≠ e'.1 :=
        (List.pairwise_map.1 distinct).filter _
      apply List.nodup_flatMap.2
      refine ⟨fun e kept => ih e (List.mem_of_mem_filter kept) _, ?_⟩
      refine apart.imp_of_mem ?_
      intro e e' kept kept' differ way found found'
      -- The names of both entries would stand at the same place in the way.
      obtain ⟨rest, _, rfl, _⟩ :=
        (mem_filesBelow_iff (below e (List.mem_of_mem_filter kept))).1 found
      obtain ⟨rest', _, same, _⟩ :=
        (mem_filesBelow_iff (below e' (List.mem_of_mem_filter kept'))).1 found'
      apply differ
      simpa using (by simpa using same : e.1 = e'.1 ∧ rest = rest').1

end FileTree

theorem compareLocations_eq (a b : Location) : compareLocations a b = compare a b := by
  induction a generalizing b with
  | nil => cases b <;> rfl
  | cons first rest ih =>
      cases b with
      | nil => rfl
      | cons other others => simp [compareLocations, ih, List.compare_eq_compareLex]

instance : Std.TransCmp compareLocations := by
  rw [funext fun a => funext (compareLocations_eq a)]
  infer_instance

instance : Std.LawfulEqCmp compareLocations := by
  rw [funext fun a => funext (compareLocations_eq a)]
  infer_instance

theorem compareLocations_eq_lt_iff {a b : Location} : compareLocations a b = .lt ↔ a < b := by
  induction a generalizing b with
  | nil => cases b <;> simp [compareLocations]
  | cons first rest ih =>
      cases b with
      | nil => simp [compareLocations]
      | cons other others =>
          simp [compareLocations, ih, Ordering.then_eq_lt, List.cons_lt_cons_iff, compare_lt_iff_lt]

theorem mergeSort_ascending {ways : List Location} (distinct : ways.Nodup) :
    (ways.mergeSort fun a b => (compareLocations a b).isLE).Pairwise (· < ·) := by
  have sorted : (ways.mergeSort fun a b => (compareLocations a b).isLE).Nodup :=
    (List.mergeSort_perm ways _).nodup_iff.2 distinct
  apply (pairwise_mergeSort_isLE ways).imp₂ _ sorted
  intro a b upTo differ
  apply compareLocations_eq_lt_iff.1
  cases compared : compareLocations a b with
  | lt => rfl
  | eq => exact absurd (Std.LawfulEqCmp.eq_of_compare compared) differ
  | gt => simp [compared] at upTo

/-- The way leads to a Java file that the settings do not leave out. -/
structure FileFilter.Selects (f : FileFilter) (t : FileTree) (way : Location) : Prop where
  isFile : ∃ content, t.find way = .ok (.file content)
  isSource : ∃ stem, stem ≠ "" ∧ way.getLast? = some (stem ++ ".java")
  inSight : ∀ folder ∈ way.dropLast, folder.startsWith "." = false ∧ folder ∉ skippedFolders
  included : f.excludes (String.intercalate "/" way) = false
  notTest : f.includesTests = false → Path.isTest (String.intercalate "/" way) = false

theorem isSource_intercalate_iff {way : Location} (names : ∀ name ∈ way, Path.IsName name)
    (filled : way ≠ []) :
    FileFilter.isSource (String.intercalate "/" way) = true ↔
      ∃ stem, stem ≠ "" ∧ way.getLast? = some (stem ++ ".java") := by
  have last : way.getLast? = some (way.getLast filled) := List.getLast?_eq_some_getLast filled
  have spelled (stem : String) : stem ++ "." ++ "java" = stem ++ ".java" := by
    rw [String.append_assoc]
    rfl
  rw [FileFilter.isSource, Path.extension?, Path.fileName?_intercalate names last, beq_iff_eq,
    Option.bind_some, Path.splitName_snd_eq_some_iff, last]
  simp [spelled]

theorem isSkipped_eq_false_iff {folder : String} :
    isSkipped folder = false ↔ folder.startsWith "." = false ∧ folder ∉ skippedFolders := by
  simp [isSkipped]

namespace FileFilter

variable {f : FileFilter} {t : FileTree} {way : Location}

theorem accepts_iff {path : String} :
    f.accepts path = true ↔ isSource path = true ∧
      f.excludes path = false ∧
      (f.includesTests = false → Path.isTest path = false) := by
  cases included : f.includesTests <;> simp [accepts, included, and_assoc]

theorem mem_collect_iff (sound : t.Sound) (isFolder : t.isFolder = true) :
    way ∈ f.collect t ↔ f.Selects t way := by
  have filled {content : ByteArray} (found : t.find way = .ok (.file content)) : way ≠ [] := by
    rintro rfl
    cases found
    cases isFolder
  rw [collect, List.mem_mergeSort, List.mem_filter, FileTree.mem_filesBelow_iff sound, accepts_iff]
  simp only [List.nil_append, isSkipped_eq_false_iff]
  constructor
  · rintro ⟨⟨_, content, rfl, found, inSight⟩, isSource, included, notTest⟩
    have names := FileTree.names_of_find sound found
    have isSource := (isSource_intercalate_iff names (filled found)).1 isSource
    exact ⟨⟨content, found⟩, isSource, inSight, included, notTest⟩
  · rintro ⟨⟨content, found⟩, isSource, inSight, included, notTest⟩
    have names := FileTree.names_of_find sound found
    have isSource := (isSource_intercalate_iff names (filled found)).2 isSource
    exact ⟨⟨way, content, rfl, found, inSight⟩, isSource, included, notTest⟩

theorem ascending_collect (sound : t.Sound) : (f.collect t).Pairwise (· < ·) :=
  mergeSort_ascending ((FileTree.nodup_filesBelow sound []).filter _)

end FileFilter

/-- Wherever a folder stands and whatever it is called, the files to analyze below it are those that
the filter selects, in the order of their ways and once each. -/
theorem sources_are_collected {entries : List (String × FileTree)}
    (sound : (FileTree.folder entries).Sound) (f : FileFilter) :
    ∃ files : List Location, files.Pairwise (· < ·) ∧
      (∀ way, way ∈ files ↔ f.Selects (.folder entries) way) ∧
      ∀ (d : Disk) (l : Location), d.root.find l = .ok (.folder entries) →
        Cli.selectBy f d l = ⟨l, files⟩ ∧
          ∀ c : Config, FileFilter.ofConfig c = .ok f → Cli.select d c l = .ok ⟨l, files⟩ := by
  refine ⟨f.collect (.folder entries), FileFilter.ascending_collect sound,
    fun way => FileFilter.mem_collect_iff sound rfl, ?_⟩
  intro d l found
  have isFolder : d.isFolderAt l = true := by rw [Disk.isFolderAt, found]
  have selected : Cli.selectBy f d l = ⟨l, f.collect (.folder entries)⟩ := by
    rw [Cli.selectBy, if_pos isFolder, found]
    rfl
  refine ⟨selected, fun c configured => ?_⟩
  rw [Cli.select, configured, ← selected]
  rfl

def textsNamed (names : List String) : FileTree :=
  .folder (names.map fun name => (name, .file "text".toUTF8))

/-- A project with sources and tests, generated code, what a build left behind, and a hidden
file. -/
def smallProject : List (String × FileTree) := [
  ("src", .folder [("test", textsNamed ["ATest.java"]), ("main", textsNamed ["A.java", "A.txt"])]),
  ("generated", textsNamed ["G.java"]),
  ("target", textsNamed ["T.java"]),
  (".idea", textsNamed ["H.java"]),
  (".B.java", .file "text".toUTF8)]

theorem sound_folder {entries : List (String × FileTree)}
    (names : ∀ name ∈ entries.map Prod.fst, Path.IsName name)
    (distinct : (entries.map Prod.fst).Nodup) (below : ∀ t ∈ entries.map Prod.snd, t.Sound) :
    (FileTree.folder entries).Sound :=
  .folder (fun e listed => names e.1 (List.mem_map_of_mem listed)) distinct
    fun e listed => below e.2 (List.mem_map_of_mem listed)

theorem sound_textsNamed {names : List String} (areNames : ∀ name ∈ names, Path.IsName name)
    (distinct : names.Nodup) : (textsNamed names).Sound := by
  apply sound_folder
  · simpa [Function.comp_def] using areNames
  · simpa [Function.comp_def] using distinct
  · intro t listed
    obtain ⟨_, rfl⟩ : (∃ name, name ∈ names) ∧ .file "text".toUTF8 = t := by simpa using listed
    exact .file _

theorem sound_smallProject : (FileTree.folder smallProject).Sound := by
  refine sound_folder (by decide +kernel) (by decide) ?_
  simp only [smallProject, List.map_cons, List.forall_mem_cons, List.map_nil, List.not_mem_nil,
    false_implies, implies_true, and_true]
  refine ⟨?_, ?_, ?_, ?_, .file _⟩
  · refine sound_folder (by decide +kernel) (by decide) ?_
    simp only [List.map_cons, List.forall_mem_cons, List.map_nil, List.not_mem_nil, false_implies,
      implies_true, and_true]
    constructor <;> exact sound_textsNamed (by decide +kernel) (by decide)
  all_goals exact sound_textsNamed (by decide +kernel) (by decide)

def withoutGenerated : Config := ⟨"", ["generated/**"], some false, []⟩

theorem smallProject_is_collected :
    (FileTree.folder smallProject).Sound ∧
    (∃ f, FileFilter.ofConfig withoutGenerated = .ok f) ∧
    ∃ files,
      Cli.select ⟨.folder [("target", .folder smallProject)], []⟩ withoutGenerated ["target"] =
        .ok ⟨["target"], files⟩ ∧
      files.Pairwise (· < ·) ∧
      (∀ way ∈ [[".B.java"], ["src", "main", "A.java"]], way ∈ files) ∧
      ∀ way ∈ [["src", "main", "A.txt"], ["src", "test", "ATest.java"], ["generated", "G.java"],
        ["target", "T.java"], [".idea", "H.java"]], way ∉ files := by
  let generated : Glob := ⟨"generated/**", "generated".toList.map .literal ++ [.trailing]⟩
  have configured : FileFilter.ofConfig withoutGenerated =
      .ok ⟨fun path => [generated].any (·.fits path), false⟩ := by rfl
  obtain ⟨files, ascending, selected, found⟩ := sources_are_collected sound_smallProject _
  refine ⟨sound_smallProject, ⟨_, configured⟩, files, (found _ _ rfl).2 _ configured, ascending,
    ?_, ?_⟩
  · simp only [List.forall_mem_cons, List.not_mem_nil, false_implies, implies_true, and_true,
      selected]
    constructor
    · refine ⟨⟨"text".toUTF8, rfl⟩, ⟨".B", ?_⟩, ?_, ?_, ?_⟩ <;> decide +kernel
    · refine ⟨⟨"text".toUTF8, rfl⟩, ⟨"A", ?_⟩, ?_, ?_, ?_⟩ <;> decide +kernel
  · simp only [List.forall_mem_cons, List.not_mem_nil, false_implies, implies_true, and_true,
      selected]
    refine ⟨?_, ?_, ?_, ?_, ?_⟩
    · rintro ⟨_, ⟨stem, _, last⟩, _⟩
      have ends : "A.txt".toList = stem.toList ++ ".java".toList := by
        rw [← String.toList_append]
        exact congrArg String.toList (Option.some.inj last)
      have lastChar := congrArg List.getLast? ends
      simp at lastChar
    · intro selects
      exact absurd (selects.notTest rfl) (by decide +kernel)
    · intro selects
      exact absurd selects.included (by decide +kernel)
    · intro selects
      exact absurd (selects.inSight "target" (by decide)) (by decide +kernel)
    · intro selects
      exact absurd (selects.inSight ".idea" (by decide)) (by decide +kernel)

end TreeLint
