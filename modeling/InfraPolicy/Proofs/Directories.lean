import InfraPolicy.Project.Checker
import InfraPolicy.Proofs.Grouping
import InfraPolicy.Proofs.Outcomes
import Mathlib.Algebra.GroupWithZero.Nat

/-!
# Checking directory by directory

The files of a check may come in any order, with those of several directories mixed. They are
grouped by directory (`Checker.byDirectory`), where a name is in a directory if it goes on from
there by one component (`PathName.parent_eq_iff`). Here the groups are told without the grouping:
one for each of the distinct directories, in the order in which these first appear, with the files
that are in it (`Checker.byDirectory_eq`). A check of all files is then one check for each of the
directories, up to the first of them that fails (`Checker.check_agree_parts`).
-/

namespace InfraPolicy

/-! ### Directories of names -/

namespace PathName

variable {path : String} {dir : List Component}

/-- A name is in a directory if it goes on from there by one component. The root and the empty name
go on from nowhere and count as in the directory without components. -/
def IsIn (path : String) (dir : List Component) : Prop :=
  (∃ last, last ≠ .root ∧ components path = dir ++ [last]) ∨
    (dir = [] ∧ (components path = [] ∨ components path = [.root]))

/-- No segment stands for the root, which is told from the slash in front. -/
theorem component?_ne_root (segment : String) : component? segment ≠ some .root := by
  rw [component?]
  split_ifs <;> simp

/-- A name ends with the root only if it is that of the root. -/
theorem getLast?_components_eq_root_iff :
    (components path).getLast? = some .root ↔ components path = [.root] := by
  refine ⟨fun h => ?_, fun h => by rw [h, List.getLast?_singleton]⟩
  rw [components] at h ⊢
  -- no component comes from a segment as the root
  have htail : ∀ c ∈ (segments path).filterMap component?, c ≠ .root := by
    intro c hc hroot
    obtain ⟨segment, -, hsegment⟩ := List.mem_filterMap.mp hc
    exact component?_ne_root segment (hroot ▸ hsegment)
  cases hparts : (segments path).filterMap component? with
  | nil =>
    rw [hparts, List.append_nil] at h
    rw [List.append_nil]
    split_ifs at h ⊢ <;> simp_all
  | cons c rest =>
    rw [hparts, List.getLast?_append_of_ne_nil _ (List.cons_ne_nil c rest)] at h
    exact absurd rfl (htail _ (hparts ▸ List.mem_of_getLast? h))

/-- The parent is what stands before the last component, since nothing stands before the root. -/
theorem parent_eq_dropLast (path : String) : parent path = (components path).dropLast := by
  simp only [parent, beq_iff_eq, getLast?_components_eq_root_iff]
  split_ifs with hroot
  · rw [hroot]
    rfl
  · rfl

/-- **The parent of a name is the directory that it is in.** -/
theorem parent_eq_iff : parent path = dir ↔ IsIn path dir := by
  rw [parent_eq_dropLast]
  constructor
  · rintro rfl
    rcases List.eq_nil_or_concat' (components path) with hnil | ⟨front, last, hparts⟩
    · exact .inr ⟨by rw [hnil]; rfl, .inl hnil⟩
    · by_cases hroot : last = .root
      · have hone : components path = [.root] := by
          rw [← getLast?_components_eq_root_iff, hparts, List.getLast?_concat, hroot]
        exact .inr ⟨by rw [hone]; rfl, .inr hone⟩
      · exact .inl ⟨last, hroot, by rw [hparts, List.dropLast_concat]⟩
  · rintro (⟨last, -, hparts⟩ | ⟨rfl, hnil | hone⟩)
    · rw [hparts, List.dropLast_concat]
    · rw [hnil]
      rfl
    · rw [hone]
      rfl

end PathName

namespace Checker

/-- The directories of files, each one where it first appears. -/
def directories (files : List String) : List (List PathName.Component) :=
  (files.map PathName.parent).eraseDups

/-- The files that are in a directory, in order. -/
def filesIn (dir : List PathName.Component) (files : List String) : List String :=
  files.filter fun file => PathName.parent file = dir

/-! ### Grouping -/

/-- A directory has the files that are in it. -/
theorem mem_filesIn {dir : List PathName.Component} {files : List String} {file : String} :
    file ∈ filesIn dir files ↔ file ∈ files ∧ PathName.IsIn file dir := by
  rw [filesIn, List.mem_filter, decide_eq_true_iff, PathName.parent_eq_iff]

theorem mem_directories {files : List String} {dir : List PathName.Component} :
    dir ∈ directories files ↔ ∃ file ∈ files, PathName.parent file = dir := by
  rw [directories, List.mem_eraseDups, List.mem_map]

theorem filesIn_eq_nil_iff {dir : List PathName.Component} {files : List String} :
    filesIn dir files = [] ↔ dir ∉ directories files := by
  simp [filesIn, mem_directories]

theorem nodup_directories (files : List String) : (directories files).Nodup :=
  nodup_eraseDups _

/-- Files are grouped by their directories. -/
theorem addToGroups_eq (groups : List (List PathName.Component × List String)) (file : String) :
    addToGroups groups file = addUnder (PathName.parent file) file groups := by
  induction groups with
  | nil => rfl
  | cons group rest ih => rw [addToGroups, addUnder, ih]

/-- **The groups are the directories** with their files. -/
theorem byDirectory_eq (files : List String) :
    byDirectory files = (directories files).map fun dir => (dir, filesIn dir files) := by
  have hgroups := foldl_addUnder PathName.parent id files
  simp only [List.map_id, id_eq, ← addToGroups_eq] at hgroups
  exact hgroups

/-- A file joins one group. -/
theorem addToGroups_perm (groups : List (List PathName.Component × List String)) (file : String) :
    ((addToGroups groups file).flatMap Prod.snd).Perm (groups.flatMap Prod.snd ++ [file]) := by
  induction groups with
  | nil => exact .refl _
  | cons group rest ih =>
    obtain ⟨dir, files⟩ := group
    rw [addToGroups]
    split_ifs
    · rw [List.flatMap_cons, List.flatMap_cons, List.append_assoc, List.append_assoc]
      exact List.Perm.append_left files List.perm_append_comm
    · rw [List.flatMap_cons, List.flatMap_cons, List.append_assoc]
      exact ih.append_left files

/-- **No file is lost or comes twice.** -/
theorem directories_flatMap_perm (files : List String) :
    ((directories files).flatMap fun dir => filesIn dir files).Perm files := by
  have hgroups : ((byDirectory files).flatMap Prod.snd).Perm files := by
    induction files using List.reverseRecOn with
    | nil => exact .refl _
    | append_singleton files file ih =>
      rw [byDirectory, List.foldl_append, ← byDirectory]
      exact (addToGroups_perm _ file).trans (ih.append_right [file])
  rw [byDirectory_eq, List.flatMap_map] at hgroups
  exact hgroups

/-! ### The check of one directory -/

section Part

variable {dir : List PathName.Component} {files : List String}

theorem filesIn_filesIn : filesIn dir (filesIn dir files) = filesIn dir files := by
  rw [filesIn, filesIn, List.filter_filter]
  simp

/-- The files of one directory have no other. -/
theorem directories_filesIn (hdir : dir ∈ directories files) :
    directories (filesIn dir files) = [dir] := by
  have hparent : ∀ file ∈ filesIn dir files, PathName.parent file = dir :=
    fun file hfile => of_decide_eq_true (List.mem_filter.mp hfile).2
  have hne : filesIn dir files ≠ [] := mt filesIn_eq_nil_iff.mp (not_not.mpr hdir)
  obtain ⟨file, rest, heq⟩ := List.exists_cons_of_ne_nil hne
  rw [heq] at hparent ⊢
  obtain ⟨hfile, hrest⟩ := List.forall_mem_cons.mp hparent
  rw [directories, List.map_cons, List.eraseDups_cons, hfile]
  -- no other directory is left
  have hnone : (rest.map PathName.parent).filter (fun other => !other == dir) = [] := by
    simpa using hrest
  rw [hnone]
  rfl

theorem byDirectory_filesIn (hdir : dir ∈ directories files) :
    byDirectory (filesIn dir files) = [(dir, filesIn dir files)] := by
  rw [byDirectory_eq, directories_filesIn hdir, List.map_singleton, filesIn_filesIn]

/-- The check of the files of one directory is the check of one module. -/
theorem check_filesIn_agree (c : Checker) (read : FileReader) (hdir : dir ∈ directories files) :
    Agree (fun found result => found.violations = result.violations ∧
        found.resourcesFound = result.resourcesFound)
      (c.checkModule read (filesIn dir files)) (c.check read (filesIn dir files)) := by
  rw [check, byDirectory_filesIn hdir, List.mapM_cons, List.mapM_nil]
  cases c.checkModule read (filesIn dir files) with
  | error e => rfl
  | ok found => exact ⟨(List.append_nil _).symm, rfl⟩

end Part

/-! ### The check of all directories -/

/-- **A check is one check after another**, of the directories. -/
theorem check_agree_parts (c : Checker) (read : FileReader) (files : List String) :
    Agree (fun result results =>
        result.violations = results.flatMap CheckResult.violations ∧
        result.resourcesFound = (results.map CheckResult.resourcesFound).sum ∧
        result.filesScanned = files.length)
      (c.check read files)
      ((directories files).mapM fun dir => c.check read (filesIn dir files)) := by
  rw [check, byDirectory_eq, List.mapM_map]
  refine (Agree.mapM fun dir hdir => check_filesIn_agree c read hdir).map_left
    fun found results h => ?_
  have hviolations : found.map Findings.violations = results.map CheckResult.violations :=
    map_eq_map_of_forall₂ h fun _ _ hpart => hpart.1
  have hresources : found.map Findings.resourcesFound = results.map CheckResult.resourcesFound :=
    map_eq_map_of_forall₂ h fun _ _ hpart => hpart.2
  refine ⟨?_, congrArg List.sum hresources, rfl⟩
  rw [List.flatMap_def, List.flatMap_def, hviolations]

end Checker

/-! ### What a check reads -/

section Readers

variable {read read' : FileReader} {files : List String}

/-- A module hangs on the content of its files and of the values file. -/
theorem Module.load_congr {valuesFile : Option String}
    (hfiles : ∀ file ∈ files, read' file = read file)
    (hvalues : ∀ path, valuesFile = some path → read' path = read path) :
    load read' files valuesFile = load read files valuesFile := by
  have hdocuments : files.mapM (Document.load read') = files.mapM (Document.load read) := by
    refine mapM_congr fun file hfile => ?_
    rw [Document.load, Document.load, FileReader.text, FileReader.text, hfiles file hfile]
  rw [load, load, hdocuments]
  cases valuesFile with
  | none => rfl
  | some path =>
    dsimp only
    rw [loadValues, loadValues, FileReader.text, FileReader.text, hvalues path rfl]

/-- A check reads the files it is given and the values file, and nothing else. -/
theorem Checker.check_congr {c : Checker} (hfiles : ∀ file ∈ files, read' file = read file)
    (hvalues : ∀ path, c.valuesFile = some path → read' path = read path) :
    c.check read' files = c.check read files := by
  have hmodules : (byDirectory files).mapM (fun group => c.checkModule read' group.2) =
      (byDirectory files).mapM fun group => c.checkModule read group.2 := by
    refine mapM_congr fun group hgroup => ?_
    rw [byDirectory_eq] at hgroup
    obtain ⟨dir, -, rfl⟩ := List.mem_map.mp hgroup
    have hpart : ∀ file ∈ filesIn dir files, read' file = read file :=
      fun file hfile => hfiles file (List.mem_of_mem_filter hfile)
    rw [checkModule, checkModule, Module.load_congr hpart hvalues]
  rw [check, check, hmodules]

end Readers

open Checker in
/-- **A check of many directories is the concatenation of checks of one directory each.** The
directories are distinct, each has the files that are in it, and their files are all the files, each
as often as it is given. A check succeeds exactly if it succeeds on the files of every directory;
its violations are then theirs one after another, its resources are as many as theirs together, and
the files are as many as are given. Otherwise its error is that of the first directory that fails.
What is found in a directory does not hang on the content of any other files than its own and the
values file. -/
theorem check_concatenates_directories (c : Checker) (read : FileReader) (files : List String) :
    (directories files).Nodup ∧
    (∀ dir file, file ∈ filesIn dir files ↔ file ∈ files ∧ PathName.IsIn file dir) ∧
    ((directories files).flatMap fun dir => filesIn dir files).Perm files ∧
    ((∃ result, c.check read files = .ok result) ↔
      ∀ dir ∈ directories files, ∃ result, c.check read (filesIn dir files) = .ok result) ∧
    (∀ result, c.check read files = .ok result →
      ∃ results,
        List.Forall₂ (fun dir part => c.check read (filesIn dir files) = .ok part)
          (directories files) results ∧
        result.violations = results.flatMap CheckResult.violations ∧
        result.resourcesFound = (results.map CheckResult.resourcesFound).sum ∧
        result.filesScanned = files.length) ∧
    (∀ e, c.check read files = .error e ↔
      ∃ before dir after, directories files = before ++ dir :: after ∧
        (∀ other ∈ before, ∃ result, c.check read (filesIn other files) = .ok result) ∧
        c.check read (filesIn dir files) = .error e) ∧
    ∀ (dir : List PathName.Component) (read' : FileReader),
      (∀ file ∈ filesIn dir files, read' file = read file) →
      (∀ path, c.valuesFile = some path → read' path = read path) →
        c.check read' (filesIn dir files) = c.check read (filesIn dir files) := by
  have hparts := check_agree_parts c read files
  refine ⟨nodup_directories files, fun dir file => mem_filesIn, directories_flatMap_perm files,
    hparts.exists_ok_iff.trans exists_mapM_eq_ok_iff, fun result h => ?_,
    fun e => hparts.eq_error_iff.trans mapM_eq_error_iff,
    fun dir read' hfiles hvalues => check_congr hfiles hvalues⟩
  obtain ⟨results, hresults, hviolations, hresources, hfiles⟩ := hparts.exists_of_ok h
  exact ⟨results, mapM_eq_ok_iff.mp hresults, hviolations, hresources, hfiles⟩

open Checker in
/-- A directory inside another one, which cannot be read and has no part in what is found in the
inner one. -/
theorem check_concatenates_directories_example :
    let c : Checker := ⟨[], {}, none⟩
    let files := ["a/b/main.tf", "a/main.tf", "a/b//vars.tf"]
    let read : FileReader := fun file => if file = "a/main.tf" then .error .notFound else .ok ""
    let read' : FileReader := fun _ => .ok ""
    let inner : List PathName.Component := [.name "a", .name "b"]
    directories files = [inner, [.name "a"]] ∧
      filesIn inner files = ["a/b/main.tf", "a/b//vars.tf"] ∧
      PathName.IsIn "a/b//vars.tf" inner ∧ ¬PathName.IsIn "a/main.tf" inner ∧
      c.check read files = .error (.unreadable .notFound) ∧
      c.check read' (filesIn inner files) = c.check read (filesIn inner files) := by
  intro c files read read' inner
  have hdirs : directories files = [inner, [.name "a"]] := by decide +kernel
  have hfirst : filesIn inner files = ["a/b/main.tf", "a/b//vars.tf"] := by decide +kernel
  have hsecond : filesIn [.name "a"] files = ["a/main.tf"] := by decide +kernel
  obtain ⟨-, hfiles, -, -, -, herror, hreaders⟩ := check_concatenates_directories c read files
  refine ⟨hdirs, hfirst, ((hfiles inner _).mp ?_).2, fun houter => ?_, (herror _).mpr ?_,
    hreaders inner read' ?_ ?_⟩
  · rw [hfirst]
    decide
  · have hmem := (hfiles inner _).mpr ⟨by decide, houter⟩
    rw [hfirst] at hmem
    revert hmem
    decide
  · refine ⟨[inner], [.name "a"], [], hdirs, ?_, ?_⟩
    · intro dir hdir
      rw [List.mem_singleton.mp hdir, hfirst]
      exact ⟨_, eq_ok_getD_of_isSome (by decide +kernel)⟩
    · rw [hsecond]
      rfl
  · rw [hfirst]
    decide +kernel
  · intro path hpath
    cases hpath

end InfraPolicy
