import TemplateVariants.Proofs.Storage.Writes

/-!
# A directory of files

Trees that hold one directory of files, beside one for temporary files (`FileTree.ofFiles`). What is in
such a tree, what is read from it and what it is after a write is told by the list of its files, so
nothing has to be found out by running through the tree.
-/

namespace TemplateVariants
namespace FileTree

/-- A directory of files with the given names and bytes, and a directory for temporary files. -/
def ofFiles (directory : String) : List (String × ByteArray) → FileTree
  | [] => (({} : FileTree).put ["tmp"] .directory).put [directory] .directory
  | file :: files => (ofFiles directory files).put [directory, file.1] (.file file.2)

variable {directory name text : String} {files : List (String × ByteArray)}

theorem home_ofFiles (directory : String) (files : List (String × ByteArray)) :
    (ofFiles directory files).home = [] := by
  induction files with
  | nil =>
      rfl
  | cons file files ih =>
      exact ih

/-- What a name in the directory stands for is found in the list. -/
theorem node?_ofFiles (directory : String) (files : List (String × ByteArray)) (name : String) :
    (ofFiles directory files).node? [directory, name] = (files.lookup name).map .file := by
  induction files with
  | nil =>
      simp [ofFiles, node?_put, node?_empty]
  | cons file files ih =>
      rcases file with ⟨first, bytes⟩
      rw [ofFiles, node?_put _ _ _ _ (by simp), ih, List.lookup_cons]
      by_cases hname : name = first
      · simp [hname]
      · have hother : (name == first) = false := beq_false_of_ne hname
        simp [hname, hother]

/-- Outside the directory there is only the other directory. -/
theorem node?_ofFiles_outside (files : List (String × ByteArray)) {place : List String}
    (hplace : ∀ name, place ≠ [directory, name]) :
    (ofFiles directory files).node? place =
      if place = [] ∨ place = ["tmp"] ∨ place = [directory] then some .directory else none := by
  induction files with
  | nil =>
      simp only [ofFiles, ne_eq, not_false_eq_true, node?_put, node?_empty, List.cons_ne_self]
      by_cases hdirectory : place = [directory]
      · simp [hdirectory]
      · by_cases htmp : place = ["tmp"]
        · simp [htmp]
        · simp [hdirectory, htmp]
  | cons file files ih =>
      rw [ofFiles, node?_put _ _ _ _ (by simp), if_neg (hplace _), ih]

theorem node?_ofFiles_directory (directory : String) (files : List (String × ByteArray)) :
    (ofFiles directory files).node? [directory] = some .directory := by
  rw [node?_ofFiles_outside files (by simp), if_pos (by simp)]

/-- The directory for temporary files is right under the root. -/
theorem paved_ofFiles (directory : String) (files : List (String × ByteArray)) :
    (ofFiles directory files).Paved ["tmp"] := by
  refine ⟨by decide, fun above habove => ?_⟩
  rw [List.prefix_cons_iff] at habove
  rcases habove with rfl | ⟨rest, rfl, hrest⟩
  · exact node?_nil _
  · rw [List.prefix_nil.1 hrest, node?_ofFiles_outside files (by simp), if_pos (by simp)]

section

variable (hdirectory : Path.IsName directory)

include hdirectory

theorem wellFormed_ofFiles (hother : directory ≠ "tmp") (hnames : ∀ file ∈ files, Path.IsName file.1)
    (hdistinct : (files.map Prod.fst).Nodup) : (ofFiles directory files).WellFormed := by
  induction files with
  | nil =>
      have htmp : (({} : FileTree).put ([] ++ ["tmp"]) .directory).WellFormed :=
        wellFormed_empty.put (by decide) (node?_nil _) (node?_empty _) .directory
      have hfree : (({} : FileTree).put ["tmp"] .directory).node? ([] ++ [directory]) = none := by
        simp [node?_put, node?_empty, hother]
      exact htmp.put hdirectory (node?_nil _) hfree .directory
  | cons file files ih =>
      rw [List.forall_mem_cons] at hnames
      rw [List.map_cons, List.nodup_cons] at hdistinct
      have hnone : files.lookup file.1 = none := by
        refine List.lookup_eq_none_iff.2 fun other hmem => bne_iff_ne.2 fun heq => ?_
        exact hdistinct.1 (heq ▸ List.mem_map_of_mem hmem)
      have hfree : (ofFiles directory files).node? ([directory] ++ [file.1]) = none := by
        change (ofFiles directory files).node? [directory, file.1] = none
        rw [node?_ofFiles, hnone]
        rfl
      exact (ih hnames.2 hdistinct.2).put hnames.1 (node?_ofFiles_directory directory files) hfree
        (.file file.2)

theorem locate_ofFiles_directory (files : List (String × ByteArray)) (hfits : Fits directory) :
    (ofFiles directory files).locate directory = .ok [directory] :=
  locate_of_isName (home_ofFiles directory files) hdirectory hfits

theorem isDirectory_ofFiles (files : List (String × ByteArray)) (hfits : Fits directory) :
    (ofFiles directory files).isDirectory directory = true :=
  isDirectory_iff.2
    ⟨_, locate_ofFiles_directory hdirectory files hfits, node?_ofFiles_directory directory files⟩

section Files

variable (hname : Path.IsName name)

include hname

theorem readText_ofFiles (hsize : directory.utf8ByteSize ≤ maxNameSize) :
    (ofFiles directory files).readText (Path.join directory name) = .ok text ↔
      Fits (Path.join directory name) ∧
        ∃ bytes, files.lookup name = some bytes ∧ Text.decode? bytes = some text := by
  have hbase := base_of_isName (home_ofFiles directory files) hdirectory hsize
  have hnode :
      ∀ bytes, (ofFiles directory files).node? ([directory] ++ [name]) = some (.file bytes) ↔
        files.lookup name = some bytes := by
    intro bytes
    change (ofFiles directory files).node? [directory, name] = _ ↔ _
    rw [node?_ofFiles]
    cases files.lookup name <;> simp
  rw [readText_join_eq_ok hname hbase (node?_ofFiles_directory directory files)]
  simp only [hnode]

end Files

end

end FileTree
end TemplateVariants
