import TemplateVariants.Proofs.Storage.Trees

/-!
# Writing into trees

A write makes directories and puts one file, and it takes no directory away. So files that are written
into one directory under different names do not disturb each other. `FileTree.Gains` says what a tree
has more after such writes; all other places keep what they have (`FileTree.gains_of_writeAll`).
-/

namespace TemplateVariants
namespace FileTree

variable {tree made tree' : FileTree} {place next : List String} {path : String}

/-! ## Making directories -/

theorem makeWay_widens (tree : FileTree) (place : List String) (made : Bool)
    (steps : List Path.Component) : tree.Widens (tree.makeWay place made steps).2 := by
  induction steps generalizing tree place made with
  | nil =>
      exact .refl tree
  | cons step rest ih =>
      unfold makeWay
      cases tree.follow place step with
      | error fault =>
          exact .refl tree
      | ok next =>
          dsimp only
          cases hnode : tree.node? next with
          | none =>
              exact (Widens.put hnode).trans (ih _ _ _)
          | some node =>
              cases node with
              | directory =>
                  exact ih _ _ _
              | file bytes =>
                  exact .refl tree

theorem makeDirectories_widens (tree : FileTree) (path : String) :
    tree.Widens (tree.makeDirectories path).2 := by
  unfold makeDirectories
  split
  · exact .refl tree
  · exact makeWay_widens _ _ _ _

/-! ## Writing one file -/

theorem target_eq_ok (hpath : path.toList.getLast? ≠ some '/') :
    tree.target path = .ok place ↔
      tree.locate path = .ok place ∧ tree.node? place ≠ some .directory := by
  have hsteps : stepsOf path = Path.steps path := if_neg hpath
  have hdirectory : tree.isDirectoryAt place = true ↔ tree.node? place = some .directory := by
    unfold isDirectoryAt
    cases tree.node? place with
    | none =>
        simp
    | some node =>
        cases node with
        | file bytes =>
            simp
        | directory =>
            simp
  rw [locate_eq_ok, hsteps, ne_eq, ← hdirectory]
  unfold target
  cases screen path with
  | error fault =>
      simp [bind, Except.bind]
  | ok u =>
      simp only [bind, Except.bind, if_neg hpath, true_and]
      cases tree.walk (Path.steps path) with
      | error fault =>
          simp
      | ok found =>
          by_cases hfound : tree.isDirectoryAt found = true
          · simp only [hfound, if_true, Except.ok.injEq]
            constructor
            · intro h
              cases h
            · rintro ⟨rfl, hnot⟩
              exact absurd hfound hnot
          · simp only [hfound, pure, Except.pure, Except.ok.injEq]
            constructor
            · rintro h
              cases h
              exact ⟨rfl, hfound⟩
            · rintro ⟨rfl, -⟩
              rfl

/-- A write makes directories first, if there is a path above. Then it puts the file, or there is a
fault. -/
theorem writeText_eq (tree : FileTree) (path text : String) :
    ∃ made, tree.Widens made ∧
      (made = tree ∨ made = (tree.makeDirectories ((Path.parent? path).getD "")).2) ∧
      ((∃ place, made.target path = .ok place ∧
        tree.writeText path text = (.ok (), made.put place (.file text.toUTF8))) ∨
      ∃ fault, tree.writeText path text = (.error fault, made)) := by
  unfold writeText
  dsimp only
  rcases hprepared :
    (if ((Path.parent? path).getD "").isEmpty then (.ok (), tree)
      else tree.makeDirectories ((Path.parent? path).getD "")) with ⟨outcome, made⟩
  have hmade : made = tree ∨ made = (tree.makeDirectories ((Path.parent? path).getD "")).2 := by
    split at hprepared
    · cases hprepared
      exact .inl rfl
    · rw [hprepared]
      exact .inr rfl
  have hwidens : tree.Widens made := by
    rcases hmade with rfl | rfl
    · exact .refl made
    · exact tree.makeDirectories_widens _
  refine ⟨made, hwidens, hmade, ?_⟩
  rw [hprepared]
  cases outcome with
  | error fault =>
      exact .inr ⟨fault, rfl⟩
  | ok u =>
      unfold putFile
      cases made.target path with
      | error fault =>
          exact .inr ⟨fault, rfl⟩
      | ok place =>
          exact .inl ⟨place, rfl, rfl⟩

/-! ## Writing into a directory -/

/-- The tree has got these files, with their names and texts, in the directory at a place. All other
places keep what they had, but where nothing was there may be a directory now. -/
structure Gains (tree : FileTree) (dir : List String) (files : List (String × String))
    (tree' : FileTree) : Prop where
  home : tree'.home = tree.home
  free : ∀ file ∈ files, tree.node? (dir ++ [file.1]) ≠ some .directory
  held : ∀ file ∈ files, tree'.node? (dir ++ [file.1]) = some (.file file.2.toUTF8)
  kept : ∀ place, (∀ file ∈ files, place ≠ dir ++ [file.1]) →
    tree'.node? place = tree.node? place ∨
      (tree.node? place = none ∧ tree'.node? place = some .directory)

namespace Gains

variable {dir : List String} {files more : List (String × String)}

theorem keeps (h : tree.Gains dir files tree') : tree.KeepsDirectories tree' where
  home := h.home
  directory := by
    intro place hplace
    have hother : ∀ file ∈ files, place ≠ dir ++ [file.1] := by
      rintro file hfile rfl
      exact h.free file hfile hplace
    rcases h.kept place hother with hsame | ⟨hnone, -⟩
    · rw [hsame, hplace]
    · rw [hnone] at hplace
      cases hplace

/-- Files with other names come later. -/
theorem append (h : tree.Gains dir files made) (hmore : made.Gains dir more tree')
    (hdistinct : ∀ file ∈ files, ∀ later ∈ more, file.1 ≠ later.1) :
    tree.Gains dir (files ++ more) tree' where
  home := hmore.home.trans h.home
  free := by
    intro file hfile
    rcases List.mem_append.1 hfile with hfile | hfile
    · exact h.free file hfile
    · intro hdirectory
      exact hmore.free file hfile (h.keeps.directory _ hdirectory)
  held := by
    intro file hfile
    rcases List.mem_append.1 hfile with hfile | hfile
    · have hother : ∀ later ∈ more, dir ++ [file.1] ≠ dir ++ [later.1] := by
        intro later hlater heq
        exact hdistinct file hfile later hlater (by simpa using heq)
      rcases hmore.kept _ hother with hsame | ⟨hnone, -⟩
      · rw [hsame]
        exact h.held file hfile
      · rw [h.held file hfile] at hnone
        cases hnone
    · exact hmore.held file hfile
  kept := by
    intro place hplace
    have hfirst := h.kept place fun file hfile => hplace file (List.mem_append_left _ hfile)
    have hsecond := hmore.kept place fun file hfile => hplace file (List.mem_append_right _ hfile)
    rcases hsecond with hsame | ⟨hnone, hnew⟩
    · rw [hsame]
      exact hfirst
    · rcases hfirst with hsame | ⟨-, hdirectory⟩
      · exact .inr ⟨hsame.symm.trans hnone, hnew⟩
      · rw [hnone] at hdirectory
        cases hdirectory

end Gains

/-- Writes files into a directory one after the other, up to the first fault. -/
def writeAll (tree : FileTree) (directory : String) :
    List (String × String) → Except StorageFault Unit × FileTree
  | [] => (.ok (), tree)
  | file :: files =>
    match tree.writeText (Path.join directory file.1) file.2 with
    | (.error fault, tree) => (.error fault, tree)
    | (.ok _, tree) => tree.writeAll directory files

/-- A directory that is there is not made. -/
theorem makeWay_cons {step : Path.Component} (hfollow : tree.follow place step = .ok next)
    (hnext : tree.node? next = some .directory) (made : Bool) (rest : List Path.Component) :
    tree.makeWay place made (step :: rest) = tree.makeWay next made rest := by
  rw [makeWay, hfollow]
  dsimp only
  rw [hnext]

/-- No directory is made on the way to one that is there. -/
theorem Paved.makeWay_snd {names : List String} (hpaved : tree.Paved (place ++ names))
    (made : Bool) : (tree.makeWay place made (names.map .name)).2 = tree := by
  induction names generalizing place with
  | nil =>
      rfl
  | cons name names ih =>
      have hrest : tree.Paved ((place ++ [name]) ++ names) := by
        rw [List.append_assoc]
        exact hpaved
      rw [List.map_cons]
      cases hfollow : tree.follow place (.name name) with
      | error fault =>
          rw [makeWay, hfollow]
      | ok next =>
          rcases follow_name_eq_ok.1 hfollow with ⟨-, -, rfl⟩
          rw [makeWay_cons hfollow (hrest.directory _ ⟨_, rfl⟩)]
          exact ih hrest

/-- The way to a directory that is there is made if no name on it is too long. -/
theorem Paved.makeWay_eq {names : List String} (hpaved : tree.Paved (place ++ names))
    (hsizes : ∀ name ∈ names, name.utf8ByteSize ≤ maxNameSize) (made : Bool) :
    tree.makeWay place made (names.map .name) = (.ok (), tree) := by
  induction names generalizing place with
  | nil =>
      rfl
  | cons name names ih =>
      have hhere : tree.node? place = some .directory := hpaved.directory place ⟨_, rfl⟩
      have hrest : tree.Paved ((place ++ [name]) ++ names) := by
        rw [List.append_assoc]
        exact hpaved
      rw [List.forall_mem_cons] at hsizes
      have hfollow : tree.follow place (.name name) = .ok (place ++ [name]) :=
        follow_name_eq_ok.2 ⟨hhere, hsizes.1, rfl⟩
      rw [List.map_cons, makeWay_cons hfollow (hrest.directory _ ⟨_, rfl⟩)]
      exact ih hrest hsizes.2

theorem Paved.makeDirectories_snd (hpaved : tree.Paved place) :
    (tree.makeDirectories (Path.ofPlace place)).2 = tree := by
  have hfromRoot : tree.Paved ([] ++ place) := hpaved
  have hroot : tree.follow tree.home .root = .ok [] := rfl
  unfold makeDirectories
  split
  · rfl
  · rw [Path.components_ofPlace hpaved.named, makeWay_cons hroot tree.node?_nil]
    exact hfromRoot.makeWay_snd false

theorem Paved.makeDirectories_eq (hpaved : tree.Paved place) (hfits : Fits (Path.ofPlace place)) :
    tree.makeDirectories (Path.ofPlace place) = (.ok (), tree) := by
  have hfromRoot : tree.Paved ([] ++ place) := hpaved
  have hroot : tree.follow tree.home .root = .ok [] := rfl
  have hsizes : ∀ name ∈ place, name.utf8ByteSize ≤ maxNameSize := fun name hmem =>
    hfits.names name (by simp [Path.steps_ofPlace hpaved.named, hmem])
  rw [makeDirectories, hfits.screened]
  dsimp only
  rw [Path.components_ofPlace hpaved.named, makeWay_cons hroot tree.node?_nil]
  exact hfromRoot.makeWay_eq hsizes false

/-- A path into a directory is longer than the path of the directory. -/
theorem Fits.directory {directory name last : String} {before : List Char}
    (hname : Path.IsName name) (hlast : Path.IsName last)
    (hdirectory : directory.toList = before ++ last.toList)
    (hfits : Fits (Path.join directory name)) : Fits directory := by
  have hscreen := screen_eq_ok.1 hfits.screened
  rw [hname.join_eq hlast hdirectory] at hscreen
  simp only [String.toList_append, List.mem_append, not_or, String.utf8ByteSize_append] at hscreen
  refine ⟨screen_eq_ok.2 ⟨hscreen.1.1.1, by omega⟩, fun part hpart => hfits.names part ?_⟩
  rw [hname.steps_join]
  exact List.mem_append_left _ hpart

/-- A file can be written into a directory that is there, if its name and its path are not too long
and no directory has its name. -/
theorem writeText_join {directory name last : String} {before : List Char}
    (hname : Path.IsName name) (hlast : Path.IsName last)
    (hdirectory : directory.toList = before ++ last.toList)
    (hthere : tree.makeDirectories directory = (.ok (), tree))
    (hlocate : tree.locate (Path.join directory name) = .ok place)
    (hfree : tree.node? place ≠ some .directory) (text : String) :
    tree.writeText (Path.join directory name) text =
      (.ok (), tree.put place (.file text.toUTF8)) := by
  have hempty : directory.isEmpty = false := by
    rw [Bool.eq_false_iff, ne_eq, String.isEmpty_iff]
    exact hlast.ne_empty_of_ends hdirectory
  have htarget : tree.target (Path.join directory name) = .ok place :=
    (target_eq_ok (hname.getLast?_join directory)).2 ⟨hlocate, hfree⟩
  unfold writeText
  simp only [hname.parent?_join hlast hdirectory, Option.getD_some, hempty, Bool.false_eq_true,
    if_false, hthere, putFile, htarget]
  rfl

section

variable {dir : List String} {name : String} (hpaved : tree.Paved dir) (hne : dir ≠ [])
  (hname : Path.IsName name)

include hpaved hne hname

/-- A file can be written into the directory at a place if the file system takes its path, -/
theorem Paved.writeText_of_fits (hfits : Fits (Path.join (Path.ofPlace dir) name))
    (hfree : tree.node? (dir ++ [name]) ≠ some .directory) (text : String) :
    tree.writeText (Path.join (Path.ofPlace dir) name) text =
      (.ok (), tree.put (dir ++ [name]) (.file text.toUTF8)) := by
  rcases Path.exists_last_ofPlace hne hpaved.named with ⟨before, last, hlast, hbefore⟩
  have hthere := hpaved.makeDirectories_eq (hfits.directory hname hlast hbefore)
  have hlocate := (hpaved.locate_join_eq_ok hname).2 ⟨hfits, rfl⟩
  exact writeText_join hname hlast hbefore hthere hlocate hfree text

/-- and else nothing changes. -/
theorem Paved.writeText_of_not_fits (hfits : ¬ Fits (Path.join (Path.ofPlace dir) name))
    (text : String) :
    ∃ fault, tree.writeText (Path.join (Path.ofPlace dir) name) text = (.error fault, tree) := by
  rcases tree.writeText_eq (Path.join (Path.ofPlace dir) name) text with
    ⟨made, -, hmade, hwrite⟩
  -- the directories above the file are there, so even a failing write makes none
  have hsame : made = tree := by
    rcases hmade with hmade | hmade
    · exact hmade
    · rcases Path.exists_last_ofPlace hne hpaved.named with ⟨before, last, hlast, hbefore⟩
      rw [hmade, hname.parent?_join hlast hbefore]
      exact hpaved.makeDirectories_snd
  subst hsame
  rcases hwrite with ⟨place, htarget, -⟩ | ⟨fault, hwrite⟩
  · have hlocate := ((target_eq_ok (hname.getLast?_join _)).1 htarget).1
    exact absurd (fits_of_locate hlocate) hfits
  · exact ⟨fault, hwrite⟩

end

end FileTree

end TemplateVariants
