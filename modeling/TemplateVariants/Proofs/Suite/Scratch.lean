import TemplateVariants.Proofs.Storage.Writes
import TemplateVariants.Suite.Run

/-!
# Variants in scratch directories

The variants of a template are written into a directory of their own, which is new
(`Scratch.MakesNew`), and which is taken away when the template has its verdict. So the suite is the
same for every template: between templates nothing has changed (`Rests`), and while a template is run
only its scratch directory has files (`Works`).
-/

namespace TemplateVariants
namespace Suite

variable {start tree : FileTree}

/-! ## New directories -/

/-- A directory that is made in the tree is a new one. -/
def Scratch.MakesNew (scratch : Scratch) (tree : FileTree) : Prop :=
  ∀ number place, scratch number = .ok place → tree.Vacant place

theorem Scratch.isName_nameOf (number : Nat) : Path.IsName (nameOf number) := by
  refine .of_mem (c := 't') (by simp [nameOf]) (by decide) ?_
  have hrepr := Path.slash_notMem_repr number
  simp only [nameOf, String.toList_append, String.toList_ofList, List.mem_append, not_or]
  refine ⟨⟨by decide, fun hzero => ?_⟩, hrepr⟩
  have := List.eq_of_mem_replicate hzero
  simp at this

theorem Scratch.numbered_eq_ok {tree : FileTree} {temporary : String} {number : Nat}
    {place : List String} :
    numbered tree temporary number = .ok place ↔
      tree.locate (Path.join temporary (nameOf number)) = .ok place ∧ tree.node? place = none := by
  unfold numbered
  dsimp only
  cases tree.locate (Path.join temporary (nameOf number)) with
  | error fault =>
      simp
  | ok found =>
      cases hnode : tree.node? found with
      | some node =>
          simp only [hnode, Option.isSome_some, if_true, reduceCtorEq, Except.ok.injEq, false_iff]
          rintro ⟨rfl, hnone⟩
          rw [hnode] at hnone
          cases hnone
      | none =>
          simp only [hnode, Option.isSome_none, Bool.false_eq_true, if_false, Except.ok.injEq]
          constructor
          · rintro rfl
            exact ⟨rfl, hnode⟩
          · rintro ⟨rfl, -⟩
            rfl

/-- So are those that are called by their numbers. -/
theorem Scratch.makesNew_numbered (tree : FileTree) (temporary : String) :
    (numbered tree temporary).MakesNew tree := by
  intro number place hplace
  rcases numbered_eq_ok.1 hplace with ⟨hlocate, hfree⟩
  rcases (FileTree.locate_join_eq_ok (isName_nameOf number) temporary).1 hlocate with
    ⟨above, -, habove, -, -, rfl⟩
  exact ⟨⟨above, nameOf number, rfl, isName_nameOf number, habove⟩, hfree⟩

/-! ## The tree around a template -/

/-- Between templates: nothing has changed since the start. -/
structure Rests (start tree : FileTree) : Prop where
  home : tree.home = start.home
  node : ∀ place, tree.node? place = start.node? place

/-- While a template is run: its scratch directory is there, with files in it, and else nothing has
changed since the start. -/
structure Works (start : FileTree) (scratch : List String) (tree : FileTree) : Prop where
  home : tree.home = start.home
  node : ∀ place, ¬ scratch <+: place → tree.node? place = start.node? place
  directory : tree.node? scratch = some .directory
  files : ∀ name, tree.node? (scratch ++ [name]) ≠ some .directory

theorem Rests.refl (start : FileTree) : Rests start start :=
  ⟨rfl, fun _ => rfl⟩

/-- What is read is what was read at the start. -/
theorem Rests.readText (h : Rests start tree) (path : String) :
    tree.readText path = start.readText path := by
  have hfollow : tree.follow = start.follow := by
    funext place step
    unfold FileTree.follow
    rw [h.node place]
  have hlocate : tree.locate path = start.locate path := by
    unfold FileTree.locate FileTree.walk
    rw [hfollow, h.home]
  exact FileTree.readText_congr hlocate fun place _ => h.node place

/-- One more variant. -/
theorem Works.put {scratch : List String} (h : Works start scratch tree) (name : String)
    (bytes : ByteArray) : Works start scratch (tree.put (scratch ++ [name]) (.file bytes)) := by
  have hplaced := fun place => tree.node?_put (scratch ++ [name]) place (.file bytes) (by simp)
  refine ⟨h.home, fun place hnot => ?_, ?_, fun other => ?_⟩
  · have hother : place ≠ scratch ++ [name] := by
      rintro rfl
      exact hnot (List.prefix_append _ _)
    rw [hplaced, if_neg hother, h.node place hnot]
  · rw [hplaced, if_neg (by simp), h.directory]
  · rw [hplaced]
    split
    · simp
    · exact h.files other

section

variable {scratch : List String} (htree : start.WellFormed) (hvacant : start.Vacant scratch)

include htree hvacant

/-- A template is run in a new scratch directory. -/
theorem Rests.works (h : Rests start tree) : Works start scratch (tree.put scratch .directory) := by
  have hplaced := fun place => tree.node?_put scratch place .directory hvacant.ne_nil
  refine ⟨h.home, fun place hnot => ?_, ?_, fun name => ?_⟩
  · have hother : place ≠ scratch := by
      rintro rfl
      exact hnot (List.prefix_refl _)
    rw [hplaced, if_neg hother, h.node]
  · rw [hplaced, if_pos rfl]
  · rw [hplaced, if_neg (by simp), h.node, htree.none_below hvacant.free]
    simp

/-- The scratch directory is where it was made. -/
theorem Works.paved (h : Works start scratch tree) : tree.Paved scratch := by
  rcases hvacant.housed with ⟨above, last, rfl, hlast, habove⟩
  have hpaved := htree.paved habove
  constructor
  · intro name hname
    rcases List.mem_append.1 hname with hname | hname
    · exact hpaved.named name hname
    · rw [List.mem_singleton.1 hname]
      exact hlast
  · intro way hway
    rcases List.prefix_concat_iff.1 hway with rfl | hway
    · exact h.directory
    · -- it is above the scratch directory, so it has not changed
      have hnot : ¬ above ++ [last] <+: way := by
        intro hbelow
        have hlength := (hbelow.trans hway).length_le
        rw [List.length_append, List.length_singleton] at hlength
        omega
      rw [h.node way hnot, hpaved.directory way hway]

/-- When the scratch directory has been taken away, nothing is left of the template. -/
theorem Works.rests (h : Works start scratch tree) : Rests start (tree.eraseAll scratch) := by
  have herased := tree.node?_eraseAll hvacant.ne_nil
  refine ⟨h.home, fun place => ?_⟩
  rw [herased]
  by_cases hbelow : scratch <+: place
  · rcases hbelow with ⟨rest, rfl⟩
    rw [if_pos (List.prefix_append _ _), htree.none_below hvacant.free]
  · rw [if_neg hbelow, h.node place hbelow]

end

end Suite
end TemplateVariants
