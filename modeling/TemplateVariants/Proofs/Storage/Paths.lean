import Mathlib.Data.List.Induction
import Mathlib.Tactic.Common
import TemplateVariants.Storage.Path

/-!
# Names in paths

A path is cut at its slashes, so a path that ends in a plain name leads one step on from the path
before it (`IsName.steps_join`). A name with an extension is its stem, a point and the extension
(`splitExtension_cases`).
-/

namespace TemplateVariants
namespace Path

/-! ## Slashes -/

theorem splitSlashes_ne_nil (s : List Char) : splitSlashes s ≠ [] := by
  cases s with
  | nil =>
      simp [splitSlashes]
  | cons c s =>
      rw [splitSlashes, List.foldr_cons]
      split
      · simp
      · split
        · simp
        · simp

theorem splitSlashes_slash (s : List Char) : splitSlashes ('/' :: s) = [] :: splitSlashes s := by
  simp [splitSlashes]

theorem splitSlashes_cons {c : Char} (hc : c ≠ '/') {s part : List Char}
    {parts : List (List Char)} (h : splitSlashes s = part :: parts) :
    splitSlashes (c :: s) = (c :: part) :: parts := by
  unfold splitSlashes at h ⊢
  rw [List.foldr_cons, h, if_neg hc]

/-- A slash cuts a text into the parts before it and the parts after it. -/
theorem splitSlashes_append (before after : List Char) :
    splitSlashes (before ++ '/' :: after) = splitSlashes before ++ splitSlashes after := by
  induction before with
  | nil =>
      exact splitSlashes_slash after
  | cons c before ih =>
      rw [List.cons_append]
      by_cases hc : c = '/'
      · subst hc
        rw [splitSlashes_slash, splitSlashes_slash, ih, List.cons_append]
      · rcases List.exists_cons_of_ne_nil (splitSlashes_ne_nil before) with ⟨part, parts, hparts⟩
        rw [hparts, List.cons_append] at ih
        rw [splitSlashes_cons hc ih, splitSlashes_cons hc hparts, List.cons_append]

/-- A text without slashes is one part. -/
theorem splitSlashes_of_notMem {s : List Char} (h : '/' ∉ s) : splitSlashes s = [s] := by
  induction s with
  | nil =>
      rfl
  | cons c s ih =>
      simp only [List.mem_cons, not_or] at h
      exact splitSlashes_cons (Ne.symm h.1) (ih h.2)

/-! ## Proper names -/

/-- The text names something in a directory: it is not empty, holds no slash, and is not one of the
two special names. -/
structure IsName (text : String) : Prop where
  component : componentOf? text.toList = some (.name text)
  noSlash : '/' ∉ text.toList

theorem isName_iff {text : String} :
    IsName text ↔ componentOf? text.toList = some (.name text) ∧ '/' ∉ text.toList :=
  ⟨fun h => ⟨h.component, h.noSlash⟩, fun h => ⟨h.1, h.2⟩⟩

instance (text : String) : Decidable (IsName text) :=
  decidable_of_iff _ isName_iff.symm

/-- A text without slashes, and with a character in it that is no point, is a name. -/
theorem IsName.of_mem {text : String} {c : Char} (hmem : c ∈ text.toList) (hpoint : c ≠ '.')
    (hslash : '/' ∉ text.toList) : IsName text where
  component := by
    have hempty : text.toList ≠ [] := List.ne_nil_of_mem hmem
    have hcurrent : text.toList ≠ ['.'] := by
      intro h
      rw [h] at hmem
      exact hpoint (by simpa using hmem)
    have hparent : text.toList ≠ ['.', '.'] := by
      intro h
      rw [h] at hmem
      exact hpoint (by simpa using hmem)
    rw [componentOf?, if_neg hempty, if_neg hcurrent, if_neg hparent, String.ofList_toList]
  noSlash := hslash

theorem slash_notMem_repr (number : Nat) : '/' ∉ (Nat.repr number).toList := by
  intro hslash
  rw [Nat.toList_repr] at hslash
  have := Nat.isDigit_of_mem_toDigits (by decide) (by decide) hslash
  simp [Char.isDigit] at this

/-- A stem with an underscore, a number and an ending. -/
theorem IsName.numbered {stem ending : String} (hstem : '/' ∉ stem.toList)
    (hending : '/' ∉ ending.toList) (number : Nat) :
    IsName (stem ++ "_" ++ Nat.repr number ++ ending) := by
  have hdigits := slash_notMem_repr number
  refine .of_mem (c := '_') ?_ (by decide) ?_
  · simp
  · simp only [String.toList_append, List.mem_append, not_or]
    exact ⟨⟨⟨hstem, by decide⟩, hdigits⟩, hending⟩

namespace IsName

variable {name : String}

theorem ne_nil (h : IsName name) : name.toList ≠ [] := by
  intro hnil
  have := h.component
  simp [hnil, componentOf?] at this

theorem head?_ne (h : IsName name) : name.toList.head? ≠ some '/' := by
  intro hhead
  exact h.noSlash (List.mem_of_head? hhead)

theorem steps_eq (h : IsName name) : steps name = [.name name] := by
  simp only [steps, splitSlashes_of_notMem h.noSlash, List.filterMap_cons, List.filterMap_nil,
    h.component, if_neg h.head?_ne]

/-- The name of a file in a directory is the last step of its path. -/
theorem steps_join (h : IsName name) (directory : String) :
    steps (join directory name) = steps directory ++ [.name name] := by
  have hparts : (splitSlashes name.toList).filterMap componentOf? = [.name name] := by
    simp [splitSlashes_of_notMem h.noSlash, h.component]
  by_cases hempty : directory = ""
  · subst hempty
    have hjoin : join "" name = name := by
      simp [join]
    rw [hjoin, h.steps_eq]
    rfl
  have hne : directory.toList ≠ [] := by
    intro hnil
    exact hempty (String.toList_eq_nil_iff.1 hnil)
  have hhead : ∀ rest, (directory.toList ++ rest).head? = directory.toList.head? := by
    intro rest
    rcases List.exists_cons_of_ne_nil hne with ⟨c, cs, hcs⟩
    rw [hcs]
    rfl
  by_cases hlast : directory.toList.getLast? = some '/'
  · -- the slash at the end gives a part that stands for nothing
    have hjoin : join directory name = directory ++ name := by
      simp [join, h.head?_ne, hempty, hlast]
    rcases List.getLast?_eq_some_iff.1 hlast with ⟨before, hbefore⟩
    have hnil : (splitSlashes []).filterMap componentOf? = [] := rfl
    have hcut :
        (splitSlashes (directory.toList ++ name.toList)).filterMap componentOf? =
          (splitSlashes directory.toList).filterMap componentOf? ++ [.name name] := by
      calc
        (splitSlashes (directory.toList ++ name.toList)).filterMap componentOf?
            = (splitSlashes (before ++ '/' :: name.toList)).filterMap componentOf? := by
                rw [hbefore, List.append_assoc, List.singleton_append]
        _ = (splitSlashes before).filterMap componentOf? ++ [.name name] := by
                rw [splitSlashes_append, List.filterMap_append, hparts]
        _ = (splitSlashes directory.toList).filterMap componentOf? ++ [.name name] := by
                rw [hbefore, splitSlashes_append, List.filterMap_append, hnil, List.append_nil]
    simp only [steps, hjoin, String.toList_append, hhead, hcut]
    split
    · rfl
    · rfl
  · have hjoin : join directory name = directory ++ "/" ++ name := by
      simp [join, h.head?_ne, hempty, hlast]
    have hcut :
        (splitSlashes (directory.toList ++ '/' :: name.toList)).filterMap componentOf? =
          (splitSlashes directory.toList).filterMap componentOf? ++ [.name name] := by
      rw [splitSlashes_append, List.filterMap_append, hparts]
    have htext : (join directory name).toList = directory.toList ++ '/' :: name.toList := by
      rw [hjoin]
      simp
    simp only [steps, htext, hhead, hcut]
    split
    · rfl
    · rfl

/-- The path of a file does not end in a slash. -/
theorem getLast?_join (h : IsName name) (directory : String) :
    (join directory name).toList.getLast? ≠ some '/' := by
  have hlast : ∀ before : List Char, (before ++ name.toList).getLast? ≠ some '/' := by
    intro before hslash
    rw [List.getLast?_append, List.getLast?_eq_some_getLast h.ne_nil] at hslash
    have hmem := List.getLast_mem h.ne_nil
    rw [Option.some.inj hslash] at hmem
    exact h.noSlash hmem
  unfold join
  split
  · simpa using hlast []
  · split
    · simpa using hlast directory.toList
    · simpa using hlast (directory.toList ++ ['/'])

end IsName

/-! ## The directory above a file -/

/-- Nothing is dropped before a character that is neither a slash nor the same-directory name. -/
theorem dropIdle_of_ne {c : Char} {cs : List Char} (hslash : c ≠ '/')
    (hpoint : c = '.' → cs.head? ≠ some '/') : dropIdle (c :: cs) = c :: cs := by
  unfold dropIdle
  split
  · rename_i heq
    cases heq
    exact absurd rfl hslash
  · rename_i heq
    cases heq
    exact absurd rfl hslash
  · rename_i heq
    cases heq
    exact absurd rfl (hpoint rfl)
  · rfl

theorem dropIdle_slash {c : Char} {cs : List Char} :
    dropIdle ('/' :: c :: cs) = dropIdle (c :: cs) := by
  rw [dropIdle]
  simp

namespace IsName

variable {name : String}

/-- From its end on a name has nothing to drop. -/
theorem dropIdle_reverse (h : IsName name) (rest : List Char) :
    dropIdle (name.toList.reverse ++ rest) = name.toList.reverse ++ rest := by
  have hne : name.toList.reverse ≠ [] := by
    simpa using h.ne_nil
  rcases List.exists_cons_of_ne_nil hne with ⟨c, cs, hcs⟩
  have hnot : '/' ∉ c :: cs := by
    rw [← hcs]
    simpa using h.noSlash
  simp only [List.mem_cons, not_or] at hnot
  rw [hcs, List.cons_append]
  refine dropIdle_of_ne (Ne.symm hnot.1) ?_
  rintro rfl hhead
  cases cs with
  | nil =>
      -- the name would be the point alone
      have hpoint : name.toList = ['.'] := by
        simpa using congrArg List.reverse hcs
      have := h.component
      simp [hpoint, componentOf?] at this
  | cons d cs =>
      rw [List.cons_append, List.head?_cons, Option.some.injEq] at hhead
      exact hnot.2 (by simp [hhead])

section

variable {directory last : String} {before : List Char}

/-- A path that ends in a name does not end in a slash. -/
theorem getLast?_of_ends (hlast : IsName last) (hdirectory : directory.toList = before ++ last.toList) :
    directory.toList.getLast? ≠ some '/' := by
  intro hslash
  rw [hdirectory, List.getLast?_append, List.getLast?_eq_some_getLast hlast.ne_nil] at hslash
  have hmem := List.getLast_mem hlast.ne_nil
  rw [Option.some.inj hslash] at hmem
  exact hlast.noSlash hmem

theorem ne_empty_of_ends (hlast : IsName last) (hdirectory : directory.toList = before ++ last.toList) :
    directory ≠ "" := by
  rintro rfl
  exact hlast.ne_nil (List.append_eq_nil_iff.1 hdirectory.symm).2

theorem join_eq (h : IsName name) (hlast : IsName last)
    (hdirectory : directory.toList = before ++ last.toList) :
    join directory name = directory ++ "/" ++ name := by
  simp [join, h.head?_ne, hlast.ne_empty_of_ends hdirectory, getLast?_of_ends hlast hdirectory]

/-- The path above a file in a directory is that of the directory, if that ends in a name. -/
theorem parent?_join (h : IsName name) (hlast : IsName last)
    (hdirectory : directory.toList = before ++ last.toList) :
    parent? (join directory name) = some directory := by
  have htext :
      (join directory name).toList.reverse =
        name.toList.reverse ++ '/' :: directory.toList.reverse := by
    simp [h.join_eq hlast hdirectory]
  have hskip :
      (name.toList.reverse ++ '/' :: directory.toList.reverse).dropWhile (· ≠ '/') =
        '/' :: directory.toList.reverse := by
    rw [List.dropWhile_append_of_pos]
    · simp
    · intro d hd
      have hne : d ≠ '/' := by
        rintro rfl
        exact h.noSlash (by simpa using hd)
      simpa using hne
  -- the name at the end has nothing to drop, but the slash after it is dropped
  have hidle : dropIdle ('/' :: directory.toList.reverse) = directory.toList.reverse := by
    have hkept := hlast.dropIdle_reverse before.reverse
    rw [hdirectory, List.reverse_append]
    rcases List.exists_cons_of_ne_nil (List.reverse_ne_nil_iff.2 hlast.ne_nil) with ⟨c, cs, hcs⟩
    rw [hcs, List.cons_append] at hkept ⊢
    rw [dropIdle_slash, hkept]
  have habove :
      String.ofList (dropIdle ((dropIdle (join directory name).toList.reverse).dropWhile
        (· ≠ '/'))).reverse = directory := by
    rw [htext, h.dropIdle_reverse, hskip, hidle, List.reverse_reverse, String.ofList_toList]
  have hcomponents :
      ∃ others, (components (join directory name)).reverse = .name name :: others := by
    rw [components, h.steps_join]
    cases steps directory with
    | nil =>
        exact ⟨[], rfl⟩
    | cons first rest =>
        exact ⟨(first :: rest.filter (· ≠ .current)).reverse, by simp [tidy]⟩
  rcases hcomponents with ⟨others, hothers⟩
  rw [parent?, hothers]
  exact congrArg some habove

end

end IsName

/-! ## Paths from the root -/

section

variable {place : List String} {name : String}

/-- A path from the root ends in a name. -/
theorem exists_last_ofPlace (hne : place ≠ []) (hplace : ∀ part ∈ place, IsName part) :
    ∃ before last, IsName last ∧ (ofPlace place).toList = before ++ last.toList := by
  rcases List.eq_nil_or_concat place with hnil | ⟨above, last, hconcat⟩
  · exact absurd hnil hne
  rw [List.concat_eq_append] at hconcat
  subst hconcat
  have hlast : IsName last := hplace last (by simp)
  cases above with
  | nil =>
      exact ⟨['/'], last, hlast, by simp [ofPlace]⟩
  | cons first rest =>
      refine ⟨(ofPlace (first :: rest) ++ "/").toList, last, hlast, ?_⟩
      rw [ofPlace, String.intercalate_append_of_ne_nil (by simp) (by simp),
        String.intercalate_singleton, ofPlace]
      simp

/-- One name more is one step on. -/
theorem ofPlace_concat (hplace : ∀ part ∈ place, IsName part) (hname : IsName name) :
    ofPlace (place ++ [name]) = join (ofPlace place) name := by
  by_cases hne : place = []
  · simp [hne, ofPlace, join, hname.head?_ne]
  · rcases exists_last_ofPlace hne hplace with ⟨before, last, hlast, hbefore⟩
    rw [hname.join_eq hlast hbefore, ofPlace,
      String.intercalate_append_of_ne_nil hne (by simp), String.intercalate_singleton, ofPlace,
      String.append_assoc, String.append_assoc, String.append_assoc]

theorem steps_ofPlace (hplace : ∀ part ∈ place, IsName part) :
    steps (ofPlace place) = .root :: place.map .name := by
  induction place using List.reverseRecOn with
  | nil =>
      rfl
  | append_singleton place name ih =>
      have habove : ∀ part ∈ place, IsName part := fun part hpart =>
        hplace part (List.mem_append_left _ hpart)
      have hname : IsName name := hplace name (by simp)
      rw [ofPlace_concat habove hname, hname.steps_join, ih habove]
      simp

theorem components_ofPlace (hplace : ∀ part ∈ place, IsName part) :
    components (ofPlace place) = .root :: place.map .name := by
  have hidle : ∀ step ∈ place.map Component.name, decide (step ≠ .current) = true := by
    simp
  rw [components, steps_ofPlace hplace, tidy, List.filter_eq_self.2 hidle]

end

/-! ## Extensions -/

/-- A name has no extension, or it is its stem, a point and its extension. -/
theorem splitExtension_cases (name : String) :
    splitExtension name = (name, none) ∨
      ∃ stem extension, splitExtension name = (stem, some extension) ∧
        name = stem ++ "." ++ extension := by
  have hcut :=
    List.takeWhile_append_dropWhile (p := fun c => decide (c ≠ '.')) (l := name.toList.reverse)
  unfold splitExtension
  dsimp only
  split
  · exact .inl rfl
  · rename_i c before hdrop
    split
    · exact .inl rfl
    · refine .inr ⟨_, _, rfl, ?_⟩
      -- the text from the end starts with the extension, and then comes the point
      have hpoint : c = '.' := by
        have hhead := List.head?_dropWhile_not (fun c => decide (c ≠ '.')) name.toList.reverse
        rw [hdrop] at hhead
        simpa using hhead
      rw [hdrop, hpoint] at hcut
      have htext := congrArg (fun cs => String.ofList cs.reverse) hcut
      simpa [String.ofList_append, String.append_assoc] using htext.symm

theorem IsName.fileName? {name : String} (h : IsName name) : Path.fileName? name = some name := by
  rw [Path.fileName?, components, h.steps_eq]
  rfl

/-- What stands before the extension of a name is a part of the name. -/
theorem mem_of_mem_stem {name : String} {c : Char} (h : c ∈ (splitExtension name).1.toList) :
    c ∈ name.toList := by
  rcases splitExtension_cases name with hsplit | ⟨stem, extension, hsplit, hname⟩
  · rw [hsplit] at h
    exact h
  · rw [hsplit] at h
    rw [hname]
    simp only [String.toList_append, List.mem_append]
    exact .inl (.inl h)

end Path
end TemplateVariants
