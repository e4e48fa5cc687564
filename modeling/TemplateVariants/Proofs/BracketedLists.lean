import TemplateVariants.Proofs.Writing

/-!
# Lists in brackets

A list literal is drawn in one go: whether its separators hold a blank, and then for each separator
whether it ends one list and starts the next. These are all its draws (`drawLiteral_of_flips`). The
breaks cut the elements into groups, none of which is empty (`flatten_groups`,
`nil_not_mem_groupsFrom`), and the literal is the sum of the lists that the groups make
(`inside_eq_sum`), whatever the elements are made of (`list_literal_structured`).
-/

namespace TemplateVariants
namespace ListForm

open Randomness

/-! ## Flips -/

section Flips

variable {G : Type} [WordSource G]

/-- Events drawn one after the other: the chance of each, and whether it came about. -/
inductive Flips : List (Nat × Bool) → Dice G → Dice G → Prop where
  | nil (dice : Dice G) :
      Flips [] dice dice
  | cons {threshold : Nat} {came : Bool} {flips : List (Nat × Bool)} {dice dice₁ dice' : Dice G} :
      Draw.chance threshold dice = .ok came dice₁ →
      Flips flips dice₁ dice' →
      Flips ((threshold, came) :: flips) dice dice'

/-- An event never stalls. -/
theorem exists_chance (threshold : Nat) (dice : Dice G) :
    ∃ came dice', Draw.chance threshold dice = .ok came dice' :=
  ⟨_, _, rfl⟩

/-- Events of one chance, as many as are asked for. -/
theorem exists_flips (threshold n : Nat) (dice : Dice G) :
    ∃ (came : List Bool) (dice' : Dice G),
      ((List.replicate n ()).mapM fun _ => Draw.chance threshold) dice = .ok came dice' ∧
      came.length = n ∧ Flips (came.map fun b => (threshold, b)) dice dice' := by
  induction n generalizing dice with
  | zero =>
      exact ⟨[], dice, rfl, rfl, .nil dice⟩
  | succ n ih =>
      rcases exists_chance threshold dice with ⟨first, dice₁, hfirst⟩
      rcases ih dice₁ with ⟨rest, dice', hrest, hlength, hflips⟩
      refine ⟨first :: rest, dice', ?_, by rw [List.length_cons, hlength], .cons hfirst hflips⟩
      rw [List.replicate_succ, List.mapM_cons, Compiling.bind_of_ok hfirst,
        Compiling.bind_of_ok hrest]
      rfl

/-- A literal is made of its flips: first that of the spacing, then one for each separator. -/
theorem drawLiteral_of_flips (elements : List Line) (dice : Dice G) :
    ∃ (spaced : Bool) (breaks : List Bool) (dice' : Dice G),
      drawLiteral elements dice =
        .ok (literal (breaks.map (separator (if spaced then " " else ""))) elements) dice' ∧
      breaks.length = elements.length - 1 ∧
      Flips ((spacedChance, spaced) :: breaks.map fun b => (breakChance, b)) dice dice' := by
  rcases exists_chance spacedChance dice with ⟨spaced, dice₁, hspaced⟩
  rcases exists_flips breakChance (elements.length - 1) dice₁ with
    ⟨breaks, dice', hbreaks, hlength, hflips⟩
  have hdrawn :
      drawBreaks elements.length dice = .ok (if spaced then " " else "", breaks) dice' := by
    unfold drawBreaks
    rw [Compiling.bind_of_ok hspaced, Compiling.bind_of_ok hbreaks]
    rfl
  refine ⟨spaced, breaks, dice', ?_, hlength, .cons hspaced hflips⟩
  rw [drawLiteral_eq, Compiling.bind_of_ok hdrawn]
  rfl

end Flips

/-! ## Separated elements -/

/-- What stands between the brackets of a literal. -/
def inside (marks : List String) : List Line → Line
  | [] => []
  | first :: rest =>
    first ++ (marks.zip rest).flatMap fun (mark, element) => .literal mark :: element

theorem literal_eq (marks : List String) (elements : List Line) :
    literal marks elements = .literal "[" :: (inside marks elements ++ [.literal "]"]) := by
  cases elements with
  | nil =>
      rfl
  | cons first rest =>
      rfl

/-- The elements in their order, with one mark between any two neighbours. -/
inductive Separated : List String → List Line → Line → Prop where
  | nil :
      Separated [] [] []
  | one (element : Line) :
      Separated [] [element] element
  | more {mark : String} {marks : List String} {element next : Line} {elements : List Line}
      {line : Line} :
      Separated marks (next :: elements) line →
      Separated (mark :: marks) (element :: next :: elements) (element ++ .literal mark :: line)

/-- If there are marks enough, no element is lost. -/
theorem separated_inside {marks : List String} {elements : List Line}
    (hlength : marks.length = elements.length - 1) :
    Separated marks elements (inside marks elements) := by
  cases elements with
  | nil =>
      rw [List.length_eq_zero_iff.1 hlength]
      exact .nil
  | cons first rest =>
      induction rest generalizing first marks with
      | nil =>
          rw [List.length_eq_zero_iff.1 hlength]
          simpa [inside] using Separated.one first
      | cons next rest ih =>
          cases marks with
          | nil =>
              cases hlength
          | cons mark marks =>
              have hrest : Separated marks (next :: rest) (inside marks (next :: rest)) :=
                ih next (by simpa using hlength)
              have hmore :
                  Separated (mark :: marks) (first :: next :: rest)
                    (first ++ .literal mark :: inside marks (next :: rest)) :=
                .more hrest
              simpa [inside] using hmore

/-! ## Groups -/

/-- The elements behind an open group join it up to the next break, which closes it. -/
def groupsFrom (group : List Line) : List (Bool × Line) → List (List Line)
  | [] => [group]
  | (isBreak, element) :: rest =>
    if isBreak then group :: groupsFrom [element] rest
    else groupsFrom (group ++ [element]) rest

/-- The elements cut at the breaks. -/
def groups (breaks : List Bool) : List Line → List (List Line)
  | [] => [[]]
  | first :: rest => groupsFrom [first] (breaks.zip rest)

section Groups

variable {group : List Line} {breaks : List Bool} {elements : List Line}

theorem groupsFrom_ne_nil (group : List Line) (pairs : List (Bool × Line)) :
    groupsFrom group pairs ≠ [] := by
  induction pairs generalizing group with
  | nil =>
      simp [groupsFrom]
  | cons pair rest ih =>
      rcases pair with ⟨isBreak, element⟩
      cases isBreak with
      | true =>
          simp [groupsFrom]
      | false =>
          simpa [groupsFrom] using ih (group ++ [element])

/-- The elements stay in their order. -/
theorem flatten_groupsFrom (group : List Line) (pairs : List (Bool × Line)) :
    (groupsFrom group pairs).flatten = group ++ pairs.map Prod.snd := by
  induction pairs generalizing group with
  | nil =>
      simp [groupsFrom]
  | cons pair rest ih =>
      rcases pair with ⟨isBreak, element⟩
      cases isBreak with
      | true =>
          simp [groupsFrom, ih]
      | false =>
          simp [groupsFrom, ih]

/-- The open group holds an element, and a break opens the next group with one. -/
theorem nil_not_mem_groupsFrom (hgroup : group ≠ []) (pairs : List (Bool × Line)) :
    [] ∉ groupsFrom group pairs := by
  induction pairs generalizing group with
  | nil =>
      simpa [groupsFrom, eq_comm] using hgroup
  | cons pair rest ih =>
      rcases pair with ⟨isBreak, element⟩
      cases isBreak with
      | true =>
          simpa [groupsFrom, eq_comm] using ⟨hgroup, ih (List.cons_ne_nil element [])⟩
      | false =>
          have hopen : group ++ [element] ≠ [] := by
            simp
          simpa [groupsFrom] using ih hopen

theorem length_groupsFrom (group : List Line) (pairs : List (Bool × Line)) :
    (groupsFrom group pairs).length = (pairs.map Prod.fst).count true + 1 := by
  induction pairs generalizing group with
  | nil =>
      rfl
  | cons pair rest ih =>
      rcases pair with ⟨isBreak, element⟩
      cases isBreak with
      | true =>
          simp [groupsFrom, ih]
      | false =>
          simp [groupsFrom, ih]

/-- One more element at the end of a list that is not empty comes behind a separator. -/
theorem intercalate_concat {α : Type} {sep item : List α} {items : List (List α)}
    (h : items ≠ []) :
    sep.intercalate (items ++ [item]) = sep.intercalate items ++ (sep ++ item) := by
  induction items with
  | nil =>
      exact absurd rfl h
  | cons first rest ih =>
      cases rest with
      | nil =>
          simp [List.intercalate_cons_cons]
      | cons next rest =>
          have hrest := ih (List.cons_ne_nil next rest)
          rw [List.cons_append, List.cons_append, List.intercalate_cons_cons,
            List.intercalate_cons_cons, ← List.cons_append, hrest]
          simp

/-- The sum of the lists of the groups: what is still to come is put behind the open group. -/
theorem sum_groupsFrom (mark : Bool → Token) (hgroup : group ≠ []) (pairs : List (Bool × Line)) :
    [mark true].intercalate ((groupsFrom group pairs).map [mark false].intercalate) =
      [mark false].intercalate group ++
        pairs.flatMap fun (isBreak, element) => mark isBreak :: element := by
  induction pairs generalizing group with
  | nil =>
      simp [groupsFrom]
  | cons pair rest ih =>
      rcases pair with ⟨isBreak, element⟩
      cases isBreak with
      | true =>
          -- behind the plus the element opens the next list, so the sum goes on
          have hrest := ih (List.cons_ne_nil element [])
          rcases List.exists_cons_of_ne_nil (groupsFrom_ne_nil [element] rest) with
            ⟨next, others, hnext⟩
          rw [hnext, List.map_cons] at hrest
          simp [groupsFrom, hnext, List.intercalate_cons_cons, hrest]
      | false =>
          have hopen : group ++ [element] ≠ [] := by
            simp
          have hrest := ih hopen
          rw [intercalate_concat hgroup] at hrest
          simp [groupsFrom, hrest]

/-- The groups put together are the elements, and there is one more of them than there are breaks. -/
theorem flatten_groups (hlength : breaks.length = elements.length - 1) :
    (groups breaks elements).flatten = elements ∧
      (groups breaks elements).length = breaks.count true + 1 := by
  cases elements with
  | nil =>
      rw [List.length_eq_zero_iff.1 hlength]
      exact ⟨rfl, rfl⟩
  | cons first rest =>
      have hpairs : breaks.length = rest.length := hlength
      constructor
      · rw [groups, flatten_groupsFrom, List.map_snd_zip (Nat.le_of_eq hpairs.symm)]
        rfl
      · rw [groups, length_groupsFrom, List.map_fst_zip (Nat.le_of_eq hpairs)]

/-- What stands in the brackets is the sum of the lists of the groups, less the outer brackets. -/
theorem inside_eq_sum (spacing : String) (breaks : List Bool) (elements : List Line) :
    inside (breaks.map (separator spacing)) elements =
      [Token.literal (separator spacing true)].intercalate
        ((groups breaks elements).map [Token.literal (separator spacing false)].intercalate) := by
  cases elements with
  | nil =>
      simp [inside, groups]
  | cons first rest =>
      rw [groups, sum_groupsFrom (fun isBreak => .literal (separator spacing isBreak))
        (List.cons_ne_nil first []), inside, List.zip_map_left, List.flatMap_map,
        List.intercalate_singleton]
      rfl

end Groups

/-! ## The literal of a list -/

/-- The literal of a list, whatever its elements are made of and whatever the dice show. It takes one
flip for the spacing and one for each separator. In the brackets stand the elements as they are, with
a separator between any two neighbours, all of them with the same blank or none; each is a comma or
the plus of a sum of lists. The lists of the sum have the elements in their order, and none is empty,
unless there are no elements and it is the only one. -/
theorem list_literal_structured {G : Type} [WordSource G] (elements : List Line) (dice : Dice G) :
    ∃ (spaced : Bool) (breaks : List Bool) (inside : Line) (dice' : Dice G),
      let spacing := if spaced then " " else ""
      let comma := "," ++ spacing
      let plus := "]" ++ spacing ++ "+" ++ spacing ++ "["
      drawLiteral elements dice = .ok (.literal "[" :: (inside ++ [.literal "]"])) dice' ∧
      Flips ((spacedChance, spaced) :: breaks.map fun b => (breakChance, b)) dice dice' ∧
      breaks.length = elements.length - 1 ∧
      Separated (breaks.map fun isBreak => if isBreak then plus else comma) elements inside ∧
      ∃ groups : List (List Line),
        inside =
          [Token.literal plus].intercalate (groups.map [Token.literal comma].intercalate) ∧
        groups.flatten = elements ∧
        groups.length = breaks.count true + 1 ∧
        (elements ≠ [] → [] ∉ groups) ∧
        (elements = [] → groups = [[]] ∧ inside = []) := by
  rcases drawLiteral_of_flips elements dice with ⟨spaced, breaks, dice', hdrawn, hlength, hflips⟩
  have hmarks :
      (breaks.map (separator (if spaced then " " else ""))).length = elements.length - 1 := by
    rw [List.length_map, hlength]
  rcases flatten_groups hlength with ⟨hflatten, hgroups⟩
  refine ⟨spaced, breaks, inside (breaks.map (separator (if spaced then " " else ""))) elements,
    dice', ?_⟩
  dsimp only
  refine ⟨?_, hflips, hlength, separated_inside hmarks, groups breaks elements,
    inside_eq_sum _ breaks elements, hflatten, hgroups, ?_, ?_⟩
  · rw [hdrawn, literal_eq]
  · intro hne
    rcases List.exists_cons_of_ne_nil hne with ⟨first, rest, rfl⟩
    exact nil_not_mem_groupsFrom (List.cons_ne_nil first []) _
  · rintro rfl
    exact ⟨rfl, rfl⟩

end ListForm
end TemplateVariants
