import Mathlib.Logic.Relation
import TemplateVariants.Proofs.Storage.Paths
import TemplateVariants.Storage.Memory

/-!
# Locations

Two paths lead to the same location if cancelling makes them one: the same-directory name goes, a
name goes with the upper directory behind it, and at the root the upper directory goes. Each list of
components cancels down to that of its `Location`, so the location decides (`sameLocation_iff`).

The normal form of a path has the names of its location. It forgets what a path that climbs has above
its start, and that such a path began at the root; among all other paths it tells the locations apart
(`normalize_names_location`).
-/

namespace TemplateVariants
namespace Path

/-! ## The same location -/

/-- Two neighbours are cancelled, or one component that stands for nothing. -/
inductive Cancels : List Component → List Component → Prop where
  | current (before after : List Component) :
      Cancels (before ++ .current :: after) (before ++ after)
  | pair (before : List Component) (name : String) (after : List Component) :
      Cancels (before ++ .name name :: .parent :: after) (before ++ after)
  | root (after : List Component) :
      Cancels (.root :: .parent :: after) (.root :: after)

/-- The paths lead to the same location: they are one path but for what can be cancelled. -/
def SameLocation (path other : String) : Prop :=
  Relation.EqvGen Cancels (steps path) (steps other)

/-- Names down from the root, or from some directory above the start. The last name comes first. -/
inductive Location where
  | underRoot (names : List String)
  | fromStart (above : Nat) (names : List String)
deriving DecidableEq, Repr

namespace Location

def names : Location → List String
  | underRoot names => names
  | fromStart _ names => names

/-- How many directories above the start the location lies; nothing is above the root. -/
def above : Location → Nat
  | underRoot _ => 0
  | fromStart above _ => above

def isAbsolute : Location → Bool
  | underRoot _ => true
  | fromStart _ _ => false

/-- Where a component leads from a location. -/
def enter : Location → Component → Location
  | _, .root => underRoot []
  | here, .current => here
  | underRoot names, .name name => underRoot (name :: names)
  | fromStart above names, .name name => fromStart above (name :: names)
  | underRoot names, .parent => underRoot names.tail
  | fromStart above (_ :: names), .parent => fromStart above names
  | fromStart above [], .parent => fromStart (above + 1) []

/-- The location as a path that has nothing to cancel. -/
def components : Location → List Component
  | underRoot names => .root :: names.reverse.map .name
  | fromStart above names => List.replicate above .parent ++ names.reverse.map .name

variable {here there : Location} {step : Component} {rest : List Component}

theorem ext_iff :
    here = there ↔
      here.isAbsolute = there.isAbsolute ∧ here.above = there.above ∧ here.names = there.names := by
  cases here with
  | underRoot names =>
      cases there with
      | underRoot names' =>
          simp [isAbsolute, above, Location.names]
      | fromStart above' names' =>
          simp [isAbsolute]
  | fromStart above names =>
      cases there with
      | underRoot names' =>
          simp [isAbsolute]
      | fromStart above' names' =>
          simp [isAbsolute, Location.above, Location.names]

theorem enter_name_parent (here : Location) (name : String) :
    (here.enter (.name name)).enter .parent = here := by
  cases here with
  | underRoot names =>
      rfl
  | fromStart above names =>
      rfl

theorem names_enter_parent (here : Location) : (here.enter .parent).names = here.names.tail := by
  cases here with
  | underRoot names =>
      rfl
  | fromStart above names =>
      cases names with
      | nil =>
          rfl
      | cons name names =>
          rfl

theorem names_enter_name (here : Location) (name : String) :
    (here.enter (.name name)).names = name :: here.names := by
  cases here with
  | underRoot names =>
      rfl
  | fromStart above names =>
      rfl

theorem enter_current (here : Location) : here.enter .current = here := by
  cases here with
  | underRoot names =>
      rfl
  | fromStart above names =>
      rfl

/-- Only the root itself leads from the start to the root. -/
theorem isAbsolute_enter (h : step ≠ .root) : (here.enter step).isAbsolute = here.isAbsolute := by
  cases here with
  | underRoot names =>
      cases step with
      | root =>
          exact absurd rfl h
      | _ =>
          rfl
  | fromStart above names =>
      cases step with
      | root =>
          exact absurd rfl h
      | parent =>
          cases names with
          | nil =>
              rfl
          | cons name names =>
              rfl
      | _ =>
          rfl

theorem isAbsolute_foldl (h : .root ∉ rest) :
    (rest.foldl enter here).isAbsolute = here.isAbsolute := by
  induction rest generalizing here with
  | nil =>
      rfl
  | cons step rest ih =>
      rw [List.mem_cons, not_or] at h
      rw [List.foldl_cons, ih h.2, isAbsolute_enter (Ne.symm h.1)]

end Location

/-- Where components lead from the start. -/
def locationOf (steps : List Component) : Location :=
  steps.foldl Location.enter (.fromStart 0 [])

/-- The location of a path. -/
def location (path : String) : Location :=
  locationOf (steps path)

/-! ## Cancelling down to the location -/

/-- What is cancelled leads nowhere. -/
theorem Cancels.locationOf_eq {long short : List Component} (h : Cancels long short) :
    locationOf long = locationOf short := by
  unfold locationOf
  cases h with
  | current before after =>
      rw [List.foldl_append, List.foldl_append, List.foldl_cons, Location.enter_current]
  | pair before name after =>
      rw [List.foldl_append, List.foldl_append, List.foldl_cons, List.foldl_cons,
        Location.enter_name_parent]
  | root after =>
      rfl

theorem locationOf_eq_of_eqvGen {long short : List Component}
    (h : Relation.EqvGen Cancels long short) : locationOf long = locationOf short := by
  induction h with
  | rel _ _ hcancels =>
      exact hcancels.locationOf_eq
  | refl _ =>
      rfl
  | symm _ _ _ ih =>
      exact ih.symm
  | trans _ _ _ _ _ ih₁ ih₂ =>
      exact ih₁.trans ih₂

/-- One component is cancelled behind a location, or it is the last one of the next location. -/
theorem Location.cancels_enter (here : Location) {step : Component} (hstep : step ≠ .root)
    (rest : List Component) :
    Relation.EqvGen Cancels (here.components ++ step :: rest)
      ((here.enter step).components ++ rest) := by
  cases step with
  | root =>
      exact absurd rfl hstep
  | current =>
      rw [enter_current]
      exact .rel _ _ (.current _ _)
  | name name =>
      have hcomponents :
          (here.enter (.name name)).components = here.components ++ [.name name] := by
        cases here with
        | underRoot names =>
            simp [enter, components]
        | fromStart above names =>
            simp [enter, components]
      rw [hcomponents, List.append_assoc]
      exact .refl _
  | parent =>
      cases here with
      | underRoot names =>
          cases names with
          | nil =>
              exact .rel _ _ (.root rest)
          | cons name names =>
              have hpair := Cancels.pair (underRoot names).components name rest
              simpa [enter, components] using Relation.EqvGen.rel _ _ hpair
      | fromStart above names =>
          cases names with
          | nil =>
              -- nothing is left to cancel, so the location lies one directory higher
              simpa [enter, components, List.replicate_succ'] using Relation.EqvGen.refl _
          | cons name names =>
              have hpair := Cancels.pair (fromStart above names).components name rest
              simpa [enter, components] using Relation.EqvGen.rel _ _ hpair

theorem Location.cancels_foldl (here : Location) {rest : List Component} (hrest : .root ∉ rest) :
    Relation.EqvGen Cancels (here.components ++ rest) (rest.foldl enter here).components := by
  induction rest generalizing here with
  | nil =>
      rw [List.append_nil]
      exact .refl _
  | cons step rest ih =>
      rw [List.mem_cons, not_or] at hrest
      have hfirst := here.cancels_enter (Ne.symm hrest.1) rest
      exact hfirst.trans _ _ _ (ih (here.enter step) hrest.2)

/-! ## The components of a path -/

theorem slash_notMem_of_mem_splitSlashes {s part : List Char} (h : part ∈ splitSlashes s) :
    '/' ∉ part := by
  induction s generalizing part with
  | nil =>
      rw [splitSlashes, List.foldr_nil, List.mem_singleton] at h
      subst h
      exact List.not_mem_nil
  | cons c s ih =>
      by_cases hc : c = '/'
      · subst hc
        rw [splitSlashes_slash] at h
        rcases List.mem_cons.1 h with rfl | h
        · exact List.not_mem_nil
        · exact ih h
      · rcases List.exists_cons_of_ne_nil (splitSlashes_ne_nil s) with ⟨first, parts, hparts⟩
        rw [hparts] at ih
        rw [splitSlashes_cons hc hparts] at h
        rcases List.mem_cons.1 h with rfl | h
        · have hfirst := ih List.mem_cons_self
          simp [hfirst, Ne.symm hc]
        · exact ih (List.mem_cons_of_mem _ h)

/-- A path is parts between slashes, with the root before them if it starts with a slash. The parts
are no root, and their names are names. -/
theorem steps_cases (path : String) :
    ∃ parts, .root ∉ parts ∧ (∀ name, .name name ∈ parts → IsName name) ∧
      ((path.toList.head? = some '/' ∧ steps path = .root :: parts) ∨
        (path.toList.head? ≠ some '/' ∧ steps path = parts)) := by
  have hpart :
      ∀ {part : List Char} {component : Component}, componentOf? part = some component →
        component ≠ .root ∧ ∀ name, component = .name name → part = name.toList := by
    intro part component h
    unfold componentOf? at h
    split at h
    · cases h
    · split at h
      · cases h
        simp
      · split at h
        · cases h
          simp
        · cases h
          refine ⟨by simp, ?_⟩
          rintro name hname
          cases hname
          rw [String.toList_ofList]
  refine ⟨(splitSlashes path.toList).filterMap componentOf?, ?_, ?_, ?_⟩
  · intro hroot
    rcases List.mem_filterMap.1 hroot with ⟨part, -, hcomponent⟩
    exact (hpart hcomponent).1 rfl
  · intro name hname
    rcases List.mem_filterMap.1 hname with ⟨part, hmem, hcomponent⟩
    have htext := (hpart hcomponent).2 name rfl
    rw [htext] at hcomponent hmem
    exact ⟨hcomponent, slash_notMem_of_mem_splitSlashes hmem⟩
  · by_cases hslash : path.toList.head? = some '/'
    · exact .inl ⟨hslash, if_pos hslash⟩
    · exact .inr ⟨hslash, if_neg hslash⟩

theorem isAbsolute_location (path : String) :
    (location path).isAbsolute = true ↔ path.toList.head? = some '/' := by
  rcases steps_cases path with ⟨parts, hroot, -, ⟨hslash, hsteps⟩ | ⟨hslash, hsteps⟩⟩
  · rw [location, locationOf, hsteps, List.foldl_cons, Location.isAbsolute_foldl hroot]
    simp [hslash, Location.enter, Location.isAbsolute]
  · rw [location, locationOf, hsteps, Location.isAbsolute_foldl hroot]
    simp [hslash, Location.isAbsolute]

theorem cancels_location (path : String) :
    Relation.EqvGen Cancels (steps path) (location path).components := by
  rw [location, locationOf]
  rcases steps_cases path with ⟨parts, hroot, -, ⟨-, hsteps⟩ | ⟨-, hsteps⟩⟩
  · rw [hsteps, List.foldl_cons]
    exact Location.cancels_foldl (.underRoot []) hroot
  · rw [hsteps]
    exact Location.cancels_foldl (.fromStart 0 []) hroot

/-- Paths lead to the same location exactly if their locations are the same. -/
theorem sameLocation_iff {path other : String} :
    SameLocation path other ↔ location path = location other := by
  constructor
  · exact locationOf_eq_of_eqvGen
  · intro h
    have hother := (cancels_location other).symm
    rw [← h] at hother
    exact (cancels_location path).trans _ _ _ hother

instance (path other : String) : Decidable (SameLocation path other) :=
  decidable_of_iff _ sameLocation_iff.symm

/-! ## Climbing -/

/-- Somewhere on the way the upper directory is asked for where no name is left to take back. -/
def ClimbsFrom (here : Location) : List Component → Prop
  | [] => False
  | step :: rest => (step = .parent ∧ here.names = []) ∨ ClimbsFrom (here.enter step) rest

instance decidableClimbsFrom (here : Location) (rest : List Component) :
    Decidable (ClimbsFrom here rest) :=
  match rest with
  | [] => inferInstanceAs (Decidable False)
  | step :: rest =>
    have := decidableClimbsFrom (here.enter step) rest
    inferInstanceAs (Decidable ((step = .parent ∧ here.names = []) ∨ _))

/-- The path leads above the root, or above the directory that it starts in. -/
def Climbs (path : String) : Prop :=
  ClimbsFrom (.fromStart 0 []) (steps path)

instance (path : String) : Decidable (Climbs path) :=
  decidableClimbsFrom _ _

namespace ClimbsFrom

variable {rest : List Component}

/-- Above the start is what a path climbs to. -/
theorem above_iff (here : Location) (hroot : .root ∉ rest) (hrelative : here.isAbsolute = false) :
    here.above ≤ (rest.foldl Location.enter here).above ∧
      (ClimbsFrom here rest ↔ (rest.foldl Location.enter here).above ≠ here.above) := by
  induction rest generalizing here with
  | nil =>
      simp [ClimbsFrom]
  | cons step rest ih =>
      rw [List.mem_cons, not_or] at hroot
      have hnext : (here.enter step).isAbsolute = false := by
        rw [Location.isAbsolute_enter (Ne.symm hroot.1), hrelative]
      rcases ih (here.enter step) hroot.2 hnext with ⟨hle, hiff⟩
      rw [List.foldl_cons, ClimbsFrom, hiff]
      cases here with
      | underRoot names =>
          cases hrelative
      | fromStart above names =>
          cases step with
          | root =>
              exact absurd rfl hroot.1
          | current =>
              simpa [Location.enter] using hle
          | name name =>
              simpa [Location.enter, Location.above] using hle
          | parent =>
              cases names with
              | nil =>
                  have hup :
                      (Location.fromStart above []).enter .parent = .fromStart (above + 1) [] := rfl
                  have habove : ∀ n names, (Location.fromStart n names).above = n := fun _ _ => rfl
                  rw [hup, habove] at hle
                  rw [hup, habove, habove]
                  simp only [Location.names, true_and, true_or, true_iff]
                  omega
              | cons name names =>
                  simpa [Location.enter, Location.above, Location.names] using hle

end ClimbsFrom

/-! ## Normal forms -/

/-- The stack of a path: the names of its location, and under them the root, as long as the path did
not climb. -/
theorem foldl_push_eq {rest : List Component} (hroot : .root ∉ rest) (here : Location)
    (rooted : Prop) [Decidable rooted] :
    rest.foldl push (here.names.map .name ++ if rooted then [.root] else []) =
      (rest.foldl Location.enter here).names.map .name ++
        if rooted ∧ ¬ ClimbsFrom here rest then [.root] else [] := by
  induction rest generalizing here rooted with
  | nil =>
      simp [ClimbsFrom]
  | cons step rest ih =>
      rw [List.mem_cons, not_or] at hroot
      rw [List.foldl_cons, List.foldl_cons]
      cases step with
      | root =>
          exact absurd rfl hroot.1
      | current =>
          have hrest := ih hroot.2 here rooted
          simpa [push, ClimbsFrom, Location.enter_current] using hrest
      | name name =>
          have hrest := ih hroot.2 (here.enter (.name name)) rooted
          rw [Location.names_enter_name] at hrest
          simpa [push, ClimbsFrom] using hrest
      | parent =>
          cases hnames : here.names with
          | nil =>
              -- nothing is taken back but the root
              have hrest := ih hroot.2 (here.enter .parent) False
              rw [Location.names_enter_parent, hnames] at hrest
              by_cases hrooted : rooted
              · simpa [push, ClimbsFrom, hnames, hrooted] using hrest
              · simpa [push, ClimbsFrom, hnames, hrooted] using hrest
          | cons name names =>
              have hrest := ih hroot.2 (here.enter .parent) rooted
              rw [Location.names_enter_parent, hnames] at hrest
              simpa [push, ClimbsFrom, hnames] using hrest

/-- The path starts at the root and does not climb. -/
def Anchored (path : String) : Prop :=
  path.toList.head? = some '/' ∧ ¬ Climbs path

instance (path : String) : Decidable (Anchored path) :=
  inferInstanceAs (Decidable (_ ∧ _))

/-- A normal form is the names of the location, after the root if the path is anchored. -/
theorem normalize_eq (path : String) :
    normalize path =
      (if Anchored path then [.root] else []) ++ (location path).names.reverse.map .name := by
  have hstack :
      (steps path).foldl push [] =
        (location path).names.map .name ++ if Anchored path then [.root] else [] := by
    rcases steps_cases path with ⟨parts, hroot, -, ⟨hslash, hsteps⟩ | ⟨hslash, hsteps⟩⟩
    · have hanchored : Anchored path ↔ True ∧ ¬ ClimbsFrom (.underRoot []) parts := by
        simp [Anchored, Climbs, hslash, hsteps, ClimbsFrom, Location.enter]
      rw [if_congr hanchored rfl rfl, location, locationOf, hsteps]
      exact foldl_push_eq hroot (.underRoot []) True
    · have hanchored : Anchored path ↔ False ∧ ¬ ClimbsFrom (.fromStart 0 []) parts := by
        simp [Anchored, hslash]
      rw [if_congr hanchored rfl rfl, location, locationOf, hsteps]
      exact foldl_push_eq hroot (.fromStart 0 []) False
  rw [normalize, hstack, List.reverse_append, List.map_reverse]
  split
  · rfl
  · rfl

theorem head?_normalize (path : String) : (normalize path).head? = some .root ↔ Anchored path := by
  rw [normalize_eq]
  by_cases hanchored : Anchored path
  · simp [hanchored]
  · simp only [hanchored, if_false, List.nil_append, iff_false]
    intro hhead
    have hmem := List.mem_of_head? hhead
    simp at hmem

/-- Paths have the same normal form exactly if their locations have the same names, and both are
anchored or neither is. -/
theorem normalize_eq_iff {path other : String} :
    normalize path = normalize other ↔
      (location path).names = (location other).names ∧ (Anchored path ↔ Anchored other) := by
  constructor
  · intro h
    have hanchored : Anchored path ↔ Anchored other := by
      rw [← head?_normalize, h, head?_normalize]
    refine ⟨?_, hanchored⟩
    rw [normalize_eq, normalize_eq, if_congr hanchored rfl rfl, List.append_cancel_left_eq] at h
    exact List.reverse_inj.1 ((List.map_inj_right fun _ _ hname => Component.name.inj hname).1 h)
  · rintro ⟨hnames, hanchored⟩
    rw [normalize_eq, normalize_eq, hnames, if_congr hanchored rfl rfl]

/-- A path that does not climb lies under the root or under its start. -/
theorem above_location {path : String} (h : ¬ Climbs path) : (location path).above = 0 := by
  unfold location locationOf
  rcases steps_cases path with ⟨parts, hroot, -, ⟨-, hsteps⟩ | ⟨-, hsteps⟩⟩
  · have habsolute : (parts.foldl Location.enter (.underRoot [])).isAbsolute = true :=
      Location.isAbsolute_foldl hroot
    rw [hsteps, List.foldl_cons]
    change (parts.foldl Location.enter (.underRoot [])).above = 0
    revert habsolute
    cases parts.foldl Location.enter (.underRoot []) with
    | underRoot names =>
        intro
        rfl
    | fromStart above names =>
        intro habsolute
        cases habsolute
  · have habove := (ClimbsFrom.above_iff (.fromStart 0 []) hroot rfl).2
    rw [Climbs, hsteps] at h
    rw [hsteps]
    exact not_not.1 (habove.not.1 h)

/-! ## Paths made of names -/

/-- The path down the names, of which the last comes first. -/
def ofNames : List String → String
  | [] => ""
  | name :: names => join (ofNames names) name

theorem Location.mem_names_foldl {here : Location} {rest : List Component} {name : String}
    (h : name ∈ (rest.foldl enter here).names) : name ∈ here.names ∨ .name name ∈ rest := by
  induction rest generalizing here with
  | nil =>
      exact .inl h
  | cons step rest ih =>
      rcases ih h with hnext | hrest
      · cases step with
        | root =>
            cases hnext
        | current =>
            rw [enter_current] at hnext
            exact .inl hnext
        | parent =>
            rw [names_enter_parent] at hnext
            exact .inl (List.mem_of_mem_tail hnext)
        | name other =>
            rw [names_enter_name] at hnext
            rcases List.mem_cons.1 hnext with rfl | hnext
            · exact .inr List.mem_cons_self
            · exact .inl hnext
      · exact .inr (List.mem_cons_of_mem _ hrest)

/-- A location goes through proper names. -/
theorem isName_of_mem_location {path name : String} (h : name ∈ (location path).names) :
    IsName name := by
  rcases steps_cases path with ⟨parts, -, hnames, ⟨-, hsteps⟩ | ⟨-, hsteps⟩⟩
  · rw [location, locationOf, hsteps] at h
    rcases Location.mem_names_foldl h with hstart | hpart
    · cases hstart
    · exact hnames name (by simpa using hpart)
  · rw [location, locationOf, hsteps] at h
    rcases Location.mem_names_foldl h with hstart | hpart
    · cases hstart
    · exact hnames name hpart

theorem Location.foldl_names (above : Nat) (done names : List String) :
    (names.map Component.name).foldl enter (fromStart above done) =
      fromStart above (names.reverse ++ done) := by
  induction names generalizing done with
  | nil =>
      rfl
  | cons name names ih =>
      rw [List.map_cons, List.foldl_cons]
      change (names.map Component.name).foldl enter (fromStart above (name :: done)) = _
      rw [ih]
      simp

theorem not_climbsFrom_names (here : Location) (names : List String) :
    ¬ ClimbsFrom here (names.map .name) := by
  induction names generalizing here with
  | nil =>
      exact not_false
  | cons name names ih =>
      rw [List.map_cons, ClimbsFrom]
      rintro (⟨hparent, -⟩ | hrest)
      · cases hparent
      · exact ih _ hrest

theorem steps_ofNames {names : List String} (h : ∀ name ∈ names, IsName name) :
    steps (ofNames names) = names.reverse.map .name := by
  induction names with
  | nil =>
      rfl
  | cons name names ih =>
      rcases List.forall_mem_cons.1 h with ⟨hname, hnames⟩
      rw [ofNames, hname.steps_join, ih hnames]
      simp

/-- Every path has a partner without special names that goes through the names of its location. -/
theorem exists_direct (path : String) :
    ∃ direct, ¬ Climbs direct ∧ ¬ Anchored direct ∧
      location direct = .fromStart 0 (location path).names := by
  have hsteps :
      steps (ofNames (location path).names) = (location path).names.reverse.map .name :=
    steps_ofNames fun _ => isName_of_mem_location
  have hlocation :
      location (ofNames (location path).names) = .fromStart 0 (location path).names := by
    rw [location, locationOf, hsteps, Location.foldl_names, List.reverse_reverse, List.append_nil]
  refine ⟨ofNames (location path).names, ?_, ?_, hlocation⟩
  · rw [Climbs, hsteps]
    exact not_climbsFrom_names _ _
  · rintro ⟨hslash, -⟩
    have habsolute := (isAbsolute_location _).2 hslash
    rw [hlocation] at habsolute
    cases habsolute

/-! ## Normal forms and locations -/

/-- Paths that do not climb have the same normal form exactly if they lead to the same location. -/
theorem normalize_eq_iff_sameLocation {path other : String} (h : ¬ Climbs path)
    (hother : ¬ Climbs other) : normalize path = normalize other ↔ SameLocation path other := by
  have habove : (location path).above = (location other).above := by
    rw [above_location h, above_location hother]
  have hanchored :
      (Anchored path ↔ Anchored other) ↔
        (location path).isAbsolute = (location other).isAbsolute := by
    rw [Bool.eq_iff_iff, isAbsolute_location, isAbsolute_location]
    simp [Anchored, h, hother]
  rw [sameLocation_iff, Location.ext_iff, normalize_eq_iff, hanchored]
  exact ⟨fun hsame => ⟨hsame.2, habove, hsame.1⟩, fun hsame => ⟨hsame.2.2, hsame.1⟩⟩

/-- A path that climbs has the normal form of one that does not, but leads to another location. -/
theorem exists_other_location {path : String} (h : Climbs path) :
    ∃ other, ¬ Climbs other ∧ normalize path = normalize other ∧ ¬ SameLocation path other := by
  rcases exists_direct path with ⟨direct, hdirect, hstart, hlocation⟩
  refine ⟨direct, hdirect, normalize_eq_iff.2 ⟨?_, ?_⟩, ?_⟩
  · rw [hlocation]
    rfl
  · exact iff_of_false (fun hanchored => hanchored.2 h) hstart
  · rw [sameLocation_iff, hlocation]
    intro hsame
    rcases steps_cases path with ⟨parts, hroot, -, ⟨hslash, -⟩ | ⟨-, hsteps⟩⟩
    · have habsolute := (isAbsolute_location path).2 hslash
      rw [hsame] at habsolute
      cases habsolute
    · -- without a root the path ends above its start
      have habove := (ClimbsFrom.above_iff (.fromStart 0 []) hroot rfl).2
      rw [Climbs, hsteps] at h
      rw [location, locationOf, hsteps] at hsame
      rw [habove, hsame] at h
      exact h rfl

/-- What a normal form tells of a path. It tells its location among the paths that do not climb,
exactly if the path does not climb itself. In general it tells the names of the location, and whether
the path starts at the root without climbing. So in a store such paths share a file if and only if
they lead to the same location. -/
theorem normalize_names_location (path : String) :
    (¬ Climbs path ↔
      ∀ other, ¬ Climbs other → (normalize path = normalize other ↔ SameLocation path other)) ∧
    (∀ other, normalize path = normalize other ↔
      (location path).names = (location other).names ∧ (Anchored path ↔ Anchored other)) ∧
    ((normalize path).head? = some .root ↔ path.toList.head? = some '/' ∧ ¬ Climbs path) ∧
    ∀ (store : MemoryStore) (text other : String), ¬ Climbs path → ¬ Climbs other →
      (store.write path text).contents? other =
        if SameLocation other path then some text else store.contents? other := by
  refine ⟨⟨?_, ?_⟩, fun _ => normalize_eq_iff, head?_normalize path, ?_⟩
  · intro h other hother
    exact normalize_eq_iff_sameLocation h hother
  · intro hall hclimbs
    rcases exists_other_location hclimbs with ⟨other, hother, hsame, hnot⟩
    exact hnot ((hall other hother).1 hsame)
  · intro store text other h hother
    rw [MemoryStore.contents?_write]
    exact if_congr (normalize_eq_iff_sameLocation hother h) rfl rfl

example :
    normalize "/a/b/../c/./d.vy" = [.root, .name "a", .name "c", .name "d.vy"] ∧
      ¬ Climbs "/a/b/../c/./d.vy" := by
  decide

/-- From the root and from the start, a path that climbs ends up at the file of another path. -/
theorem climbing_shares_entries :
    (¬ ∀ path other, normalize path = normalize other ↔ SameLocation path other) ∧
      SameLocation "/../a.vy" "/a.vy" ∧
      ¬ SameLocation "../b.vy" "b.vy" ∧ ¬ SameLocation "/../b.vy" "b.vy" ∧
      (normalize "/../a.vy").head? ≠ some .root ∧
      (MemoryStore.ofList [("/a.vy", "one"), ("b.vy", "two")]).contents? "/../a.vy" = none ∧
      (MemoryStore.ofList [("/a.vy", "one"), ("b.vy", "two")]).contents? "../b.vy" = some "two" ∧
      (MemoryStore.ofList [("/a.vy", "one"), ("b.vy", "two")]).contents? "/../b.vy" =
        some "two" := by
  have hfar : ¬ SameLocation "../b.vy" "b.vy" := by
    decide
  refine ⟨fun hall => ?_, by decide, hfar, by decide, by decide, by decide, by decide, by decide⟩
  exact hfar ((hall "../b.vy" "b.vy").1 (by decide))

end Path
end TemplateVariants
