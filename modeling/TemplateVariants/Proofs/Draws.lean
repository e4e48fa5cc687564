import TemplateVariants.Proofs.Steps

/-!
# How draws end

A draw uses words of the source, and it stalls only where the source gives as many rejected words in
a row as the dice have patience for. `Gives P draw` says so of a draw, and that what it gives
satisfies `P`. It is taken apart like the draw, and each draw has one lemma of this kind.
-/

namespace TemplateVariants
namespace Randomness

/-! ## Words -/

section Words

variable {G : Type} [WordSource G]

/-- The second source is what is left of the first one when some of its words are used. -/
inductive Leaves : G → G → Prop where
  | refl (g : G) :
      Leaves g g
  | word32 {g g' : G} :
      Leaves (WordSource.next32 g).2 g' →
      Leaves g g'
  | word64 {g g' : G} :
      Leaves (WordSource.next64 g).2 g' →
      Leaves g g'

theorem Leaves.trans {g g₁ g' : G} (h : Leaves g g₁) (hmore : Leaves g₁ g') : Leaves g g' := by
  induction h with
  | refl _ =>
      exact hmore
  | word32 _ ih =>
      exact .word32 (ih hmore)
  | word64 _ ih =>
      exact .word64 (ih hmore)

/-- Words of one width, as numbers. -/
structure Words (G : Type) [WordSource G] where
  next : G → Nat × G
  leaves : ∀ g, Leaves g (next g).2

def words32 : Words G where
  next g := ((WordSource.next32 g).1.toNat, (WordSource.next32 g).2)
  leaves _ := .word32 (.refl _)

def words64 : Words G where
  next g := ((WordSource.next64 g).1.toNat, (WordSource.next64 g).2)
  leaves _ := .word64 (.refl _)

/-- The next word. -/
def Words.draw (words : Words G) : Draw G Nat := fun dice =>
  .ok (words.next dice.source).1 { dice with source := (words.next dice.source).2 }

/-- So many words in a row stand for no value. -/
def Words.Rejected (words : Words G) (s : Spread) : Nat → G → Prop
  | 0, _ => True
  | n + 1, g => s.value? (words.next g).1 = none ∧ words.Rejected s n (words.next g).2

/-- So many words in a row are rejected in a range. -/
inductive Rejects (n : Nat) (g : G) : Prop where
  | below64 (count : Nat) :
      words64.Rejected (.shifted 64 count) n g →
      Rejects n g
  | below32 (count : Nat) :
      words32.Rejected (.shifted 32 count) n g →
      Rejects n g
  | belowWidest32 (count : Nat) :
      words32.Rejected (.widest 32 count) n g →
      Rejects n g

end Words

/-! ## Dice before and after -/

/-- The dice are thrown with words of their source. If a draw stalls, as many of them in a row were
rejected as the dice have patience for. -/
structure Dice.Runs {G : Type} [WordSource G] (dice : Dice G) (stalled : Bool) (dice' : Dice G) :
    Prop where
  leaves : Leaves dice.source dice'.source
  patience : dice'.patience = dice.patience
  rejects : stalled = true → ∃ g, Leaves dice.source g ∧ Rejects dice.patience g

/-- The source never gives as many rejected words in a row as the dice have patience for. -/
def Dice.Steady {G : Type} [WordSource G] (dice : Dice G) : Prop :=
  ∀ g, Leaves dice.source g → ¬ Rejects dice.patience g

namespace Dice.Runs

variable {G : Type} [WordSource G] {dice dice₁ dice' : Dice G} {stalled : Bool}

theorem refl (dice : Dice G) : dice.Runs false dice where
  leaves := .refl _
  patience := rfl
  rejects h := by cases h

theorem trans (h : dice.Runs false dice₁) (hmore : dice₁.Runs stalled dice') :
    dice.Runs stalled dice' where
  leaves := h.leaves.trans hmore.leaves
  patience := hmore.patience.trans h.patience
  rejects hstalled := by
    rcases hmore.rejects hstalled with ⟨g, hleaves, hrejects⟩
    rw [h.patience] at hrejects
    exact ⟨g, h.leaves.trans hleaves, hrejects⟩

theorem word (words : Words G) (dice : Dice G) :
    dice.Runs false { dice with source := (words.next dice.source).2 } where
  leaves := words.leaves _
  patience := rfl
  rejects h := by cases h

end Dice.Runs

/-! ## Draws -/

variable {G α β : Type} [WordSource G] {P : α → Prop} {Q : β → Prop}

/-- Whatever the draw gives satisfies `P`, and the draw uses the dice as it should. -/
structure Gives (P : α → Prop) (draw : Draw G α) : Prop where
  ok {dice dice' : Dice G} {a : α} : draw dice = .ok a dice' → P a ∧ dice.Runs false dice'
  stalled {dice dice' : Dice G} {e : Stalled} : draw dice = .error e dice' → dice.Runs true dice'

theorem gives_pure {a : α} (h : P a) : Gives P (pure a : Draw G α) where
  ok hdraw := by
    rcases Compiling.pure_eq_ok.1 hdraw with ⟨rfl, rfl⟩
    exact ⟨h, .refl _⟩
  stalled hdraw := by
    cases hdraw

theorem Gives.bind {draw : Draw G α} {next : α → Draw G β} (h : Gives P draw)
    (hnext : ∀ a, P a → Gives Q (next a)) : Gives Q (draw >>= next) where
  ok hdraw := by
    rcases Compiling.bind_eq_ok.1 hdraw with ⟨a, dice₁, hfirst, hrest⟩
    rcases h.ok hfirst with ⟨ha, hruns⟩
    rcases (hnext a ha).ok hrest with ⟨hb, hmore⟩
    exact ⟨hb, hruns.trans hmore⟩
  stalled {dice _ _} hdraw := by
    cases hfirst : draw dice with
    | ok a dice₁ =>
        rw [Compiling.bind_of_ok hfirst] at hdraw
        rcases h.ok hfirst with ⟨ha, hruns⟩
        exact hruns.trans ((hnext a ha).stalled hdraw)
    | error e dice₁ =>
        rw [Compiling.bind_of_error hfirst] at hdraw
        cases hdraw
        exact h.stalled hfirst

theorem gives_replicate {draw : Draw G α} (h : Gives P draw) (n : Nat) :
    Gives (fun as => as.length = n ∧ ∀ a ∈ as, P a) ((List.replicate n ()).mapM fun _ => draw) := by
  induction n with
  | zero =>
      exact gives_pure (by simp)
  | succ n ih =>
      rw [List.replicate_succ, List.mapM_cons]
      refine h.bind fun first hfirst => ih.bind fun rest hrest => gives_pure ?_
      exact ⟨by simp [hrest.1], List.forall_mem_cons.2 ⟨hfirst, hrest.2⟩⟩

/-! ### Numbers in a range -/

theorem gives_word (words : Words G) : Gives (fun _ => True) words.draw where
  ok {dice _ _} hdraw := by
    cases hdraw
    exact ⟨trivial, .word words dice⟩
  stalled hdraw := by
    cases hdraw

/-- Words are drawn until one is accepted, and if none is then all were rejected. -/
theorem retry_ends (words : Words G) (s : Spread) (tries : Nat) (dice : Dice G) :
    (∃ value dice', Draw.retry words.draw s.value? tries dice = .ok value dice' ∧
      dice.Runs false dice') ∨
    (∃ e dice', Draw.retry words.draw s.value? tries dice = .error e dice' ∧
      dice.Runs false dice' ∧ words.Rejected s tries dice.source) := by
  induction tries generalizing dice with
  | zero =>
      exact .inr ⟨_, dice, rfl, .refl dice, trivial⟩
  | succ tries ih =>
      have hword :
          words.draw dice =
            .ok (words.next dice.source).1 { dice with source := (words.next dice.source).2 } := rfl
      have hruns := Dice.Runs.word words dice
      rw [Draw.retry, Compiling.bind_of_ok hword]
      cases haccept : s.value? (words.next dice.source).1 with
      | some value =>
          exact .inl ⟨value, _, rfl, hruns⟩
      | none =>
          rcases ih { dice with source := (words.next dice.source).2 } with
            ⟨value, dice', hretry, hmore⟩ | ⟨e, dice', hretry, hmore, hrejected⟩
          · exact .inl ⟨value, dice', hretry, hruns.trans hmore⟩
          · exact .inr ⟨e, dice', hretry, hruns.trans hmore, haccept, hrejected⟩

theorem gives_spread {words : Words G} {s : Spread}
    (hrange : ∀ n g, words.Rejected s n g → Rejects n g) :
    Gives (fun _ => True) (Draw.spread words.draw s) where
  ok {dice dice' value} hdraw := by
    have hspread : Draw.retry words.draw s.value? dice.patience dice = .ok value dice' := hdraw
    rcases retry_ends words s dice.patience dice with
      ⟨_, _, hretry, hruns⟩ | ⟨_, _, hretry, -, -⟩
    · rw [hspread] at hretry
      cases hretry
      exact ⟨trivial, hruns⟩
    · rw [hspread] at hretry
      cases hretry
  stalled {dice dice' e} hdraw := by
    have hspread : Draw.retry words.draw s.value? dice.patience dice = .error e dice' := hdraw
    rcases retry_ends words s dice.patience dice with
      ⟨_, _, hretry, -⟩ | ⟨_, _, hretry, hruns, hrejected⟩
    · rw [hspread] at hretry
      cases hretry
    · rw [hspread] at hretry
      cases hretry
      exact ⟨hruns.leaves, hruns.patience, fun _ => ⟨dice.source, .refl _, hrange _ _ hrejected⟩⟩

theorem gives_below64 (count : Nat) : Gives (fun _ => True) (Draw.below64 count : Draw G Nat) :=
  gives_spread fun _ _ => .below64 count

theorem gives_below32 (count : Nat) : Gives (fun _ => True) (Draw.below32 count : Draw G Nat) :=
  gives_spread fun _ _ => .below32 count

theorem gives_belowWidest32 (count : Nat) :
    Gives (fun _ => True) (Draw.belowWidest32 count : Draw G Nat) :=
  gives_spread fun _ _ => .belowWidest32 count

theorem gives_between (lower upper : Int) :
    Gives (fun _ => True) (Draw.between lower upper : Draw G Int) := by
  unfold Draw.between
  dsimp only
  split
  · exact (gives_word words64).bind fun _ _ => gives_pure trivial
  · exact (gives_below64 _).bind fun _ _ => gives_pure trivial

/-! ### Other draws -/

theorem gives_chance (threshold : Nat) :
    Gives (fun _ => True) (Draw.chance threshold : Draw G Bool) :=
  (gives_word words64).bind fun _ _ => gives_pure trivial

theorem gives_unit : Gives (fun _ => True) (Draw.unit : Draw G Float) :=
  (gives_word words64).bind fun _ _ => gives_pure trivial

/-- From a list something is chosen, unless the list is empty. -/
theorem gives_choose (items : List α) :
    Gives (fun chosen => ∀ item, chosen = some item → item ∈ items)
      (Draw.choose items : Draw G (Option α)) := by
  unfold Draw.choose
  split
  · exact gives_pure (by simp)
  · exact (gives_below32 _).bind fun _ _ => gives_pure fun _ hitem => List.mem_of_getElem? hitem

end Randomness
end TemplateVariants
