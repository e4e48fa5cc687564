import TemplateVariants.Proofs.Performing
import TemplateVariants.Randomness.Replay
import TemplateVariants.Template.Command

/-!
# Collections that repeat their element

A collection that repeats its element is short for the collection that holds as many copies of it.
The size brings no lines of its own and is read without touching the session, so what is left of the
two is the same step, whatever the element draws, binds, puts beside the line or fails with
(`build_unrolls`).
-/

namespace TemplateVariants

open ListForm Randomness

/-- A part without lines beside it leaves no trace in a replacement. -/
theorem Replacement.within_plain_cons (line : Line) (parts : List Replacement)
    (own : Replacement) : within (plain line :: parts) own = within parts own := by
  simp [within, plain]

section Steps

variable {G : Type}

/-- The slots of a size that is a number: all of them, or none if they are too many. -/
theorem Compiling.slots_eq {text : String} {size : Int} (hsize : Argument.size text = .ok size)
    (s : Session G) :
    (Compiling.slots text : Compiling Cause G Nat) s =
      if s.maxCollectionSize < size.toNat then
        .error (.failed (.conversion (.sizeLimit size s.maxCollectionSize))) s
      else .ok size.toNat s := by
  have hread : (Compiling.ofExcept (Argument.size text) : Compiling Cause G Int) s = .ok size s :=
    Compiling.ofExcept_eq_ok.2 ⟨hsize, rfl⟩
  have hget : (get : Compiling Cause G (Session G)) s = .ok s s := rfl
  rw [Compiling.slots, Compiling.bind_of_ok hread, Compiling.bind_of_ok hget]
  by_cases hlimit : s.maxCollectionSize < size.toNat
  · simp only [hlimit, if_true]
    rfl
  · simp only [hlimit, if_false]
    rfl

variable [WordSource G] {context : Line} {text : String} {size : Int} {element : Token}

theorem ListForm.write_plain_cons (line : Line) (parts : List Replacement)
    (elements : List Line) :
    (ListForm.write context (.plain line :: parts) elements : Compiling Cause G Replacement) =
      ListForm.write context parts elements := by
  simp only [write_eq, Replacement.within_plain_cons]

namespace Command

/-- Commands of one name that do the same are noted alike. -/
theorem expand_congr {command other : Command} {s s₁ : Session G}
    (hname : command.name = other.name)
    (h : command.perform context s = other.perform context s₁) :
    command.expand context s = other.expand context s₁ := by
  unfold Command.expand Compiling.noted
  change EStateM.bind _ _ s = EStateM.bind _ _ s₁
  unfold EStateM.bind
  rw [h, hname]

/-- With a word as its size a repetition is nothing but its slots and the list of them. -/
theorem perform_build_literal (context : Line) (text : String) (element : Token) :
    ((Command.build (.literal text) element).perform context : Compiling Cause G Replacement) =
      Compiling.slots text >>= fun count =>
        (Command.collection (List.replicate count element)).perform context := by
  rw [Command.perform, Token.asText_literal, pure_bind]
  dsimp only
  congr 1
  funext count
  rw [Token.mapM_replicate_expand, Command.perform]
  simp only [ListForm.write_plain_cons]

/-- A repetition that is within the limit is the collection of the copies of its element. -/
theorem expand_build_of_le {s : Session G} (hsize : Argument.size text = .ok size)
    (hlimit : size.toNat ≤ s.maxCollectionSize) :
    (Command.build (.literal text) element).expand context s =
      (Command.collection (List.replicate size.toNat element)).expand context s := by
  have hslots :
      (Compiling.slots text : Compiling Cause G Nat) s = .ok size.toNat s := by
    rw [Compiling.slots_eq hsize, if_neg (Nat.not_lt.2 hlimit)]
  -- both are noted as collections, after the same step
  refine expand_congr rfl ?_
  rw [perform_build_literal, Compiling.bind_of_ok hslots]

/-- A repetition beyond the limit fails at once. -/
theorem expand_build_of_lt {s : Session G} (hsize : Argument.size text = .ok size)
    (hlimit : s.maxCollectionSize < size.toNat) :
    (Command.build (.literal text) element).expand context s =
      .error (.failed (.conversion (.sizeLimit size s.maxCollectionSize))) s := by
  have hslots :
      (Compiling.slots text : Compiling Cause G Nat) s =
        .error (.failed (.conversion (.sizeLimit size s.maxCollectionSize))) s := by
    rw [Compiling.slots_eq hsize, if_pos hlimit]
  refine Compiling.bind_of_error ?_
  rw [perform_build_literal]
  exact Compiling.bind_of_error hslots

end Command

/-! ## Repetitions and copies -/

/-- The tokens of a collection of at least one copy of an element that is not the flag. -/
theorem Command.ofTokens_copies {count : Nat} (hcount : 1 ≤ count)
    (helement : element ≠ .literal buildFlag) :
    Command.ofTokens (.literal "collection" :: List.replicate count element) =
      .ok (.collection (List.replicate count element)) := by
  obtain ⟨rest, rfl⟩ : ∃ rest, count = rest + 1 := ⟨count - 1, by omega⟩
  cases element with
  | literal word =>
      have hword : word ≠ buildFlag := by
        rintro rfl
        exact helement rfl
      simp [ofTokens, List.replicate_succ, ofCollectionArgs, hword]
  | command nested =>
      simp [ofTokens, List.replicate_succ, ofCollectionArgs]

/-- A collection that repeats an element as often as a word says is the collection of the copies. It
has the same outcome, be it the lines and the text or the fault, and it leaves the same session, dice
and journal included. A size below one gives the collection of no element, whatever the element is,
and a size above the limit is a fault that leaves the session as it was. -/
theorem Command.build_unrolls (context : Line) (s : Session G)
    (hsize : Argument.size text = .ok size) (helement : element ≠ .literal buildFlag) :
    ∃ repeated,
      Command.ofTokens [.literal "collection", .literal buildFlag, .literal text, element] =
        .ok repeated ∧
      (1 ≤ size → size ≤ s.maxCollectionSize →
        ∃ copies,
          Command.ofTokens (.literal "collection" :: List.replicate size.toNat element) =
            .ok copies ∧
          repeated.expand context s = copies.expand context s) ∧
      (size < 1 → repeated.expand context s = (Command.collection []).expand context s) ∧
      (s.maxCollectionSize < size →
        repeated.expand context s =
          .error (.failed (.conversion (.sizeLimit size s.maxCollectionSize))) s) := by
  have hread :
      Command.ofTokens [.literal "collection", .literal buildFlag, .literal text, element] =
        .ok (.build (.literal text) element) := by
    have hcheck : (Argument.size text).map (fun _ => ()) = .ok () := by
      rw [hsize]
      rfl
    simp only [ofTokens, ofCollectionArgs, ofBuildArgs, checkWord, hcheck]
    rfl
  refine ⟨_, hread, ?_, ?_, ?_⟩
  · intro hone hlimit
    have hcount : 1 ≤ size.toNat := by omega
    have hcopies := ofTokens_copies hcount helement
    exact ⟨_, hcopies, expand_build_of_le hsize (by omega)⟩
  · intro hnone
    have hcount : size.toNat = 0 := by omega
    rw [expand_build_of_le hsize (by omega), hcount, List.replicate_zero]
  · intro hlimit
    exact expand_build_of_lt hsize (by omega)

end Steps

/-- A list that holds a number from one to six. -/
def dieList : Token :=
  .command (.collection [.command (.rand .integer (.literal "1") (.literal "6"))])

/-- The session lets a size be three at most. -/
def limitedSession : Session Replay where
  dice := { source := { prepared := [], state := 7 } }
  maxCollectionSize := 3

/-- Two lists with a number each, repeated and as copies: each number is drawn anew. -/
theorem Command.build_unrolls_dice :
    Argument.size "+2" = .ok 2 ∧ dieList ≠ .literal buildFlag ∧
      Command.ofTokens [.literal "collection", .literal buildFlag, .literal "+2", dieList] =
        .ok (.build (.literal "+2") dieList) ∧
      Command.ofTokens [.literal "collection", dieList, dieList] =
        .ok (.collection [dieList, dieList]) ∧
      (Command.build (.literal "+2") dieList).expand [] limitedSession =
        (Command.collection [dieList, dieList]).expand [] limitedSession := by
  have hsize : Argument.size "+2" = .ok 2 := by
    with_unfolding_all rfl
  have helement : dieList ≠ .literal buildFlag := by
    intro h
    cases h
  rcases build_unrolls [] limitedSession hsize helement with ⟨repeated, hrepeated, hcopies, -, -⟩
  rcases hcopies (by decide) (by decide) with ⟨copies, hread, hexpand⟩
  have hbuild : repeated = .build (.literal "+2") dieList := by
    have hread' :
        Command.ofTokens [.literal "collection", .literal buildFlag, .literal "+2", dieList] =
          .ok (.build (.literal "+2") dieList) := by
      with_unfolding_all rfl
    rw [hread'] at hrepeated
    cases hrepeated
    rfl
  cases hread
  subst hbuild
  exact ⟨hsize, helement, hrepeated, rfl, hexpand⟩

end TemplateVariants
