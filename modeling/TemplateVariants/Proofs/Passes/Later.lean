import TemplateVariants.Proofs.Passes.Convergence

/-!
# Passes after the first

`PassesTo file first start n lines s` says that `n` passes lead from the lines `first` and the
session `start` to the lines and the session given. After at least one pass the lines are scoped,
however many passes follow, so each further pass finds every name declared that it looks up. A
compilation with enough passes therefore fails where its first pass does, and with the same fault.
-/

namespace TemplateVariants

open Randomness

section Passes

variable {G : Type} [WordSource G]

/-- Passes, one after the other, each with its event. -/
inductive PassesTo (file : String) (first : List PendingLine) (start : Session G) :
    Nat → List PendingLine → Session G → Prop where
  | none :
      PassesTo file first start 0 first start
  | next {n : Nat} {lines next : List PendingLine} {s s₁ : Session G} :
      PassesTo file first start n lines s →
      expandPass file lines s = .ok next s₁ →
      PassesTo file first start (n + 1) next
        (s₁.record (.expanded file (n + 1) (PendingLine.commandCount lines) next.length))

namespace PassesTo

variable {file : String} {first lines : List PendingLine} {start s : Session G} {n : Nat}

/-- Names stand for text after any number of passes. -/
theorem settled (h : PassesTo file first start n lines s) (hstart : start.Settled) :
    s.Settled := by
  induction h with
  | none =>
      exact hstart
  | next _ hpass ih =>
      rcases expandPass_eq_ok_iff.1 hpass with ⟨expanded, hrun, -⟩
      exact (hrun.sound_and_settled ih).2.record _

/-- From the first pass on, look-ups come after declarations. -/
theorem scoped_lines (h : PassesTo file first start (n + 1) lines s) (hstart : start.Settled) :
    Scoped [] (lines.flatMap PendingLine.tokens) := by
  cases h with
  | next hbefore hpass =>
      rcases expandPass_eq_ok_iff.1 hpass with ⟨expanded, hrun, rfl⟩
      exact hrun.scoped_lines (hbefore.settled hstart)

end PassesTo

namespace Document

/-- Once the first pass has succeeded, no later pass faults: what it looks up is declared to its
left. With two passes allowed, a compilation fails exactly if its first pass does, and with the same
fault. -/
theorem later_passes_never_fault (doc : Document) (options : Options) (dice : Dice G) :
    (∀ n lines s,
      PassesTo doc.file (PendingLine.ofDocument doc) (options.session dice) (n + 1) lines s →
        (∀ e s', expandPass doc.file lines s ≠ .error (.failed e) s') ∧
        (∀ before name after,
          lines.flatMap PendingLine.tokens = before ++ .command (.get name) :: after →
            .command (.var name []) ∈ before)) ∧
    (2 ≤ options.maxPasses →
      ∀ e, (doc.compile options dice).outcome = .error (.failed e) ↔
        ∃ s', expandPass doc.file (PendingLine.ofDocument doc) (options.session dice) =
          .error (.failed e) s') := by
  have hsettled := options.settled_session dice
  refine ⟨fun n lines s hpasses => ?_, fun hallowed e => ?_⟩
  · have hscoped := hpasses.scoped_lines hsettled
    refine ⟨fun e s' hfault => ?_, fun before name after htokens => ?_⟩
    · exact faultsIn_expandPass_of_scoped hscoped e s' hfault
    · rw [htokens] at hscoped
      exact hscoped.declared_before.resolve_left (by simp)
  · rw [compile_outcome_error_iff]
    constructor
    · rintro ⟨s', hresult⟩
      rcases Settles.exists_calls doc.file options.maxPasses 0 (PendingLine.ofDocument doc)
        (options.session dice) with ⟨calls, hrun⟩
      rw [hresult] at hrun
      generalize hleft : options.maxPasses = left at hrun hallowed
      cases hrun with
      | exhausted _ =>
          omega
      | halted _ hpass =>
          exact ⟨s', hpass⟩
      | again _ hpass hrest =>
          -- the fault would be one of a later pass
          rcases expandPass_eq_ok_iff.1 hpass with ⟨expanded, hfirst, rfl⟩
          have hs₁ := (hfirst.sound_and_settled hsettled).2.record
          have hnone := (hrest.of_scoped (hs₁ _) (hfirst.scoped_lines hsettled)).2 e s' rfl
          omega
    · rintro ⟨s', hpass⟩
      have hsome : PendingLine.commandCount (PendingLine.ofDocument doc) ≠ 0 := by
        intro hnone
        exact faultsIn_expandPass_of_scoped (PendingLine.scoped_of_commandCount hnone) e s' hpass
      obtain ⟨left, hleft⟩ := Nat.exists_eq_add_of_le hallowed
      rw [hleft, Nat.add_comm 2 left]
      exact ⟨s', (Settles.halted hsome hpass).settle_eq⟩

end Document

end Passes

end TemplateVariants
