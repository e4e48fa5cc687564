import TemplateVariants.Proofs.FreshIdentifiers
import TemplateVariants.Proofs.Reading
import TemplateVariants.Proofs.Writing

/-!
# Texts that stay on their line

Words hold no line feed, and neither do the names, the numbers and the separators that are drawn.
-/

namespace TemplateVariants

open ListForm Randomness

/-- At least one character, and no line feed. -/
def Text.OneLine (text : String) : Prop :=
  text ≠ "" ∧ '\n' ∉ text.toList

namespace Text.OneLine

theorem append_left {text more : String} (h : OneLine text) (hmore : '\n' ∉ more.toList) :
    OneLine (text ++ more) := by
  refine ⟨fun hempty => h.1 (String.append_eq_empty_iff.1 hempty).1, ?_⟩
  rw [String.toList_append, List.mem_append, not_or]
  exact ⟨h.2, hmore⟩

theorem of_chars {chars : List Char} (hne : chars ≠ []) (h : '\n' ∉ chars) :
    OneLine (String.ofList chars) := by
  refine ⟨fun hempty => hne (String.ofList_eq_empty_iff.1 hempty), ?_⟩
  rwa [String.toList_ofList]

theorem join {texts : List String} (hne : texts ≠ []) (h : ∀ text ∈ texts, OneLine text) :
    OneLine (String.join texts) := by
  cases texts with
  | nil =>
      exact absurd rfl hne
  | cons first texts =>
      rcases List.forall_mem_cons.1 h with ⟨hfirst, hrest⟩
      rw [String.join_cons]
      refine hfirst.append_left ?_
      rw [String.toList_join, List.mem_flatMap]
      rintro ⟨text, htext, hmem⟩
      exact (hrest text htext).2 hmem

end Text.OneLine

/-- No word holds a line feed. -/
theorem Body.IsWord.oneLine {text : String} (h : Body.IsWord text) : Text.OneLine text := by
  refine ⟨h.1, fun hmem => ?_⟩
  have hchar := h.2 '\n' hmem
  revert hchar
  decide

/-! ## Numbers -/

namespace Numeral

/-- Numbers are written with letters and digits, a sign and a point. -/
def isNumberChar (c : Char) : Bool :=
  c.isAlphanum || c == '-' || c == '.'

/-- The text has a character, and none that no number is written with. -/
def IsNumber (text : String) : Prop :=
  text ≠ "" ∧ ∀ c ∈ text.toList, isNumberChar c = true

namespace IsNumber

variable {text more : String}

theorem not_mem (h : IsNumber text) {c : Char} (hc : isNumberChar c = false) :
    c ∉ text.toList := by
  intro hmem
  have hnumber := h.2 c hmem
  rw [hc] at hnumber
  cases hnumber

theorem oneLine (h : IsNumber text) : Text.OneLine text :=
  ⟨h.1, h.not_mem (by decide)⟩

theorem append_left (h : IsNumber text) (hmore : more.toList.all isNumberChar = true) :
    IsNumber (text ++ more) := by
  refine ⟨fun hempty => h.1 (String.append_eq_empty_iff.1 hempty).1, ?_⟩
  rw [String.toList_append]
  exact List.forall_mem_append.2 ⟨h.2, List.all_eq_true.1 hmore⟩

theorem append_right (h : IsNumber text) (hmore : more.toList.all isNumberChar = true) :
    IsNumber (more ++ text) := by
  refine ⟨fun hempty => h.1 (String.append_eq_empty_iff.1 hempty).2, ?_⟩
  rw [String.toList_append]
  exact List.forall_mem_append.2 ⟨List.all_eq_true.1 hmore, h.2⟩

theorem of_chars {chars : List Char} (hne : chars ≠ [])
    (h : ∀ c ∈ chars, isNumberChar c = true) : IsNumber (String.ofList chars) := by
  refine ⟨fun hempty => hne (String.ofList_eq_empty_iff.1 hempty), ?_⟩
  rwa [String.toList_ofList]

end IsNumber

theorem isNumber_repr (n : Nat) : IsNumber (Nat.repr n) := by
  constructor
  · intro hempty
    have hdigits := congrArg String.toList hempty
    rw [Nat.toList_repr] at hdigits
    exact Nat.toDigits_ne_nil hdigits
  · intro c hc
    rw [Nat.toList_repr] at hc
    have hdigit := Nat.isDigit_of_mem_toDigits (by decide) (by decide) hc
    simp [isNumberChar, Char.isAlphanum, hdigit]

theorem isNumber_toString (n : Int) : IsNumber (toString n) := by
  rw [Int.toString_eq_repr, Int.repr_eq_if]
  split
  · exact isNumber_repr _
  · exact (isNumber_repr _).append_right (by decide)

theorem isNumber_positional (digits : Nat) (place : Int) : IsNumber (positional digits place) := by
  have hdigits := (isNumber_repr digits).2
  have hzeros : ∀ n, ∀ c ∈ List.replicate n '0', isNumberChar c = true := by
    intro n c hc
    rw [List.eq_of_mem_replicate hc]
    decide
  unfold positional
  dsimp only
  split
  · have hne : (Nat.repr digits).toList ≠ [] := by
      intro hnil
      exact (isNumber_repr digits).1 (String.toList_eq_nil_iff.1 hnil)
    refine .of_chars (fun hnil => hne (List.append_eq_nil_iff.1 hnil).1) ?_
    exact List.forall_mem_append.2 ⟨hdigits, hzeros _⟩
  · split
    · -- the point stands among the digits
      refine .of_chars (by simp) (List.forall_mem_append.2 ⟨?_, ?_⟩)
      · intro c hc
        exact hdigits c (List.mem_of_mem_take hc)
      · refine List.forall_mem_cons.2 ⟨by decide, ?_⟩
        intro c hc
        exact hdigits c (List.mem_of_mem_drop hc)
    · refine .of_chars (by simp) (List.forall_mem_cons.2 ⟨by decide, ?_⟩)
      exact List.forall_mem_cons.2 ⟨by decide, List.forall_mem_append.2 ⟨hzeros _, hdigits⟩⟩

theorem isNumber_floatText (bits : UInt64) : IsNumber (floatText bits) := by
  have hsign :
      (if bits &&& 0x8000000000000000 = 0 then "" else "-").toList.all isNumberChar = true := by
    split
    · decide
    · decide
  have hword : ∀ text : String, text ≠ "" → text.toList.all isNumberChar = true → IsNumber text :=
    fun _ hne hall => ⟨hne, List.all_eq_true.1 hall⟩
  unfold floatText
  dsimp only
  split
  · exact hword _ (by decide) (by decide)
  · split
    · exact (hword _ (by decide) (by decide)).append_right hsign
    · split
      · exact (hword _ (by decide) (by decide)).append_right hsign
      · exact (isNumber_positional _ _).append_right hsign

theorem isNumber_floatLiteral (bits : UInt64) : IsNumber (floatLiteral bits) := by
  unfold floatLiteral
  dsimp only
  split
  · exact (isNumber_floatText bits).append_left (by decide)
  · exact isNumber_floatText bits

end Numeral

/-! ## Draws -/

namespace Fresh

variable {name : String} {candidates : List String}

/-- A candidate is the text, perhaps without its first character. -/
theorem oneLine_of_candidate? {text candidate : String} (htext : '\n' ∉ text.toList)
    (h : candidate? text = some candidate) : Text.OneLine candidate := by
  have hchars :
      ∀ chars : List Char, '\n' ∉ chars →
        (if chars.isEmpty then none else some (String.ofList chars)) = some candidate →
        Text.OneLine candidate := by
    intro chars hmem hsome
    split at hsome
    · cases hsome
    · rename_i hne
      cases hsome
      exact .of_chars (fun hnil => hne (by rw [hnil]; rfl)) hmem
  unfold candidate? at h
  dsimp only at h
  split at h
  · rename_i cs heq
    rw [heq] at htext
    exact hchars cs (fun hmem => htext (List.mem_cons_of_mem _ hmem)) h
  · exact hchars text.toList htext h

/-- Whatever comes up for a name stays on its line, if the name and the candidates do. -/
theorem Drawn.oneLine {drawn : String} (h : Drawn name candidates drawn)
    (hname : Text.OneLine name)
    (hcandidates : ∀ candidate ∈ candidates, Text.OneLine candidate) : Text.OneLine drawn := by
  cases h with
  | name =>
      exact hname
  | candidate hmem =>
      exact hcandidates drawn hmem
  | letter n =>
      have hall : ∀ k : Fin 26, Char.ofNat ('a'.toNat + k) ≠ '\n' := by decide
      have hletter := hall ⟨n % 26, Nat.mod_lt n (by decide)⟩
      refine ⟨by simp [Fresh.letter], ?_⟩
      simpa [Fresh.letter] using hletter.symm
  | stock hmem =>
      have hall : stockNames.all fun stock => stock ≠ "" && !stock.toList.contains '\n' := by decide
      have hstock := List.all_eq_true.1 hall drawn hmem
      simpa [Text.OneLine] using hstock
  | numbered n =>
      exact (hname.append_left (by decide)).append_left (Numeral.isNumber_repr n).oneLine.2

end Fresh

namespace ListForm

/-- The separators of a literal stay on their line, and a synthetic name is a word. -/
def Writing.OneLine : Writing → Prop
  | literal spacing _ => '\n' ∉ spacing.toList
  | appended name => Body.IsWord name

theorem Writing.Drawn.oneLine {count : Nat} {writing : Writing} (h : Writing.Drawn count writing) :
    writing.OneLine := by
  cases h with
  | literal hspacing _ =>
      rcases hspacing with rfl | rfl
      · exact List.not_mem_nil
      · show '\n' ∉ [' ']
        decide
  | @appended name hlength hletters =>
      have halphabet : ∀ c ∈ alphabet, Body.isWordChar c = true := List.all_eq_true.1 rfl
      refine ⟨fun hempty => ?_, fun c hc => halphabet c (hletters c hc)⟩
      rw [hempty] at hlength
      cases hlength

end ListForm

end TemplateVariants
