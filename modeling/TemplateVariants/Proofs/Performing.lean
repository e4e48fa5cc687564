import TemplateVariants.Proofs.Writing

/-!
# What the commands do when they succeed

For each command one lemma says what has to happen for it to be expanded with success: the arguments
in their order, what is drawn, bound or looked up, and what the command turns into.
-/

namespace TemplateVariants

open ListForm Randomness

section Performing

variable {G : Type} [WordSource G]

/-! ## Expanding tokens one after the other -/

namespace Token

variable {context : Line} {s s' : Session G} {r : Replacement}

theorem expandAll_cons_eq_ok {token : Token} {tokens : List Token} {rs : List Replacement} :
    Token.expandAll context (token :: tokens) s = .ok rs s' ↔
      ∃ r s₁ rest, token.expand context s = .ok r s₁ ∧
        Token.expandAll context tokens s₁ = .ok rest s' ∧ rs = r :: rest := by
  rw [Token.expandAll]
  simp only [Compiling.bind_eq_ok, Compiling.pure_eq_ok]
  constructor
  · rintro ⟨r, s₁, hfirst, rest, s₂, hrest, rfl, rfl⟩
    exact ⟨r, s₁, rest, hfirst, hrest, rfl⟩
  · rintro ⟨r, s₁, rest, hfirst, hrest, rfl⟩
    exact ⟨r, s₁, hfirst, rest, s', hrest, rfl, rfl⟩

theorem expandAll_nil_eq_ok {rs : List Replacement} :
    Token.expandAll context [] s = .ok rs s' ↔ rs = [] ∧ s = s' := by
  rw [Token.expandAll]
  simp only [Compiling.pure_eq_ok, eq_comm]

theorem expandAll_singleton_eq_ok {token : Token} :
    Token.expandAll context [token] s = .ok [r] s' ↔ token.expand context s = .ok r s' := by
  rw [expandAll_cons_eq_ok]
  constructor
  · rintro ⟨r', s₁, rest, hfirst, hrest, heq⟩
    rcases expandAll_nil_eq_ok.1 hrest with ⟨rfl, rfl⟩
    cases heq
    exact hfirst
  · intro h
    exact ⟨r, s', [], h, expandAll_nil_eq_ok.2 ⟨rfl, rfl⟩, rfl⟩

theorem expandAll_eq_mapM (tokens : List Token) :
    (Token.expandAll context tokens : Compiling Cause G _) =
      tokens.mapM (Token.expand context) := by
  induction tokens with
  | nil =>
      rw [Token.expandAll, List.mapM_nil]
  | cons token tokens ih =>
      rw [Token.expandAll, List.mapM_cons, ih]

theorem expandTexts_eq_mapM (tokens : List Token) :
    (Token.expandTexts context tokens : Compiling Cause G _) =
      tokens.mapM fun token => Compiling.asText token (token.expand context) := by
  induction tokens with
  | nil =>
      rw [Token.expandTexts, List.mapM_nil]
  | cons token tokens ih =>
      rw [Token.expandTexts, List.mapM_cons, ih]

/-- Tokens end with a failure in the first command that fails. -/
theorem expandAll_eq_error {tokens : List Token} {halt : Halt Cause} :
    Token.expandAll context tokens s = .error halt s' ↔
      ∃ left top right parts s₁, tokens = left ++ .command top :: right ∧
        Token.expandAll context left s = .ok parts s₁ ∧
        top.expand context s₁ = .error halt s' := by
  rw [expandAll_eq_mapM, Compiling.mapM_eq_error]
  constructor
  · intro h
    rcases h with ⟨left, token, right, parts, s₁, rfl, hleft, hfails⟩
    cases token with
    | literal text =>
        rw [expand] at hfails
        exact absurd hfails Compiling.pure_ne_error
    | command top =>
        rw [expand] at hfails
        exact ⟨left, top, right, parts, s₁, rfl, by rwa [expandAll_eq_mapM], hfails⟩
  · intro h
    rcases h with ⟨left, top, right, parts, s₁, rfl, hleft, hfails⟩
    rw [expandAll_eq_mapM] at hleft
    refine ⟨left, .command top, right, parts, s₁, rfl, hleft, ?_⟩
    rw [expand]
    exact hfails

/-- Repeating an element is expanding as many copies of it. -/
theorem mapM_replicate_expand (token : Token) (n : Nat) :
    ((List.replicate n ()).mapM fun _ => token.expand context : Compiling Cause G _) =
      Token.expandAll context (List.replicate n token) := by
  rw [expandAll_eq_mapM]
  induction n with
  | zero =>
      simp
  | succ n ih =>
      rw [List.replicate_succ, List.replicate_succ, List.mapM_cons, List.mapM_cons, ih]

/-- A word that stands as an argument is its own text. -/
theorem asText_literal (context : Line) (text : String) :
    (Compiling.asText (.literal text) (expand context (.literal text)) :
        Compiling Cause G _) = pure (text, .plain [.literal text]) := by
  have hplain : Line.plainText? [.literal text] = some text := by
    simp [Line.plainText?, Token.text?]
  rw [expand, Compiling.asText, pure_bind, Compiling.plainText, Replacement.plain]
  dsimp only
  rw [hplain]
  rfl

/-- Arguments come out as texts exactly if they are expanded and their results are plain. -/
theorem expandTexts_eq_ok {tokens : List Token} {parts : List (String × Replacement)} :
    Token.expandTexts context tokens s = .ok parts s' ↔
      Token.expandAll context tokens s = .ok (parts.map Prod.snd) s' ∧
        parts.map (fun part => Line.plainText? part.2.result) =
          (parts.map Prod.fst).map some := by
  induction tokens generalizing s s' parts with
  | nil =>
      rw [Token.expandTexts, expandAll_nil_eq_ok]
      simp only [Compiling.pure_eq_ok, List.map_eq_nil_iff]
      constructor
      · rintro ⟨rfl, rfl⟩
        simp
      · rintro ⟨⟨rfl, rfl⟩, -⟩
        simp
  | cons token tokens ih =>
      rw [Token.expandTexts, expandAll_cons_eq_ok]
      simp only [Compiling.bind_eq_ok, Compiling.asText_eq_ok, Compiling.pure_eq_ok, ih]
      constructor
      · rintro ⟨part, s₁, ⟨hfirst, htext⟩, rest, s₂, ⟨hrest, htexts⟩, rfl, rfl⟩
        refine ⟨⟨part.2, s₁, rest.map Prod.snd, hfirst, hrest, rfl⟩, ?_⟩
        -- each text stands beside the replacement that it was read off
        simp only [List.map_cons, htext, htexts]
      · rintro ⟨⟨r, s₁, rest, hfirst, hrest, heq⟩, htexts⟩
        cases parts with
        | nil =>
            cases heq
        | cons part parts =>
            cases heq
            simp only [List.map_cons, List.cons.injEq] at htexts
            exact ⟨part, s₁, ⟨hfirst, htexts.1⟩, parts, s', ⟨hrest, htexts.2⟩, rfl, rfl⟩

end Token

/-! ## What each command does -/

namespace Command

variable {context : Line} {s s' : Session G} {r : Replacement}

theorem expand_command_eq_ok {command : Command} :
    (Token.command command).expand context s = .ok r s' ↔
      ∃ s₁, command.perform context s = .ok r s₁ ∧
        s' = s₁.record (.collapsed command.name r.before.length r.after.length) := by
  rw [Token.expand, Compiling.noted_eq_ok]

theorem perform_var_eq_ok {name : String} {candidates : List Token} :
    (Command.var name candidates).perform context s = .ok r s' ↔
      ∃ parts s₁ identifier,
        Token.expandTexts context candidates s = .ok parts s₁ ∧
        Compiling.introduce name (parts.filterMap fun part => Fresh.candidate? part.1) s₁ =
          .ok identifier s' ∧
        r = .within (parts.map Prod.snd) (.plain [.literal identifier]) := by
  rw [Command.perform]
  simp only [Compiling.bind_eq_ok, Compiling.pure_eq_ok]
  constructor
  · rintro ⟨parts, s₁, hparts, identifier, s₂, hintroduce, rfl, rfl⟩
    exact ⟨parts, s₁, identifier, hparts, hintroduce, rfl⟩
  · rintro ⟨parts, s₁, identifier, hparts, hintroduce, rfl⟩
    exact ⟨parts, s₁, hparts, identifier, s', hintroduce, rfl, rfl⟩

theorem perform_get_eq_ok {name : String} :
    (Command.get name).perform context s = .ok r s' ↔
      ∃ value, s.lookup? name = some value ∧ s = s' ∧ r = .plain [value] := by
  rw [Command.perform]
  simp only [Compiling.bind_eq_ok, Compiling.fetch_eq_ok, Compiling.pure_eq_ok]
  constructor
  · rintro ⟨value, s₁, ⟨hvalue, rfl⟩, rfl, rfl⟩
    exact ⟨value, hvalue, rfl, rfl⟩
  · rintro ⟨value, hvalue, rfl, rfl⟩
    exact ⟨value, s, ⟨hvalue, rfl⟩, rfl, rfl⟩

theorem write_eq_ok {parts : List Replacement} {elements : List Line} :
    (ListForm.write context parts elements : Compiling Cause G Replacement) s = .ok r s' ↔
      ∃ writing,
        (Compiling.roll (drawWriting elements.length) : Compiling Cause G Writing) s =
          .ok writing s' ∧
        r = .within parts (writing.replacement (indentation context) elements) := by
  rw [write_eq]
  simp only [Compiling.bind_eq_ok, Compiling.pure_eq_ok]
  constructor
  · rintro ⟨writing, s₁, hwriting, rfl, rfl⟩
    exact ⟨writing, hwriting, rfl⟩
  · rintro ⟨writing, hwriting, rfl⟩
    exact ⟨writing, s', hwriting, rfl, rfl⟩

theorem perform_collection_eq_ok {elements : List Token} :
    (Command.collection elements).perform context s = .ok r s' ↔
      ∃ parts s₁ writing,
        Token.expandAll context elements s = .ok parts s₁ ∧
        (Compiling.roll (drawWriting parts.length) : Compiling Cause G Writing) s₁ =
          .ok writing s' ∧
        r = .within parts
          (writing.replacement (indentation context) (parts.map Replacement.result)) := by
  rw [Command.perform]
  simp only [Compiling.bind_eq_ok, write_eq_ok, List.length_map]
  constructor
  · rintro ⟨parts, s₁, hparts, writing, hwriting, rfl⟩
    exact ⟨parts, s₁, writing, hparts, hwriting, rfl⟩
  · rintro ⟨parts, s₁, writing, hparts, hwriting, rfl⟩
    exact ⟨parts, s₁, hparts, writing, hwriting, rfl⟩

theorem perform_build_eq_ok {size element : Token} :
    (Command.build size element).perform context s = .ok r s' ↔
      ∃ sized s₁ text count parts s₂ writing,
        size.expand context s = .ok sized s₁ ∧
        Line.plainText? sized.result = some text ∧
        (Compiling.slots text : Compiling Cause G Nat) s₁ = .ok count s₁ ∧
        Token.expandAll context (List.replicate count element) s₁ = .ok parts s₂ ∧
        (Compiling.roll (drawWriting parts.length) : Compiling Cause G Writing) s₂ =
          .ok writing s' ∧
        r = .within (sized :: parts)
          (writing.replacement (indentation context) (parts.map Replacement.result)) := by
  rw [Command.perform]
  simp only [Compiling.bind_eq_ok, Compiling.asText_eq_ok, Token.mapM_replicate_expand,
    write_eq_ok, List.length_map]
  constructor
  · rintro ⟨⟨text, sized⟩, s₁, ⟨hsized, htext⟩, count, s₂, hcount, parts, s₃, hparts, writing,
      hwriting, rfl⟩
    -- counting the slots leaves the session in which they are expanded
    have hsame : s₁ = s₂ := Compiling.slots_eq_ok hcount
    subst hsame
    exact ⟨sized, s₁, text, count, parts, s₃, writing, hsized, htext, hcount, hparts, hwriting,
      rfl⟩
  · rintro ⟨sized, s₁, text, count, parts, s₂, writing, hsized, htext, hcount, hparts, hwriting,
      rfl⟩
    exact ⟨(text, sized), s₁, ⟨hsized, htext⟩, count, s₁, hcount, parts, s₂, hparts, writing,
      hwriting, rfl⟩

theorem perform_rand_eq_ok {kind : NumberKind} {lower upper : Token} :
    (Command.rand kind lower upper).perform context s = .ok r s' ↔
      ∃ first s₁ low second s₂ high value,
        lower.expand context s = .ok first s₁ ∧
        Line.plainText? first.result = some low ∧
        upper.expand context s₁ = .ok second s₂ ∧
        Line.plainText? second.result = some high ∧
        (Compiling.number kind low high : Compiling Cause G String) s₂ = .ok value s' ∧
        r = .within [first, second] (.plain [.literal value]) := by
  rw [Command.perform]
  simp only [Compiling.bind_eq_ok, Compiling.asText_eq_ok, Compiling.pure_eq_ok]
  constructor
  · rintro ⟨⟨low, first⟩, s₁, ⟨hfirst, hlow⟩, ⟨high, second⟩, s₂, ⟨hsecond, hhigh⟩, value, s₃,
      hvalue, rfl, rfl⟩
    exact ⟨first, s₁, low, second, s₂, high, value, hfirst, hlow, hsecond, hhigh, hvalue, rfl⟩
  · rintro ⟨first, s₁, low, second, s₂, high, value, hfirst, hlow, hsecond, hhigh, hvalue, rfl⟩
    exact ⟨(low, first), s₁, ⟨hfirst, hlow⟩, (high, second), s₂, ⟨hsecond, hhigh⟩, value, s',
      hvalue, rfl, rfl⟩

end Command

end Performing

end TemplateVariants

