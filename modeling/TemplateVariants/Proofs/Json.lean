import Mathlib.Tactic.Common

/-!
# What a JSON text says

The grammar of JSON: `Json.Says text value` where a text stands for a value. A string is told by its
characters, each as it is or behind a backslash, up to the first quotation mark that stands for none
of them; no control character may stand for itself (`Chars.exists_body`).
-/

namespace TemplateVariants
namespace Json

/-- Values. A number is told by its text. -/
inductive Value where
  | null
  | bool (value : Bool)
  | number (text : List Char)
  | string (text : String)
  | array (items : List Value)
  | object (members : List (String × Value))

/-! ## Grammar

Each relation says what stands at the front of a list of characters, and what is behind it. -/

def IsBlank (c : Char) : Prop :=
  c = ' ' ∨ c = '\t' ∨ c = '\n' ∨ c = '\r'

instance (c : Char) : Decidable (IsBlank c) :=
  inferInstanceAs (Decidable (_ ∨ _ ∨ _ ∨ _))

inductive Blanks : List Char → List Char → Prop where
  | none (l : List Char) :
      Blanks l l
  | more {c : Char} {l r : List Char} :
      IsBlank c →
      Blanks l r →
      Blanks (c :: l) r

def hexValue? (c : Char) : Option Nat :=
  if '0' ≤ c ∧ c ≤ '9' then some (c.toNat - 48)
  else if 'a' ≤ c ∧ c ≤ 'f' then some (c.toNat - 87)
  else if 'A' ≤ c ∧ c ≤ 'F' then some (c.toNat - 55)
  else none

/-- Four hexadecimal digits. -/
inductive Unit16 : List Char → Nat → List Char → Prop where
  | mk {a b c d : Char} {w x y z : Nat} {r : List Char} :
      hexValue? a = some w →
      hexValue? b = some x →
      hexValue? c = some y →
      hexValue? d = some z →
      Unit16 (a :: b :: c :: d :: r) (((w * 16 + x) * 16 + y) * 16 + z) r

/-- The letters behind a backslash, and what they stand for. -/
def shorts : List (Char × Char) :=
  [('"', '"'), ('\\', '\\'), ('/', '/'), ('b', '\x08'), ('f', '\x0c'), ('n', '\n'), ('r', '\r'),
    ('t', '\t')]

/-- One character of a string. -/
inductive Piece : List Char → Char → List Char → Prop where
  | plain {c : Char} {r : List Char} :
      c ≠ '"' →
      c ≠ '\\' →
      0x20 ≤ c.toNat →
      Piece (c :: r) c r
  | short {letter c : Char} {r : List Char} :
      (letter, c) ∈ shorts →
      Piece ('\\' :: letter :: r) c r
  | unicode {code : Nat} {l r : List Char} :
      Unit16 l code r →
      code.isValidChar →
      Piece ('\\' :: 'u' :: l) (Char.ofNat code) r
  /-- Two surrogates. -/
  | pair {high low : Nat} {l l₁ r : List Char} :
      Unit16 l high ('\\' :: 'u' :: l₁) →
      Unit16 l₁ low r →
      0xD800 ≤ high ∧ high < 0xDC00 →
      0xDC00 ≤ low ∧ low < 0xE000 →
      Piece ('\\' :: 'u' :: l) (Char.ofNat (0x10000 + (high - 0xD800) * 0x400 + (low - 0xDC00))) r

/-- The characters of a string, and the quotation mark that ends it. -/
inductive Chars : List Char → List Char → List Char → Prop where
  | close (r : List Char) :
      Chars ('"' :: r) [] r
  | more {c : Char} {text l l₁ r : List Char} :
      Piece l c l₁ →
      Chars l₁ text r →
      Chars l (c :: text) r

def AreDigits (digits : List Char) : Prop :=
  digits ≠ [] ∧ ∀ c ∈ digits, '0' ≤ c ∧ c ≤ '9'

/-- A number: a sign, a whole part that starts with a zero only where that is all of it, a fraction
and an exponent. -/
structure IsNumber (sign whole fraction exponent : List Char) : Prop where
  sign : sign = [] ∨ sign = ['-']
  whole : AreDigits whole ∧ (whole.head? = some '0' → whole = ['0'])
  fraction : fraction = [] ∨ ∃ digits, AreDigits digits ∧ fraction = '.' :: digits
  exponent : exponent = [] ∨
    ∃ e sign digits, (e = 'e' ∨ e = 'E') ∧ (sign = [] ∨ sign = ['+'] ∨ sign = ['-']) ∧
      AreDigits digits ∧ exponent = e :: (sign ++ digits)

mutual

inductive Reads : List Char → Value → List Char → Prop where
  | null {r : List Char} :
      Reads ('n' :: 'u' :: 'l' :: 'l' :: r) .null r
  | true {r : List Char} :
      Reads ('t' :: 'r' :: 'u' :: 'e' :: r) (.bool true) r
  | false {r : List Char} :
      Reads ('f' :: 'a' :: 'l' :: 's' :: 'e' :: r) (.bool false) r
  | number {sign whole fraction exponent text l r : List Char} :
      IsNumber sign whole fraction exponent →
      text = sign ++ whole ++ fraction ++ exponent →
      l = text ++ r →
      Reads l (.number text) r
  | string {text l r : List Char} :
      Chars l text r →
      Reads ('"' :: l) (.string (String.ofList text)) r
  | emptyArray {l r : List Char} :
      Blanks l (']' :: r) →
      Reads ('[' :: l) (.array []) r
  | array {items : List Value} {l r : List Char} :
      Items l items r →
      Reads ('[' :: l) (.array items) r
  | emptyObject {l r : List Char} :
      Blanks l ('}' :: r) →
      Reads ('{' :: l) (.object []) r
  | object {members : List (String × Value)} {l r : List Char} :
      Members l members r →
      Reads ('{' :: l) (.object members) r

/-- The items of an array, and the bracket that ends it. -/
inductive Items : List Char → List Value → List Char → Prop where
  | last {item : Value} {l l₁ l₂ r : List Char} :
      Blanks l l₁ →
      Reads l₁ item l₂ →
      Blanks l₂ (']' :: r) →
      Items l [item] r
  | more {item : Value} {items : List Value} {l l₁ l₂ l₃ r : List Char} :
      Blanks l l₁ →
      Reads l₁ item l₂ →
      Blanks l₂ (',' :: l₃) →
      Items l₃ items r →
      Items l (item :: items) r

/-- One member of an object, with the blanks on both sides. -/
inductive Member : List Char → String × Value → List Char → Prop where
  | mk {name : List Char} {value : Value} {l l₁ l₂ l₃ l₄ l₅ r : List Char} :
      Blanks l ('"' :: l₁) →
      Chars l₁ name l₂ →
      Blanks l₂ (':' :: l₃) →
      Blanks l₃ l₄ →
      Reads l₄ value l₅ →
      Blanks l₅ r →
      Member l (String.ofList name, value) r

/-- The members of an object, and the brace that ends it. -/
inductive Members : List Char → List (String × Value) → List Char → Prop where
  | last {member : String × Value} {l r : List Char} :
      Member l member ('}' :: r) →
      Members l [member] r
  | more {member : String × Value} {members : List (String × Value)} {l l₁ r : List Char} :
      Member l member (',' :: l₁) →
      Members l₁ members r →
      Members l (member :: members) r

end

/-- The text is JSON, and stands for the value. -/
def Says (text : String) (value : Value) : Prop :=
  ∃ l r, Blanks text.toList l ∧ Reads l value r ∧ Blanks r []

/-! ## Blanks -/

section Blanks

variable {c : Char} {l r : List Char}

theorem Blanks.exists_gap (h : Blanks l r) : ∃ gap, l = gap ++ r ∧ ∀ c ∈ gap, IsBlank c := by
  induction h with
  | none l =>
      exact ⟨[], rfl, by simp⟩
  | more hc _ ih =>
      rcases ih with ⟨gap, rfl, hgap⟩
      exact ⟨_ :: gap, rfl, List.forall_mem_cons.2 ⟨hc, hgap⟩⟩

/-- There are no blanks in front of any other character. -/
theorem Blanks.eq_of_cons (h : Blanks (c :: l) r) (hc : ¬ IsBlank c) : r = c :: l := by
  cases h with
  | none _ =>
      rfl
  | more hblank _ =>
      exact absurd hblank hc

theorem IsBlank.ne {mark : Char} (h : IsBlank c) (hmark : ¬ IsBlank mark) : c ≠ mark := by
  rintro rfl
  exact hmark h

end Blanks

/-! ## Strings -/

section Strings

variable {c : Char} {l r text : List Char} {n : Nat}

theorem printable_of_hexValue? (h : hexValue? c = some n) : 0x20 ≤ c.toNat := by
  unfold hexValue? at h
  split at h
  · rename_i hc
    exact Nat.le_trans (by decide) (Char.le_def.1 hc.1)
  · split at h
    · rename_i hc
      exact Nat.le_trans (by decide) (Char.le_def.1 hc.1)
    · split at h
      · rename_i hc
        exact Nat.le_trans (by decide) (Char.le_def.1 hc.1)
      · cases h

theorem printable_of_mem_shorts : ∀ pair ∈ shorts, 0x20 ≤ pair.1.toNat := by
  decide

theorem Unit16.exists_digits (h : Unit16 l n r) :
    ∃ digits, l = digits ++ r ∧ digits.length = 4 ∧ ∀ c ∈ digits, 0x20 ≤ c.toNat := by
  cases h with
  | mk ha hb hc hd =>
      refine ⟨[_, _, _, _], rfl, rfl, ?_⟩
      simpa using ⟨printable_of_hexValue? ha, printable_of_hexValue? hb, printable_of_hexValue? hc,
        printable_of_hexValue? hd⟩

theorem count_cons_eq (mark c : Char) (l : List Char) :
    (c :: l).count mark = [c].count mark + l.count mark := by
  rw [← List.count_append, List.singleton_append]

theorem count_singleton_le (c : Char) : [c].count '"' + [c].count '\\' ≤ 1 := by
  by_cases hquote : c = '"'
  · subst hquote
    decide
  · rw [List.count_singleton, if_neg (by simpa using hquote), Nat.zero_add]
    exact List.count_le_length

/-- What spells a character has no control character in it, and two characters at least if the
character is a quotation mark or a backslash. -/
theorem Piece.exists_body (h : Piece l c r) :
    ∃ body, l = body ++ r ∧ (∀ x ∈ body, 0x20 ≤ x.toNat) ∧
      1 + ([c].count '"' + [c].count '\\') ≤ body.length := by
  have hbackslash : 0x20 ≤ '\\'.toNat := by
    decide
  have hletter : 0x20 ≤ 'u'.toNat := by
    decide
  have hcount := count_singleton_le c
  cases h with
  | plain hquote hslash hc =>
      refine ⟨[c], rfl, by simpa using hc, ?_⟩
      simp [hquote, hslash]
  | short hshort =>
      refine ⟨[_, _], rfl, ?_, Nat.add_le_add_left hcount 1⟩
      exact List.forall_mem_cons.2
        ⟨hbackslash, List.forall_mem_singleton.2 (printable_of_mem_shorts _ hshort)⟩
  | unicode hunit _ =>
      rcases hunit.exists_digits with ⟨digits, rfl, hlength, hdigits⟩
      refine ⟨'\\' :: 'u' :: digits, rfl, ?_, ?_⟩
      · exact List.forall_mem_cons.2 ⟨hbackslash, List.forall_mem_cons.2 ⟨hletter, hdigits⟩⟩
      · rw [List.length_cons, List.length_cons]
        omega
  | pair hhigh hlow _ _ =>
      rcases hhigh.exists_digits with ⟨first, rfl, hfirst, hfirsts⟩
      rcases hlow.exists_digits with ⟨second, rfl, hsecond, hseconds⟩
      refine ⟨'\\' :: 'u' :: (first ++ '\\' :: 'u' :: second), by simp, ?_, ?_⟩
      · intro x hx
        simp only [List.mem_cons, List.mem_append] at hx
        rcases hx with rfl | rfl | hx | rfl | rfl | hx
        · exact hbackslash
        · exact hletter
        · exact hfirsts x hx
        · exact hbackslash
        · exact hletter
        · exact hseconds x hx
      · rw [List.length_cons, List.length_cons, List.length_append]
        omega

/-- What stands before the quotation mark that ends a string has no control character in it, and
at least as many characters as the string with a backslash before each quotation mark and each
backslash. -/
theorem Chars.exists_body (h : Chars l text r) :
    ∃ body, l = body ++ '"' :: r ∧ (∀ c ∈ body, 0x20 ≤ c.toNat) ∧
      text.length + (text.count '"' + text.count '\\') ≤ body.length := by
  induction h with
  | close r =>
      exact ⟨[], rfl, by simp, by simp⟩
  | @more c text _ _ r hpiece _ ih =>
      rcases hpiece.exists_body with ⟨first, rfl, hfirst, hcost⟩
      rcases ih with ⟨rest, rfl, hrest, hcosts⟩
      refine ⟨first ++ rest, by simp, ?_, ?_⟩
      · intro x hx
        exact (List.mem_append.1 hx).elim (hfirst x) (hrest x)
      · have hquotes := count_cons_eq '"' c text
        have hslashes := count_cons_eq '\\' c text
        rw [List.length_append, List.length_cons]
        omega

/-! ### Reading in front of any rest -/

theorem chars_quote_iff : Chars ('"' :: l) text r ↔ text = [] ∧ r = l := by
  constructor
  · intro h
    cases h with
    | close _ =>
        exact ⟨rfl, rfl⟩
    | more hpiece _ =>
        cases hpiece with
        | plain hquote _ _ =>
            exact absurd rfl hquote
  · rintro ⟨rfl, rfl⟩
    exact .close r

/-- A character that may stand for itself does so. -/
theorem chars_plain_iff (hquote : c ≠ '"') (hslash : c ≠ '\\') (hc : 0x20 ≤ c.toNat) :
    Chars (c :: l) text r ↔ ∃ more, text = c :: more ∧ Chars l more r := by
  constructor
  · intro h
    cases h with
    | close _ =>
        exact absurd rfl hquote
    | more hpiece hmore =>
        cases hpiece with
        | plain _ _ _ =>
            exact ⟨_, rfl, hmore⟩
        | short _ =>
            exact absurd rfl hslash
        | unicode _ _ =>
            exact absurd rfl hslash
        | pair _ _ _ _ =>
            exact absurd rfl hslash
  · rintro ⟨more, rfl, hmore⟩
    exact .more (.plain hquote hslash hc) hmore

theorem chars_escaped_quote_iff :
    Chars ('\\' :: '"' :: l) text r ↔ ∃ more, text = '"' :: more ∧ Chars l more r := by
  constructor
  · intro h
    cases h with
    | @more c more _ _ _ hpiece hmore =>
        cases hpiece with
        | plain _ hslash _ =>
            exact absurd rfl hslash
        | short hshort =>
            have hquote : c = '"' := by
              simpa [shorts] using hshort
            rw [hquote]
            exact ⟨more, rfl, hmore⟩
  · rintro ⟨more, rfl, hmore⟩
    exact .more (.short (by decide)) hmore

/-- Each character may stand for itself. -/
def ArePlain (l : List Char) : Prop :=
  ∀ c ∈ l, c ≠ '"' ∧ c ≠ '\\' ∧ 0x20 ≤ c.toNat

instance (l : List Char) : Decidable (ArePlain l) :=
  List.decidableBAll _ l

/-- Several characters that stand for themselves. -/
theorem chars_append_iff {plain : List Char} (hplain : ArePlain plain) :
    Chars (plain ++ l) text r ↔ ∃ more, text = plain ++ more ∧ Chars l more r := by
  induction plain generalizing text with
  | nil =>
      simp
  | cons c plain ih =>
      rcases List.forall_mem_cons.1 hplain with ⟨⟨hquote, hslash, hc⟩, hrest⟩
      rw [List.cons_append, chars_plain_iff hquote hslash hc]
      constructor
      · rintro ⟨more, rfl, hmore⟩
        rcases (ih hrest).1 hmore with ⟨last, rfl, hlast⟩
        exact ⟨last, rfl, hlast⟩
      · rintro ⟨last, rfl, hlast⟩
        exact ⟨plain ++ last, rfl, (ih hrest).2 ⟨last, rfl, hlast⟩⟩

end Strings

/-! ## Values by their first character -/

section Values

variable {c : Char} {l r : List Char} {value : Value}

/-- A number starts with a sign or with a digit. -/
theorem IsNumber.exists_head {sign whole fraction exponent : List Char}
    (h : IsNumber sign whole fraction exponent) :
    ∃ c rest, sign ++ whole ++ fraction ++ exponent = c :: rest ∧
      (c = '-' ∨ '0' ≤ c ∧ c ≤ '9') := by
  rcases h.sign with rfl | rfl
  · rcases h.whole.1 with ⟨hne, hdigits⟩
    rcases List.exists_cons_of_ne_nil hne with ⟨first, rest, rfl⟩
    exact ⟨first, rest ++ fraction ++ exponent, by simp, .inr (hdigits first (by simp))⟩
  · exact ⟨'-', whole ++ fraction ++ exponent, by simp, .inl rfl⟩

/-- Other characters start no number. -/
theorem IsNumber.ne_cons {sign whole fraction exponent : List Char}
    (h : IsNumber sign whole fraction exponent) (hc : c ≠ '-' ∧ ¬ ('0' ≤ c ∧ c ≤ '9')) :
    c :: l ≠ sign ++ whole ++ fraction ++ exponent ++ r := by
  rcases h.exists_head with ⟨first, rest, heq, hfirst⟩
  intro hl
  rw [heq, List.cons_append, List.cons.injEq] at hl
  rw [← hl.1] at hfirst
  exact hfirst.elim hc.1 hc.2

theorem reads_brace (h : Reads ('{' :: l) value r) :
    ∃ members, value = .object members ∧
      (members = [] ∧ Blanks l ('}' :: r) ∨ Members l members r) := by
  cases h with
  | number hnumber htext hl =>
      rw [htext] at hl
      exact absurd hl (hnumber.ne_cons (by decide))
  | emptyObject hempty =>
      exact ⟨[], rfl, .inl ⟨rfl, hempty⟩⟩
  | object hmembers =>
      exact ⟨_, rfl, .inr hmembers⟩

theorem reads_quote (h : Reads ('"' :: l) value r) :
    ∃ text, value = .string (String.ofList text) ∧ Chars l text r := by
  cases h with
  | number hnumber htext hl =>
      rw [htext] at hl
      exact absurd hl (hnumber.ne_cons (by decide))
  | string hchars =>
      exact ⟨_, rfl, hchars⟩

theorem not_reads_space : ¬ Reads (' ' :: l) value r := by
  intro h
  cases h with
  | number hnumber htext hl =>
      rw [htext] at hl
      exact hnumber.ne_cons (by decide) hl

/-- Some blanks and a quotation mark start a member, and its name ends with another one. -/
theorem Member.exists_quotes {member : String × Value} (h : Member l member r) :
    ∃ gap l₁, l = gap ++ '"' :: l₁ ∧ (∀ c ∈ gap, IsBlank c) ∧ '"' ∈ l₁ := by
  cases h with
  | mk hgap hname _ _ _ _ =>
      rcases hgap.exists_gap with ⟨gap, rfl, hblank⟩
      rcases hname.exists_body with ⟨body, rfl, -, -⟩
      exact ⟨gap, _, rfl, hblank, by simp⟩

theorem Members.exists_member {members : List (String × Value)} (h : Members l members r) :
    ∃ member l₁, Member l member l₁ := by
  cases h with
  | last hmember =>
      exact ⟨_, _, hmember⟩
  | more hmember _ =>
      exact ⟨_, _, hmember⟩

end Values

end Json
end TemplateVariants
