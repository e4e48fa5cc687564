import TemplateVariants.Proofs.CommandLine.Variants
import TemplateVariants.Proofs.Suite.Scratch

/-!
# Verdicts on templates

`Passes` tells when an attempt passes, from the variant, the files of the suite and what the
interpreter makes of the variant; a file with expected output counts if it is text (`Agrees`). A
template is ok exactly if it can be read, has a scratch directory and passes all its attempts
(`Judged.ok_iff`). The dice go on from one attempt to the next and over all templates, and an attempt
that fails is the last one of its template (`Judged`, `runFiles_judged`).
-/

namespace TemplateVariants

open Randomness

/-- What the path of a variant looks like: it starts at the root and ends as the paths of programs
do. -/
structure Suite.IsVariantPath (path : String) : Prop where
  absolute : path.toList.head? = some '/'
  ending : ".py".toList <:+ path.toList

/-- When the command runs the interpreter on a variant, it makes of it what the function says, and
leaves the files alone. What comes of it depends on the program with its arguments, and on the path
and the text of the variant. -/
def Interpreter.RunsAs (interpreter : Interpreter) (command : String)
    (run : String → List String → String → String → Except String ProgramOutput) : Prop :=
  ∀ program args path files text,
    (Text.words command.toList).map String.ofList = program :: args → Suite.IsVariantPath path →
    FileTree.readText files path = .ok text →
    interpreter program (args ++ [path]) files = ⟨run program args path text, files⟩

namespace Suite

/-! ## Expectations -/

/-- What a program wrote agrees with the files beside a template, as far as these are text. Nothing is
expected on the error output where there is no such file. -/
structure Agrees (files : FileTree) (directory name : String) (written : ProgramOutput) :
    Prop where
  stdout : ∀ want, files.readText (Path.join directory (name ++ ".expected")) = .ok want →
    normalize (Text.decodeLossy written.stdout) = normalize want
  stderr : ∀ want, files.readText (Path.join directory (name ++ ".expected-stderr")) = .ok want →
    normalize (Text.decodeLossy written.stderr) = normalize want
  silent : (∀ want, files.readText (Path.join directory (name ++ ".expected-stderr")) ≠ .ok want) →
    normalize (Text.decodeLossy written.stderr) = normalize ""

theorem Expectation.mismatch?_eq_none_iff {e : Expectation} {written : ProgramOutput} :
    e.mismatch? written = none ↔
      (∀ want, e.stdout? = some want →
        normalize (Text.decodeLossy written.stdout) = normalize want) ∧
      normalize (Text.decodeLossy written.stderr) = normalize e.stderr := by
  unfold mismatch?
  dsimp only
  cases e.stdout? with
  | none =>
      by_cases herr : normalize (Text.decodeLossy written.stderr) = normalize e.stderr
      · simp [herr]
      · simp [herr]
  | some want =>
      by_cases hout : normalize (Text.decodeLossy written.stdout) = normalize want
      · by_cases herr : normalize (Text.decodeLossy written.stderr) = normalize e.stderr
        · simp [hout, herr]
        · simp [hout, herr]
      · simp [hout]

theorem Expectation.read_mismatch?_eq_none_iff {files : FileTree} {directory name : String}
    {written : ProgramOutput} :
    (Expectation.read files directory name).mismatch? written = none ↔
      Agrees files directory name written := by
  rw [mismatch?_eq_none_iff]
  unfold Expectation.read
  dsimp only
  constructor
  · rintro ⟨hout, herr⟩
    refine ⟨fun want hwant => hout want (by rw [hwant]; rfl), fun want hwant => ?_, fun hnone => ?_⟩
    · rw [hwant] at herr
      exact herr
    · cases hread : files.readText (Path.join directory (name ++ ".expected-stderr")) with
      | ok want =>
          exact absurd hread (hnone want)
      | error fault =>
          rw [hread] at herr
          exact herr
  · rintro ⟨hout, herr, hsilent⟩
    refine ⟨fun want hwant => hout want ?_, ?_⟩
    · cases hread : files.readText (Path.join directory (name ++ ".expected")) with
      | ok text =>
          rw [hread] at hwant
          cases hwant
          rfl
      | error fault =>
          rw [hread] at hwant
          cases hwant
    · cases hread : files.readText (Path.join directory (name ++ ".expected-stderr")) with
      | ok want =>
          exact herr want hread
      | error fault =>
          refine hsilent fun want hwant => ?_
          rw [hread] at hwant
          cases hwant

/-! ## Attempts -/

/-- The attempt passes: its variant is compiled, has a path that the file system takes, and is run,
and what is written then agrees with the files of the suite. -/
def Passes {G : Type} (run : String → List String → String → String → Except String ProgramOutput)
    (setup : Setup) (files : FileTree) (place : List String) (file : String) (count : Nat)
    (variant : Compilation G) : Prop :=
  ∃ text program args written,
    variant.outcome = .ok text ∧ FileTree.Fits (variantPath place file count) ∧
    (Text.words setup.command.toList).map String.ofList = program :: args ∧
    run program args (variantPath place file count) text = .ok written ∧
    Agrees files setup.directory (Path.stem file) written

theorem isVariantPath_variantPath {place : List String} {file : String} {count : Nat}
    (hname : Path.IsName (variantName (Path.stem file) count)) :
    IsVariantPath (variantPath place file count) := by
  have hdirectory : (Path.ofPlace place).toList = '/' :: (String.intercalate "/" place).toList := by
    simp [Path.ofPlace]
  have hname' :
      (variantName (Path.stem file) count).toList =
        (Path.stem file ++ "_" ++ Nat.repr count).toList ++ ".py".toList := by
    simp [variantName]
  have hjoin :
      ∃ between, (variantPath place file count).toList =
        '/' :: (between ++ (variantName (Path.stem file) count).toList) := by
    have hempty : (Path.ofPlace place).isEmpty = false := by
      rw [Bool.eq_false_iff, ne_eq, String.isEmpty_iff, ← String.toList_eq_nil_iff, hdirectory]
      simp
    unfold variantPath Path.join
    rw [if_neg (by simp [hname.head?_ne, hempty])]
    split
    · exact ⟨(String.intercalate "/" place).toList, by simp [hdirectory]⟩
    · exact ⟨(String.intercalate "/" place).toList ++ ['/'], by simp [hdirectory]⟩
  rcases hjoin with ⟨between, hpath⟩
  refine ⟨by rw [hpath]; rfl, ?_⟩
  rw [hpath, hname', ← List.append_assoc, ← List.cons_append]
  exact List.suffix_append _ _

section Attempts

variable {G : Type} [WordSource G]
  {run : String → List String → String → String → Except String ProgramOutput}
  {interpreter : Interpreter} {setup : Setup} {start tree : FileTree} {place : List String}
  {file : String}

/-- The judgement on a variant that has been written. -/
theorem judge_eq_none_iff (start : FileTree) (file : String)
    (hrun : interpreter.RunsAs setup.command run) {path text : String} (hpath : IsVariantPath path)
    (hread : tree.readText path = .ok text) :
    ((judge interpreter setup.command (Expectation.read start setup.directory (Path.stem file)) path
        tree).1 = none ↔
      ∃ program args written,
        (Text.words setup.command.toList).map String.ofList = program :: args ∧
        run program args path text = .ok written ∧
        Agrees start setup.directory (Path.stem file) written) ∧
    (judge interpreter setup.command (Expectation.read start setup.directory (Path.stem file)) path
      tree).2 = tree := by
  unfold judge
  cases hwords : (Text.words setup.command.toList).map String.ofList with
  | nil =>
      simp
  | cons program args =>
      dsimp only
      rw [hrun program args path tree text hwords hpath hread]
      dsimp only
      cases hresult : run program args path text with
      | error reason =>
          simp [hresult]
      | ok written =>
          simp [hresult, Expectation.read_mismatch?_eq_none_iff]

/-- An attempt passes exactly if nothing is found wrong, and it leaves the suite as it is. -/
theorem attempt_eq_none_iff (hrun : interpreter.RunsAs setup.command run)
    (htree : start.WellFormed) (hvacant : start.Vacant place) (h : Works start place tree)
    {count : Nat} (hname : Path.IsName (variantName (Path.stem file) count)) (doc : Document)
    (dice : Dice G) :
    let a := attempt interpreter setup.command
      (Expectation.read start setup.directory (Path.stem file)) doc (variantPath place file count)
      tree dice
    (a.failure? = none ↔
      Passes run setup start place file count (doc.compile {} dice)) ∧
    Works start place a.files ∧ a.session = (doc.compile {} dice).session := by
  have hpaved : tree.Paved place := h.paved htree hvacant
  dsimp only
  unfold attempt
  cases houtcome : (doc.compile {} dice).outcome with
  | error halt =>
      rw [Document.deliver_of_error houtcome]
      refine ⟨?_, h, rfl⟩
      simp [Passes, houtcome]
  | ok text =>
      by_cases hfits : FileTree.Fits (variantPath place file count)
      · have hwrite : tree.writeText (variantPath place file count) text = _ :=
          hpaved.writeText_of_fits hvacant.ne_nil hname hfits (h.files _) text
        rw [Document.deliver_of_ok houtcome hwrite]
        have hworks := h.put (variantName (Path.stem file) count) text.toUTF8
        have hread :
            (tree.put (place ++ [variantName (Path.stem file) count])
              (.file text.toUTF8)).readText (variantPath place file count) = .ok text := by
          have hlocate := ((hworks.paved htree hvacant).locate_join_eq_ok hname).2 ⟨hfits, rfl⟩
          refine FileTree.readText_eq_ok.2 ⟨_, _, hlocate, ?_, Text.decode?_toUTF8 text⟩
          rw [FileTree.node?_put _ _ _ _ (by simp), if_pos rfl]
        rcases judge_eq_none_iff start file hrun (isVariantPath_variantPath hname) hread with
          ⟨hjudge, hfiles⟩
        dsimp only
        refine ⟨?_, ?_, rfl⟩
        · rw [hjudge, Passes]
          simp [houtcome, hfits]
        · rw [hfiles]
          exact hworks
      · -- what cannot be written cannot be run
        have hwrite : ∃ fault, tree.writeText (variantPath place file count) text = _ :=
          hpaved.writeText_of_not_fits hvacant.ne_nil hname hfits text
        rcases hwrite with ⟨fault, hwrite⟩
        rw [Document.deliver_of_fault houtcome hwrite]
        refine ⟨?_, h, rfl⟩
        simp [Passes, hfits]

/-- The verdict on a template, from the dice that it is given, and the dice that it leaves: it cannot
be read, or has no scratch directory, or all its attempts pass, or one of them is the first that does
not and the last that is made. -/
inductive Judged (run : String → List String → String → String → Except String ProgramOutput)
    (setup : Setup) (files : FileTree) (scratch : Except String (List String)) (file : String)
    (dice : Dice G) : Tap.Verdict → Dice G → Prop where
  | unread {e : CompileError} :
      Document.load files (Path.join setup.directory file) = .error e →
      Judged run setup files scratch file dice
        (.notOk ("template does not parse: " ++ e.display)) dice
  | unplaced {doc : Document} {reason : String} :
      Document.load files (Path.join setup.directory file) = .ok doc →
      scratch = .error reason →
      Judged run setup files scratch file dice
        (.notOk ("cannot create scratch directory: " ++ reason)) dice
  | passed {doc : Document} {place : List String} :
      Document.load files (Path.join setup.directory file) = .ok doc →
      scratch = .ok place →
      (∀ count < setup.attempts,
        Passes run setup files place file count (doc.variant {} dice count)) →
      Judged run setup files scratch file dice .ok (doc.diceAfter {} dice setup.attempts)
  | failed {doc : Document} {place : List String} {count : Nat} (failure : Failure)
      (variant : String) :
      Document.load files (Path.join setup.directory file) = .ok doc →
      scratch = .ok place →
      count < setup.attempts →
      (∀ earlier < count,
        Passes run setup files place file earlier (doc.variant {} dice earlier)) →
      ¬ Passes run setup files place file count (doc.variant {} dice count) →
      Judged run setup files scratch file dice
        (.notOk (diagnostic (count + 1) setup.attempts failure variant))
        (doc.diceAfter {} dice (count + 1))

/-- A template is ok exactly if it can be read, has a scratch directory and passes all its attempts. -/
theorem Judged.ok_iff {scratch : Except String (List String)} {dice dice' : Dice G}
    {verdict : Tap.Verdict} (h : Judged run setup start scratch file dice verdict dice') :
    verdict = .ok ↔
      ∃ doc place, Document.load start (Path.join setup.directory file) = .ok doc ∧
        scratch = .ok place ∧
        ∀ count < setup.attempts,
          Passes run setup start place file count (doc.variant {} dice count) := by
  cases h with
  | unread hload =>
      simp [hload]
  | unplaced hload hscratch =>
      simp [hscratch]
  | passed hload hscratch hpasses =>
      exact ⟨fun _ => ⟨_, _, hload, hscratch, hpasses⟩, fun _ => rfl⟩
  | failed failure variant hload hscratch hcount _ hfails =>
      constructor
      · intro heq
        cases heq
      · rintro ⟨doc, place, hdoc, hplace, hpasses⟩
        rw [hload] at hdoc
        cases hdoc
        rw [hscratch] at hplace
        cases hplace
        exact absurd (hpasses _ hcount) hfails

/-- A template that is ok uses up all its attempts. -/
theorem Judged.dice_of_ok {scratch : Except String (List String)} {dice dice' : Dice G}
    (h : Judged run setup start scratch file dice .ok dice') {doc : Document}
    (hdoc : Document.load start (Path.join setup.directory file) = .ok doc) :
    dice' = doc.diceAfter {} dice setup.attempts := by
  cases h with
  | passed hload _ _ =>
      rw [hload] at hdoc
      cases hdoc
      rfl

/-- The first attempt that does not pass is the last one, and the report tells its number. -/
theorem Judged.notOk_of_first {scratch : Except String (List String)} {dice dice' : Dice G}
    {verdict : Tap.Verdict} (h : Judged run setup start scratch file dice verdict dice')
    {doc : Document} (hdoc : Document.load start (Path.join setup.directory file) = .ok doc)
    (hscratch : scratch = .ok place) {count : Nat} (hcount : count < setup.attempts)
    (hbefore : ∀ earlier < count,
      Passes run setup start place file earlier (doc.variant {} dice earlier))
    (hfails : ¬ Passes run setup start place file count (doc.variant {} dice count)) :
    dice' = doc.diceAfter {} dice (count + 1) ∧
      ∃ failure variant, verdict = .notOk (diagnostic (count + 1) setup.attempts failure variant) := by
  cases h with
  | unread hload =>
      rw [hload] at hdoc
      cases hdoc
  | unplaced hload hplace =>
      rw [hplace] at hscratch
      cases hscratch
  | passed hload hplace hpasses =>
      rw [hload] at hdoc
      cases hdoc
      rw [hplace] at hscratch
      cases hscratch
      exact absurd (hpasses count hcount) hfails
  | @failed _ _ count' failure variant hload hplace hcount' hbefore' hfails' =>
      rw [hload] at hdoc
      cases hdoc
      rw [hplace] at hscratch
      cases hscratch
      -- there is only one first attempt that does not pass
      rcases Nat.lt_trichotomy count count' with hlt | rfl | hgt
      · exact absurd (hbefore' count hlt) hfails
      · exact ⟨rfl, failure, variant, rfl⟩
      · exact absurd (hbefore count' hgt) hfails'

/-- The attempts that are left go on from those that have passed. -/
theorem attempts_judged (hrun : interpreter.RunsAs setup.command run) (htree : start.WellFormed)
    {scratch : Except String (List String)} (hscratch : scratch = .ok place)
    (hvacant : start.Vacant place)
    (hnames : ∀ count, Path.IsName (variantName (Path.stem file) count)) {doc : Document}
    (hdoc : Document.load start (Path.join setup.directory file) = .ok doc) (dice : Dice G)
    {left : Nat} (hleft : left ≤ setup.attempts) (progress : Progress G)
    (hworks : Works start place progress.files)
    (hdice : progress.dice = doc.diceAfter {} dice (setup.attempts - left))
    (hbefore : ∀ count < setup.attempts - left,
      Passes run setup start place file count (doc.variant {} dice count)) :
    let r := attempts interpreter setup.command
      (Expectation.read start setup.directory (Path.stem file)) doc (variantPath place file)
      setup.attempts left progress
    Judged run setup start scratch file dice r.1 r.2.dice ∧ Works start place r.2.files := by
  induction left generalizing progress with
  | zero =>
      refine ⟨?_, hworks⟩
      rw [attempts, hdice]
      exact .passed hdoc hscratch hbefore
  | succ left ih =>
      have hattempt := attempt_eq_none_iff hrun htree hvacant hworks
        (hnames (setup.attempts - (left + 1))) doc progress.dice
      dsimp only at hattempt ⊢
      rcases hattempt with ⟨hpasses, hfiles, hsession⟩
      have hnext : setup.attempts - (left + 1) + 1 = setup.attempts - left := by
        omega
      have hvariant :
          doc.compile {} progress.dice = doc.variant {} dice (setup.attempts - (left + 1)) := by
        rw [Document.variant, ← hdice]
      rw [hvariant] at hpasses hsession
      have hafter :
          (doc.variant {} dice (setup.attempts - (left + 1))).session.dice =
            doc.diceAfter {} dice (setup.attempts - (left + 1) + 1) := rfl
      rw [attempts]
      dsimp only
      generalize attempt interpreter setup.command
        (Expectation.read start setup.directory (Path.stem file)) doc
        (variantPath place file (setup.attempts - (left + 1))) progress.files progress.dice = a
        at hpasses hfiles hsession ⊢
      cases hfailure : a.failure? with
      | none =>
          refine ih (by omega) _ hfiles ?_ ?_
          · dsimp only
            rw [hsession, hafter, hnext]
          · intro count hcount
            rcases Nat.lt_succ_iff_lt_or_eq.1 (hnext ▸ hcount) with hcount | rfl
            · exact hbefore count hcount
            · exact hpasses.1 hfailure
      | some failure =>
          -- this attempt is the last one
          refine ⟨?_, hfiles⟩
          have hfails : ¬ Passes run setup start place file (setup.attempts - (left + 1))
              (doc.variant {} dice (setup.attempts - (left + 1))) := by
            intro hpass
            have hnone := hpasses.2 hpass
            rw [hfailure] at hnone
            cases hnone
          dsimp only
          rw [hsession, hafter]
          exact .failed failure _ hdoc hscratch (by omega) hbefore hfails

/-! ## Templates -/

/-- What a template of a suite may be called. -/
structure IsTemplate (file : String) : Prop where
  isName : Path.IsName file
  extension : Path.extension? file = some "vy"

namespace IsTemplate

variable (h : IsTemplate file)

include h

theorem stem_noSlash : '/' ∉ (Path.stem file).toList := by
  intro hslash
  rw [Path.stem, h.isName.fileName?] at hslash
  exact h.isName.noSlash (Path.mem_of_mem_stem hslash)

theorem isName_variantName (count : Nat) : Path.IsName (variantName (Path.stem file) count) :=
  .numbered h.stem_noSlash (by decide) count

theorem isName_beside (ending : String) (hletter : 'x' ∈ ending.toList)
    (hending : '/' ∉ ending.toList) : Path.IsName (Path.stem file ++ ending) := by
  refine .of_mem (c := 'x') (by simp [hletter]) (by decide) ?_
  simp [h.stem_noSlash, hending]

end IsTemplate

theorem Rests.read (h : Rests start tree) (directory name : String) :
    Expectation.read tree directory name = Expectation.read start directory name := by
  unfold Expectation.read
  dsimp only
  rw [h.readText, h.readText]

section

variable {scratch : Scratch} (hrun : interpreter.RunsAs setup.command run)
  (htree : start.WellFormed) (hscratch : scratch.MakesNew start)

include hrun htree hscratch

/-- The verdict on a template, which leaves the suite as it was at the start. -/
theorem verdict_judged (hfile : IsTemplate file) (number : Nat) {progress : Progress G}
    (hrests : Rests start progress.files) :
    let r := verdict interpreter scratch setup number file progress
    Judged run setup start (scratch number) file progress.dice r.1 r.2.dice ∧
      Rests start r.2.files := by
  have hload :
      Document.load progress.files (Path.join setup.directory file) =
        Document.load start (Path.join setup.directory file) :=
    FileTree.load_congr (hrests.readText _)
  dsimp only
  unfold verdict
  rw [hrests.read, hload]
  cases hdoc : Document.load start (Path.join setup.directory file) with
  | error e =>
      exact ⟨.unread hdoc, hrests⟩
  | ok doc =>
      dsimp only
      cases hplace : scratch number with
      | error reason =>
          exact ⟨.unplaced hdoc rfl, hrests⟩
      | ok place =>
          have hvacant : start.Vacant place := hscratch number place hplace
          have hthere : (.ok place : Except String (List String)) = .ok place := rfl
          have hattempts := attempts_judged hrun htree hthere hvacant hfile.isName_variantName hdoc
            progress.dice (Nat.le_refl setup.attempts)
            { progress with
              files := progress.files.put place .directory
              journal := doc.parsedEvent :: progress.journal }
            (hrests.works htree hvacant) (by rw [Nat.sub_self]; rfl) (by simp)
          dsimp only at hattempts ⊢
          rcases hattempts with ⟨hjudged, hworks⟩
          exact ⟨hjudged, hworks.rests htree hvacant⟩

/-- The verdicts on templates one after the other. -/
theorem runFiles_judged {files : List String} (hfiles : ∀ file ∈ files, IsTemplate file)
    (number : Nat) {progress : Progress G} (hrests : Rests start progress.files) :
    ∃ dice : Nat → Dice G, dice 0 = progress.dice ∧
      (runFiles interpreter scratch setup number files progress).1.map Tap.Result.name =
        files.map Path.stem ∧
      ∀ (i : Nat) (file : String) (result : Tap.Result), files[i]? = some file →
        (runFiles interpreter scratch setup number files progress).1[i]? = some result →
        Judged run setup start (scratch (number + i)) file (dice i) result.verdict
          (dice (i + 1)) := by
  induction files generalizing number progress with
  | nil =>
      exact ⟨fun _ => progress.dice, rfl, rfl, by simp⟩
  | cons file files ih =>
      have hverdict := verdict_judged hrun htree hscratch (hfiles file List.mem_cons_self) number
        hrests
      dsimp only at hverdict
      rw [runFiles]
      dsimp only
      rcases hverdict with ⟨hjudged, hnext⟩
      rcases ih (fun other hother => hfiles other (List.mem_cons_of_mem _ hother)) (number + 1)
        hnext with ⟨dice, hdice, hnames, hall⟩
      refine ⟨fun i => Nat.casesOn i progress.dice dice, rfl, ?_, ?_⟩
      · rw [List.map_cons, List.map_cons, hnames]
      · intro i other result hother hresult
        cases i with
        | zero =>
            cases hother
            cases hresult
            dsimp only
            rw [hdice]
            exact hjudged
        | succ i =>
            rw [Nat.add_comm i 1, ← Nat.add_assoc, Nat.add_comm 1 i]
            exact hall i other result hother hresult

end

end Attempts

end Suite

end TemplateVariants
