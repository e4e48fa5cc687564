import TemplateVariants.Proofs.Suite.Programs

/-!
# Reports of a suite

What the report of a suite says, and how the run ends. The templates are the files of the directory
that are called so, in order (`Suite.AreTemplates`). A template is ok exactly if it can be read and all
its attempts pass, and the run fails exactly if some template is not ok
(`CommandLine.verdicts_of_suite`).

The files beside a template say what its variants should write. Where they are legible, all of them
are compared (`Suite.agrees_iff_matches`). One that is not UTF-8 is passed over, and any output will
do for it (`CommandLine.unreadable_expectation_passes`).
-/

namespace TemplateVariants

open Randomness

/-! ## Failures -/

namespace Tap

theorem Result.passed_eq_true_iff {r : Result} : r.passed = true ↔ r.verdict = .ok := by
  unfold passed
  cases r.verdict with
  | ok =>
      simp
  | notOk diagnostic =>
      simp

theorem failures_eq_zero_iff {results : List Result} :
    failures results = 0 ↔ ∀ result ∈ results, result.verdict = .ok := by
  rw [failures, List.countP_eq_zero]
  simp only [Bool.not_eq_true', Bool.not_eq_false, Result.passed_eq_true_iff]

theorem failures_ne_zero_iff {results : List Result} :
    failures results ≠ 0 ↔ ∃ result ∈ results, result.verdict ≠ .ok := by
  rw [Ne, failures_eq_zero_iff]
  push Not
  rfl

end Tap

namespace Suite

variable {tree : FileTree} {directory : String} {dir : List String} {file : String}

/-! ## The templates of a suite -/

/-- The templates are the files in the directory whose names say so. -/
theorem mem_templateFiles (hlocate : tree.locate directory = .ok dir) :
    file ∈ templateFiles tree directory ↔
      Path.extension? file = some "vy" ∧
        ∃ bytes, tree.node? (dir ++ [file]) = some (.file bytes) := by
  unfold templateFiles FileTree.list
  rw [hlocate]
  dsimp only
  rw [List.mem_mergeSort, List.mem_filter, List.mem_filterMap, beq_iff_eq, and_comm]
  refine and_congr_right fun _ => ⟨?_, ?_⟩
  · rintro ⟨⟨name, node⟩, hmem, hname⟩
    cases node with
    | directory =>
        cases hname
    | file bytes =>
        cases hname
        exact ⟨bytes, FileTree.mem_children.1 hmem⟩
  · rintro ⟨bytes, hnode⟩
    exact ⟨(file, .file bytes), FileTree.mem_children.2 hnode, rfl⟩

theorem pairwise_le_mergeSort (names : List String) :
    (names.mergeSort fun a b => decide (a ≤ b)).Pairwise (· ≤ ·) := by
  have htrans :
      ∀ a b c : String, decide (a ≤ b) = true → decide (b ≤ c) = true → decide (a ≤ c) = true := by
    intro a b c hab hbc
    exact decide_eq_true (String.le_trans (of_decide_eq_true hab) (of_decide_eq_true hbc))
  have htotal : ∀ a b : String, (decide (a ≤ b) || decide (b ≤ a)) = true := by
    intro a b
    simpa using String.le_total a b
  exact (List.pairwise_mergeSort htrans htotal names).imp of_decide_eq_true

/-- They are taken in the order of their names, each one once. -/
theorem pairwise_templateFiles (tree : FileTree) (directory : String) :
    (templateFiles tree directory).Pairwise (· < ·) := by
  unfold templateFiles
  dsimp only
  generalize hnames : List.filter (fun name => Path.extension? name == some "vy") _ = names
  have hnodup : names.Nodup := by
    rw [← hnames, List.Nodup]
    refine List.Pairwise.filter _ (List.pairwise_filterMap.2 ?_)
    have hentries : (tree.list directory).Pairwise fun a b => a.1 ≠ b.1 := by
      unfold FileTree.list
      split
      · exact .nil
      · exact List.pairwise_map.1 (tree.nodup_children _)
    refine hentries.imp ?_
    rintro ⟨name, node⟩ ⟨name', node'⟩ hne found hfound found' hfound'
    cases node <;> cases hfound
    cases node' <;> cases hfound'
    exact hne
  have hdistinct := (List.mergeSort_perm names fun a b => decide (a ≤ b)).nodup_iff.2 hnodup
  exact (pairwise_le_mergeSort names).imp₂ (fun a b hle hne => Std.lt_of_le_of_ne hle hne) hdistinct

/-- The files of the directory that are called templates, in order. -/
structure AreTemplates (tree : FileTree) (dir : List String) (templates : List String) : Prop where
  mem_iff : ∀ file, file ∈ templates ↔
    Path.extension? file = some "vy" ∧ ∃ bytes, tree.node? (dir ++ [file]) = some (.file bytes)
  sorted : templates.Pairwise (· < ·)

theorem areTemplates_templateFiles (hlocate : tree.locate directory = .ok dir) :
    AreTemplates tree dir (templateFiles tree directory) :=
  ⟨fun _ => mem_templateFiles hlocate, pairwise_templateFiles tree directory⟩

/-- There is one list of templates. -/
theorem AreTemplates.unique {templates others : List String} (h : AreTemplates tree dir templates)
    (hothers : AreTemplates tree dir others) : templates = others := by
  have hnodup : ∀ {names : List String}, names.Pairwise (· < ·) → names.Nodup := fun hnames =>
    hnames.imp fun {a b} hlt => Std.ne_of_lt hlt
  have hmem : ∀ file, file ∈ templates ↔ file ∈ others := fun file =>
    (h.mem_iff file).trans (hothers.mem_iff file).symm
  have hperm : templates.Perm others :=
    (List.perm_ext_iff_of_nodup (hnodup h.sorted) (hnodup hothers.sorted)).2 hmem
  -- lists that are in order and have the same members are the same
  refine hperm.eq_of_pairwise (fun a b _ _ hab hba => ?_) h.sorted hothers.sorted
  exact absurd hba (Std.not_gt_of_lt hab)

theorem AreTemplates.isTemplate {templates : List String} (h : AreTemplates tree dir templates)
    (htree : tree.WellFormed) (hmem : file ∈ templates) : IsTemplate file := by
  rcases (h.mem_iff file).1 hmem with ⟨hextension, bytes, hnode⟩
  exact ⟨htree.named _ _ hnode file (by simp), hextension⟩

/-! ## Files beside a template -/

/-- What a program wrote is what the files beside a template say, whatever their bytes are. -/
structure Matches (tree : FileTree) (dir : List String) (name : String) (written : ProgramOutput) :
    Prop where
  stdout : ∀ bytes, tree.node? (dir ++ [name ++ ".expected"]) = some (.file bytes) →
    normalize (Text.decodeLossy written.stdout) = normalize (Text.decodeLossy bytes)
  stderr : ∀ bytes, tree.node? (dir ++ [name ++ ".expected-stderr"]) = some (.file bytes) →
    normalize (Text.decodeLossy written.stderr) = normalize (Text.decodeLossy bytes)
  silent : (∀ bytes, tree.node? (dir ++ [name ++ ".expected-stderr"]) ≠ some (.file bytes)) →
    normalize (Text.decodeLossy written.stderr) = normalize ""

/-- The files beside a template are text, and the file system takes the paths to them. -/
def Legible (tree : FileTree) (directory : String) (dir : List String) (name : String) : Prop :=
  ∀ ending ∈ [".expected", ".expected-stderr"], ∀ bytes,
    tree.node? (dir ++ [name ++ ending]) = some (.file bytes) →
    FileTree.Fits (Path.join directory (name ++ ending)) ∧ ∃ want, Text.decode? bytes = some want

/-- Where the files beside a template are legible, all of them are compared. -/
theorem agrees_iff_matches
    (hbase : tree.base directory = .ok dir) (hdir : tree.node? dir = some .directory)
    (hfile : IsTemplate file) (hlegible : Legible tree directory dir (Path.stem file))
    (written : ProgramOutput) :
    Agrees tree directory (Path.stem file) written ↔ Matches tree dir (Path.stem file) written := by
  have hread :
      ∀ ending ∈ [".expected", ".expected-stderr"], ∀ want,
        tree.readText (Path.join directory (Path.stem file ++ ending)) = .ok want ↔
          ∃ bytes, tree.node? (dir ++ [Path.stem file ++ ending]) = some (.file bytes) ∧
            Text.decode? bytes = some want := by
    intro ending hending want
    have hname : Path.IsName (Path.stem file ++ ending) := by
      simp only [List.mem_cons, List.not_mem_nil, or_false] at hending
      rcases hending with rfl | rfl
      all_goals exact hfile.isName_beside _ (by decide) (by decide)
    rw [FileTree.readText_join_eq_ok hname hbase hdir]
    refine ⟨And.right, fun hbytes => ⟨?_, hbytes⟩⟩
    rcases hbytes with ⟨bytes, hnode, -⟩
    exact (hlegible ending hending bytes hnode).1
  have hout := hread ".expected" (by simp)
  have herr := hread ".expected-stderr" (by simp)
  constructor
  · rintro ⟨hstdout, hstderr, hsilent⟩
    refine ⟨fun bytes hnode => ?_, fun bytes hnode => ?_, fun hnone => hsilent fun want hwant => ?_⟩
    · rcases (hlegible ".expected" (by simp) bytes hnode).2 with ⟨want, hwant⟩
      rw [Text.decodeLossy_of_decode? hwant]
      exact hstdout want ((hout want).2 ⟨bytes, hnode, hwant⟩)
    · rcases (hlegible ".expected-stderr" (by simp) bytes hnode).2 with ⟨want, hwant⟩
      rw [Text.decodeLossy_of_decode? hwant]
      exact hstderr want ((herr want).2 ⟨bytes, hnode, hwant⟩)
    · rcases (herr want).1 hwant with ⟨bytes, hnode, -⟩
      exact hnone bytes hnode
  · rintro ⟨hstdout, hstderr, hsilent⟩
    refine ⟨fun want hwant => ?_, fun want hwant => ?_, fun hnone => hsilent fun bytes hnode => ?_⟩
    · rcases (hout want).1 hwant with ⟨bytes, hnode, htext⟩
      rw [← Text.decodeLossy_of_decode? htext]
      exact hstdout bytes hnode
    · rcases (herr want).1 hwant with ⟨bytes, hnode, htext⟩
      rw [← Text.decodeLossy_of_decode? htext]
      exact hstderr bytes hnode
    · rcases (hlegible ".expected-stderr" (by simp) bytes hnode).2 with ⟨want, hwant⟩
      exact hnone want ((herr want).2 ⟨bytes, hnode, hwant⟩)

/-- The results of a suite, template by template. -/
theorem run_judged {G : Type} [WordSource G]
    {run : String → List String → String → String → Except String ProgramOutput}
    {interpreter : Interpreter} {scratch : Scratch} {setup : Setup}
    (hrun : interpreter.RunsAs setup.command run) (htree : tree.WellFormed)
    (hscratch : scratch.MakesNew tree) (hlocate : tree.locate setup.directory = .ok dir)
    (first : Dice G) :
    ∃ dice : Nat → Dice G, dice 0 = first ∧
      (Suite.run interpreter scratch setup tree first).1.map Tap.Result.name =
        (templateFiles tree setup.directory).map Path.stem ∧
      ∀ (number : Nat) (file : String) (result : Tap.Result),
        (templateFiles tree setup.directory)[number]? = some file →
        (Suite.run interpreter scratch setup tree first).1[number]? = some result →
        Judged run setup tree (scratch number) file (dice number) result.verdict
          (dice (number + 1)) := by
  have hfiles : ∀ file ∈ templateFiles tree setup.directory, IsTemplate file :=
    fun _ => (areTemplates_templateFiles hlocate).isTemplate htree
  have hstart : Rests tree ({ dice := first, files := tree } : Progress G).files := .refl tree
  rcases runFiles_judged hrun htree hscratch hfiles 0 hstart with ⟨dice, hfirst, hnames, hall⟩
  refine ⟨dice, hfirst, hnames, fun number file result hfile hresult => ?_⟩
  have hjudged := hall number file result hfile hresult
  rw [Nat.zero_add] at hjudged
  exact hjudged

end Suite

namespace CommandLine

variable (manner : Manner) (s : Surroundings) (request : SuiteRequest)

/-- How a run over a suite ends. -/
theorem test_eq (hdirectory : s.tree.isDirectory request.setup.directory = true)
    (hattempts : 1 ≤ request.setup.attempts) :
    test manner s request =
      let r := Suite.run s.interpreter s.scratch request.setup s.tree (s.dice request.seed?)
      { code := if Tap.failures r.1 = 0 then 0 else 1
        stdout := Tap.render r.1
        stderr := manner.log r.2.journal
        tree := r.2.files } := by
  unfold test
  dsimp only
  rw [if_neg (by simp [hdirectory]), if_neg (Nat.ne_of_gt hattempts)]

/-- The report on a suite. The dice go on over all templates from those of the seed. A template is ok
exactly if it can be read, has a scratch directory and passes all its attempts, where an attempt that
fails is the last one of its template, and the run fails exactly if some template is not ok. If the
files beside a template are legible, an attempt passes exactly if the variant is compiled and run and
writes what they say. -/
theorem verdicts_of_suite
    {run : String → List String → String → String → Except String ProgramOutput}
    (hrun : s.interpreter.RunsAs request.setup.command run) (htree : s.tree.WellFormed)
    (hscratch : s.scratch.MakesNew s.tree)
    (hdirectory : s.tree.isDirectory request.setup.directory = true)
    (hattempts : 1 ≤ request.setup.attempts) :
    ∃ (dir templates : List String) (results : List Tap.Result) (dice : Nat → Dice ChaCha),
      s.tree.locate request.setup.directory = .ok dir ∧
      Suite.AreTemplates s.tree dir templates ∧
      results.map Tap.Result.name = templates.map Path.stem ∧
      dice 0 = s.dice request.seed? ∧
      (∀ (number : Nat) (file : String) (result : Tap.Result),
        templates[number]? = some file → results[number]? = some result →
        (result.verdict = .ok ↔
          ∃ doc place, Document.load s.tree (Path.join request.setup.directory file) = .ok doc ∧
            s.scratch number = .ok place ∧
            ∀ count < request.setup.attempts,
              Suite.Passes run request.setup s.tree place file count
                (doc.variant {} (dice number) count)) ∧
        Suite.Judged run request.setup s.tree (s.scratch number) file (dice number) result.verdict
          (dice (number + 1)) ∧
        (Suite.Legible s.tree request.setup.directory dir (Path.stem file) →
          (result.verdict = .ok ↔
            ∃ doc place, Document.load s.tree (Path.join request.setup.directory file) = .ok doc ∧
              s.scratch number = .ok place ∧
              ∀ count < request.setup.attempts, ∃ text program args written,
                (doc.variant {} (dice number) count).outcome = .ok text ∧
                FileTree.Fits (Suite.variantPath place file count) ∧
                (Text.words request.setup.command.toList).map String.ofList = program :: args ∧
                run program args (Suite.variantPath place file count) text = .ok written ∧
                Suite.Matches s.tree dir (Path.stem file) written))) ∧
      (test manner s request).stdout = Tap.render results ∧
      ((test manner s request).code = 1 ↔ ∃ result ∈ results, result.verdict ≠ .ok) ∧
      ((test manner s request).code = 0 ↔ ∀ result ∈ results, result.verdict = .ok) := by
  rcases FileTree.isDirectory_iff.1 hdirectory with ⟨dir, hlocate, hdir⟩
  have htemplates := Suite.areTemplates_templateFiles hlocate
  rcases Suite.run_judged hrun htree hscratch hlocate (s.dice request.seed?) with
    ⟨dice, hfirst, hnames, hall⟩
  refine ⟨dir, _, _, dice, hlocate, htemplates, hnames, hfirst,
    fun number file result hfile hresult => ?_, ?_, ?_, ?_⟩
  · have hjudged := hall number file result hfile hresult
    have htemplate := htemplates.isTemplate htree (List.mem_of_getElem? hfile)
    refine ⟨hjudged.ok_iff, hjudged, fun hlegible => ?_⟩
    have hmatches := Suite.agrees_iff_matches (FileTree.base_of_locate hlocate) hdir htemplate
      hlegible
    rw [hjudged.ok_iff]
    simp only [Suite.Passes, hmatches]
  · rw [test_eq manner s request hdirectory hattempts]
  · rw [test_eq manner s request hdirectory hattempts, ← Tap.failures_ne_zero_iff]
    simp
  · rw [test_eq manner s request hdirectory hattempts, ← Tap.failures_eq_zero_iff]
    simp

/-! ### Suites that are run by `cat` -/

/-- A suite with files of the given names and bytes. -/
abbrev suiteTree (files : List (String × ByteArray)) : FileTree :=
  .ofFiles "suite" files

def suiteSurroundings (files : List (String × ByteArray)) : Surroundings where
  tree := suiteTree files
  interpreter := Programs.launch []
  scratch := .numbered (suiteTree files) "/tmp"

theorem words_cat : (Text.words "/bin/cat".toList).map String.ofList = ["/bin/cat"] := by
  decide +kernel

theorem runsAs_suite (files : List (String × ByteArray)) :
    (suiteSurroundings files).interpreter.RunsAs "/bin/cat" Programs.echoes :=
  Programs.runsAs_cat [] "/bin/cat" words_cat (by decide) (by decide)

theorem makesNew_suite (files : List (String × ByteArray)) :
    (suiteSurroundings files).scratch.MakesNew (suiteTree files) := by
  simp only [suiteSurroundings]
  exact Suite.Scratch.makesNew_numbered _ _

section Suites

variable {files : List (String × ByteArray)} {name text : String}

theorem isName_suite : Path.IsName "suite" := by
  decide

theorem wellFormed_suite (hnames : ∀ file ∈ files, Path.IsName file.1)
    (hdistinct : (files.map Prod.fst).Nodup) : (suiteTree files).WellFormed :=
  FileTree.wellFormed_ofFiles isName_suite (by decide) hnames hdistinct

theorem locate_suite (files : List (String × ByteArray)) :
    (suiteTree files).locate "suite" = .ok ["suite"] :=
  FileTree.locate_ofFiles_directory isName_suite files (by decide)

theorem isDirectory_suite (files : List (String × ByteArray)) :
    (suiteTree files).isDirectory "suite" = true :=
  FileTree.isDirectory_ofFiles isName_suite files (by decide)

theorem readText_suite (hname : Path.IsName name) :
    (suiteTree files).readText (Path.join "suite" name) = .ok text ↔
      FileTree.Fits (Path.join "suite" name) ∧
        ∃ bytes, files.lookup name = some bytes ∧ Text.decode? bytes = some text :=
  FileTree.readText_ofFiles isName_suite hname (by decide)

/-- The templates of the suite. -/
theorem templates_suite {templates : List String}
    (h : Suite.AreTemplates (suiteTree files) ["suite"] templates) {names : List String}
    (hnames : (files.map Prod.fst).filter (fun name => Path.extension? name == some "vy") = names)
    (hsorted : names.Pairwise (· < ·)) : templates = names := by
  refine h.unique ⟨fun name => ?_, hsorted⟩
  have hthere :
      (∃ bytes, (suiteTree files).node? (["suite"] ++ [name]) = some (.file bytes)) ↔
        name ∈ files.map Prod.fst := by
    change (∃ bytes, (suiteTree files).node? ["suite", name] = some (.file bytes)) ↔ _
    rw [FileTree.node?_ofFiles]
    cases hlookup : files.lookup name with
    | none =>
        refine ⟨by simp, fun hmem => ?_⟩
        rcases List.mem_map.1 hmem with ⟨file, hfile, rfl⟩
        have hother := List.lookup_eq_none_iff.1 hlookup file hfile
        simp at hother
    | some bytes =>
        rcases List.lookup_eq_some_iff.1 hlookup with ⟨before, after, hfiles, -⟩
        simp [hfiles]
  rw [hthere, ← hnames, List.mem_filter, beq_iff_eq]
  exact and_comm

/-- Scratch directories are made, one beside the other. -/
theorem scratch_suite {number : Nat}
    (hfits : FileTree.Fits (Path.join "/tmp" (Suite.Scratch.nameOf number))) :
    (suiteSurroundings files).scratch number = .ok ["tmp", Suite.Scratch.nameOf number] := by
  have hname := Suite.Scratch.isName_nameOf number
  have hpaved : (suiteTree files).Paved ["tmp"] := FileTree.paved_ofFiles "suite" files
  have hlocate :
      (suiteTree files).locate (Path.join "/tmp" (Suite.Scratch.nameOf number)) =
        .ok (["tmp"] ++ [Suite.Scratch.nameOf number]) := by
    have htemporary : Path.ofPlace ["tmp"] = "/tmp" := by
      decide
    rw [← htemporary] at hfits ⊢
    exact (hpaved.locate_join_eq_ok hname).2 ⟨hfits, rfl⟩
  have hfree : (suiteTree files).node? (["tmp"] ++ [Suite.Scratch.nameOf number]) = none := by
    rw [FileTree.node?_ofFiles_outside files (by simp), if_neg (by simp)]
  simp only [suiteSurroundings]
  exact Suite.Scratch.numbered_eq_ok.2 ⟨hlocate, hfree⟩

/-- An attempt passes if its variant is the text that is expected. -/
theorem passes_suite {G : Type} {setup : Suite.Setup} (hdirectory : setup.directory = "suite")
    (hcommand : (Text.words setup.command.toList).map String.ofList = ["/bin/cat"])
    {place : List String} {file : String} {count : Nat}
    (hfits : FileTree.Fits (Suite.variantPath place file count))
    (hfile : Suite.IsTemplate file) (hsilent : files.lookup (Path.stem file ++ ".expected-stderr") = none)
    {variant : Compilation G} (houtcome : variant.outcome = .ok text) :
    Suite.Passes Programs.echoes setup (suiteTree files) place file count variant ↔
      ∀ want,
        (suiteTree files).readText (Path.join "suite" (Path.stem file ++ ".expected")) = .ok want →
        Suite.normalize text = Suite.normalize want := by
  have hnone : ∀ want,
      (suiteTree files).readText (Path.join "suite" (Path.stem file ++ ".expected-stderr")) ≠
        .ok want := by
    intro want hwant
    have hname := hfile.isName_beside ".expected-stderr" (by decide) (by decide)
    rcases (readText_suite hname).1 hwant with ⟨-, bytes, hlookup, -⟩
    rw [hsilent] at hlookup
    cases hlookup
  have hempty : Text.decodeLossy ByteArray.empty = "" := Text.decodeLossy_toUTF8 ""
  constructor
  · rintro ⟨text', program, args, written, htext, -, hwords, hrun, hagrees⟩ want hwant
    rw [houtcome] at htext
    cases htext
    cases hrun
    have hstdout := hagrees.stdout want (hdirectory ▸ hwant)
    rw [Text.decodeLossy_toUTF8] at hstdout
    exact hstdout
  · intro hwant
    refine ⟨text, "/bin/cat", [], _, houtcome, hfits, hcommand, rfl, ?_⟩
    rw [hdirectory]
    refine ⟨fun want hread => ?_, fun want hread => absurd hread (hnone want),
      fun _ => congrArg Suite.normalize hempty⟩
    rw [Text.decodeLossy_toUTF8]
    exact hwant want hread

end Suites

/-- Two templates that draw a number, which is expected to be one. -/
def drawnFiles : List (String × ByteArray) :=
  [("a.vy", "~[rand -i 1 2]~\n".toUTF8), ("a.expected", "1".toUTF8),
    ("b.vy", "~[rand -i 1 2]~\n".toUTF8), ("b.expected", "1".toUTF8)]

def drawnRequest : SuiteRequest where
  setup := { directory := "suite", attempts := 2, command := "/bin/cat" }
  seed? := some 2

def drawnTemplate (file : String) : Document where
  file
  lines := [[.command (.rand .integer (.literal "1") (.literal "2")), .literal "\n"]]

def drawnDice : Dice ChaCha := (suiteSurroundings drawnFiles).dice drawnRequest.seed?

theorem scratch_drawn {number : Nat} (hnumber : number < 2) :
    (suiteSurroundings drawnFiles).scratch number = .ok ["tmp", Suite.Scratch.nameOf number] := by
  have hfits : ∀ number < 2, FileTree.Fits (Path.join "/tmp" (Suite.Scratch.nameOf number)) := by
    decide
  exact scratch_suite (hfits number hnumber)

section Drawn

variable {name : String} (hname : name ∈ ["a.vy", "b.vy"])

include hname

theorem load_drawn :
    Document.load (suiteTree drawnFiles) (Path.join "suite" name) =
      .ok (drawnTemplate (Path.join "suite" name)) := by
  have hfits : ∀ name ∈ ["a.vy", "b.vy"], FileTree.Fits (Path.join "suite" name) := by
    decide
  have hnamed : ∀ name ∈ ["a.vy", "b.vy"], Path.IsName name := by
    decide
  have hlookup : drawnFiles.lookup name = some "~[rand -i 1 2]~\n".toUTF8 := by
    simp only [List.mem_cons, List.not_mem_nil, or_false] at hname
    rcases hname with rfl | rfl
    · rfl
    · rfl
  refine FileTree.load_eq_ok.2 ⟨"~[rand -i 1 2]~\n", (readText_suite (hnamed name hname)).2
    ⟨hfits name hname, _, hlookup, Text.decode?_toUTF8 _⟩, ?_⟩
  with_unfolding_all rfl

/-- An attempt passes exactly if the number is one. -/
theorem passes_drawn {number count : Nat} (hnumber : number < 2)
    (hcount : count < drawnRequest.setup.attempts) {G : Type} {variant : Compilation G}
    {text : String} (houtcome : variant.outcome = .ok text) :
    Suite.Passes Programs.echoes drawnRequest.setup (suiteTree drawnFiles)
        ["tmp", Suite.Scratch.nameOf number] name count variant ↔
      Suite.normalize text = "1" := by
  have hfits :
      ∀ name ∈ ["a.vy", "b.vy"], ∀ number < 2, ∀ count < 2,
        FileTree.Fits (Suite.variantPath ["tmp", Suite.Scratch.nameOf number] name count) := by
    decide
  have htemplates :
      ∀ name ∈ ["a.vy", "b.vy"], Path.IsName name ∧ Path.extension? name = some "vy" := by
    decide
  have hbeside :
      ∀ name ∈ ["a.vy", "b.vy"],
        Path.IsName (Path.stem name ++ ".expected") ∧
        FileTree.Fits (Path.join "suite" (Path.stem name ++ ".expected")) ∧
        drawnFiles.lookup (Path.stem name ++ ".expected") = some "1".toUTF8 ∧
        drawnFiles.lookup (Path.stem name ++ ".expected-stderr") = none := by
    decide
  rcases hbeside name hname with ⟨hexpected, hpath, hlookup, hsilent⟩
  have hone : Suite.normalize "1" = "1" := by
    decide
  rcases htemplates name hname with ⟨hnamed, hextension⟩
  rw [passes_suite rfl words_cat (hfits name hname number hnumber count hcount)
    ⟨hnamed, hextension⟩ hsilent houtcome]
  constructor
  · intro hwant
    rw [hwant "1" ((readText_suite hexpected).2 ⟨hpath, _, hlookup, Text.decode?_toUTF8 _⟩), hone]
  · intro htext want hwant
    rcases (readText_suite hexpected).1 hwant with ⟨-, bytes, hbytes, hdecode⟩
    rw [hlookup] at hbytes
    cases hbytes
    rw [Text.decode?_toUTF8] at hdecode
    cases hdecode
    rw [htext, hone]

end Drawn

/-- The numbers that are drawn: three times one, then two. -/
theorem outcomes_drawn :
    let first := drawnTemplate (Path.join "suite" "a.vy")
    let second := drawnTemplate (Path.join "suite" "b.vy")
    (∀ count < 2, (first.variant {} drawnDice count).outcome = .ok "1\n") ∧
      (second.variant {} (first.diceAfter {} drawnDice 2) 0).outcome = .ok "1\n" ∧
      (second.variant {} (first.diceAfter {} drawnDice 2) 1).outcome = .ok "2\n" := by
  decide +kernel

/-- The second attempt at the second template is the first one that draws another number. -/
theorem verdicts_of_suite_drawn :
    let s := suiteSurroundings drawnFiles
    s.interpreter.RunsAs drawnRequest.setup.command Programs.echoes ∧ s.tree.WellFormed ∧
      s.scratch.MakesNew s.tree ∧ s.tree.isDirectory drawnRequest.setup.directory = true ∧
      1 ≤ drawnRequest.setup.attempts ∧
      ∃ failure variant,
        (test {} s drawnRequest).stdout =
          Tap.render [⟨"a", .ok⟩, ⟨"b", .notOk (Suite.diagnostic 2 2 failure variant)⟩] ∧
        (test {} s drawnRequest).code = 1 := by
  dsimp only
  have hrun := runsAs_suite drawnFiles
  have htree : (suiteTree drawnFiles).WellFormed :=
    wellFormed_suite (by decide) (by decide)
  have hnew := makesNew_suite drawnFiles
  have hdirectory := isDirectory_suite drawnFiles
  have hattempts : 1 ≤ drawnRequest.setup.attempts := by
    decide
  rcases verdicts_of_suite {} (suiteSurroundings drawnFiles) drawnRequest hrun htree hnew hdirectory
    hattempts with
    ⟨dir, templates, results, dice, hplace, htemplates, hnames, hfirst, hall, hstdout, hcode, -⟩
  cases (locate_suite drawnFiles).symm.trans hplace
  have hlisted : templates = ["a.vy", "b.vy"] :=
    templates_suite htemplates (by decide) (by decide)
  subst hlisted
  have hload : ∀ name ∈ ["a.vy", "b.vy"],
      Document.load (suiteTree drawnFiles) (Path.join "suite" name) =
        .ok (drawnTemplate (Path.join "suite" name)) := fun name => load_drawn
  have hstems : ["a.vy", "b.vy"].map Path.stem = ["a", "b"] := by
    decide
  rw [hstems] at hnames
  rcases List.map_eq_cons_iff.1 hnames with ⟨⟨_, verdict⟩, _, rfl, rfl, hrest⟩
  rcases List.map_eq_singleton_iff.1 hrest with ⟨⟨_, verdict'⟩, rfl, rfl⟩
  rcases outcomes_drawn with ⟨hones, hone, htwo⟩
  have hlast : Suite.normalize "2\n" ≠ "1" := by
    decide
  have hpassing : Suite.normalize "1\n" = "1" := by
    decide
  have hstart : dice 0 = drawnDice := hfirst
  -- the first template is ok, so the second one goes on after its two attempts
  rcases hall 0 "a.vy" _ rfl rfl with ⟨hok, hjudged, -⟩
  have hverdict : verdict = .ok := by
    refine hok.2 ⟨_, _, hload "a.vy" (by simp), scratch_drawn (by decide), fun count hcount => ?_⟩
    rw [hstart]
    exact (passes_drawn (by simp) (by decide) hcount (hones count hcount)).2 hpassing
  subst hverdict
  have hnext : dice 1 = (drawnTemplate (Path.join "suite" "a.vy")).diceAfter {} drawnDice 2 := by
    rw [← hstart]
    exact hjudged.dice_of_ok (hload "a.vy" (by simp))
  rw [← hnext] at hone htwo
  rcases hall 1 "b.vy" _ rfl rfl with ⟨-, hjudged', -⟩
  have hfirst : Suite.Passes Programs.echoes drawnRequest.setup (suiteTree drawnFiles)
      ["tmp", Suite.Scratch.nameOf 1] "b.vy" 0
      ((drawnTemplate (Path.join "suite" "b.vy")).variant {} (dice 1) 0) :=
    (passes_drawn (by simp) (by decide) (by decide) hone).2 hpassing
  have hsecond : ¬ Suite.Passes Programs.echoes drawnRequest.setup (suiteTree drawnFiles)
      ["tmp", Suite.Scratch.nameOf 1] "b.vy" 1
      ((drawnTemplate (Path.join "suite" "b.vy")).variant {} (dice 1) 1) := fun hpasses =>
    hlast ((passes_drawn (by simp) (by decide) (by decide) htwo).1 hpasses)
  have hleft : 1 < drawnRequest.setup.attempts := by
    decide
  rcases hjudged'.notOk_of_first (hload "b.vy" (by simp)) (scratch_drawn (by decide)) hleft
    (fun earlier hearlier => Nat.lt_one_iff.1 hearlier ▸ hfirst) hsecond with
    ⟨-, failure, variant, hnotOk⟩
  subst hnotOk
  exact ⟨hrun, htree, hnew, hdirectory, hattempts, failure, variant, hstdout,
    hcode.2 ⟨_, List.mem_cons_of_mem _ List.mem_cons_self, by simp⟩⟩

/-! A template whose expected output is not UTF-8. -/

def unreadableFiles : List (String × ByteArray) :=
  [("t.vy", "hello\n".toUTF8), ("t.expected", ⟨#[0xFF, 0x0A]⟩)]

def plainSuiteRequest : SuiteRequest where
  setup := { directory := "suite", attempts := 1, command := "/bin/cat" }

def helloTemplate : Document where
  file := "suite/t.vy"
  lines := [[.literal "hello\n"]]

theorem load_hello :
    Document.load (suiteTree unreadableFiles) (Path.join "suite" "t.vy") = .ok helloTemplate := by
  have hread : (suiteTree unreadableFiles).readText (Path.join "suite" "t.vy") = .ok "hello\n" :=
    (readText_suite (by decide)).2
      ⟨by decide, "hello\n".toUTF8, rfl, Text.decode?_toUTF8 _⟩
  refine FileTree.load_eq_ok.2 ⟨_, hread, ?_⟩
  with_unfolding_all rfl

theorem outcome_hello {G : Type} [WordSource G] (dice : Dice G) :
    (helloTemplate.compile {} dice).outcome = .ok "hello\n" := by
  have hread : Document.ofText "suite/t.vy" "hello\n" = .ok helloTemplate := by
    with_unfolding_all rfl
  exact Document.outcome_of_commandCount hread (by decide) _ _

theorem isTemplate_hello : Suite.IsTemplate "t.vy" :=
  ⟨by decide, by decide⟩

/-- Nothing is read from the file with the expected output. -/
theorem expectation_unread (want : String) :
    (suiteTree unreadableFiles).readText (Path.join "suite" (Path.stem "t.vy" ++ ".expected")) ≠
      .ok want := by
  intro hwant
  have hname := isTemplate_hello.isName_beside ".expected" (by decide) (by decide)
  have hlookup : unreadableFiles.lookup (Path.stem "t.vy" ++ ".expected") =
      some ⟨#[0xFF, 0x0A]⟩ := by
    decide
  have hnone : Text.decode? ⟨#[0xFF, 0x0A]⟩ = none := by
    decide
  rcases (readText_suite hname).1 hwant with ⟨-, bytes, hbytes, hdecode⟩
  rw [hlookup] at hbytes
  cases hbytes
  rw [hnone] at hdecode
  cases hdecode

/-- So each attempt passes. -/
theorem passes_hello (dice : Dice ChaCha) {count : Nat}
    (hcount : count < plainSuiteRequest.setup.attempts) :
    Suite.Passes Programs.echoes plainSuiteRequest.setup (suiteTree unreadableFiles)
      ["tmp", Suite.Scratch.nameOf 0] "t.vy" count (helloTemplate.variant {} dice count) := by
  have hfits : ∀ count < 1,
      FileTree.Fits (Suite.variantPath ["tmp", Suite.Scratch.nameOf 0] "t.vy" count) := by
    decide
  have hsilent : unreadableFiles.lookup (Path.stem "t.vy" ++ ".expected-stderr") = none := by
    decide
  exact (passes_suite rfl words_cat (hfits count hcount) isTemplate_hello hsilent
    (outcome_hello _)).2 fun want hwant => absurd hwant (expectation_unread want)

theorem results_unreadable (dice : Dice ChaCha) :
    (Suite.run (suiteSurroundings unreadableFiles).interpreter
      (suiteSurroundings unreadableFiles).scratch plainSuiteRequest.setup
      (suiteTree unreadableFiles) dice).1 = [⟨"t", .ok⟩] := by
  have hrun : (suiteSurroundings unreadableFiles).interpreter.RunsAs
      plainSuiteRequest.setup.command Programs.echoes := runsAs_suite unreadableFiles
  have htree : (suiteTree unreadableFiles).WellFormed :=
    wellFormed_suite (by decide) (by decide)
  have hplace : (suiteTree unreadableFiles).locate plainSuiteRequest.setup.directory =
      .ok ["suite"] := locate_suite unreadableFiles
  have htemplates :
      Suite.templateFiles (suiteTree unreadableFiles) plainSuiteRequest.setup.directory =
        ["t.vy"] :=
    templates_suite (Suite.areTemplates_templateFiles (locate_suite unreadableFiles))
      (by decide) (by simp)
  have hscratch : (suiteSurroundings unreadableFiles).scratch 0 =
      .ok ["tmp", Suite.Scratch.nameOf 0] :=
    scratch_suite (by decide)
  have hstem : Path.stem "t.vy" = "t" := by
    decide
  rcases Suite.run_judged hrun htree (makesNew_suite unreadableFiles) hplace dice with
    ⟨later, -, hnames, hall⟩
  rw [htemplates] at hnames hall
  rcases List.map_eq_singleton_iff.1 hnames with ⟨⟨name, verdict⟩, hresults, hname⟩
  rw [hresults] at hall
  have hverdict : verdict = .ok := (hall 0 "t.vy" _ rfl rfl).ok_iff.2
    ⟨_, _, load_hello, hscratch, fun _ => passes_hello _⟩
  rw [hstem] at hname
  dsimp only at hname
  rw [hresults, hname, hverdict]

/-- A file with expected output that is not UTF-8 is passed over: what the variant writes is not what
the file says, and the template is ok. -/
theorem unreadable_expectation_passes :
    let s := suiteSurroundings unreadableFiles
    s.interpreter.RunsAs "/bin/cat" Programs.echoes ∧
      s.tree.node? ["suite", "t.expected"] = some (.file ⟨#[0xFF, 0x0A]⟩) ∧
      Document.load s.tree (Path.join "suite" "t.vy") = .ok helloTemplate ∧
      (∀ dice : Dice ChaCha, (helloTemplate.compile {} dice).outcome = .ok "hello\n") ∧
      (∀ path written, Programs.echoes "/bin/cat" [] path "hello\n" = .ok written →
        ¬ Suite.Matches s.tree ["suite"] "t" written) ∧
      (test {} s plainSuiteRequest).stdout = Tap.render [⟨"t", .ok⟩] ∧
      (test {} s plainSuiteRequest).code = 0 := by
  dsimp only
  have hnode : (suiteTree unreadableFiles).node? ["suite", "t.expected"] =
      some (.file ⟨#[0xFF, 0x0A]⟩) := by
    rw [FileTree.node?_ofFiles]
    rfl
  have hother :
      Suite.normalize (Text.decodeLossy "hello\n".toUTF8) ≠
        Suite.normalize (Text.decodeLossy ⟨#[0xFF, 0x0A]⟩) := by
    decide +kernel
  have htest := test_eq {} (suiteSurroundings unreadableFiles) plainSuiteRequest
    (isDirectory_suite unreadableFiles) (Nat.le_refl 1)
  have hresults := results_unreadable ((suiteSurroundings unreadableFiles).dice none)
  have hfailures := congrArg Tap.failures hresults
  refine ⟨runsAs_suite unreadableFiles, hnode, load_hello, fun dice => outcome_hello dice, ?_,
    (congrArg Result.stdout htest).trans (congrArg Tap.render hresults),
    (congrArg Result.code htest).trans (if_pos hfailures)⟩
  rintro path written hwritten hmatches
  cases hwritten
  exact hother (hmatches.stdout _ hnode)

end CommandLine

end TemplateVariants
