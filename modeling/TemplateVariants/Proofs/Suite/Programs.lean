import TemplateVariants.Proofs.Suite.Verdicts
import TemplateVariants.Suite.Programs

/-!
# Variants that are shown

The built-in `cat`, without options, writes its files one after the other as they are, and leaves them
alone (`cat_eq`). So a suite whose command is a path to `cat` compares the texts of the variants
themselves (`Programs.runsAs_cat`).
-/

namespace TemplateVariants

/-! ## Bytes as characters -/

namespace Text

/-- The character of a byte has its number. -/
theorem ofNat_toNat_ofNat (b : UInt8) : UInt8.ofNat (Char.ofNat b.toNat).toNat = b := by
  have hvalid : b.toNat.isValidChar := .inl (Nat.lt_trans b.toNat_lt (by decide))
  have hnumber : (Char.ofNat b.toNat).toNat = b.toNat := by
    rw [Char.ofNat, dif_pos hvalid]
    rfl
  rw [hnumber, UInt8.ofNat_toNat]

theorem bytesOfOctets_octetsOfBytes (bytes : ByteArray) :
    bytesOfOctets (octetsOfBytes bytes) = bytes := by
  apply ByteArray.ext
  rw [bytesOfOctets, octetsOfBytes, List.map_map, toList_eq_data]
  simp [Function.comp_def, ofNat_toNat_ofNat]

theorem octets_eq (text : String) :
    octets text = (text.toList.flatMap String.utf8EncodeChar).map fun b => Char.ofNat b.toNat := by
  rw [octets, octetsOfBytes, toList_toUTF8]

end Text

/-- A path is read back from its bytes. -/
theorem pathOfOctets_octets (path : String) : pathOfOctets (Text.octets path) = path := by
  rw [pathOfOctets, Text.octets, Text.bytesOfOctets_octetsOfBytes, Text.decodeLossy_toUTF8]

/-! ## Operands -/

/-- Arguments that do not start with a hyphen are operands. -/
theorem OptionTable.readFrom_operands (table : OptionTable) {arguments : List Octets}
    (harguments : ∀ argument ∈ arguments, argument.head? ≠ some '-') (fuel : Nat)
    (hfuel : arguments.length ≤ fuel) (s : Settings) :
    table.readFrom fuel arguments s = { s with operands := arguments.reverse ++ s.operands } := by
  induction arguments generalizing fuel s with
  | nil =>
      cases fuel with
      | zero =>
          rw [readFrom]
          rfl
      | succ fuel =>
          rw [readFrom]
          · rfl
          · simp
  | cons argument arguments ih =>
      cases fuel with
      | zero =>
          simp at hfuel
      | succ fuel =>
          rw [List.forall_mem_cons] at harguments
          have hhead := harguments.1
          unfold readFrom
          split
          · simp at hhead
          · simp at hhead
          · simp at hhead
          · split
            · simp
            · rw [ih harguments.2 fuel (Nat.le_of_succ_le_succ hfuel)]
              simp

/-! ## Inputs -/

/-- The operand leads to a file that holds a text: it is neither the sign for the input nor a device. -/
structure Call.Reads (call : Call) (operand text : Octets) : Prop where
  noHyphen : operand.head? ≠ some '-'
  noDevice : call.device? operand = none
  bytes : (call.files.readBytes (pathOfOctets operand)).map Text.octetsOfBytes = .ok text

namespace Call

variable {call : Call}

theorem Reads.not_contains {operand text : Octets} (h : call.Reads operand text) :
    ["-", "/dev/stdin", "/dev/fd/0"].contains (String.ofList operand) = false := by
  rw [Bool.eq_false_iff, ne_eq, List.contains_iff_mem]
  intro hmem
  have hdevice := h.noDevice
  unfold device? at hdevice
  rcases List.mem_cons.1 hmem with heq | hmem
  · have hhyphen : operand = "-".toList := by
      rw [← heq, String.toList_ofList]
    exact h.noHyphen (by rw [hhyphen]; rfl)
  · simp only [List.mem_cons, List.not_mem_nil, or_false] at hmem
    rcases hmem with heq | heq
    · simp [heq] at hdevice
    · simp [heq] at hdevice

theorem readOperand_of_reads {operand text : Octets} (h : call.Reads operand text)
    (word : Octets → String → Octets) (found : Inputs) :
    call.readOperand word found operand =
      { found with texts := (operand, text) :: found.texts } := by
  have hread : call.read operand = .ok text := by
    rw [read, h.noDevice]
    exact h.bytes
  rw [readOperand, h.not_contains, hread]
  simp [h.noDevice]

/-- Files are read one after the other. -/
theorem foldl_readOperand {files : List (Octets × Octets)}
    (hfiles : ∀ file ∈ files, call.Reads file.1 file.2) (word : Octets → String → Octets)
    (found : Inputs) :
    (files.map Prod.fst).foldl (call.readOperand word) found =
      { found with texts := files.reverse ++ found.texts } := by
  induction files generalizing found with
  | nil =>
      rfl
  | cons file files ih =>
      rw [List.forall_mem_cons] at hfiles
      rw [List.map_cons, List.foldl_cons, readOperand_of_reads hfiles.1, ih hfiles.2]
      simp

theorem inputs_of_reads {files : List (Octets × Octets)} (hne : files ≠ [])
    (hfiles : ∀ file ∈ files, call.Reads file.1 file.2) (word : Octets → String → Octets) :
    call.inputs (files.map Prod.fst) word = { texts := files } := by
  rw [inputs, if_neg (by simpa using hne), foldl_readOperand hfiles]
  simp

end Call

/-! ## Showing files -/

namespace Cat

/-- Without options each character is shown as it is. -/
theorem step_text (s : Shown) (c : Char) (next? : Option Char) :
    (({} : Manner).step s c next?).text = c :: s.text := by
  unfold Manner.step
  split
  · -- without squeezing and marked ends a line feed is written as it is
    rename_i hfeed
    simp [Shown.write, hfeed]
  · cases s.before <;> simp [Shown.write, Manner.show]

theorem run_text (s : Shown) (cs : Octets) :
    (({} : Manner).run s cs).text = cs.reverse ++ s.text := by
  induction cs generalizing s with
  | nil =>
      rfl
  | cons c cs ih =>
      rw [Manner.run, ih, step_text]
      simp

end Cat

/-- Without options, `cat` writes its files one after the other, and it changes none. -/
theorem cat_eq {call : Call} {files : List (Octets × Octets)} (hne : files ≠ [])
    (hfiles : ∀ file ∈ files, call.Reads file.1 file.2)
    (harguments : call.arguments = files.map Prod.fst) :
    cat call =
      { output := files.flatMap Prod.snd, unread := call.input, files := call.files } := by
  have hread : Cat.table.read call.arguments = { operands := files.map Prod.fst } := by
    have hoperands : ∀ argument ∈ call.arguments, argument.head? ≠ some '-' := by
      rw [harguments]
      intro argument hargument
      rcases List.mem_map.1 hargument with ⟨file, hfile, rfl⟩
      exact (hfiles file hfile).noHyphen
    rw [OptionTable.read, Cat.table.readFrom_operands hoperands _ (Nat.le_refl _), harguments]
    simp
  unfold cat
  dsimp only
  rw [hread]
  dsimp only
  rw [Call.inputs_of_reads hne hfiles]
  simp [Call.replyWith, Cat.run_text]

/-! ## Suites that show their variants -/

namespace Programs

/-- Writes the text of the variant. -/
def echoes (_ : String) (_ : List String) (_ text : String) : Except String ProgramOutput :=
  .ok { stdout := text.toUTF8 }

theorem search_cat {program : String} (hslash : '/' ∈ program.toList)
    (hcat : programAt? program = some "cat") (directories : Octets) (files : FileTree) :
    finder.search directories files (Text.octets program) = .ok (Text.octets program, cat) := by
  have hfound : finder files program = .ok cat := by
    have hutility : utility? maxDepth "cat" = some cat := rfl
    have hinterpreted :
        interpreted (utility? maxDepth) files maxInterpreters program = .ok (some cat) := by
      rw [maxInterpreters, interpreted, hcat, Option.bind_some, hutility]
    rw [finder, findIn, hinterpreted]
    rfl
  have hcontains : (Text.octets program).contains '/' = true := by
    rw [List.contains_iff_mem, Text.octets_eq]
    refine List.mem_map.2 ⟨'/'.toUInt8, List.mem_flatMap.2 ⟨'/', hslash, ?_⟩, rfl⟩
    decide
  unfold Finder.search
  rw [if_pos hcontains, pathOfOctets_octets, hfound]
  rfl

/-- A variant is a file and no option. -/
theorem reads_of_readText {call : Call} {path text : String} (hpath : Suite.IsVariantPath path)
    (hread : call.files.readText path = .ok text) :
    call.Reads (Text.octets path) (Text.octets text) := by
  rcases hpath with ⟨habsolute, hending⟩
  constructor
  · rcases List.head?_eq_some_iff.1 habsolute with ⟨rest, hrest⟩
    have hslash : String.utf8EncodeChar '/' = ['/'.toUInt8] := by
      decide
    have hcharacter : Char.ofNat '/'.toUInt8.toNat ≠ '-' := by
      decide
    rw [Text.octets_eq, hrest, List.flatMap_cons, hslash]
    simpa using hcharacter
  · -- the paths of devices have another ending
    have hother :
        ∀ device ∈ ["/dev/null", "/dev/zero", "/dev/stdin", "/dev/fd/0"],
          String.ofList (Text.octets path) ≠ device := by
      intro device hdevice heq
      have hsame : path = pathOfOctets device.toList := by
        rw [← heq, String.toList_ofList, pathOfOctets_octets]
      have hends :
          ∀ device ∈ ["/dev/null", "/dev/zero", "/dev/stdin", "/dev/fd/0"],
            ¬ ".py".toList <:+ (pathOfOctets device.toList).toList := by
        decide +kernel
      rw [hsame] at hending
      exact hends device hdevice hending
    simp only [List.forall_mem_cons] at hother
    unfold Call.device?
    split
    · exact absurd ‹_› hother.1
    · exact absurd ‹_› hother.2.1
    · exact absurd ‹_› hother.2.2.1
    · exact absurd ‹_› hother.2.2.2.1
    · rfl
  · rw [pathOfOctets_octets, FileTree.readBytes_of_readText hread]
    rfl

/-- A command that is a path to `cat` writes the text of the variant, in any environment. -/
theorem runsAs_cat (environment : List (String × String)) {command : String} (program : String)
    (hcommand : (Text.words command.toList).map String.ofList = [program])
    (hslash : '/' ∈ program.toList) (hcat : programAt? program = some "cat") :
    (launch environment).RunsAs command echoes := by
  intro program' args path files text hwords hpath hread
  rw [hcommand] at hwords
  cases hwords
  unfold launch
  dsimp only
  rw [search_cat hslash hcat]
  dsimp only
  -- the program gets a call whose only argument is the path
  generalize hcall :
    ({ name := program
       arguments := ([] ++ [path]).map Text.octets
       environment := environment.map (Prod.map id Text.octets)
       files } : Call) = call
  have hreads : call.Reads (Text.octets path) (Text.octets text) :=
    reads_of_readText hpath (by rw [← hcall]; exact hread)
  have hfiles :
      ∀ file ∈ [(Text.octets path, Text.octets text)], call.Reads file.1 file.2 := by
    simpa using hreads
  have hone : cat call = _ := cat_eq (by simp) hfiles (by rw [← hcall]; rfl)
  have hempty : Text.bytesOfOctets [] = .empty := rfl
  rw [hone]
  simp [echoes, Text.octets, Text.bytesOfOctets_octetsOfBytes, hempty, ← hcall]

end Programs

end TemplateVariants
