import TemplateVariants.Proofs.Layout.Newlines
import TemplateVariants.Suite.Tap

/-!
# Reports line by line

What a reader of a report finds. The lines of a diagnostic are those of its text (`Text.HasLines`),
and each stands behind a mark, so none of them starts like a result, whatever blanks are passed over
(`Tap.kind`). The reader finds one line for each result, with its number and its verdict, and the plan
behind them (`Tap.report_stream`). If there are failures, one more comment stands behind the plan
(`Tap.plan_before_summary`).
-/

namespace TemplateVariants

namespace Text

/-! ## Lines -/

/-- The lines of a text. Each ends with a line feed, with or without a carriage return before it; the
last one need not end. -/
inductive HasLines : List Char → List (List Char) → Prop where
  | nil :
      HasLines [] []
  | unended {line : List Char} :
      line ≠ [] →
      '\n' ∉ line →
      HasLines line [line]
  | feed {line rest : List Char} {lines : List (List Char)} :
      '\n' ∉ line →
      line.getLast? ≠ some '\r' →
      HasLines rest lines →
      HasLines (line ++ '\n' :: rest) (line :: lines)
  | both {line rest : List Char} {lines : List (List Char)} :
      '\n' ∉ line →
      HasLines rest lines →
      HasLines (line ++ '\r' :: '\n' :: rest) (line :: lines)

theorem dropEnd_of_not_mem {line : List Char} (h : '\n' ∉ line) : dropEnd line = line := by
  unfold dropEnd
  split
  · rename_i hreverse
    exact absurd (List.mem_reverse.1 (by simp [hreverse])) h
  · rename_i hreverse
    exact absurd (List.mem_reverse.1 (by simp [hreverse])) h
  · rfl

theorem dropEnd_both (line : List Char) : dropEnd (line ++ ['\r', '\n']) = line := by
  simp [dropEnd]

theorem dropEnd_feed {line : List Char} (h : line.getLast? ≠ some '\r') :
    dropEnd (line ++ ['\n']) = line := by
  rw [List.getLast?_eq_head?_reverse] at h
  unfold dropEnd
  rw [List.reverse_append]
  cases hreverse : line.reverse with
  | nil =>
      rw [List.reverse_eq_nil_iff.1 hreverse]
      rfl
  | cons last rest =>
      rw [hreverse] at h
      have hlast : last ≠ '\r' := by
        simpa using h
      have hline : (last :: rest).reverse = line := by
        rw [← hreverse, List.reverse_reverse]
      simpa [hlast] using hline

theorem hasLines_of_cut {pieces : List String} (h : Cut pieces) :
    HasLines (String.join pieces).toList (pieces.map fun piece => dropEnd piece.toList) := by
  induction h with
  | nil =>
      exact .nil
  | @unended line hone =>
      have hne : line.toList ≠ [] := by
        simpa using hone.1
      rw [List.map_singleton, dropEnd_of_not_mem hone.2, String.join_cons, String.join_nil,
        String.append_empty]
      exact .unended hne hone.2
  | @ended piece rest hpiece _ ih =>
      rcases hpiece with ⟨line, hline, rfl⟩
      rw [List.map_cons, String.join_cons, String.toList_append, String.toList_append]
      by_cases hlast : line.toList.getLast? = some '\r'
      · -- the carriage return goes with the line feed
        rcases List.getLast?_eq_some_iff.1 hlast with ⟨start, hstart⟩
        have hfeed : '\n' ∉ start := fun hmem => hline (by rw [hstart]; simp [hmem])
        have hsplit : start ++ ['\r'] ++ "\n".toList = start ++ ['\r', '\n'] := by
          simp
        rw [hstart, hsplit, dropEnd_both, List.append_assoc]
        exact .both hfeed ih
      · have hfeed : "\n".toList = ['\n'] := rfl
        rw [hfeed, dropEnd_feed hlast, List.append_assoc]
        exact .feed hline hlast ih

/-- The lines without their ends are the lines of the text. -/
theorem hasLines_withoutEnds (text : String) :
    HasLines text.toList ((withoutEnds text).map String.toList) := by
  have hcut := hasLines_of_cut (cut_keepingEnds text)
  rw [join_keepingEnds] at hcut
  have hlines :
      (keepingEnds text).map (fun piece => dropEnd piece.toList) =
        (withoutEnds text).map String.toList := by
    simp [keepingEnds, withoutEnds]
  rwa [hlines] at hcut

theorem HasLines.not_mem {text : List Char} {lines : List (List Char)} (h : HasLines text lines) :
    ∀ line ∈ lines, '\n' ∉ line := by
  induction h with
  | nil =>
      simp
  | unended _ hline =>
      exact List.forall_mem_singleton.2 hline
  | feed hline _ _ ih =>
      exact List.forall_mem_cons.2 ⟨hline, ih⟩
  | both hline _ ih =>
      exact List.forall_mem_cons.2 ⟨hline, ih⟩

/-! ## Cutting a stream -/

theorem keepingEndsFrom_append {line : List Char} (hline : '\n' ∉ line) (start : List Char)
    (done : List (List Char)) (rest : List Char) :
    keepingEndsFrom start done (line ++ '\n' :: rest) =
      keepingEndsFrom [] ((start.reverse ++ line ++ ['\n']) :: done) rest := by
  induction line generalizing start with
  | nil =>
      simp [keepingEndsFrom]
  | cons c line ih =>
      rw [List.mem_cons, not_or] at hline
      rw [List.cons_append, keepingEndsFrom, if_neg (Ne.symm hline.1), ih hline.2]
      simp

/-- Lines that are printed one after the other are found again. -/
theorem keepingEnds_join {lines : List String} (h : ∀ line ∈ lines, '\n' ∉ line.toList) :
    keepingEnds (String.join (lines.map (· ++ "\n"))) = lines.map (· ++ "\n") := by
  -- no line is open where the next one starts, whichever are finished by then
  have hfrom (done : List (List Char)) :
      keepingEndsFrom [] done (String.join (lines.map (· ++ "\n"))).toList =
        done.reverse ++ lines.map fun line => line.toList ++ ['\n'] := by
    induction lines generalizing done with
    | nil =>
        simp [keepingEndsFrom]
    | cons line lines ih =>
        rcases List.forall_mem_cons.1 h with ⟨hline, hlines⟩
        have htext :
            (String.join ((line :: lines).map (· ++ "\n"))).toList =
              line.toList ++ '\n' :: (String.join (lines.map (· ++ "\n"))).toList := by
          simp
        rw [htext, keepingEndsFrom_append hline, ih hlines]
        simp
  rw [keepingEnds, hfrom, List.reverse_nil, List.nil_append, List.map_map]
  refine List.map_congr_left fun line _ => ?_
  apply String.toList_inj.1
  simp

end Text

namespace Tap

/-! ## What a report tells -/

/-- What is printed for results, the first of which has the given number. -/
inductive Told : Nat → List Result → List String → Prop where
  | nil (number : Nat) :
      Told number [] []
  | ok {number : Nat} {name : String} {results : List Result} {lines : List String} :
      Told (number + 1) results lines →
      Told number (⟨name, .ok⟩ :: results) (("ok " ++ Nat.repr number ++ " - " ++ name) :: lines)
  | notOk {number : Nat} {name diagnostic : String} {results : List Result}
      {comments lines : List String} :
      Text.HasLines diagnostic.toList (comments.map String.toList) →
      Told (number + 1) results lines →
      Told number (⟨name, .notOk diagnostic⟩ :: results)
        (("not ok " ++ Nat.repr number ++ " - " ++ name) ::
          (comments.map ("  # " ++ ·) ++ lines))

theorem told_lines (results : List Result) (number : Nat) :
    Told number results (results.mapIdx fun i r => r.lines (i + number)).flatten := by
  induction results generalizing number with
  | nil =>
      exact .nil number
  | cons result results ih =>
      have hrest := ih (number + 1)
      -- the rest is numbered from the next number on, wherever it stands in the list
      simp only [← Nat.add_assoc, Nat.add_right_comm _ number 1] at hrest
      rcases result with ⟨name, verdict⟩
      rw [List.mapIdx_cons, List.flatten_cons, Nat.zero_add]
      cases verdict with
      | ok =>
          exact .ok hrest
      | notOk diagnostic =>
          exact .notOk (Text.hasLines_withoutEnds diagnostic) hrest

/-- A number is spelled with digits. -/
theorem newline_not_mem_digits (n : Nat) : '\n' ∉ Nat.toDigits 10 n := by
  rw [← Nat.toList_repr]
  exact (Numeral.isNumber_repr n).not_mem (by decide)

/-- Comments are lines, whatever the diagnostics are. -/
theorem Told.not_mem {number : Nat} {results : List Result} {lines : List String}
    (h : Told number results lines) (hnames : ∀ result ∈ results, '\n' ∉ result.name.toList) :
    ∀ line ∈ lines, '\n' ∉ line.toList := by
  induction h with
  | nil _ =>
      simp
  | ok _ ih =>
      rcases List.forall_mem_cons.1 hnames with ⟨hname, hrest⟩
      refine List.forall_mem_cons.2 ⟨?_, ih hrest⟩
      simpa using ⟨newline_not_mem_digits _, hname⟩
  | notOk hcomments _ ih =>
      rcases List.forall_mem_cons.1 hnames with ⟨hname, hrest⟩
      refine List.forall_mem_cons.2 ⟨by simpa using ⟨newline_not_mem_digits _, hname⟩, ?_⟩
      refine List.forall_mem_append.2 ⟨List.forall_mem_map.2 fun comment hcomment => ?_, ih hrest⟩
      simpa using hcomments.not_mem comment.toList (List.mem_map_of_mem hcomment)

/-! ## Reading a line by its start -/

/-- What a reader may take a line for. -/
inductive Kind where
  | result (passed : Bool)
  | plan
  | other
deriving DecidableEq, Repr

/-- The kind of a line by how it starts, whatever blanks are before that. -/
def kind (line : String) : Kind :=
  match Text.trimStart line.toList with
  | 'o' :: 'k' :: _ => .result true
  | 'n' :: 'o' :: 't' :: ' ' :: 'o' :: 'k' :: _ => .result false
  | '1' :: '.' :: '.' :: _ => .plan
  | _ => .other

theorem kind_ok (more : String) : kind ("ok " ++ more) = .result true := by
  rw [kind, String.toList_append]
  rfl

theorem kind_notOk (more : String) : kind ("not ok " ++ more) = .result false := by
  rw [kind, String.toList_append]
  rfl

theorem kind_plan (more : String) : kind ("1.." ++ more) = .plan := by
  rw [kind, String.toList_append]
  rfl

theorem kind_comment (more : String) : kind ("  # " ++ more) = .other := by
  rw [kind, String.toList_append]
  rfl

theorem kind_summary (more : String) : kind ("# failed " ++ more) = .other := by
  rw [kind, String.toList_append]
  rfl

/-- The line that tells the verdict on a result, and its number. -/
def heading (number : Nat) (r : Result) : String :=
  (if r.passed then "ok " else "not ok ") ++ Nat.repr number ++ " - " ++ r.name

theorem kind_heading (number : Nat) (r : Result) (more : String) :
    kind (heading number r ++ more) = .result r.passed := by
  unfold heading
  cases r.passed with
  | true =>
      simp only [if_true, String.append_assoc, kind_ok]
  | false =>
      simp only [Bool.false_eq_true, if_false, String.append_assoc, kind_notOk]

theorem kind_heading_ne_other (number : Nat) (r : Result) (more : String) :
    kind (heading number r ++ more) ≠ .other := by
  rw [kind_heading]
  exact Kind.noConfusion

/-- The headings from a number on. -/
def headings (number : Nat) (results : List Result) : List String :=
  results.mapIdx fun i r => heading (i + number) r ++ "\n"

theorem headings_cons (number : Nat) (r : Result) (results : List Result) :
    headings number (r :: results) =
      (heading number r ++ "\n") :: headings (number + 1) results := by
  simp [headings, List.mapIdx_cons, Nat.add_assoc, Nat.add_comm 1]

/-- Only the headings of results may be taken for anything, and they come in order. -/
theorem Told.filter_kind {number : Nat} {results : List Result} {lines : List String}
    (h : Told number results lines) :
    (lines.map (· ++ "\n")).filter (kind · ≠ .other) = headings number results := by
  induction h with
  | nil _ =>
      rfl
  | @ok number name results lines _ ih =>
      rw [headings_cons, ← ih, List.map_cons]
      exact List.filter_cons_of_pos
        (decide_eq_true (kind_heading_ne_other number ⟨name, .ok⟩ "\n"))
  | @notOk number name diagnostic results comments lines _ _ ih =>
      -- the mark is what a reader sees of a comment, so the diagnostic does not matter
      have hcomments :
          ((comments.map ("  # " ++ ·)).map (· ++ "\n")).filter (kind · ≠ .other) = [] := by
        rw [List.filter_eq_nil_iff, List.map_map, List.forall_mem_map]
        intro comment _
        simp [String.append_assoc, kind_comment]
      have hbehind :
          (((comments.map ("  # " ++ ·)) ++ lines).map (· ++ "\n")).filter (kind · ≠ .other) =
            headings (number + 1) results := by
        rw [List.map_append, List.filter_append, hcomments, List.nil_append, ih]
      rw [headings_cons, ← hbehind, List.map_cons]
      exact List.filter_cons_of_pos
        (decide_eq_true (kind_heading_ne_other number ⟨name, .notOk diagnostic⟩ "\n"))

/-- The failures are the results whose headings say so. -/
theorem countP_headings (number : Nat) (results : List Result) :
    (headings number results).countP (kind · = .result false) = failures results := by
  induction results generalizing number with
  | nil =>
      rfl
  | cons r results ih =>
      rw [headings_cons, List.countP_cons, ih, failures, failures, List.countP_cons, kind_heading]
      cases r.passed with
      | true =>
          rfl
      | false =>
          rfl

/-! ## The stream of a report -/

/-- What stands behind the plan. -/
def summary (results : List Result) : List String :=
  if failures results = 0 then []
  else
    ["# failed " ++ Nat.repr (failures results) ++ " of " ++ Nat.repr results.length ++ " tests"]

theorem closing_eq (results : List Result) :
    closing results = ("1.." ++ Nat.repr results.length) :: summary results := rfl

theorem eq_of_mem_summary {results : List Result} {line : String} (h : line ∈ summary results) :
    line = "# failed " ++ Nat.repr (failures results) ++ " of " ++ Nat.repr results.length ++
      " tests" := by
  unfold summary at h
  split at h
  · cases h
  · exact List.mem_singleton.1 h

/-- The lines around the results are no results, and only one of them is a plan. -/
theorem kind_around (results : List Result) :
    kind "TAP version 13\n" = .other ∧
      kind ("1.." ++ Nat.repr results.length ++ "\n") = .plan ∧
      ∀ line ∈ summary results, kind (line ++ "\n") = .other := by
  refine ⟨by decide, ?_, fun line hline => ?_⟩
  · rw [String.append_assoc, kind_plan]
  · rw [eq_of_mem_summary hline]
    simp only [String.append_assoc, kind_summary]

theorem not_mem_lines {results : List Result}
    (hnames : ∀ result ∈ results, '\n' ∉ result.name.toList) :
    ∀ line ∈ lines results, '\n' ∉ line.toList := by
  refine List.forall_mem_cons.2 ⟨by decide, ?_⟩
  refine List.forall_mem_append.2 ⟨(told_lines results 1).not_mem hnames, ?_⟩
  rw [closing_eq]
  refine List.forall_mem_cons.2 ⟨by simpa using newline_not_mem_digits _, fun line hline => ?_⟩
  rw [eq_of_mem_summary hline]
  simpa using ⟨newline_not_mem_digits _, newline_not_mem_digits _⟩

/-- The report on results whose names stay on their lines, line by line. Behind the version, each
result has its heading, with numbers from one on, and behind the heading of a failure stand the lines
of its diagnostic as comments. Then comes the plan, and if there are failures a comment that counts
them. No other line may be taken for a result or for a plan, whatever the diagnostics are, and the
failures are as many as the lines that say `not ok`. -/
theorem report_stream {results : List Result}
    (hnames : ∀ result ∈ results, '\n' ∉ result.name.toList) :
    ∃ body : List String,
      let stream := Text.keepingEnds (render results)
      let plan := "1.." ++ Nat.repr results.length
      Told 1 results body ∧
      stream = ("TAP version 13" :: (body ++ plan :: summary results)).map (· ++ "\n") ∧
      stream.filter (kind · ≠ .other) = headings 1 results ++ [plan ++ "\n"] ∧
      failures results = stream.countP (kind · = .result false) := by
  have htold := told_lines results 1
  have hstream : Text.keepingEnds (render results) = (lines results).map (· ++ "\n") :=
    Text.keepingEnds_join (not_mem_lines hnames)
  have hread :
      (Text.keepingEnds (render results)).filter (kind · ≠ .other) =
        headings 1 results ++ ["1.." ++ Nat.repr results.length ++ "\n"] := by
    rcases kind_around results with ⟨hversion, hplan, hsummary⟩
    have hbehind : ((summary results).map (· ++ "\n")).filter (kind · ≠ .other) = [] := by
      rw [List.filter_eq_nil_iff, List.forall_mem_map]
      intro line hline
      simp [hsummary line hline]
    rw [hstream, lines, closing_eq, List.map_cons, List.map_append, List.map_cons,
      List.filter_cons_of_neg (by simp [hversion]), List.filter_append, htold.filter_kind,
      List.filter_cons_of_pos (by simp [hplan]), hbehind]
  refine ⟨_, htold, hstream, hread, ?_⟩
  -- the lines that say so are among those that may be taken for something
  have hcount :
      ((Text.keepingEnds (render results)).filter (kind · ≠ .other)).countP
          (kind · = .result false) =
        (Text.keepingEnds (render results)).countP (kind · = .result false) := by
    rw [List.countP_filter]
    refine List.countP_congr fun line _ => ?_
    simp only [Bool.and_eq_true, decide_eq_true_eq, and_iff_left_iff_imp]
    intro hkind
    rw [hkind]
    exact Kind.noConfusion
  rw [← hcount, hread, List.countP_append, countP_headings,
    List.countP_singleton, (kind_around results).2.1]
  rfl

/-- A failure whose diagnostic says what a report says. -/
def forged : List Result :=
  [⟨"a", .ok⟩, ⟨"b", .notOk "ok 7 - x\r\n1..9\n"⟩, ⟨"c", .notOk ""⟩]

theorem report_stream_forged :
    (∀ result ∈ forged, '\n' ∉ result.name.toList) ∧
      (∃ body, Told 1 forged body ∧
        Text.keepingEnds (render forged) =
          ("TAP version 13" :: (body ++ ["1..3", "# failed 2 of 3 tests"])).map (· ++ "\n")) ∧
      (Text.keepingEnds (render forged)).filter (kind · ≠ .other) =
        ["ok 1 - a\n", "not ok 2 - b\n", "not ok 3 - c\n", "1..3\n"] ∧
      (Text.keepingEnds (render forged)).countP (kind · = .result false) = 2 := by
  have hnames : ∀ result ∈ forged, '\n' ∉ result.name.toList := by
    decide
  rcases report_stream hnames with ⟨body, htold, hstream, hread, hcount⟩
  exact ⟨hnames, ⟨body, htold, hstream⟩, hread, hcount.symm⟩

/-- The plan is not the last line if there are failures. -/
theorem plan_before_summary :
    ¬ ∀ results : List Result, (∀ result ∈ results, '\n' ∉ result.name.toList) →
      ∃ body, Told 1 results body ∧
        Text.keepingEnds (render results) =
          ("TAP version 13" :: (body ++ ["1.." ++ Nat.repr results.length])).map (· ++ "\n") := by
  intro hall
  rcases hall [⟨"t", .notOk "x"⟩] (by decide) with ⟨body, -, hstream⟩
  have hlast :
      (Text.keepingEnds (render [⟨"t", .notOk "x"⟩])).getLast? =
        some "# failed 1 of 1 tests\n" := by
    decide
  rw [hstream, ← List.cons_append, List.map_append, List.map_singleton,
    List.getLast?_concat] at hlast
  exact absurd hlast (by decide)

end Tap
end TemplateVariants
