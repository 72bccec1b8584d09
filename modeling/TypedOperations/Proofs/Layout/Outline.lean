import TypedOperations.Layout.Step
import TypedOperations.Proofs.Layout.Docstring
import TypedOperations.Proofs.Layout.LineTree
import TypedOperations.Proofs.Layout.Writer

/-!
# Layout programs and their trees

A layout program of lines, requests for gaps, blocks and classes is a tree, and so is the text that it writes. What a part of a
program writes is followed line by line (`Writes`): at which level each line stands and how many empty lines come before it,
whatever was owed or written when the part began. A whole program then writes the lines of its tree.
-/

namespace TypedOperations.Layout

/-! ## Programs of lines and blocks -/

/-- The description is a text of one line, or there is none. -/
def IsRemark (description : Option String) : Prop :=
  ∀ text ∈ description, OneLine text ∧ ∀ c ∈ text.toList, Text.isLineBreak c = false

/-- The line of a description of one line: without the blanks at its end, escaped, in three quotes. -/
def remarkLine (text : String) : String :=
  "\"\"\"" ++ String.ofList (docChars (Text.trim text.toList)) ++ "\"\"\""

/-- The lines that a description adds to a body. -/
def remarkTrees (description : Option String) : List LineTree :=
  description.toList.map fun text => .node (remarkLine text) []

mutual

/-- The step writes a line, asks for a gap, or is a block or class of such steps; all texts are of one line. -/
def Step.IsOutline : Step → Prop
  | .act (.line (some text)) => OneLine text
  | .act .separate => True
  | .block (.block header) body => OneLine header ∧ AreOutlines body
  | .block (.declaration name bases description) body =>
    OneLine (Writer.classHeader name bases) ∧ IsRemark description ∧ AreOutlines body
  | _ => False

/-- All steps write lines, ask for gaps, or are blocks or classes of such steps. -/
def AreOutlines : List Step → Prop
  | [] => True
  | step :: rest => step.IsOutline ∧ AreOutlines rest

end

/-- A header with its body, in which `pass` stands for nothing. -/
def blockTree (header : String) (body : List LineTree) : LineTree :=
  .node (header ++ ":") (if body.isEmpty then [.node "pass" []] else body)

mutual

/-- The tree of a step; a request for a gap has none. -/
def Step.trees : Step → List LineTree
  | .act (.line (some text)) => [.node text []]
  | .block (.block header) body => [blockTree header (treesOf body)]
  | .block (.declaration name bases description) body =>
    [blockTree (Writer.classHeader name bases) (remarkTrees description ++ treesOf body)]
  | _ => []

/-- The trees of steps one after another. -/
def treesOf : List Step → List LineTree
  | [] => []
  | step :: rest => step.trees ++ treesOf rest

end

/-! ## What a part of a program writes -/

/-- The text of a writer is that of lines that were placed. -/
structure Shows (w : Writer) (log : List Placed) : Prop where
  body : w.body.toList = ['\n'].intercalate (log.flatMap Placed.lines)
  pieces : w.pieces = [] ↔ log = []

/-- The next line of a writer, with the empty lines that come before it. -/
def next (w : Writer) (text : String) : Placed :=
  ⟨if w.pieces.isEmpty then 0 else w.owed, w.level, text⟩

/-- Nothing was written at the level, and nothing is owed. -/
def Fresh (w : Writer) : Prop :=
  w.atLevelStart = true ∧ w.owed = 0

/-- The second writer is the first after lines were written, which are those of trees at its level. No more than two empty lines
come before a line, none before the first line of a level, and it shows in the number of pieces whether there is any line. -/
structure Writes (w w' : Writer) (ts : List LineTree) (added : List Placed) : Prop where
  level : w'.level = w.level
  shows : ∀ {log}, Shows w log → Shows w' (log ++ added)
  lines : added.map (fun p => (p.level, p.text)) = forestLines w.level ts
  oneLine : ∀ p ∈ added, OneLine p.text
  owed : w.owed ≤ 2 → w'.owed ≤ 2 ∧ ∀ p ∈ added, p.blanks ≤ 2
  tight : added.IsChain fun p q => p.level < q.level → q.blanks = 0
  fresh : Fresh w → added = [] ∧ Fresh w' ∨ ∃ p rest, added = p :: rest ∧ p.blanks = 0
  size_le : w.size ≤ w'.size
  size_eq : w'.size = w.size ↔ added = []

section
variable {w w' w'' : Writer} {ts ts' : List LineTree} {added added' log : List Placed} {text header : String}

theorem Placed.intercalate_lines (p : Placed) : ['\n'].intercalate p.lines = List.replicate p.blanks '\n' ++ p.line := by
  obtain ⟨blanks, level, text⟩ := p
  induction blanks with
  | zero => exact List.intercalate_singleton
  | succ n ih =>
    have hlines : Placed.lines ⟨n + 1, level, text⟩ = [] :: Placed.lines ⟨n, level, text⟩ := rfl
    rw [hlines, List.intercalate_cons_of_ne_nil (by simp [lines]), ih]
    rfl

theorem flatMap_lines_ne_nil (hlog : log ≠ []) : log.flatMap Placed.lines ≠ [] := by
  obtain ⟨p, hp⟩ := List.exists_mem_of_ne_nil log hlog
  intro h
  simpa [Placed.lines] using List.flatMap_eq_nil_iff.mp h p hp

/-- A line joins those that were placed. -/
theorem Shows.line (hshows : Shows w log) (htext : OneLine text) : Shows (w.line text) (log ++ [next w text]) := by
  refine ⟨?_, by simp [Writer.pieces_line w htext.notEmpty]⟩
  rw [Writer.body_line w htext.notEmpty]
  by_cases hw : w.pieces = []
  · have hbody : w.body = "" := by simp [Writer.body, hw]
    simp [hshows.pieces.mp hw, next, Writer.gap, hw, hbody, Placed.lines, Placed.line, Writer.toList_indentation]
  · have hlines := flatMap_lines_ne_nil (mt hshows.pieces.mpr hw)
    have hgap : w.gap.toList = '\n' :: List.replicate w.owed '\n' := by
      rw [Writer.gap, if_neg (by simpa using hw), Writer.toList_repeated_lineEnd, Nat.add_comm, List.replicate_succ]
    have hnext : ['\n'].intercalate (next w text).lines =
        List.replicate w.owed '\n' ++ (w.indentation.toList ++ text.toList) := by
      rw [Placed.intercalate_lines, Writer.toList_indentation]
      simp [next, hw, Placed.line]
    rw [List.flatMap_append, List.flatMap_singleton, Writer.intercalate_append _ hlines (by simp [Placed.lines]), hnext,
      ← hshows.body]
    simp [hgap]

theorem flatMap_lines_noLineEnd (hlog : ∀ p ∈ log, OneLine p.text) : ∀ l ∈ log.flatMap Placed.lines, '\n' ∉ l := by
  intro l hl
  obtain ⟨p, hp, hl⟩ := List.mem_flatMap.mp hl
  exact Placed.lineEnd_notMem (hlog p hp) l hl

/-- Lines that are not blank leave a text that is not empty. -/
theorem Shows.body_ne_empty (hshows : Shows w log) (hlog : ∀ p ∈ log, OneLine p.text) (hne : log ≠ []) : w.body ≠ "" := by
  intro hempty
  have hlines := List.splitOn_intercalate '\n' (flatMap_lines_noLineEnd hlog) (flatMap_lines_ne_nil hne)
  rw [← hshows.body, hempty] at hlines
  have hplaced := filter_lines hlog
  rw [← hlines] at hplaced
  exact hne (List.map_eq_nil_iff.mp hplaced.symm)

/-- The text of placed lines, closed by a line end, has these lines. -/
theorem Shows.textLines_output (hshows : Shows w log) (hlog : ∀ p ∈ log, OneLine p.text) :
    textLines w.output = log.flatMap Placed.lines ++ [[]] := by
  have houtput : w.output.toList = ['\n'].intercalate (log.flatMap Placed.lines ++ [[]]) := by
    by_cases hne : log = []
    · have hbody : w.body = "" := by simp [Writer.body, hshows.pieces.mpr hne]
      simp [Writer.output, hbody, hne]
    · rw [Writer.output, if_neg (by simpa using hshows.body_ne_empty hlog hne), String.toList_append, hshows.body,
        Writer.intercalate_append _ (flatMap_lines_ne_nil hne) (List.cons_ne_nil _ _)]
      rfl
  rw [textLines, houtput]
  refine List.splitOn_intercalate '\n' (fun l hl => ?_) (by simp)
  rcases List.mem_append.mp hl with hl | hl
  · exact flatMap_lines_noLineEnd hlog l hl
  · rw [List.mem_singleton.mp hl]
    exact List.not_mem_nil

theorem Writes.refl (w : Writer) : Writes w w [] [] where
  level := rfl
  shows h := by simpa using h
  lines := rfl
  oneLine := by simp
  owed h := ⟨h, by simp⟩
  tight := .nil
  fresh h := Or.inl ⟨rfl, h⟩
  size_le := Nat.le_refl _
  size_eq := by simp

/-- A request for a gap writes nothing. -/
theorem writes_separate (w : Writer) : Writes w w.separate [] [] := by
  rw [Writer.separate]
  split
  · exact .refl w
  · next hstart =>
    refine { Writes.refl w with shows := fun h => ?_, owed := fun h => ⟨?_, by simp⟩, fresh := fun h => absurd h.1 hstart }
    · rw [List.append_nil]
      exact ⟨h.body, h.pieces⟩
    · show max w.owed (if w.level == 0 then 2 else 1) ≤ 2
      split <;> omega

/-- A line is written. -/
theorem writes_line (w : Writer) (htext : OneLine text) : Writes w (w.line text) [.node text []] [next w text] where
  level := Writer.level_line w
  shows h := h.line htext
  lines := rfl
  oneLine := by simpa [next] using htext
  owed h := by
    rw [Writer.owed_line w htext.notEmpty]
    refine ⟨by omega, ?_⟩
    intro p hp
    rw [List.mem_singleton.mp hp, next]
    dsimp only
    split <;> omega
  tight := .singleton _
  fresh h := Or.inr ⟨_, _, rfl, by simp [next, h.2]⟩
  size_le := Nat.le_of_lt (Writer.size_lt_line w htext.notEmpty)
  size_eq := by
    have := Writer.size_lt_line w htext.notEmpty
    simp only [List.cons_ne_nil, iff_false]
    omega

namespace Writes

theorem added_eq_nil (h : Writes w w' ts added) : added = [] ↔ ts = [] := by
  rw [← forestLines_eq_nil w.level, ← h.lines, List.map_eq_nil_iff]

/-- What is written after something else. -/
theorem trans (h : Writes w w' ts added) (h' : Writes w' w'' ts' added') : Writes w w'' (ts ++ ts') (added ++ added') where
  level := h'.level.trans h.level
  shows hshows := by
    rw [← List.append_assoc]
    exact h'.shows (h.shows hshows)
  lines := by rw [List.map_append, h.lines, h'.lines, h.level, forestLines_append]
  oneLine := by
    intro p hp
    rcases List.mem_append.mp hp with hp | hp
    · exact h.oneLine p hp
    · exact h'.oneLine p hp
  owed howed := by
    obtain ⟨howed', hblanks⟩ := h.owed howed
    obtain ⟨howed'', hblanks'⟩ := h'.owed howed'
    refine ⟨howed'', fun p hp => ?_⟩
    rcases List.mem_append.mp hp with hp | hp
    · exact hblanks p hp
    · exact hblanks' p hp
  tight := by
    -- the second part begins at the level of both, and no line of the first part is above that
    refine h.tight.append h'.tight fun p hp q hq hlt => ?_
    have hlast : w.level ≤ p.level := by
      refine forest_level_le (e := (p.level, p.text)) ts ?_
      rw [← h.lines]
      exact List.mem_map_of_mem (List.mem_of_getLast? hp)
    have hfirst : q.level = w'.level := by
      refine head?_forestLines (e := (q.level, q.text)) ts' ?_
      rw [← h'.lines, List.head?_map, hq]
      rfl
    have hlevel := h.level
    omega
  fresh hfresh := by
    rcases h.fresh hfresh with ⟨rfl, hfresh'⟩ | ⟨p, rest, rfl, hp⟩
    · exact h'.fresh hfresh'
    · exact Or.inr ⟨p, rest ++ added', rfl, hp⟩
  size_le := Nat.le_trans h.size_le h'.size_le
  size_eq := by
    have hle := h.size_le
    have hle' := h'.size_le
    rw [List.append_eq_nil_iff, ← h.size_eq, ← h'.size_eq]
    omega

/-- What is written below a line. -/
theorem under (htext : OneLine text) (h : Writes (w.line text).indent w' ts added) :
    Writes w w'.dedent [.node text ts] (next w text :: added) where
  level := by
    have hlevel : w'.level = (w.line text).level + 1 := h.level
    rw [Writer.level_line] at hlevel
    rw [Writer.dedent, hlevel]
    rfl
  shows hshows := by
    have hline := hshows.line htext
    have hbelow := h.shows (Shows.mk hline.body hline.pieces)
    rw [List.append_assoc] at hbelow
    exact Shows.mk hbelow.body hbelow.pieces
  lines := by
    have hlevel : (w.line text).indent.level = w.level + 1 := congrArg (· + 1) (Writer.level_line w)
    rw [List.map_cons, h.lines, hlevel]
    simp [forestLines, LineTree.lines, next]
  oneLine := by
    intro p hp
    rcases List.mem_cons.mp hp with rfl | hp
    · exact htext
    · exact h.oneLine p hp
  owed howed := by
    have hnext := (writes_line w htext).owed howed
    obtain ⟨howed', hblanks⟩ := h.owed hnext.1
    refine ⟨howed', fun p hp => ?_⟩
    rcases List.mem_cons.mp hp with rfl | hp
    · exact hnext.2 _ List.mem_cons_self
    · exact hblanks p hp
  tight := by
    have hfresh : Fresh (w.line text).indent := ⟨rfl, Writer.owed_line w htext.notEmpty⟩
    rcases h.fresh hfresh with ⟨rfl, -⟩ | ⟨p, rest, rfl, hp⟩
    · exact .singleton _
    · exact List.isChain_cons_cons.mpr ⟨fun _ => hp, h.tight⟩
  fresh hfresh := Or.inr ⟨_, _, rfl, by simp [next, hfresh.2]⟩
  size_le := Nat.le_trans (Nat.le_of_lt (Writer.size_lt_line w htext.notEmpty)) h.size_le
  size_eq := by
    have hlt := Writer.size_lt_line w htext.notEmpty
    have hle : (w.line text).size ≤ w'.dedent.size := h.size_le
    simp only [reduceCtorEq, iff_false]
    omega

end Writes

theorem oneLine_pass : OneLine "pass" := by
  decide

theorem OneLine.colon (hheader : OneLine header) : OneLine (header ++ ":") where
  notEmpty := by simp
  noLineEnd := by
    rw [String.toList_append, List.mem_append, not_or]
    exact ⟨hheader.noLineEnd, by decide⟩
  noBlank c hc := by
    obtain ⟨first, rest, hfirst, hblank⟩ := hheader.exists_first
    obtain rfl : first = c := by simpa [hfirst] using hc
    exact hblank

/-- A block is written with what its body wrote, or with `pass`. -/
theorem writes_block (hheader : OneLine header) (h : Writes (w.openBlock header) w' ts added) :
    ∃ added', Writes w (w'.closeBlock (w.openBlock header).size) [blockTree header ts] added' := by
  rw [Writer.closeBlock, blockTree]
  by_cases hsize : w'.size = (w.openBlock header).size
  · obtain rfl : ts = [] := h.added_eq_nil.mp (h.size_eq.mp hsize)
    rw [if_pos (by simpa using hsize)]
    exact ⟨_, Writes.under hheader.colon (h.trans (writes_line w' oneLine_pass))⟩
  · have hne : ts ≠ [] := fun hts => hsize (h.size_eq.mpr (h.added_eq_nil.mpr hts))
    rw [if_neg (by simpa using hsize), if_neg (by simpa using hne)]
    exact ⟨_, h.under hheader.colon⟩

theorem OneLine.remarkLine (htext : OneLine text) : OneLine (remarkLine text) where
  notEmpty := by simp [Layout.remarkLine]
  noLineEnd := by
    have hquotes : '\n' ∉ "\"\"\"".toList := by decide
    simp only [Layout.remarkLine, String.toList_append, String.toList_ofList, List.mem_append, hquotes, false_or, or_false]
    intro hmem
    rcases mem_docChars hmem with h | h
    · exact htext.noLineEnd (Text.mem_of_mem_trim h)
    · exact absurd h (by decide)
  noBlank c hc := by
    obtain rfl : '\x22' = c := by simpa [Layout.remarkLine] using hc
    rfl

/-- A description of one line is written as its line. -/
theorem writes_description (w : Writer) {description : Option String} (hremark : IsRemark description) :
    ∃ w' added, writeDescription w description = .ok w' ∧ Writes w w' (remarkTrees description) added := by
  cases description with
  | none => exact ⟨w, [], rfl, .refl w⟩
  | some text =>
    obtain ⟨htext, hbreaks⟩ := hremark text rfl
    obtain ⟨c, rest, hfirst, hc⟩ := htext.exists_first
    have hne : Text.trim text.toList ≠ [] := Text.trim_ne_nil (by simp [hfirst]) hc
    refine ⟨w.line (remarkLine text), _, ?_, writes_line w htext.remarkLine⟩
    rw [writeDescription, Docstring.ofDescription, if_neg (by simpa using htext.notEmpty),
      Docstring.ofText?_of_noBreak hne hbreaks]
    rfl

/-! ## What a program writes -/

theorem run_block {r r' : Run} {opening : Opening} {body : List Step} {start : Option Nat}
    (hopened : opening.apply r.writer = .ok (w, start))
    (hrun : runBody ((r.withWriter w).report opening.kind .entered) body = .ok r') :
    (Step.block opening body).run r = .ok ((r'.withWriter (closing r'.writer start)).report opening.kind .left) := by
  rw [Step.run, hopened]
  simp only [hrun]

mutual

/-- A step of lines and blocks succeeds and writes its trees. -/
theorem Step.run_writes (r : Run) : ∀ step : Step, step.IsOutline →
    ∃ r' added, step.run r = .ok r' ∧ Writes r.writer r'.writer step.trees added
  | .act (.line (some text)), htext => ⟨_, _, rfl, writes_line r.writer htext⟩
  | .act .separate, _ => ⟨_, _, rfl, writes_separate r.writer⟩
  | .block (.block header) body, ⟨hheader, hbody⟩ => by
    obtain ⟨r', added, hrun, hwrites⟩ :=
      runBody_writes ((r.withWriter (r.writer.openBlock header)).report .block .entered) body hbody
    obtain ⟨added', hblock⟩ := writes_block hheader hwrites
    exact ⟨_, added', run_block rfl hrun, hblock⟩
  | .block (.declaration name bases description) body, ⟨hheader, hremark, hbody⟩ => by
    obtain ⟨w, added, hdescription, hremarkWrites⟩ := writes_description (r.writer.openClass name bases) hremark
    obtain ⟨r', added', hrun, hwrites⟩ := runBody_writes ((r.withWriter w).report .declaration .entered) body hbody
    obtain ⟨added'', hblock⟩ := writes_block hheader (hremarkWrites.trans hwrites)
    have hopened : (Opening.declaration name bases description).apply r.writer =
        .ok (w, some (r.writer.openClass name bases).size) := by
      simp [Opening.apply, hdescription, Except.map]
    exact ⟨_, [] ++ added'', run_block hopened hrun, (writes_separate r.writer).trans hblock⟩

/-- Steps of lines and blocks succeed and write their trees. -/
theorem runBody_writes (r : Run) : ∀ steps : List Step, AreOutlines steps →
    ∃ r' added, runBody r steps = .ok r' ∧ Writes r.writer r'.writer (treesOf steps) added
  | [], _ => ⟨r, [], rfl, .refl r.writer⟩
  | step :: rest, ⟨hstep, hrest⟩ => by
    obtain ⟨r₁, added, hrun, hwrites⟩ := Step.run_writes r step hstep
    obtain ⟨r₂, added', hrunRest, hwritesRest⟩ := runBody_writes r₁ rest hrest
    refine ⟨r₂, added ++ added', ?_, hwrites.trans hwritesRest⟩
    rw [runBody, hrun]
    exact hrunRest

end

/-- Outermost steps that all succeed are run like those of a body. -/
theorem foldl_runOutermost {r r' : Run} {steps : List Step} (h : runBody r steps = .ok r') :
    steps.foldl Step.runOutermost r = r' := by
  induction steps generalizing r with
  | nil => exact Except.ok.inj h
  | cons step rest ih =>
    rw [runBody] at h
    cases hstep : step.run r with
    | error failed =>
      rw [hstep] at h
      cases h
    | ok r₁ =>
      rw [hstep] at h
      rw [List.foldl_cons, Step.runOutermost, hstep]
      exact ih h

theorem separate_separate (w : Writer) : w.separate.separate = w.separate := by
  by_cases hstart : w.atLevelStart = true
  · simp [Writer.separate, hstart]
  · simp [Writer.separate, hstart]

/-- A program of lines, gaps, blocks and classes writes its own tree. Read by its indentation, the text is the tree of the
program, with `pass` for every empty body; no blank line comes between a line and the first one below it, and no three lines in
a row are blank. From any state the program succeeds and comes back to the level at which it began. A second request for a gap
right after the first changes nothing. -/
theorem outline_read_back (steps : List Step) (hsteps : AreOutlines steps) :
    readTrees (run steps).writer.output = some (treesOf steps) ∧
      HeadersTight (textLines (run steps).writer.output) ∧ FewBlanks (textLines (run steps).writer.output) ∧
      (∀ r, ∃ r', runBody r steps = .ok r' ∧ r'.writer.level = r.writer.level) ∧ (run steps).writer.level = 0 ∧
      ∀ w : Writer, w.separate.separate = w.separate := by
  obtain ⟨r, log, hrun, hwrites⟩ := runBody_writes {} steps hsteps
  obtain rfl : run steps = r := foldl_runOutermost hrun
  have hshows : Shows (run steps).writer log := by
    simpa using hwrites.shows (Shows.mk rfl (Iff.intro (fun _ => rfl) fun _ => rfl))
  have hlines := hshows.textLines_output hwrites.oneLine
  refine ⟨readTrees_of_placed hlines hwrites.oneLine hwrites.lines, ?_, ?_, ?_, hwrites.level, separate_separate⟩
  · rw [hlines]
    exact headersTight_of_placed hwrites.oneLine hwrites.tight
  · rw [hlines]
    exact fewBlanks_of_placed hwrites.oneLine (hwrites.owed (Nat.zero_le _)).2
  · intro r
    obtain ⟨r', _, hrun', hwrites'⟩ := runBody_writes r steps hsteps
    exact ⟨r', hrun', hwrites'.level⟩

/-- A class with a remark, a gap asked for at its start and at its end, and a method without a body; then an empty class. -/
def nestedOutline : List Step :=
  [.act .separate, .act (.line (some "import json")), .act .separate,
    .block (.declaration "Query" ["Base"] (some "What is asked.  "))
      [.act .separate, .act (.line (some "size = 1")), .act .separate, .act .separate, .block (.block "def ask(self)") [],
        .act .separate],
    .block (.declaration "Empty" [] none) [], .act (.line (some "done = True"))]

theorem outline_read_back_nested :
    AreOutlines nestedOutline ∧
      readTrees (run nestedOutline).writer.output =
        some [.node "import json" [],
          .node "class Query(Base):" [.node "\"\"\"What is asked.\"\"\"" [], .node "size = 1" [],
            .node "def ask(self):" [.node "pass" []]],
          .node "class Empty:" [.node "pass" []], .node "done = True" []] ∧
      HeadersTight (textLines (run nestedOutline).writer.output) ∧ FewBlanks (textLines (run nestedOutline).writer.output) ∧
      (run nestedOutline).writer.level = 0 := by
  have hremark : IsRemark (some "What is asked.  ") := by
    intro text htext
    cases htext
    have hbreaks : ∀ c ∈ "What is asked.  ".toList, (!Text.isLineBreak c) = true := List.all_eq_true.mp (by decide)
    exact ⟨by decide, fun c hc => by simpa using hbreaks c hc⟩
  have hsteps : AreOutlines nestedOutline := by
    simp only [nestedOutline, AreOutlines, Step.IsOutline, and_true, true_and]
    exact ⟨by decide, ⟨by decide, hremark, by decide, by decide⟩, ⟨by decide, fun _ h => nomatch h⟩, by decide⟩
  have htrees : treesOf nestedOutline =
      [.node "import json" [],
        .node "class Query(Base):" [.node "\"\"\"What is asked.\"\"\"" [], .node "size = 1" [],
          .node "def ask(self):" [.node "pass" []]],
        .node "class Empty:" [.node "pass" []], .node "done = True" []] := by
    rfl
  obtain ⟨hread, htight, hblanks, -, hlevel, -⟩ := outline_read_back nestedOutline hsteps
  exact ⟨hsteps, hread.trans (congrArg some htrees), htight, hblanks, hlevel⟩

end

end TypedOperations.Layout
