import Marking.Proofs.Text.Cutting
import Marking.Proofs.Text.Integer
import Marking.Report

-- Lines on a channel, and what a reader gets back who takes the channel apart at its line ends.
-- A line end in written feedback is one of them.

namespace Marking.ReportLine

def channel (lines : List ReportLine) : Text := lines.flatMap fun line => line.written ++ ['\n']

-- The pieces before each line end. What follows the last one is no line.
def pieces (text : Text) : List Text := (text.splitOn '\n').dropLast

-- What writing leaves of a line: a pass says no more, and empty feedback is none.
def received (line : ReportLine) : ReportLine :=
  {line with feedback := if line.pass then none else line.feedback.filter (!·.isEmpty)}

def flag (line : ReportLine) : Char := if line.pass then '1' else '0'

def quotedFeedback (line : ReportLine) : Text :=
  if line.pass then [] else '"' :: line.feedback.getD [] ++ ['"']

variable {line : ReportLine} {lines : List ReportLine} {text piece feedback : Text}

@[simp] theorem received_passed (id : Int64) : (passed id).received = passed id := rfl

@[simp] theorem received_failed (id : Int64) (feedback : Text) :
    (failed id feedback).received = ⟨false,if feedback = [] then none else some feedback,id⟩ := by
  cases feedback <;> rfl

theorem written_eq (line : ReportLine) :
    line.written = [line.flag] ++ ',' :: (line.quotedFeedback ++ ',' :: Text.ofInt line.testCaseId.toInt) := by
  cases pass : line.pass <;> simp [written,flag,quotedFeedback,pass]

theorem unquoted_quotes (feedback : Text) : unquoted ('"' :: feedback ++ ['"']) = feedback := by
  simp [unquoted]

theorem received_feedback (line : ReportLine) :
    line.received.feedback =
      if (unquoted line.quotedFeedback).isEmpty then none else some (unquoted line.quotedFeedback) := by
  unfold received quotedFeedback
  cases line.pass with
  | true => rfl
  | false =>
    simp only [Bool.false_eq_true,if_false,unquoted_quotes]
    cases line.feedback with
    | none => rfl
    | some feedback => cases feedback <;> rfl

theorem readFlag_flag (line : ReportLine) : readFlag? [line.flag] = some line.pass := by
  cases pass : line.pass <;> simp only [flag,pass] <;> decide

theorem written_trimmed (line : ReportLine) :
    Text.dropTrailing (fun c => c == '\r' || c == '\n') line.written = line.written := by
  have kept : ∀ c ∈ Text.ofInt line.testCaseId.toInt, (c == '\r' || c == '\n') = false := by
    intro c member
    rcases Text.mem_ofInt member with rfl | digit
    · decide
    · by_contra ends
      obtain rfl | rfl : c = '\r' ∨ c = '\n' := by simpa [or_iff_not_imp_left] using ends
      all_goals exact absurd digit (by decide)
  unfold written
  split <;> exact Text.dropTrailing_append (Text.ofInt_ne_nil _) kept

theorem read_written (line : ReportLine) : read? line.written = some line.received := by
  have first : ',' ∉ [line.flag] := by cases pass : line.pass <;> simp [flag,pass]
  have last : ',' ∉ Text.ofInt line.testCaseId.toInt := Text.not_mem_ofInt (by decide) (by decide)
  unfold read?
  rw [written_trimmed,written_eq,Text.cutAtFirst_append first]
  simp only [Option.bind_eq_bind,Option.bind_some,Text.cutAtLast_append last,readFlag_flag,
    Text.trim_ofInt,Text.readInt64_ofInt]
  rw [← received_feedback]
  rfl

theorem read_back_exact (line : ReportLine) :
    read? line.written = some
      ⟨line.pass,if line.pass = true ∨ line.feedback = some [] then none else line.feedback,line.testCaseId⟩ ∧
    (read? line.written = some line ↔ (line.pass = true → line.feedback = none) ∧ line.feedback ≠ some []) := by
  have shape : line.received =
      ⟨line.pass,if line.pass = true ∨ line.feedback = some [] then none else line.feedback,line.testCaseId⟩ := by
    unfold received
    cases pass : line.pass with
    | true => simp
    | false =>
      cases line.feedback with
      | none => simp
      | some feedback => cases feedback <;> simp
  rw [read_written,shape]
  refine ⟨rfl,?_⟩
  obtain ⟨pass,feedback,id⟩ := line
  cases pass with
  | true => cases feedback <;> simp
  | false =>
    cases feedback with
    | none => simp
    | some feedback => cases feedback <;> simp

theorem unquoted_subset (feedback : Text) : unquoted feedback ⊆ feedback := by
  unfold unquoted
  split
  · split
    · exact fun _ member => List.mem_cons_of_mem _ (List.dropLast_subset _ member)
    · exact List.Subset.refl _
  · exact List.Subset.refl _

theorem read_feedback (read : read? text = some line) (given : line.feedback = some feedback) :
    feedback ⊆ text := by
  unfold read? at read
  simp only [Option.bind_eq_bind,Option.bind_eq_some_iff] at read
  obtain ⟨⟨flag,rest⟩,first,⟨quoted,id⟩,last,pass,_,testCaseId,_,same⟩ := read
  cases same
  obtain ⟨trimmed,_⟩ := Text.cutAtFirst_eq_some_iff.mp first
  obtain ⟨rfl,_⟩ := Text.cutAtLast_eq_some_iff.mp last
  dsimp only at given
  split at given
  · cases given
  · cases given
    intro c member
    have inner : c ∈ quoted := unquoted_subset quoted member
    have kept : c ∈ Text.dropTrailing (fun c => c == '\r' || c == '\n') text := by
      rw [trimmed]
      simp [inner]
    exact (Text.dropTrailing_prefix _ text).subset kept

theorem pieces_channel (single : ∀ line ∈ lines, '\n' ∉ line.written) :
    pieces (channel lines) = lines.map written := by
  have whole : (channel lines).splitOn '\n' = lines.map written ++ [[]] := by
    induction lines with
    | nil => rfl
    | cons line lines ih =>
      have first : '\n' ∉ line.written := single line (List.mem_cons_self ..)
      have others : ∀ line ∈ lines, '\n' ∉ line.written :=
        fun line member => single line (List.mem_cons_of_mem _ member)
      simp only [channel,List.flatMap_cons,List.append_assoc,List.singleton_append]
      rw [List.splitOn_append_cons_self_of_not_mem first]
      exact congrArg (line.written :: ·) (ih others)
  rw [pieces,whole,List.dropLast_concat]

theorem lineEnd_not_mem_piece (member : piece ∈ pieces text) : '\n' ∉ piece :=
  Text.not_mem_of_mem_splitOn (List.dropLast_subset _ member)

def OnOneLine (line : ReportLine) : Prop :=
  ∀ feedback, line.received.feedback = some feedback → '\n' ∉ feedback

theorem OnOneLine.quotedFeedback (single : line.OnOneLine) : '\n' ∉ line.quotedFeedback := by
  unfold OnOneLine received at single
  unfold ReportLine.quotedFeedback
  cases pass : line.pass with
  | true => exact List.not_mem_nil
  | false =>
    cases given : line.feedback with
    | none => decide
    | some feedback =>
      cases feedback with
      | nil => decide
      | cons c feedback =>
        have absent : '\n' ∉ c :: feedback := single (c :: feedback) (by simp [pass,given])
        simpa using absent

theorem OnOneLine.written (single : line.OnOneLine) : '\n' ∉ line.written := by
  have first : '\n' ≠ line.flag := by
    unfold flag
    split <;> decide
  have last : '\n' ∉ Text.ofInt line.testCaseId.toInt := Text.not_mem_ofInt (by decide) (by decide)
  rw [written_eq]
  simp [first,single.quotedFeedback,last]

theorem onOneLine_of_pieces (text : Text)
    (found : ∀ line ∈ lines, ∃ piece ∈ pieces text, read? piece = some line.received) :
    ∀ line ∈ lines, line.OnOneLine := by
  intro line member feedback given ends
  obtain ⟨piece,inside,read⟩ := found line member
  exact lineEnd_not_mem_piece inside (read_feedback read given ends)

theorem read_channel (single : ∀ line ∈ lines, line.OnOneLine) :
    (pieces (channel lines)).map read? = lines.map (some ∘ received) := by
  have unbroken : ∀ line ∈ lines, '\n' ∉ line.written := fun line member => (single line member).written
  rw [pieces_channel unbroken,List.map_map]
  exact List.map_congr_left fun line _ => read_written line

theorem channel_received_iff (lines : List ReportLine) :
    ((pieces (channel lines)).map read? = lines.map (some ∘ received) ↔
      ∀ line ∈ lines, line.OnOneLine) ∧
    ((pieces (channel lines)).filterMap read? = lines.map received ↔
      ∀ line ∈ lines, line.OnOneLine) := by
  refine ⟨⟨?_,read_channel⟩,?_,?_⟩
  · intro all
    refine onOneLine_of_pieces (channel lines) ?_
    intro line member
    have back : some line.received ∈ (pieces (channel lines)).map read? := by
      rw [all]
      exact List.mem_map_of_mem member
    exact List.mem_map.mp back
  · intro all
    refine onOneLine_of_pieces (channel lines) ?_
    intro line member
    have back : line.received ∈ (pieces (channel lines)).filterMap read? := by
      rw [all]
      exact List.mem_map_of_mem member
    exact List.mem_filterMap.mp back
  · intro single
    have each := congrArg (List.filterMap id) (read_channel single)
    simpa [List.filterMap_map] using each

theorem feedback_read_as_pass :
    let line := failed 1 "a\n1,,2\nb".toList
    (pieces (channel [line])).map read? = [none,some (passed 2),none] ∧
      (pieces (channel [line])).filterMap read? ≠ [line.received] := by
  decide

end Marking.ReportLine
