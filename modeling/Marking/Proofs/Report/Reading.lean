import Marking.Proofs.Record.PassFlag
import Marking.Proofs.Report.Channel

-- Which texts are read as report lines. More is read than is written, and what is read is kept when
-- it is written and read again, but for the feedback of a pass.

namespace Marking.ReportLine

open Record (Sign)

-- A text taken apart at its first and at its last comma, and the line ends behind it.
structure Fields (text : Text) where
  flag : Text
  feedback : Text
  id : Text
  ending : Text
  split : text = flag ++ ',' :: (feedback ++ ',' :: id) ++ ending
  first : ',' ∉ flag
  last : ',' ∉ id
  ends : ∀ c ∈ ending, c = '\r' ∨ c = '\n'
  stays : ∀ c ∈ id.getLast?, ¬ (c = '\r' ∨ c = '\n')

def SpellsFlag (text : Text) (pass : Bool) : Prop := Text.Padded [if pass then '1' else '0'] text

-- A sign or none, and one or more digits. Their value is one of 64 bits.
def SpellsId (text : Text) (id : Int64) : Prop :=
  ∃ sign digits, Text.Padded (Sign.spelling sign ++ digits) text ∧ digits ≠ [] ∧
    (∀ c ∈ digits, Text.isAsciiDigit c = true) ∧ sign.apply (Text.digitsValue digits) = id.toInt

-- Feedback without the two quotes around it, if there are two.
inductive Unwrapped : Text → Text → Prop where
  | quoted (inner : Text) : Unwrapped ('"' :: (inner ++ ['"'])) inner
  | bare {text : Text} (unpaired : ∀ inner, text ≠ '"' :: (inner ++ ['"'])) : Unwrapped text text

def Shows (text : Text) (feedback : Option Text) : Prop :=
  ∃ inner, Unwrapped text inner ∧ feedback = if inner = [] then none else some inner

variable {text front flag feedback id inner digits : Text} {line : ReportLine} {pass : Bool} {n : Int64}

theorem unquoted_bare (unpaired : ∀ inner, text ≠ '"' :: (inner ++ ['"'])) : unquoted text = text := by
  unfold unquoted
  split
  · rename_i inner
    split
    · rename_i last
      obtain ⟨front,rfl⟩ := List.getLast?_eq_some_iff.mp last
      exact absurd rfl (unpaired front)
    · rfl
  · rfl

theorem unwrapped_iff : Unwrapped text inner ↔ unquoted text = inner := by
  constructor
  · intro unwrapped
    cases unwrapped with
    | quoted => exact unquoted_quotes inner
    | bare unpaired => exact unquoted_bare unpaired
  · intro same
    rw [← same]
    by_cases paired : ∃ inner, text = '"' :: (inner ++ ['"'])
    · obtain ⟨inner,rfl⟩ := paired
      have same : unquoted ('"' :: (inner ++ ['"'])) = inner := unquoted_quotes inner
      rw [same]
      exact .quoted inner
    · have unpaired : ∀ inner, text ≠ '"' :: (inner ++ ['"']) := not_exists.mp paired
      rw [unquoted_bare unpaired]
      exact .bare unpaired

theorem shows_iff {shown : Option Text} :
    Shows text shown ↔ (if (unquoted text).isEmpty then none else some (unquoted text)) = shown := by
  unfold Shows
  simp only [unwrapped_iff,exists_eq_left',List.isEmpty_iff]
  exact eq_comm

theorem readFlag_iff : readFlag? flag = some pass ↔ SpellsFlag flag pass := by
  have trimmed : readFlag? flag = some pass ↔ Text.trim flag = [if pass then '1' else '0'] := by
    unfold readFlag?
    split
    · rename_i one
      cases pass <;> simp [one]
    · rename_i zero
      cases pass <;> simp [zero]
    · rename_i one zero
      cases pass with
      | true => exact ⟨nofun,fun same => absurd same one⟩
      | false => exact ⟨nofun,fun same => absurd same zero⟩
  have solid : Text.isSpace (if pass then '1' else '0') = false := by cases pass <;> decide
  rw [trimmed,Text.trim_eq_iff]
  simp [SpellsFlag,solid]

theorem readInt64_eq_some_iff : Text.readInt64? text = some n ↔
    ∃ sign digits, text = Sign.spelling sign ++ digits ∧ digits ≠ [] ∧
      (∀ c ∈ digits, Text.isAsciiDigit c = true) ∧ sign.apply (Text.digitsValue digits) = n.toInt := by
  constructor
  · intro read
    unfold Text.readInt64? at read
    split at read
    all_goals
      obtain ⟨value,found,fits⟩ := Option.bind_eq_some_iff.mp read
      obtain ⟨some,valid,rfl⟩ := Text.readNat_eq_some_iff.mp found
    · exact ⟨.minus,_,rfl,some,valid,Text.toInt64_eq_some_iff.mp fits⟩
    · exact ⟨.plus,_,rfl,some,valid,Text.toInt64_eq_some_iff.mp fits⟩
    · exact ⟨.absent,_,rfl,some,valid,Text.toInt64_eq_some_iff.mp fits⟩
  · intro spelled
    obtain ⟨sign,digits,rfl,some,valid,value⟩ := spelled
    have found := Text.readNat_eq_some_iff.mpr ⟨some,valid,rfl⟩
    have fits := Text.toInt64_eq_some_iff.mpr value
    cases sign with
    | absent =>
      rw [Sign.spelling,List.nil_append,Text.readInt64_digits valid,found,Option.bind_some]
      exact fits
    | plus | minus =>
      rw [Sign.spelling,List.singleton_append,Text.readInt64?,found,Option.bind_some]
      exact fits

theorem readId_iff : Text.readInt64? (Text.trim id) = some n ↔ SpellsId id n := by
  rw [readInt64_eq_some_iff]
  refine exists_congr fun sign => exists_congr fun digits => ?_
  constructor
  · intro read
    obtain ⟨trimmed,rest⟩ := read
    exact ⟨(Text.trim_eq_iff.mp trimmed).1,rest⟩
  · intro spelled
    obtain ⟨padded,some,valid,value⟩ := spelled
    have solid : ∀ c ∈ Sign.spelling sign ++ digits, Text.isSpace c = false := by
      intro c member
      rcases List.mem_append.mp member with spelled | digit
      · cases sign with
        | absent => cases spelled
        | plus | minus =>
          rw [List.mem_singleton.mp spelled]
          decide
      · exact Text.isSpace_digit (valid c digit)
    refine ⟨Text.trim_eq_iff.mpr ⟨padded,?_,?_⟩,some,valid,value⟩
    · exact fun c first => solid c (List.mem_of_mem_head? first)
    · exact fun c last => solid c (List.mem_of_mem_getLast? last)

theorem comma_stays : (∀ c ∈ (front ++ ',' :: id).getLast?, (c == '\r' || c == '\n') = false) ↔
    ∀ c ∈ id.getLast?, ¬ (c = '\r' ∨ c = '\n') := by
  cases last : id.getLast? <;> simp [List.getLast?_append,List.getLast?_cons,last]

theorem Fields.cuts (fields : Fields text) :
    Text.cutAtFirst? ',' (Text.dropTrailing (fun c => c == '\r' || c == '\n') text) =
      some (fields.flag,fields.feedback ++ ',' :: fields.id) ∧
    Text.cutAtLast? ',' (fields.feedback ++ ',' :: fields.id) = some (fields.feedback,fields.id) := by
  have kept : Text.dropTrailing (fun c => c == '\r' || c == '\n') text =
      fields.flag ++ ',' :: (fields.feedback ++ ',' :: fields.id) := by
    refine Text.dropTrailing_eq_iff.mpr ⟨fields.ending,fields.split,?_,?_⟩
    · intro c member
      simpa using fields.ends c member
    · rw [← List.cons_append,← List.append_assoc]
      exact comma_stays.mpr fields.stays
  rw [kept]
  exact ⟨Text.cutAtFirst_append fields.first,Text.cutAtLast_append fields.last⟩

theorem exists_fields {rest : Text}
    (first : Text.cutAtFirst? ',' (Text.dropTrailing (fun c => c == '\r' || c == '\n') text) = some (flag,rest))
    (last : Text.cutAtLast? ',' rest = some (feedback,id)) :
    ∃ fields : Fields text, fields.flag = flag ∧ fields.feedback = feedback ∧ fields.id = id := by
  obtain ⟨kept,before⟩ := Text.cutAtFirst_eq_some_iff.mp first
  obtain ⟨rfl,behind⟩ := Text.cutAtLast_eq_some_iff.mp last
  obtain ⟨ending,split,ends,stays⟩ := Text.dropTrailing_eq_iff.mp kept
  rw [← List.cons_append,← List.append_assoc] at stays
  refine ⟨⟨flag,feedback,id,ending,split,before,behind,?_,comma_stays.mp stays⟩,rfl,rfl,rfl⟩
  intro c member
  simpa using ends c member

theorem read_eq_some_iff : read? text = some line ↔
    ∃ fields : Fields text, SpellsFlag fields.flag line.pass ∧ SpellsId fields.id line.testCaseId ∧
      Shows fields.feedback line.feedback := by
  constructor
  · intro read
    unfold read? at read
    simp only [Option.bind_eq_bind,Option.bind_eq_some_iff] at read
    obtain ⟨⟨flag,rest⟩,first,⟨feedback,id⟩,last,pass,flagged,testCaseId,numbered,same⟩ := read
    obtain ⟨fields,rfl,rfl,rfl⟩ := exists_fields first last
    cases same
    exact ⟨fields,readFlag_iff.mp flagged,readId_iff.mp numbered,shows_iff.mpr rfl⟩
  · intro spelled
    obtain ⟨fields,flagged,numbered,shown⟩ := spelled
    obtain ⟨first,last⟩ := fields.cuts
    unfold read?
    simp only [Option.bind_eq_bind,Option.bind_eq_some_iff]
    refine ⟨_,first,_,last,line.pass,readFlag_iff.mpr flagged,line.testCaseId,readId_iff.mpr numbered,?_⟩
    rw [shows_iff.mp shown]

theorem nonempty_fields_iff : Nonempty (Fields text) ↔ 2 ≤ text.count ',' := by
  constructor
  · intro apart
    obtain ⟨fields⟩ := apart
    rw [fields.split]
    simp only [List.count_append,List.count_cons_self]
    omega
  · intro two
    obtain ⟨ending,split,ends,_⟩ :=
      Text.dropTrailing_eq_iff.mp (rfl : Text.dropTrailing (fun c => c == '\r' || c == '\n') text = _)
    have none : ending.count ',' = 0 := by
      refine List.count_eq_zero.mpr fun inside => ?_
      exact absurd (ends ',' inside) (by decide)
    rw [split,List.count_append,none] at two
    have one : ',' ∈ Text.dropTrailing (fun c => c == '\r' || c == '\n') text := List.count_pos_iff.mp (by omega)
    obtain ⟨flag,rest,kept,before⟩ := List.eq_append_cons_of_mem one
    rw [kept,List.count_append,List.count_eq_zero.mpr before,List.count_cons_self] at two
    have another : ',' ∈ rest := List.count_pos_iff.mp (by omega)
    have first := Text.cutAtFirst_eq_some_iff.mpr ⟨kept,before⟩
    cases last : Text.cutAtLast? ',' rest with
    | none => exact absurd another (Text.cutAtLast_eq_none_iff.mp last)
    | some cut =>
      obtain ⟨fields,_⟩ := exists_fields first last
      exact ⟨fields⟩

theorem line_read_exact (text : Text) :
    ((read? text).isSome = true ↔
      ∃ fields : Fields text, (∃ pass, SpellsFlag fields.flag pass) ∧ ∃ id, SpellsId fields.id id) ∧
    (∀ line, read? text = some line ↔
      ∃ fields : Fields text, SpellsFlag fields.flag line.pass ∧ SpellsId fields.id line.testCaseId ∧
        Shows fields.feedback line.feedback) ∧
    (Nonempty (Fields text) ↔ 2 ≤ text.count ',') := by
  refine ⟨?_,fun line => read_eq_some_iff,nonempty_fields_iff⟩
  rw [Option.isSome_iff_exists]
  constructor
  · intro accepted
    obtain ⟨line,read⟩ := accepted
    obtain ⟨fields,flagged,numbered,_⟩ := read_eq_some_iff.mp read
    exact ⟨fields,⟨_,flagged⟩,_,numbered⟩
  · intro spelled
    obtain ⟨fields,⟨pass,flagged⟩,id,numbered⟩ := spelled
    exact ⟨⟨pass,_,id⟩,read_eq_some_iff.mpr ⟨fields,flagged,numbered,shows_iff.mpr rfl⟩⟩

theorem feedback_nonempty (read : read? text = some line) : line.feedback ≠ some [] := by
  obtain ⟨_,_,_,inner,_,shown⟩ := read_eq_some_iff.mp read
  rw [shown]
  split
  · exact nofun
  · rename_i some
    exact fun same => some (Option.some.inj same)

theorem received_of_read (read : read? text = some line) :
    line.received = if line.pass then passed line.testCaseId else line := by
  have nonempty := feedback_nonempty read
  obtain ⟨pass,feedback,id⟩ := line
  cases pass with
  | true => rfl
  | false =>
    cases feedback with
    | none => rfl
    | some feedback =>
      cases feedback with
      | nil => exact absurd rfl nonempty
      | cons c feedback => rfl

theorem read_line_kept (read : read? text = some line) :
    read? line.written = some (if line.pass then passed line.testCaseId else line) ∧
    (read? line.written = some line ↔ (line.pass = true → line.feedback = none)) := by
  rw [read_written,received_of_read read]
  refine ⟨rfl,?_⟩
  obtain ⟨pass,feedback,id⟩ := line
  cases pass <;> simp [passed,eq_comm]

theorem loose_line_kept :
    let line := failed 7 "a,\"b".toList
    read? " 0 ,a,\"b, +07\r\n".toList = some line ∧ read? line.written = some line := by
  intro line
  have read : read? " 0 ,a,\"b, +07\r\n".toList = some line := by decide
  exact ⟨read,(read_line_kept read).1⟩

theorem pass_feedback_dropped :
    let line : ReportLine := ⟨true,some "Well done".toList,3⟩
    read? "1,Well done,3".toList = some line ∧ line.written = "1,,3".toList ∧ read? line.written ≠ some line := by
  decide

end Marking.ReportLine
