import Marking.DatedResult
import Marking.Proofs.Instant.Written
import Marking.Proofs.TestCase.Written

-- A stored verdict that was read from JSON, in whatever way it was spelled there, is read back from what
-- is written of it. So what is written is one text for each verdict.

namespace Marking

namespace Json

def ofText (text : Text) : Json := .string (text.map unitOf)

def ofOptional (text : Option Text) : Json := (text.map ofText).getD .null

def ofInt64 (n : Int64) : Json := .number ⟨decide (n.toInt < 0),Text.ofNat n.toInt.natAbs,none,none⟩

variable {names : List Text}

theorem writes_ofText (text : Text) : WritesText text (ofText text) := ⟨_,rfl,textOf_units text⟩

theorem writes_ofOptional (text : Option Text) : WritesOptional text (ofOptional text) := by
  cases text with
  | none => rfl
  | some text => exact writes_ofText text

theorem spelled_ofText (text : Text) : Spelled (ofText text) (quoted text) := .string (spelled_quoted text)

theorem spelled_ofOptional (text : Option Text) : Spelled (ofOptional text) (optionalText text) := by
  cases text with
  | none => exact .null
  | some text => exact spelled_ofText text

theorem spelled_ofInt64 (n : Int64) : Spelled (ofInt64 n) (Text.ofInt n.toInt) := by
  have nonempty : Text.ofNat n.toInt.natAbs ≠ [] := Nat.toDigits_ne_nil
  have leading : (Text.ofNat n.toInt.natAbs).head? = some '0' → Text.ofNat n.toInt.natAbs = ['0'] := by
    intro zero
    rw [Text.ofNat_head_zero zero]
    rfl
  refine .number ⟨⟨nonempty,Text.digits_ofNat _⟩,leading,fun _ given => (nomatch given),[],.none,?_⟩
  cases n.toInt with
  | ofNat k =>
    have sign : decide (Int.ofNat k < 0) = false := decide_eq_false (Int.not_lt.mpr (Int.natCast_nonneg k))
    simp only [sign,Text.ofInt,fractionText]
    exact (List.append_nil _).symm
  | negSucc k =>
    have sign : decide (Int.negSucc k < 0) = true := decide_eq_true (Int.negSucc_lt_zero k)
    simp only [sign,Text.ofInt,fractionText]
    exact congrArg ('-' :: ·) (List.append_nil _).symm

theorem spelled_objectText {members : List (Text × Json × Text)} (some : members ≠ [])
    (each : ∀ member ∈ members, Spelled member.2.1 member.2.2) :
    Spelled (.object (members.map fun member => (member.1.map unitOf,member.2.1)))
      (objectText (members.map fun member => (member.1,member.2.2))) := by
  let spelled (member : Text × Json × Text) : SpelledMember :=
    ⟨member.1.map unitOf,member.2.1,quoted member.1,member.2.2⟩
  have named : ∀ member ∈ members.map spelled, member.Named := by
    intro member inside
    obtain ⟨given,_,rfl⟩ := List.mem_map.mp inside
    exact ⟨[],_,[],List.forall_mem_nil _,List.forall_mem_nil _,spelled_quoted given.1,by simp [spelled]⟩
  have valued : ∀ member ∈ members.map spelled, Spelled member.value member.valueText := by
    intro member inside
    obtain ⟨given,listed,rfl⟩ := List.mem_map.mp inside
    exact each given listed
  have whole : Spelled _ _ := .object (by simpa using some) named valued
  simpa [spelled,objectText,joined,SpelledMember.text,Function.comp_def] using whole

theorem holds_all {entries : List (List Piece × Json)}
    (named : List.Forall₂ (fun name entry => textOf? entry.1 = some name) names entries) :
    Holds names (entries.map fun entry => some entry.2) (.object entries) := by
  refine @Holds.object names _ entries entries [] (by simp) ?_ (List.forall_mem_nil _)
  induction named with
  | nil => exact .nil
  | cons first _ ih => exact .given first ih

end Json

namespace DatedResult

open Json

variable {dated : DatedResult} {json : Json} {text : Text}

def values (dated : DatedResult) : List Json := [
  ofInt64 dated.result.testCaseId,ofInt64 dated.result.userId,ofInt64 dated.result.answerId,.bool dated.result.pass,
  ofOptional dated.result.feedback,ofText dated.gradedAt.written]

def entries (dated : DatedResult) : List (List Piece × Json) :=
  List.zipWith (fun name value => (name.map unitOf,value)) fieldNames dated.values

theorem spelled_written (dated : DatedResult) : Spelled (.object dated.entries) dated.written := by
  have each := @spelled_objectText [
    ("test_case_id".toList,ofInt64 dated.result.testCaseId,Text.ofInt dated.result.testCaseId.toInt),
    ("user_id".toList,ofInt64 dated.result.userId,Text.ofInt dated.result.userId.toInt),
    ("answer_id".toList,ofInt64 dated.result.answerId,Text.ofInt dated.result.answerId.toInt),
    ("pass".toList,.bool dated.result.pass,boolText dated.result.pass),
    ("feedback".toList,ofOptional dated.result.feedback,optionalText dated.result.feedback),
    ("graded_at".toList,ofText dated.gradedAt.written,quoted dated.gradedAt.written)] (List.cons_ne_nil _ _)
  simp only [List.forall_mem_cons] at each
  exact each ⟨spelled_ofInt64 _,spelled_ofInt64 _,spelled_ofInt64 _,.bool _,spelled_ofOptional _,spelled_ofText _,
    List.forall_mem_nil _⟩

theorem entries_named (dated : DatedResult) :
    List.Forall₂ (fun name entry => textOf? entry.1 = some name) fieldNames dated.entries :=
  .cons (textOf_units _) (.cons (textOf_units _) (.cons (textOf_units _) (.cons (textOf_units _)
    (.cons (textOf_units _) (.cons (textOf_units _) .nil)))))

theorem required_ofInt64 (n : Int64) : required int64? (some (ofInt64 n)) = some n :=
  int_iff.mpr ⟨_,rfl,Text.digitsValue_ofNat _⟩

theorem ofJson_entries (proper : dated.gradedAt.Proper) : ofJson? (.object dated.entries) = some dated := by
  obtain ⟨positional,found⟩ := fields_held (by decide) (holds_all dated.entries_named)
  have given : dated.entries.map (fun entry => some entry.2) = dated.values.map some := rfl
  have feedback : defaulted optionalText? none (some (ofOptional dated.result.feedback)) = some dated.result.feedback :=
    optional_iff.mpr (writes_ofOptional _)
  have time : required text? (some (ofText dated.gradedAt.written)) = some dated.gradedAt.written :=
    text_iff.mpr (writes_ofText _)
  have pass : required bool? (some (.bool dated.result.pass)) = some dated.result.pass := rfl
  rw [given] at found
  simp only [ofJson?,found,values,List.map_cons,List.map_nil,Option.bind_eq_bind,Option.bind_some,Option.isNone_some,
    Bool.and_false,Bool.false_eq_true,if_false,required_ofInt64,pass,feedback,time,proper.roundtrip]

theorem proper_of_ofJson (read : ofJson? json = some dated) : dated.gradedAt.Proper := by
  simp only [ofJson?,Option.bind_eq_bind,Option.bind_eq_some_iff] at read
  obtain ⟨fields,_,read⟩ := read
  split at read
  · split at read
    · cases read
    · simp only [Option.bind_eq_some_iff] at read
      obtain ⟨_,_,_,_,_,_,_,_,_,_,_,⟨_,_,time⟩,same⟩ := read
      cases same
      exact Instant.proper_of_read time
  · cases read

theorem proper_of_read (read : read? text = some dated) : dated.gradedAt.Proper := by
  obtain ⟨json,_,found⟩ := Option.bind_eq_some_iff.mp read
  exact proper_of_ofJson found

theorem read_written (proper : dated.gradedAt.Proper) : read? dated.written = some dated := by
  rw [read?,read_spelled dated.spelled_written]
  exact ofJson_entries proper

theorem reading_settles (dated : DatedResult) :
    ((∃ text, read? text = some dated) ↔ dated.gradedAt.Proper) ∧
    ∀ text, read? text = some dated →
      read? dated.written = some dated ∧ (read? dated.written).map written = some dated.written := by
  refine ⟨⟨?_,?_⟩,?_⟩
  · rintro ⟨text,read⟩
    exact proper_of_read read
  · intro proper
    exact ⟨dated.written,read_written proper⟩
  · intro text read
    have back := read_written (proper_of_read read)
    exact ⟨back,by rw [back]; rfl⟩

theorem evening_read_back :
    let text : Text := ("\x7b\"graded\\u005fat\": \"2023-12-31T22:30:15.1234567899-02:30\", \"pass\": false, \"user_id\": -7," ++
      "\"feedback\": \"say \\\"hi\\\"\", \"answer_id\": 70, \"test_case_id\": 3\x7d").toList
    let dated : DatedResult := ⟨⟨3,-7,70,false,some "say \"hi\"".toList⟩,⟨2024,1,1,1,0,15,123456789⟩⟩
    read? text = some dated ∧ read? dated.written = some dated := by
  intro text dated
  have read : read? text = some dated := by decide +kernel
  exact ⟨read,((reading_settles dated).2 text read).1⟩

end DatedResult

end Marking
