import Marking.Proofs.Harness.Builtin
import Marking.Proofs.Template.Placeholder

-- Registered templates of plain text and of placeholders for the fields of a test case: rendering puts
-- the values in, and changes neither them nor the text around them.

namespace Marking.Harness

open Template

inductive Field where
  | id
  | className
  | methodName
  | input
  | expectedOutput
  | negativeFeedback
  | reportPass
  | reportFail
  deriving DecidableEq,Repr

namespace Field

def name : Field → String
  | id => "id"
  | className => "class_name"
  | methodName => "method_name"
  | input => "input"
  | expectedOutput => "expected_output"
  | negativeFeedback => "negative_feedback"
  | reportPass => "report_pass"
  | reportFail => "report_fail"

def value (case : TestCase) : Field → Text
  | id => Text.ofInt case.id.toInt
  | className => case.prompt.className
  | methodName => case.prompt.methodName
  | input => case.input
  | expectedOutput => case.expectedOutput
  | negativeFeedback => case.negativeFeedback.getD []
  | reportPass => passLine case
  | reportFail => failLine case

theorem placed (field : Field) (case : TestCase) : (field.name,field.value case) ∈ placed case := by
  cases field <;> simp [Harness.placed,name,value]

theorem name_valid (field : Field) : (Operand.name field.name.toList).Valid := by
  cases field <;> simp only [name,String.reduceToList] <;> decide

end Field

-- A closing brace, a percent sign or a line end may stand anywhere in the text of a template, and white
-- space of any kind and amount in a placeholder.
inductive Piece where
  | literal (text : Text) (closed : '\x7b' ∉ text)
  | placeholder (field : Field) (before behind : Text) (first : ∀ c ∈ before, isTagSpace c = true)
      (last : ∀ c ∈ behind, isTagSpace c = true)

namespace Piece

def source : Piece → Text
  | literal text _ => text
  | placeholder field before behind _ _ =>
    '\x7b' :: '\x7b' :: (before ++ (field.name.toList ++ (behind ++ ['\x7d','\x7d'])))

def part : Piece → Part
  | literal text _ => .fixed text
  | placeholder field _ _ _ _ => place field.name

def shown (case : TestCase) : Piece → Text
  | literal text _ => text
  | placeholder field _ _ _ _ => field.value case

theorem valid (piece : Piece) : piece.part.Valid := by
  cases piece with
  | literal text closed => exact unopened_of_closed closed
  | placeholder field before behind first last => exact Phrase.named_valid field.name_valid

theorem cut (piece : Piece) {rest : Text} {parts : List Part} (later : CutInto rest parts) :
    CutInto (piece.source ++ rest) (piece.part :: parts) := by
  cases piece with
  | literal text closed => exact .fixed (unopened_of_closed closed) later
  | placeholder field before behind first last => simpa [source,part,place] using CutInto.named field.name_valid first last later

theorem filling (piece : Piece) (case : TestCase) (sink : Option Text) :
    piece.part.filling? (bindings case sink) = some (piece.shown case) := by
  cases piece with
  | literal text closed => rfl
  | placeholder field before behind first last => exact place_filling case sink (field.name,field.value case) (field.placed case)

end Piece

variable {language : Text}

theorem pieces_cut (pieces : List Piece) : CutInto (pieces.flatMap Piece.source) (pieces.map Piece.part) := by
  induction pieces with
  | nil => exact .nil
  | cons piece pieces ih => exact piece.cut ih

theorem pieces_read (pieces : List Piece) :
    Template.read? (pieces.flatMap Piece.source) = some (templateOf [] (pieces.map Piece.part)) := by
  refine (pieces_cut pieces).read ?_
  intro part member
  obtain ⟨piece,_,rfl⟩ := List.mem_map.mp member
  exact piece.valid

theorem pieces_filled (pieces : List Piece) (case : TestCase) (sink : Option Text) :
    filled? (bindings case sink) (pieces.map Piece.part) = some (pieces.flatMap (Piece.shown case)) := by
  induction pieces with
  | nil => rfl
  | cons piece pieces ih => simp [filled?,piece.filling,ih]

theorem render_substituted (harness : Harness) (named : Text.isBlank language = false) (pieces : List Piece) :
    let registered := harness.register language (pieces.flatMap Piece.source)
    registered.2 = .ok () ∧ ∀ other case sink, key other = key language →
      registered.1.render other case sink = .ok (pieces.flatMap (Piece.shown case)) := by
  intro registered
  have spoken : Text.trim language ≠ [] := by simp [Text.trim_eq_nil_iff,named]
  have read : TemplateEngine.read? (Text.trim language) (pieces.flatMap Piece.source) =
      some (templateOf [] (pieces.map Piece.part)) := pieces_read pieces
  refine ⟨?_,fun other case sink same => ?_⟩
  · rw [register_ok_iff]
    simp [accepts,spoken,read]
  · have held := (register_registration harness language (pieces.flatMap Piece.source)).held_self
    rw [replaced_read spoken read] at held
    rw [render_held,same,held]
    exact codeOf_layout _ (pieces_filled pieces case sink)

theorem braces_kept :
    let case : TestCase :=
      {id := 7,prompt := ⟨1,"Answer".toList,"f".toList⟩,input := "\x7b\x7b id \x7d\x7d & <b>".toList,weight := .zero}
    let registered := initial.register "notes.html".toList "% \x7d\x7b\x7b\tinput \x7d\x7d\n".toList
    registered.2 = .ok () ∧
      registered.1.render "Notes.HTML".toList case none = .ok "% \x7d\x7b\x7b id \x7d\x7d & <b>\n".toList := by
  intro case registered
  have named : Text.isBlank "notes.html".toList = false := by decide
  have same : key "Notes.HTML".toList = key "notes.html".toList := by decide +kernel
  obtain ⟨ok,rendered⟩ := render_substituted initial named
    [.literal ['%',' ','\x7d'] (by decide),.placeholder .input ['\t'] [' '] (by simp [isTagSpace]) (by simp [isTagSpace]),
      .literal ['\n'] (by decide)]
  exact ⟨ok,rendered _ case none same⟩

end Marking.Harness
