import Marking.Proofs.Harness.History
import Marking.Proofs.Template.Inclusion
import Marking.Proofs.Template.Layout

-- The builtin templates: how they are laid out, and the test code that they give.

namespace Marking.Harness

open Template

def place (name : String) : Part := .output (.named name.toList)

def sinkOr (default : Joined) : Part := .output (.orElse "report_sink".toList default)

def rubySink : Part := sinkOr ⟨.quoted "@@f".toList,[]⟩

def rubyLayout : List Part := [
  .fixed "  def test".toList,place "id",.fixed "\n".toList,
  .fixed "    if ".toList,place "method_name",.fixed "(".toList,place "input",.fixed ") ==\n".toList,
  .fixed "      ".toList,place "expected_output",.fixed "\n".toList,
  .fixed "      ".toList,rubySink,.fixed ".write(\"".toList,place "report_pass",.fixed "\\n\")\n".toList,
  .fixed "    else\n".toList,
  .fixed "      ".toList,rubySink,.fixed ".write(\"".toList,place "report_fail",.fixed "\\n\")\n".toList,
  .fixed "    end\n".toList,
  .fixed "    assert_equal(".toList,place "method_name",.fixed "(".toList,place "input",.fixed "), ".toList,
  place "expected_output",.fixed ")\n".toList,
  .fixed "  end\n\n".toList]

def pythonSink : Part := sinkOr ⟨.name "class_name".toList,[.quoted "Test.f".toList]⟩

def pythonLayout : List Part := [
  .fixed "    def test".toList,place "id",.fixed "(self):\n".toList,
  .fixed "        if ".toList,place "class_name",.fixed ".".toList,place "method_name",.fixed "(".toList,
  place "input",.fixed ") == ".toList,place "expected_output",.fixed ":\n".toList,
  .fixed "            ".toList,pythonSink,.fixed ".write(\"".toList,place "report_pass",.fixed "\\n\")\n".toList,
  .fixed "        else:\n".toList,
  .fixed "            ".toList,pythonSink,.fixed ".write(\"".toList,place "report_fail",.fixed "\\n\")\n".toList,
  .fixed "        self.assertEqual(".toList,place "class_name",.fixed ".".toList,place "method_name",
  .fixed "(".toList,place "input",.fixed "),".toList,place "expected_output",.fixed ")\n\n".toList]

def javaLayout : List Part := [
  .fixed "    @Test\n".toList,
  .fixed "    public void test_".toList,place "id",.fixed "()\n".toList,
  .fixed "    \x7b\n".toList,
  .fixed "        assert".toList,.optional (.named "array_marker".toList) "Array".toList,.fixed "Equals(\n".toList,
  .fixed "          \"".toList,place "negative_feedback",.fixed "\",\n".toList,
  .fixed "          ".toList,place "expected_output",.fixed ",\n".toList,
  .fixed "          subject.".toList,place "method_name",.fixed "(".toList,place "input",.fixed "));\n".toList,
  .fixed "    \x7d\n".toList]

theorem rubySource_laid : rubySource = source rubyLayout := by
  unfold rubySource rubyLayout rubySink place sinkOr
  simp only [String.toList_append,-String.reduceAppend]
  simp only [String.reduceToList]
  decide +kernel

theorem pythonSource_laid : pythonSource = source pythonLayout := by
  unfold pythonSource pythonLayout pythonSink place sinkOr
  simp only [String.toList_append,-String.reduceAppend]
  simp only [String.reduceToList]
  decide +kernel

theorem javaSource_laid : javaSource = source javaLayout := by
  unfold javaSource javaLayout place
  simp only [String.toList_append,-String.reduceAppend]
  simp only [String.reduceToList]
  decide +kernel

theorem rubyLayout_valid : ∀ part ∈ rubyLayout, part.Valid := by
  apply valid_of_all
  simp only [rubyLayout,rubySink,place,sinkOr,Phrase.named,Phrase.orElse,String.reduceToList]
  decide

theorem pythonLayout_valid : ∀ part ∈ pythonLayout, part.Valid := by
  apply valid_of_all
  simp only [pythonLayout,pythonSink,place,sinkOr,Phrase.named,Phrase.orElse,String.reduceToList]
  decide

theorem javaLayout_valid : ∀ part ∈ javaLayout, part.Valid := by
  apply valid_of_all
  simp only [javaLayout,place,Phrase.named,String.reduceToList]
  decide

theorem read_ruby : Template.read? rubySource = some (templateOf [] rubyLayout) := by
  rw [rubySource_laid]
  exact read_layout rubyLayout_valid

theorem read_python : Template.read? pythonSource = some (templateOf [] pythonLayout) := by
  rw [pythonSource_laid]
  exact read_layout pythonLayout_valid

theorem read_java : Template.read? javaSource = some (templateOf [] javaLayout) := by
  rw [javaSource_laid]
  exact read_layout javaLayout_valid

theorem engine_lawful : TemplateEngine.Lawful := by
  refine ⟨?_,fun _ _ _ bindings same => Template.render_reached same bindings⟩
  simp only [builtin,List.forall_mem_cons]
  refine ⟨?_,?_,?_,?_⟩
  · exact Option.isSome_iff_exists.mpr ⟨_,read_ruby⟩
  · exact Option.isSome_iff_exists.mpr ⟨_,read_python⟩
  · exact Option.isSome_iff_exists.mpr ⟨_,read_java⟩
  · intro entry member
    cases member

def sinkText (sink : Option Text) (default : Text) : Text :=
  match sink with
  | none | some [] => default
  | some text => text

def passLine (case : TestCase) : Text := (ReportLine.passed case.id).literalBody

def failLine (case : TestCase) : Text :=
  (ReportLine.failed case.id (case.negativeFeedback.getD [])).literalBody

def rubyCode (case : TestCase) (sink : Option Text) : Text :=
  "  def test".toList ++ Text.ofInt case.id.toInt ++ "\n".toList ++
  "    if ".toList ++ case.prompt.methodName ++ "(".toList ++ case.input ++ ") ==\n".toList ++
  "      ".toList ++ case.expectedOutput ++ "\n".toList ++
  "      ".toList ++ sinkText sink "@@f".toList ++ ".write(\"".toList ++ passLine case ++ "\\n\")\n".toList ++
  "    else\n".toList ++
  "      ".toList ++ sinkText sink "@@f".toList ++ ".write(\"".toList ++ failLine case ++ "\\n\")\n".toList ++
  "    end\n".toList ++
  "    assert_equal(".toList ++ case.prompt.methodName ++ "(".toList ++ case.input ++ "), ".toList ++
    case.expectedOutput ++ ")\n".toList ++
  "  end\n\n".toList

def pythonCode (case : TestCase) (sink : Option Text) : Text :=
  let call := case.prompt.className ++ ".".toList ++ case.prompt.methodName ++ "(".toList ++ case.input
  let report := sinkText sink (case.prompt.className ++ "Test.f".toList) ++ ".write(\"".toList
  "    def test".toList ++ Text.ofInt case.id.toInt ++ "(self):\n".toList ++
  "        if ".toList ++ call ++ ") == ".toList ++ case.expectedOutput ++ ":\n".toList ++
  "            ".toList ++ report ++ passLine case ++ "\\n\")\n".toList ++
  "        else:\n".toList ++
  "            ".toList ++ report ++ failLine case ++ "\\n\")\n".toList ++
  "        self.assertEqual(".toList ++ call ++ "),".toList ++ case.expectedOutput ++ ")\n\n".toList

def javaCode (case : TestCase) : Text :=
  "    @Test\n".toList ++
  "    public void test_".toList ++ Text.ofInt case.id.toInt ++ "()\n".toList ++
  "    \x7b\n".toList ++
  "        assert".toList ++ (if case.expectsArray then "Array".toList else []) ++ "Equals(\n".toList ++
  "          \"".toList ++ case.negativeFeedback.getD [] ++ "\",\n".toList ++
  "          ".toList ++ case.expectedOutput ++ ",\n".toList ++
  "          subject.".toList ++ case.prompt.methodName ++ "(".toList ++ case.input ++ "));\n".toList ++
  "    \x7d\n".toList

variable {case : TestCase} {sink : Option Text}

def placed (case : TestCase) : List (String × Text) := [
  ("id",Text.ofInt case.id.toInt),("class_name",case.prompt.className),("method_name",case.prompt.methodName),
  ("input",case.input),("expected_output",case.expectedOutput),
  ("negative_feedback",case.negativeFeedback.getD []),("report_pass",passLine case),("report_fail",failLine case)]

theorem place_filling (case : TestCase) (sink : Option Text) :
    ∀ entry ∈ placed case, (place entry.1).filling? (bindings case sink) = some entry.2 := by
  simp only [placed,List.forall_mem_cons]
  refine ⟨rfl,rfl,rfl,rfl,rfl,rfl,rfl,rfl,?_⟩
  intro entry member
  cases member

theorem sinkOr_filling {default : Joined} {text : Text}
    (value : default.meaning.value? (bindings case sink) = some (.text text)) :
    (sinkOr default).filling? (bindings case sink) = some (sinkText sink text) := by
  have expression : (Phrase.orElse "report_sink".toList default).meaning =
      .binary .or (.variable "report_sink".toList) default.meaning := rfl
  have given : (bindings case sink).value "report_sink".toList = (sink.map Value.text).getD .none := rfl
  simp only [sinkOr,Part.filling?,expression,Expression.value?,given,value]
  cases sink with
  | none => rfl
  | some text =>
    cases text with
    | nil => rfl
    | cons c text => rfl

theorem codeOf_layout {harness : Harness} {parts : List Part} {code : Text} (name : Text)
    (filled : filled? (bindings case sink) parts = some code) :
    harness.codeOf name (templateOf [] parts) case sink = .ok code := by
  have rendered : TemplateEngine.render? harness.template? (templateOf [] parts) (bindings case sink) = some code :=
    (render_layout harness.template? parts).trans filled
  simp only [codeOf,rendered]

theorem ruby_filled (case : TestCase) (sink : Option Text) :
    filled? (bindings case sink) rubyLayout = some (rubyCode case sink) := by
  have report : rubySink.filling? (bindings case sink) = some (sinkText sink "@@f".toList) := sinkOr_filling rfl
  have filled := place_filling case sink
  simp only [placed,List.forall_mem_cons] at filled
  unfold rubyCode
  simp only [rubyLayout,filled?,filled,report,Part.fixed_filling,Option.bind_eq_bind,Option.bind_some,
    List.append_assoc,List.append_nil,-String.reduceToList]

theorem python_filled (case : TestCase) (sink : Option Text) :
    filled? (bindings case sink) pythonLayout = some (pythonCode case sink) := by
  have report : pythonSink.filling? (bindings case sink) =
      some (sinkText sink (case.prompt.className ++ "Test.f".toList)) := sinkOr_filling rfl
  have filled := place_filling case sink
  simp only [placed,List.forall_mem_cons] at filled
  unfold pythonCode
  simp only [pythonLayout,filled?,filled,report,Part.fixed_filling,Option.bind_eq_bind,Option.bind_some,
    List.append_assoc,List.append_nil,-String.reduceToList]

theorem java_filled (case : TestCase) (sink : Option Text) :
    filled? (bindings case sink) javaLayout = some (javaCode case) := by
  have array : (Part.optional (.named "array_marker".toList) "Array".toList).filling? (bindings case sink) =
      some (if case.expectsArray then "Array".toList else []) := rfl
  have filled := place_filling case sink
  simp only [placed,List.forall_mem_cons] at filled
  unfold javaCode
  simp only [javaLayout,filled?,filled,array,Part.fixed_filling,Option.bind_eq_bind,Option.bind_some,
    List.append_assoc,List.append_nil,-String.reduceToList]

theorem initial_held (language : Text) : initial.held (key language) =
    if key language = "ruby".toList then some ("Ruby".toList,some (templateOf [] rubyLayout))
    else if key language = "python".toList then some ("Python".toList,some (templateOf [] pythonLayout))
    else if key language = "java".toList then some ("Java".toList,some (templateOf [] javaLayout))
    else none := by
  have ruby := replaced_read (by rw [spelled_ruby.1]; decide) read_ruby
  have python := replaced_read (by rw [spelled_python.1]; decide) read_python
  have java := replaced_read (by rw [spelled_java.1]; decide) read_java
  rw [initial_entered engine_lawful,foldl_held empty_ordered.keyed,builtin]
  simp only [List.filter_cons,List.filter_nil,spelled_ruby.2,spelled_python.2,spelled_java.2,beq_iff_eq,
    -String.reduceToList]
  have one : "ruby".toList ≠ "python".toList := by decide
  have two : "ruby".toList ≠ "java".toList := by decide
  have three : "python".toList ≠ "java".toList := by decide
  by_cases first : key language = "ruby".toList
  · simp [first,ruby,spelled_ruby.1,one.symm,two.symm,-String.reduceToList]
  · by_cases second : key language = "python".toList
    · simp [second,python,spelled_python.1,one,one.symm,three.symm,-String.reduceToList]
    · by_cases third : key language = "java".toList
      · simp [third,java,spelled_java.1,two,two.symm,three,three.symm,-String.reduceToList]
      · simp [Ne.symm first,Ne.symm second,Ne.symm third,first,second,third,held,empty,-String.reduceToList]

theorem render_ruby {language : Text} (ruby : key language = "ruby".toList) :
    initial.render language case sink = .ok (rubyCode case sink) := by
  rw [render_held,initial_held]
  simp only [if_pos ruby,codeOf_layout _ (ruby_filled case sink)]

theorem render_python {language : Text} (python : key language = "python".toList) :
    initial.render language case sink = .ok (pythonCode case sink) := by
  have ruby : key language ≠ "ruby".toList := by rw [python]; decide
  rw [render_held,initial_held]
  simp only [if_neg ruby,if_pos python,codeOf_layout _ (python_filled case sink)]

theorem render_java {language : Text} (java : key language = "java".toList) :
    initial.render language case sink = .ok (javaCode case) := by
  have ruby : key language ≠ "ruby".toList := by rw [java]; decide
  have python : key language ≠ "python".toList := by rw [java]; decide
  rw [render_held,initial_held]
  simp only [if_neg ruby,if_neg python,if_pos java,codeOf_layout _ (java_filled case sink)]

theorem builtin_code_exact (language : Text) (case : TestCase) (sink : Option Text) :
    initial.render language case sink =
      if key language = "ruby".toList then .ok (rubyCode case sink)
      else if key language = "python".toList then .ok (pythonCode case sink)
      else if key language = "java".toList then .ok (javaCode case)
      else .error (.unknownLanguage language) := by
  by_cases ruby : key language = "ruby".toList
  · rw [if_pos ruby,render_ruby ruby]
  · by_cases python : key language = "python".toList
    · rw [if_neg ruby,if_pos python,render_python python]
    · by_cases java : key language = "java".toList
      · rw [if_neg ruby,if_neg python,if_pos java,render_java java]
      · rw [if_neg ruby,if_neg python,if_neg java,render_held,initial_held]
        simp only [if_neg ruby,if_neg python,if_neg java]

end Marking.Harness
