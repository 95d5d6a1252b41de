import Marking.Failure
import Marking.Harness.Builtin
import Marking.Report
import Marking.Template.Reading
import Marking.TestCase.Display
import Marking.Text.Basic

-- Test code for a test case, from a template for each language.

namespace Marking

-- What a harness needs of a template engine. A template is read once, from its name and its source. It is rendered
-- with values for what it refers to and with the templates that are registered at that time, which it can take in
-- by their names.
class TemplateEngine where
  Compiled : Type
  read? : Text → Text → Option Compiled
  render? : (Text → Option Compiled) → Compiled → Template.Bindings → Option Text
  Refers : Compiled → Text → Prop

-- Templates of the language that is written down here.
instance Template.engine : TemplateEngine where
  Compiled := Template
  read? _ source := Template.read? source
  render? := Template.render?
  Refers template name := template.refers name = true

variable [TemplateEngine]

-- Templates are kept under the names they were registered with, and languages are looked up
-- without regard to case: the key of a language is its name in lowercase. The keys ascend.
structure Harness where
  templates : List (Text × TemplateEngine.Compiled)
  languages : List (Text × Text)

namespace Harness

def empty : Harness := ⟨[],[]⟩

def key (language : Text) : Text := Text.lowerAll (Text.trim language)

-- Puts a value under a key that keeps its place in the order, or takes it.
def insert (key name : Text) : List (Text × Text) → List (Text × Text)
  | [] => [(key,name)]
  | entry :: rest =>
    if key = entry.1 then (key,name) :: rest
    else if key < entry.1 then (key,name) :: entry :: rest
    else entry :: insert key name rest

-- The templates that stay while `name` is registered: one under another spelling of it goes.
def cleared (harness : Harness) (name : Text) : List (Text × TemplateEngine.Compiled) :=
  match harness.languages.lookup (key name) with
  | some previous =>
    if previous = name then harness.templates
    else harness.templates.filter (·.1 != previous)
  | none => harness.templates

-- A name that differs from the registered one in case takes over, and the template under
-- the old name goes before the new one is read.
def register (harness : Harness) (language source : Text) : Harness × Except Failure Unit :=
  let name := Text.trim language
  if name.isEmpty then (harness,.error .emptyLanguage)
  else
    match TemplateEngine.read? name source with
    | none => ({harness with templates := harness.cleared name},.error (.invalidTemplate name))
    | some template =>
      (⟨(name,template) :: (harness.cleared name).filter (·.1 != name),
        insert (key name) name harness.languages⟩,.ok ())

-- Registers one template after the other, up to the first that fails.
def registerAll (harness : Harness) : List (Text × Text) → Harness × Except Failure Unit
  | [] => (harness,.ok ())
  | (language,source) :: rest =>
    match harness.register language source with
    | (next,.ok ()) => registerAll next rest
    | failed => failed

-- A harness that holds templates, given by their sources.
def holding (entries : List (Text × Text)) : Harness := (registerAll empty entries).1

-- What every harness starts from.
def initial : Harness := holding builtin

-- The registered names, in the order of their keys.
def names (harness : Harness) : List Text := harness.languages.map (·.2)

-- What a template can refer to.
def bindings (case : TestCase) (sink : Option Text) : Template.Bindings :=
  let feedback := case.negativeFeedback.getD []
  [("id".toList,.int case.id.toInt),
    ("class_name".toList,.text case.prompt.className),
    ("method_name".toList,.text case.prompt.methodName),
    ("input".toList,.text case.input),
    ("expected_output".toList,.text case.expectedOutput),
    ("negative_feedback".toList,.text feedback),
    ("array_marker".toList,.bool case.expectsArray),
    ("report_sink".toList,(sink.map Template.Value.text).getD .none),
    ("report_pass".toList,.text (ReportLine.passed case.id).literalBody),
    ("report_fail".toList,.text (ReportLine.failed case.id feedback).literalBody)]

-- The template of a name, which other templates can take in.
def template? (harness : Harness) (name : Text) : Option TemplateEngine.Compiled :=
  harness.templates.lookup name

-- Renders a case for a language. Report lines go through the sink, or through the default
-- of the template.
def render (harness : Harness) (language : Text) (case : TestCase) (sink : Option Text) :
    Except Failure Text :=
  match harness.languages.lookup (key language) with
  | none => .error (.unknownLanguage language)
  | some name =>
    match harness.template? name with
    | none => .error (.templateMissing (Text.quoted name))
    | some template =>
      match TemplateEngine.render? harness.template? template (bindings case sink) with
      | some code => .ok code
      | none => .error (.rendering name case.id)

end Harness
end Marking
