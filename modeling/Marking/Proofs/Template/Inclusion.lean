import Marking.Harness

-- What the results on harnesses rely on in a template engine, whatever it is, and that it holds of the written
-- one: where templates take in others by their names, only those they reach count for what they render to.

namespace Marking.TemplateEngine

variable [TemplateEngine]

-- Whether rendering a template can ask for the one of a name, by itself or through those it takes in.
inductive Reaches (catalog : Text → Option Compiled) : Compiled → Text → Prop where
  | here {template : Compiled} {name : Text} (refers : Refers template name) : Reaches catalog template name
  | through {template inner : Compiled} {middle name : Text} (refers : Refers template middle)
      (found : catalog middle = some inner) (further : Reaches catalog inner name) : Reaches catalog template name

-- The builtin templates are written for the engine, and rendering asks for no template but those it reaches.
structure Lawful : Prop where
  reads_builtin : ∀ entry ∈ Harness.builtin, (read? entry.1 entry.2).isSome = true
  render_reached : ∀ (catalog other : Text → Option Compiled) (template : Compiled) (bindings : Template.Bindings),
    (∀ name, Reaches catalog template name → other name = catalog name) →
      render? other template bindings = render? catalog template bindings

end Marking.TemplateEngine

namespace Marking.Template
open TemplateEngine

variable {template inner : Template} {one two : Inclusion} {catalog other : Text → Option Template} {name : Text} {depth : Nat}

theorem text_eq_some_iff {value : Value} {text : Text} : value.text? = some text ↔ value = .text text := by
  cases value <;> simp [Value.text?]

theorem refers_of_value {file : Expression} {next : Template} {bindings : Bindings}
    (evaluated : file.value? bindings = some (.text name)) : (inclusion file next).refers name = true := by
  cases file with
  | constant value =>
    cases evaluated
    simp [refers]
  | _ => rfl

theorem refers_next {file : Expression} {next : Template} (refers : next.refers name = true) :
    (inclusion file next).refers name = true := by
  cases file with
  | constant value => simp [Template.refers,refers]
  | _ => rfl

theorem run_congr (same : ∀ name, template.refers name = true → one name = two name) (bindings : Bindings) :
    template.run? one bindings = template.run? two bindings := by
  induction template generalizing bindings with
  | done => rfl
  | data text next ih =>
    rw [run?,run?,ih same]
  | output value next ih =>
    simp only [run?,ih same]
  | branch condition yes no next first second last =>
    simp only [refers,Bool.or_eq_true] at same
    have left := first fun name refers => same name (.inl (.inl refers))
    have right := second fun name refers => same name (.inl (.inr refers))
    simp only [run?,left,right,last fun name refers => same name (.inr refers)]
  | assign target value next ih =>
    simp only [run?,ih same]
  | capture target filters body next first last =>
    simp only [refers,Bool.or_eq_true] at same
    have left := first fun name refers => same name (.inl refers)
    simp only [run?,left,last fun name refers => same name (.inr refers)]
  | inclusion file next ih =>
    have asked : ∀ value, file.value? bindings = some value → ∀ text, value.text? = some text → one text = two text := by
      intro value evaluated text given
      obtain rfl := text_eq_some_iff.mp given
      exact same text (refers_of_value evaluated)
    have later := ih fun name refers => same name (refers_next refers)
    simp only [run?,later]
    cases evaluated : file.value? bindings with
    | none => rfl
    | some value =>
      cases given : value.text? with
      | none => simp [given]
      | some text => simp [given,asked value evaluated text given]

theorem include_congr (same : ∀ inner, catalog name = some inner → ∀ reached, Reaches catalog inner reached → other reached = catalog reached)
    (found : other name = catalog name) : include? other depth name = include? catalog depth name := by
  induction depth generalizing name with
  | zero => rfl
  | succ depth ih =>
    funext bindings
    rw [include?,include?,found]
    cases listed : catalog name with
    | none => rfl
    | some inner =>
      refine run_congr (fun middle refers => ih ?_ (same inner listed middle (.here refers))) bindings
      intro deeper further reached reaches
      exact same inner listed reached (.through refers further reaches)

theorem render_reached (same : ∀ name, Reaches catalog template name → other name = catalog name) (bindings : Bindings) :
    render? other template bindings = render? catalog template bindings := by
  have included : ∀ name, template.refers name = true →
      include? other deepestInclusion name = include? catalog deepestInclusion name := by
    intro name refers
    refine include_congr ?_ (same name (.here refers))
    intro inner found reached reaches
    exact same reached (.through refers found reaches)
  rw [render?,render?,run_congr included]

end Marking.Template
