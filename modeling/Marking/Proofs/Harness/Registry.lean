import Marking.Harness.Directory
import Marking.Proofs.Template.Inclusion
import Marking.Proofs.Text.Trimming

-- What a registration can do to a harness, and what holds of every harness that was made from
-- the builtin one by registering templates and loading directories.

namespace Marking.Harness

variable {language source name other : Text} {names : List (Text × Text)} {α : Type} {templates : List (Text × α)}

theorem key_trim (language : Text) : key (Text.trim language) = key language := by
  rw [key,key,Text.trim_trim]

theorem spelled_ruby : Text.trim "Ruby".toList = "Ruby".toList ∧ key "Ruby".toList = "ruby".toList := by
  decide +kernel

theorem spelled_python : Text.trim "Python".toList = "Python".toList ∧ key "Python".toList = "python".toList := by
  decide +kernel

theorem spelled_java : Text.trim "Java".toList = "Java".toList ∧ key "Java".toList = "java".toList := by
  decide +kernel

theorem lookup_insert_self (place name : Text) (names : List (Text × Text)) :
    (insert place name names).lookup place = some name := by
  induction names with
  | nil => simp [insert]
  | cons entry rest ih =>
    obtain ⟨head,value⟩ := entry
    by_cases same : place = head
    · simp [insert,same]
    · by_cases before : place < head
      · simp [insert,same,before]
      · have apart : (place == head) = false := beq_eq_false_iff_ne.mpr same
        simp [insert,same,before,List.lookup_cons,apart,ih]

theorem lookup_insert_other {place : Text} (different : other ≠ place) :
    (insert place name names).lookup other = names.lookup other := by
  have apart : (other == place) = false := beq_eq_false_iff_ne.mpr different
  induction names with
  | nil => simp [insert,List.lookup_cons,apart]
  | cons entry rest ih =>
    obtain ⟨head,value⟩ := entry
    by_cases same : place = head
    · subst same
      simp [insert,List.lookup_cons,apart]
    · by_cases before : place < head
      · simp [insert,same,before,List.lookup_cons,apart]
      · simp [insert,same,before,List.lookup_cons,ih]

theorem mem_insert {place : Text} {entry : Text × Text} (member : entry ∈ insert place name names) :
    entry = (place,name) ∨ entry ∈ names := by
  induction names with
  | nil => simpa [insert] using member
  | cons head rest ih =>
    unfold insert at member
    split at member
    · rcases List.mem_cons.mp member with new | old
      · exact .inl new
      · exact .inr (List.mem_cons_of_mem head old)
    · split at member
      · exact List.mem_cons.mp member
      · rcases List.mem_cons.mp member with first | later
        · exact .inr (first ▸ List.mem_cons_self)
        · exact (ih later).imp_right (List.mem_cons_of_mem head)

theorem insert_ascending {place : Text} (ascending : names.Pairwise fun a b => a.1 < b.1) :
    (insert place name names).Pairwise fun a b => a.1 < b.1 := by
  induction names with
  | nil => simp [insert]
  | cons head rest ih =>
    obtain ⟨first,later⟩ := List.pairwise_cons.mp ascending
    unfold insert
    split
    · rename_i same
      exact List.pairwise_cons.mpr ⟨fun entry member => same ▸ first entry member,later⟩
    · rename_i different
      split
      · rename_i before
        refine List.pairwise_cons.mpr ⟨?_,ascending⟩
        intro entry member
        rcases List.mem_cons.mp member with rfl | member
        · exact before
        · exact List.lt_trans before (first entry member)
      · rename_i notBefore
        have after : head.1 < place := 
          (List.le_iff_lt_or_eq.mp (List.not_lt.mp notBefore)).resolve_right (Ne.symm different)
        refine List.pairwise_cons.mpr ⟨?_,ih later⟩
        intro entry member
        rcases mem_insert member with rfl | member
        · exact after
        · exact first entry member

theorem lookup_without_self (name : Text) (templates : List (Text × α)) :
    (templates.filter (·.1 != name)).lookup name = none := by
  rw [List.lookup_eq_none_iff]
  intro entry member
  have different : entry.1 ≠ name := by simpa using (List.mem_filter.mp member).2
  exact bne_iff_ne.mpr (Ne.symm different)

theorem lookup_without_other (different : other ≠ name) :
    (templates.filter (·.1 != name)).lookup other = templates.lookup other := by
  have apart : (other == name) = false := beq_eq_false_iff_ne.mpr different
  induction templates with
  | nil => rfl
  | cons entry rest ih =>
    obtain ⟨head,template⟩ := entry
    by_cases dropped : head = name
    · subst dropped
      simp [List.lookup_cons,apart,ih]
    · simp [dropped,List.lookup_cons,ih]

theorem without_absent (absent : templates.lookup name = none) :
    templates.filter (·.1 != name) = templates := by
  rw [List.filter_eq_self]
  intro entry member
  have different : name ≠ entry.1 := by simpa using List.lookup_eq_none_iff.mp absent entry member
  exact bne_iff_ne.mpr (Ne.symm different)

variable [TemplateEngine] {harness : Harness} {done : Harness × Except Failure Unit}

-- What a registration can do: a blank name is turned away, an unreadable template costs the
-- template under another spelling of the name, and a readable one is entered.
inductive Registration (harness : Harness) (language source : Text) :
    Harness × Except Failure Unit → Prop where
  | blank (blank : Text.trim language = []) :
      Registration harness language source (harness,.error .emptyLanguage)
  | unreadable (named : Text.trim language ≠ []) (unread : TemplateEngine.read? (Text.trim language) source = none) :
      Registration harness language source
        ({harness with templates := harness.cleared (Text.trim language)},
          .error (.invalidTemplate (Text.trim language)))
  | entered (named : Text.trim language ≠ []) {template : TemplateEngine.Compiled}
      (read : TemplateEngine.read? (Text.trim language) source = some template) :
      Registration harness language source
        (⟨(Text.trim language,template) ::
            (harness.cleared (Text.trim language)).filter (·.1 != Text.trim language),
          insert (key (Text.trim language)) (Text.trim language) harness.languages⟩,.ok ())

theorem register_registration (harness : Harness) (language source : Text) :
    Registration harness language source (harness.register language source) := by
  by_cases blank : Text.trim language = []
  · simp only [register,blank]
    exact .blank blank
  · have named : (Text.trim language).isEmpty = false := by simpa using blank
    cases read : TemplateEngine.read? (Text.trim language) source with
    | none =>
      simp only [register,named,read]
      exact .unreadable blank read
    | some template =>
      simp only [register,named,read]
      exact .entered blank read

inductive Request where
  | register (language source : Text)
  | load (directory : Option (List DirectoryEntry))
  deriving DecidableEq,Repr

def perform (harness : Harness) : Request → Harness × Except Failure Unit
  | .register language source => harness.register language source
  | .load directory => harness.loadDirectory directory

-- Failures do not end a run.
def run (harness : Harness) : List Request → Harness
  | [] => harness
  | request :: rest => run (harness.perform request).1 rest

-- Every change is a sequence of registrations, so that what each of them keeps is kept by all.
def Stable (valid : Harness → Prop) : Prop :=
  ∀ harness language source, valid harness → valid (harness.register language source).1

section Stable
variable {valid : Harness → Prop}

theorem registerAll_keeps (stable : Stable valid) (start : valid harness) (entries : List (Text × Text)) :
    valid (harness.registerAll entries).1 := by
  induction entries generalizing harness with
  | nil => exact start
  | cons entry rest ih =>
    have entered := stable harness entry.1 entry.2 start
    unfold registerAll
    generalize harness.register entry.1 entry.2 = registered at entered ⊢
    obtain ⟨next,outcome⟩ := registered
    cases outcome with
    | error failure => exact entered
    | ok _ => exact ih entered

theorem registerSources_keeps (stable : Stable valid) (start : valid harness)
    (sources : List DirectoryEntry.Source) : valid (harness.registerSources sources).1 := by
  induction sources generalizing harness with
  | nil => exact start
  | cons source rest ih =>
    unfold registerSources
    cases Text.decoded? source.stem with
    | none => exact ih start
    | some language =>
      cases source.text with
      | error failure => exact start
      | ok text =>
        have entered := stable harness language text start
        simp only
        generalize harness.register language text = registered at entered ⊢
        obtain ⟨next,outcome⟩ := registered
        cases outcome with
        | error failure => exact entered
        | ok _ => exact ih entered

theorem perform_keeps (stable : Stable valid) (start : valid harness) (request : Request) :
    valid (harness.perform request).1 := by
  cases request with
  | register language source => exact stable harness language source start
  | load directory =>
    cases directory with
    | none => exact start
    | some entries => exact registerSources_keeps stable start (DirectoryEntry.sources entries)

theorem run_keeps (stable : Stable valid) (start : valid harness) (requests : List Request) :
    valid (harness.run requests) := by
  induction requests generalizing harness with
  | nil => exact start
  | cons request rest ih => exact ih (perform_keeps stable start request)

theorem holding_keeps (stable : Stable valid) (start : valid empty) (entries : List (Text × Text)) :
    valid (holding entries) :=
  registerAll_keeps stable start entries

theorem run_initial (stable : Stable valid) (start : valid empty) (requests : List Request) :
    valid (initial.run requests) :=
  run_keeps stable (holding_keeps stable start builtin) requests

end Stable

def Keyed (harness : Harness) : Prop := ∀ entry ∈ harness.languages, entry.1 = key entry.2

theorem Registration.keyed
    (step : Registration harness language source done) (valid : Keyed harness) : Keyed done.1 := by
  cases step with
  | blank _ => exact valid
  | unreadable _ _ => exact valid
  | entered _ _ =>
    intro entry member
    rcases mem_insert member with rfl | old
    · rfl
    · exact valid entry old

theorem keyed_stable : Stable Keyed := fun harness language source valid =>
  (register_registration harness language source).keyed valid

theorem run_keyed (requests : List Request) : Keyed (initial.run requests) := by
  refine run_initial keyed_stable ?_ requests
  intro entry member
  cases member

theorem key_of_lookup (valid : Keyed harness) (found : harness.languages.lookup (key language) = some name) :
    key name = key language := by
  obtain ⟨before,after,split,_⟩ := List.lookup_eq_some_iff.mp found
  exact (valid (key language,name) (by rw [split]; simp)).symm

theorem cleared_lookup (kept : harness.languages.lookup (key language) ≠ some name) :
    (harness.cleared (Text.trim language)).lookup name = harness.templates.lookup name := by
  rw [cleared,key_trim]
  cases registered : harness.languages.lookup (key language) with
  | none => rfl
  | some previous =>
    have apart : name ≠ previous := by
      intro same
      subst same
      exact kept registered
    by_cases same : previous = Text.trim language
    · simp only [if_pos same]
    · simp only [if_neg same]
      exact lookup_without_other apart

theorem Registration.template_kept (step : Registration harness language source done) (apart : name ≠ Text.trim language)
    (kept : harness.languages.lookup (key language) ≠ some name) : done.1.template? name = harness.template? name := by
  cases step with
  | blank _ => rfl
  | unreadable _ _ => exact cleared_lookup kept
  | entered _ _ =>
    simp only [template?,List.lookup_cons,beq_eq_false_iff_ne.mpr apart,lookup_without_other apart]
    exact cleared_lookup kept

theorem Registration.template_self (named : Text.trim language ≠ []) {template : TemplateEngine.Compiled}
    (read : TemplateEngine.read? (Text.trim language) source = some template) :
    (harness.register language source).1.template? (Text.trim language) = some template := by
  have nonempty : (Text.trim language).isEmpty = false := by simpa using named
  simp [register,nonempty,read,template?]

theorem lookup_other (valid : Keyed harness) (found : harness.languages.lookup (key other) = some name)
    (different : key other ≠ key language) : name ≠ Text.trim language ∧ harness.languages.lookup (key language) ≠ some name := by
  have own := key_of_lookup valid found
  refine ⟨?_,?_⟩
  · intro same
    subst same
    rw [key_trim] at own
    exact different own.symm
  · intro registered
    exact different (own.symm.trans (key_of_lookup valid registered))

end Marking.Harness
