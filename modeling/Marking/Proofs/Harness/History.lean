import Marking.Proofs.Harness.Names

-- A run is the sequence of registrations that it attempts, and what is rendered for a language
-- depends on the attempts under its key alone.

namespace Marking.Harness

variable [TemplateEngine] {harness next : Harness} {language source other : Text} {case : TestCase} {sink : Option Text}
  {template : TemplateEngine.Compiled} {done : Harness × Except Failure Unit}

-- What is registered under a key: a name, and its template unless that is gone.
def held (harness : Harness) (place : Text) : Option (Text × Option TemplateEngine.Compiled) :=
  (harness.languages.lookup place).map fun name => (name,harness.templates.lookup name)

def replaced (attempt : Text × Text) (before : Option (Text × Option TemplateEngine.Compiled)) : Option (Text × Option TemplateEngine.Compiled) :=
  if Text.trim attempt.1 = [] then before
  else
    match TemplateEngine.read? (Text.trim attempt.1) attempt.2 with
    | some template => some (Text.trim attempt.1,some template)
    | none => before.map fun entry => (entry.1,if entry.1 = Text.trim attempt.1 then entry.2 else none)

theorem Registration.held_self (step : Registration harness language source done) :
    done.1.held (key language) = replaced (language,source) (harness.held (key language)) := by
  cases step with
  | blank blank => simp [replaced,blank]
  | unreadable named unread =>
    simp only [held,replaced,named,unread,if_false,cleared,key_trim]
    cases harness.languages.lookup (key language) with
    | none => rfl
    | some previous =>
      by_cases same : previous = Text.trim language
      · simp [same]
      · simp [same,lookup_without_self]
  | entered named read =>
    simp [held,replaced,named,read,key_trim,lookup_insert_self]

theorem Registration.held_other (step : Registration harness language source done) (valid : Keyed harness)
    (different : key other ≠ key language) : done.1.held (key other) = harness.held (key other) := by
  have listed : done.1.languages.lookup (key other) = harness.languages.lookup (key other) := by
    cases step with
    | blank _ => rfl
    | unreadable _ _ => rfl
    | entered _ _ => exact lookup_insert_other (by rwa [key_trim])
  unfold held
  rw [listed]
  cases found : harness.languages.lookup (key other) with
  | none => rfl
  | some name =>
    obtain ⟨apart,kept⟩ := lookup_other valid found different
    have same : done.1.templates.lookup name = harness.templates.lookup name := step.template_kept apart kept
    rw [Option.map_some,Option.map_some,same]

def codeOf (harness : Harness) (name : Text) (template : TemplateEngine.Compiled) (case : TestCase) (sink : Option Text) :
    Except Failure Text :=
  match TemplateEngine.render? harness.template? template (bindings case sink) with
  | some code => .ok code
  | none => .error (.rendering name case.id)

theorem render_held : harness.render language case sink =
    match harness.held (key language) with
    | none => .error (.unknownLanguage language)
    | some (name,none) => .error (.templateMissing (Text.quoted name))
    | some (name,some template) => harness.codeOf name template case sink := by
  unfold render held template?
  cases harness.languages.lookup (key language) with
  | none => rfl
  | some name =>
    simp only [Option.map_some]
    cases harness.templates.lookup name <;> rfl

-- Whether rendering a language can ask for the template of a name.
def Asks (harness : Harness) (language touched : Text) : Prop :=
  ∃ name template, harness.held (key language) = some (name,some template) ∧
    TemplateEngine.Reaches harness.template? template touched

theorem render_kept (lawful : TemplateEngine.Lawful) (same : next.held (key language) = harness.held (key language))
    (kept : ∀ touched, harness.Asks language touched → next.template? touched = harness.template? touched) :
    next.render language case sink = harness.render language case sink := by
  rw [render_held,render_held,same]
  cases found : harness.held (key language) with
  | none => rfl
  | some entry =>
    obtain ⟨name,template⟩ := entry
    cases template with
    | none => rfl
    | some template =>
      have rendered := lawful.render_reached harness.template? next.template? template (bindings case sink)
        fun touched reaches => kept touched ⟨name,template,found,reaches⟩
      simp only [codeOf,rendered]

-- The registrations that are attempted of a list: those up to the first that fails.
def accepts (attempt : Text × Text) : Bool :=
  !(Text.trim attempt.1).isEmpty && (TemplateEngine.read? (Text.trim attempt.1) attempt.2).isSome

def attempted : List (Text × Text) → List (Text × Text)
  | [] => []
  | attempt :: rest => attempt :: if accepts attempt then attempted rest else []

-- The files that are read as texts, up to the first that is none. Those that name no language are
-- passed over.
def readable : List DirectoryEntry.Source → List (Text × Text)
  | [] => []
  | source :: rest =>
    match Text.decoded? source.stem with
    | none => readable rest
    | some language =>
      match source.text with
      | .error _ => []
      | .ok text => (language,text) :: readable rest

def Request.attempts : Request → List (Text × Text)
  | .register language source => [(language,source)]
  | .load none => []
  | .load (some entries) => attempted (readable (DirectoryEntry.sources entries))

def enter (harness : Harness) (attempt : Text × Text) : Harness := (harness.register attempt.1 attempt.2).1

theorem register_ok_iff : (harness.register language source).2 = .ok () ↔ accepts (language,source) = true := by
  have step := register_registration harness language source
  generalize harness.register language source = done at step
  cases step with
  | blank blank => simp [accepts,blank]
  | unreadable named unread => simp [accepts,unread]
  | entered named read => simp [accepts,named,read]

theorem register_either (harness : Harness) (language source : Text) :
    (accepts (language,source) = true ∧
      harness.register language source = (enter harness (language,source),.ok ())) ∨
    (accepts (language,source) = false ∧ ∃ failure,
      harness.register language source = (enter harness (language,source),.error failure)) := by
  have ok : (harness.register language source).2 = .ok () ↔ accepts (language,source) = true := register_ok_iff
  unfold enter
  generalize harness.register language source = registered at ok
  obtain ⟨next,outcome⟩ := registered
  cases outcome with
  | ok _ => exact .inl ⟨ok.mp rfl,rfl⟩
  | error failure => exact .inr ⟨by simpa using ok,failure,rfl⟩

theorem attempted_accepted {entries : List (Text × Text)} (accepted : ∀ attempt ∈ entries, accepts attempt = true) :
    attempted entries = entries := by
  induction entries with
  | nil => rfl
  | cons attempt rest ih =>
    obtain ⟨first,later⟩ := List.forall_mem_cons.mp accepted
    simp [attempted,first,ih later]

theorem replaced_read (named : Text.trim language ≠ []) (read : TemplateEngine.read? (Text.trim language) source = some template)
    (before : Option (Text × Option TemplateEngine.Compiled)) :
    replaced (language,source) before = some (Text.trim language,some template) := by
  simp [replaced,named,read]

theorem registerAll_attempted (harness : Harness) (entries : List (Text × Text)) :
    (harness.registerAll entries).1 = (attempted entries).foldl enter harness := by
  induction entries generalizing harness with
  | nil => rfl
  | cons attempt rest ih =>
    rcases register_either harness attempt.1 attempt.2 with ⟨accepted,registered⟩ | ⟨refused,failure,registered⟩
    · simp [registerAll,attempted,registered,accepted,ih]
    · simp [registerAll,attempted,registered,refused]

theorem registerSources_attempted (harness : Harness) (sources : List DirectoryEntry.Source) :
    (harness.registerSources sources).1 = (attempted (readable sources)).foldl enter harness := by
  induction sources generalizing harness with
  | nil => rfl
  | cons source rest ih =>
    unfold registerSources readable
    cases Text.decoded? source.stem with
    | none => exact ih harness
    | some language =>
      cases source.text with
      | error failure => rfl
      | ok text =>
        rcases register_either harness language text with ⟨accepted,registered⟩ | ⟨refused,failure,registered⟩
        · simp [attempted,registered,accepted,ih]
        · simp [attempted,registered,refused]

theorem perform_attempts (harness : Harness) (request : Request) :
    (harness.perform request).1 = request.attempts.foldl enter harness := by
  cases request with
  | register language source => rfl
  | load directory =>
    cases directory with
    | none => rfl
    | some entries => exact registerSources_attempted harness (DirectoryEntry.sources entries)

theorem run_attempts (harness : Harness) (requests : List Request) :
    harness.run requests = (requests.flatMap Request.attempts).foldl enter harness := by
  induction requests generalizing harness with
  | nil => rfl
  | cons request rest ih => rw [run,ih,perform_attempts,List.flatMap_cons,List.foldl_append]

theorem builtin_accepted (lawful : TemplateEngine.Lawful) : ∀ attempt ∈ builtin, accepts attempt = true := by
  have named : ∀ attempt ∈ builtin, Text.trim attempt.1 = attempt.1 ∧ attempt.1 ≠ [] := by
    simp only [builtin,List.forall_mem_cons]
    refine ⟨⟨spelled_ruby.1,by decide⟩,⟨spelled_python.1,by decide⟩,⟨spelled_java.1,by decide⟩,?_⟩
    nofun
  intro attempt member
  obtain ⟨spelled,nonempty⟩ := named attempt member
  simp [accepts,spelled,nonempty,lawful.reads_builtin attempt member]

theorem initial_entered (lawful : TemplateEngine.Lawful) : initial = builtin.foldl enter empty := by
  rw [initial,holding,registerAll_attempted,attempted_accepted (builtin_accepted lawful)]

theorem foldl_held (valid : Keyed harness) (language : Text) (attempts : List (Text × Text)) :
    (attempts.foldl enter harness).held (key language) =
      (attempts.filter fun attempt => key attempt.1 == key language).foldl (fun before attempt =>
        replaced attempt before) (harness.held (key language)) := by
  induction attempts generalizing harness with
  | nil => rfl
  | cons attempt rest ih =>
    have step := register_registration harness attempt.1 attempt.2
    have next : Keyed (harness.enter attempt) := step.keyed valid
    rw [List.foldl_cons,ih next]
    by_cases same : key attempt.1 = key language
    · have self := step.held_self
      rw [same] at self
      simp [same,enter,self]
    · have kept := step.held_other valid (Ne.symm same)
      simp [same,enter,kept]

theorem foldl_held_last (valid : Keyed harness) {earlier later : List (Text × Text)} {last : Text × Text}
    (same : key last.1 = key language) (accepted : accepts last = true)
    (quiet : ∀ attempt ∈ later, key attempt.1 ≠ key language) :
    ∃ template, TemplateEngine.read? (Text.trim last.1) last.2 = some template ∧
      ((earlier ++ last :: later).foldl enter harness).held (key language) =
        some (Text.trim last.1,some template) := by
  obtain ⟨named,readable⟩ : Text.trim last.1 ≠ [] ∧ (TemplateEngine.read? (Text.trim last.1) last.2).isSome = true := by
    simpa [accepts] using accepted
  obtain ⟨template,read⟩ := Option.isSome_iff_exists.mp readable
  have silent : later.filter (fun attempt => key attempt.1 == key language) = [] := by
    rw [List.filter_eq_nil_iff]
    intro attempt member
    simpa using quiet attempt member
  refine ⟨template,read,?_⟩
  rw [foldl_held valid,List.filter_append,List.filter_cons_of_pos (by simpa using same),silent,List.foldl_append]
  exact replaced_read named read _

theorem name_of_held {place name : Text} {kept : Option TemplateEngine.Compiled} (found : harness.held place = some (name,kept)) :
    name ∈ harness.names := by
  obtain ⟨listed,entry,same⟩ := Option.map_eq_some_iff.mp found
  obtain ⟨before,after,split,_⟩ := List.lookup_eq_some_iff.mp entry
  have spelled : listed = name := congrArg Prod.fst same
  rw [names,split,spelled]
  simp

end Marking.Harness
