import Marking.Settings
import Mathlib.Data.List.Induction

-- The shared settings of a process through any sequence of operations: each setting has the value
-- of its last change since the last load, or the one that the environment gave it at that load.

namespace Marking

inductive Setting where
  | environmentName
  | projectName
  | logLevel
  | logFile
  | logDirectory
  | logToStandardOutput
  | templateDirectory
  deriving DecidableEq,Repr

namespace Setting

def Value : Setting → Type
  | .logToStandardOutput => Bool
  | .templateDirectory => Option Text
  | _ => Text

def changed? : (setting : Setting) → Settings.Change → Option setting.Value
  | .environmentName,.environmentName value => some value
  | .logLevel,.logLevel value => some value
  | .logFile,.logFile value => some value
  | .logDirectory,.logDirectory value => some value
  | .logToStandardOutput,.logToStandardOutput value => some value
  | .templateDirectory,.templateDirectory value => some value
  | _,_ => none

end Setting

def Settings.get (settings : Settings) : (setting : Setting) → setting.Value
  | .environmentName => settings.environmentName
  | .projectName => settings.projectName
  | .logLevel => settings.logLevel
  | .logFile => settings.logFile
  | .logDirectory => settings.logDirectory
  | .logToStandardOutput => settings.logToStandardOutput
  | .templateDirectory => settings.templateDirectory

namespace Configuration

-- A description tells what the environment gives now, a reading what is shared.
inductive Operation where
  | setVariable (name value : Text)
  | unsetVariable (name : Text)
  | describe
  | reset
  | change (change : Settings.Change)
  | read
  deriving DecidableEq,Repr

namespace Operation

-- Whether the shared settings are needed, so that they are loaded where they were not before.
def Accesses : Operation → Prop
  | .read | .change _ => True
  | _ => False

def Outside : Operation → Prop
  | .setVariable .. | .unsetVariable _ | .describe => True
  | _ => False

def value? (setting : Setting) : Operation → Option setting.Value
  | .change made => setting.changed? made
  | _ => none

def alter (settings : Settings) : Operation → Settings
  | .change made => settings.apply made
  | _ => settings

def edit (environment : Environment) : Operation → Environment
  | .setVariable name value => environment.set name value
  | .unsetVariable name => environment.unset name
  | _ => environment

end Operation

def perform (configuration : Configuration) : Operation → Configuration × Option Settings
  | .setVariable name value => (configuration.setVariable name value,none)
  | .unsetVariable name => (configuration.unsetVariable name,none)
  | .describe => (configuration,some configuration.fresh)
  | .reset => (configuration.reset,none)
  | .change change => (configuration.change change,none)
  | .read => (configuration.load,some configuration.shared)

def run (configuration : Configuration) : List Operation → Configuration
  | [] => configuration
  | operation :: rest => run (configuration.perform operation).1 rest

def edited (environment : Environment) (operations : List Operation) : Environment :=
  operations.foldl Operation.edit environment

def altered (settings : Settings) (operations : List Operation) : Settings :=
  operations.foldl Operation.alter settings

def lastValue? (setting : Setting) (operations : List Operation) : Option setting.Value :=
  (operations.filterMap (Operation.value? setting)).getLast?

-- The last load in a sequence of operations: what it gave, and the operations from then on. It is
-- the first access or the latest reset behind one. Settings that were loaded before are kept where
-- there is no reset, and where nothing was loaded, to ask for the settings is the first access.
inductive LastLoad (origin : Configuration) : List Operation → Settings → List Operation → Prop where
  | before {operations : List Operation} {settings : Settings} (loaded : origin.loaded = some settings)
      (kept : .reset ∉ operations) : LastLoad origin operations settings operations
  | access {earlier since : List Operation} {operation : Operation} (unloaded : origin.loaded = none)
      (first : ∀ other ∈ earlier, ¬ other.Accesses) (accesses : operation.Accesses) (kept : .reset ∉ since) :
      LastLoad origin (earlier ++ operation :: since) (.ofEnvironment (edited origin.environment earlier))
        (operation :: since)
  | reset {earlier since : List Operation}
      (loaded : origin.loaded.isSome ∨ ∃ other ∈ earlier, other.Accesses) (kept : .reset ∉ since) :
      LastLoad origin (earlier ++ .reset :: since) (.ofEnvironment (edited origin.environment earlier)) since
  | asking {operations : List Operation} (unloaded : origin.loaded = none)
      (first : ∀ other ∈ operations, ¬ other.Accesses) :
      LastLoad origin operations (.ofEnvironment (edited origin.environment operations)) []

variable {configuration origin : Configuration} {operation : Operation} {operations earlier since : List Operation}
  {settings : Settings}

theorem get_alter (settings : Settings) (operation : Operation) (setting : Setting) :
    (operation.alter settings).get setting = (operation.value? setting).getD (settings.get setting) := by
  cases operation with
  | change change => cases setting <;> cases change <;> rfl
  | _ => rfl

theorem get_altered (settings : Settings) (operations : List Operation) (setting : Setting) :
    (altered settings operations).get setting = (lastValue? setting operations).getD (settings.get setting) := by
  induction operations generalizing settings with
  | nil => rfl
  | cons operation operations ih =>
    have step : altered settings (operation :: operations) = altered (operation.alter settings) operations := rfl
    rw [step,ih,get_alter,lastValue?,lastValue?]
    cases value : operation.value? setting with
    | none => rw [List.filterMap_cons_none value]; rfl
    | some found =>
      rw [List.filterMap_cons_some value,List.getLast?_cons]
      rfl

theorem perform_environment (configuration : Configuration) (operation : Operation) :
    (configuration.perform operation).1.environment = operation.edit configuration.environment := by
  cases operation <;> rfl

theorem perform_unloaded (unloaded : configuration.loaded = none) (unneeded : ¬ operation.Accesses) :
    (configuration.perform operation).1.loaded = none := by
  cases operation with
  | reset => simp [perform,Configuration.reset,unloaded]
  | read => exact absurd trivial unneeded
  | change change => exact absurd trivial unneeded
  | _ => exact unloaded

theorem perform_loaded (loaded : configuration.loaded = some settings) (kept : operation ≠ .reset) :
    (configuration.perform operation).1.loaded = some (operation.alter settings) := by
  cases operation with
  | reset => exact absurd rfl kept
  | read => simp [perform,load,shared,loaded,Operation.alter]
  | change change => simp [perform,Configuration.change,shared,loaded,Operation.alter]
  | _ => exact loaded

theorem perform_access (unloaded : configuration.loaded = none) (accesses : operation.Accesses) :
    (configuration.perform operation).1.loaded = some (operation.alter configuration.fresh) := by
  cases operation with
  | read => simp [perform,load,shared,unloaded,Operation.alter]
  | change change => simp [perform,Configuration.change,shared,unloaded,Operation.alter]
  | _ => cases accesses

theorem perform_isSome (loaded : configuration.loaded.isSome ∨ operation.Accesses) :
    (configuration.perform operation).1.loaded.isSome := by
  cases operation with
  | read => rfl
  | change change => rfl
  | reset => simpa [perform,Configuration.reset,Operation.Accesses] using loaded
  | _ => simpa [perform,setVariable,unsetVariable,Operation.Accesses] using loaded

theorem run_append (configuration : Configuration) (first second : List Operation) :
    configuration.run (first ++ second) = (configuration.run first).run second := by
  induction first generalizing configuration with
  | nil => rfl
  | cons operation first ih => exact ih _

theorem run_environment (configuration : Configuration) (operations : List Operation) :
    (configuration.run operations).environment = edited configuration.environment operations := by
  induction operations generalizing configuration with
  | nil => rfl
  | cons operation operations ih =>
    rw [run,ih,perform_environment]
    rfl

theorem run_unloaded (unloaded : configuration.loaded = none) (first : ∀ other ∈ operations, ¬ other.Accesses) :
    (configuration.run operations).loaded = none := by
  induction operations generalizing configuration with
  | nil => exact unloaded
  | cons operation operations ih =>
    obtain ⟨unneeded,others⟩ := List.forall_mem_cons.mp first
    exact ih (perform_unloaded unloaded unneeded) others

theorem run_loaded (loaded : configuration.loaded = some settings) (kept : .reset ∉ operations) :
    (configuration.run operations).loaded = some (altered settings operations) := by
  induction operations generalizing configuration settings with
  | nil => exact loaded
  | cons operation operations ih =>
    obtain ⟨different,others⟩ : Operation.reset ≠ operation ∧ .reset ∉ operations := by simpa using kept
    exact ih (perform_loaded loaded different.symm) others

theorem run_isSome (loaded : configuration.loaded.isSome ∨ ∃ other ∈ operations, other.Accesses) :
    (configuration.run operations).loaded.isSome := by
  induction operations generalizing configuration with
  | nil => simpa [run] using loaded
  | cons operation operations ih =>
    apply ih
    rcases loaded with before | ⟨other,member,accesses⟩
    · exact .inl (perform_isSome (.inl before))
    · rcases List.mem_cons.mp member with rfl | later
      · exact .inl (perform_isSome (.inr accesses))
      · exact .inr ⟨other,later,accesses⟩

theorem fresh_run (origin : Configuration) (operations : List Operation) :
    (origin.run operations).fresh = .ofEnvironment (edited origin.environment operations) := by
  rw [fresh,run_environment]

theorem LastLoad.shared (load : LastLoad origin operations settings since) :
    (origin.run operations).shared = altered settings since := by
  cases load with
  | before loaded kept =>
    rw [Configuration.shared,run_loaded loaded kept]
    rfl
  | @access earlier since operation unloaded first accesses kept =>
    have loaded := perform_access (run_unloaded unloaded first) accesses
    rw [fresh_run] at loaded
    rw [run_append,run,Configuration.shared,run_loaded loaded kept]
    rfl
  | @reset earlier since loaded kept =>
    obtain ⟨settings,held⟩ := Option.isSome_iff_exists.mp (run_isSome loaded)
    have again : ((origin.run earlier).perform .reset).1.loaded = some (origin.run earlier).fresh := by
      simp [perform,Configuration.reset,held]
    rw [fresh_run] at again
    rw [run_append,run,Configuration.shared,run_loaded again kept]
    rfl
  | asking unloaded first =>
    rw [Configuration.shared,run_unloaded unloaded first,Option.getD_none,fresh_run]
    rfl

theorem LastLoad.still_asking (unloaded : origin.loaded = none) (first : ∀ other ∈ operations, ¬ other.Accesses)
    (unneeded : ¬ operation.Accesses) :
    LastLoad origin (operations ++ [operation]) (.ofEnvironment (edited origin.environment (operations ++ [operation]))) [] := by
  refine .asking unloaded (List.forall_mem_append.mpr ⟨first,?_⟩)
  simpa using unneeded

theorem LastLoad.next (load : LastLoad origin operations settings since) (operation : Operation) :
    ∃ settings since, LastLoad origin (operations ++ [operation]) settings since := by
  by_cases resets : operation = .reset
  · subst resets
    cases load with
    | before loaded kept => exact ⟨_,_,.reset (.inl (by rw [loaded]; rfl)) List.not_mem_nil⟩
    | access unloaded first accesses kept => exact ⟨_,_,.reset (.inr ⟨_,by simp,accesses⟩) List.not_mem_nil⟩
    | reset loaded kept =>
      refine ⟨_,_,.reset (loaded.imp_right ?_) List.not_mem_nil⟩
      rintro ⟨other,member,accesses⟩
      exact ⟨other,List.mem_append_left _ member,accesses⟩
    | asking unloaded first => exact ⟨_,_,.still_asking unloaded first id⟩
  · have still {list : List Operation} (kept : .reset ∉ list) : .reset ∉ list ++ [operation] := by
      simp [kept,Ne.symm resets]
    cases load with
    | before loaded kept => exact ⟨_,_,.before loaded (still kept)⟩
    | access unloaded first accesses kept =>
      rw [List.append_assoc,List.cons_append]
      exact ⟨_,_,.access unloaded first accesses (still kept)⟩
    | reset loaded kept =>
      rw [List.append_assoc,List.cons_append]
      exact ⟨_,_,.reset loaded (still kept)⟩
    | asking unloaded first =>
      by_cases accesses : operation.Accesses
      · exact ⟨_,_,.access unloaded first accesses List.not_mem_nil⟩
      · exact ⟨_,_,.still_asking unloaded first accesses⟩

theorem exists_lastLoad (origin : Configuration) (operations : List Operation) :
    ∃ settings since, LastLoad origin operations settings since := by
  induction operations using List.reverseRecOn with
  | nil =>
    cases loaded : origin.loaded with
    | none => exact ⟨_,_,.asking loaded (List.forall_mem_nil _)⟩
    | some settings => exact ⟨settings,_,.before loaded List.not_mem_nil⟩
  | append_singleton operations operation ih =>
    obtain ⟨settings,since,load⟩ := ih
    exact load.next operation

theorem reset_shared (configuration : Configuration) : configuration.reset.shared = configuration.fresh := by
  unfold reset shared fresh
  cases configuration.loaded <;> rfl

theorem altered_outside (settings : Settings) (outside : ∀ operation ∈ operations, operation.Outside) :
    altered settings operations = settings := by
  induction operations with
  | nil => rfl
  | cons operation operations ih =>
    obtain ⟨first,others⟩ := List.forall_mem_cons.mp outside
    have same : operation.alter settings = settings := by cases operation <;> first | rfl | cases first
    rw [altered,List.foldl_cons,same]
    exact ih others

theorem run_outside (loaded : configuration.loaded = some settings)
    (outside : ∀ operation ∈ operations, operation.Outside) : (configuration.run operations).loaded = some settings := by
  have kept : .reset ∉ operations := fun member => outside .reset member
  rw [run_loaded loaded kept,altered_outside settings outside]

theorem shared_last_change (origin : Configuration) (operations : List Operation) :
    (∃ settings since, LastLoad origin operations settings since) ∧
    (∀ settings since, LastLoad origin operations settings since →
      ∃ answer, ((origin.run operations).perform .read).2 = some answer ∧
        ∀ setting, answer.get setting = (lastValue? setting since).getD (settings.get setting)) ∧
    (∀ later : List Operation, (∀ operation ∈ later, operation.Outside) →
      (((origin.run (operations ++ [.read])).run later).perform .read).2 = ((origin.run operations).perform .read).2) ∧
    (origin.run operations).perform .describe =
      (origin.run operations,some (.ofEnvironment (edited origin.environment operations))) ∧
    ((origin.run (operations ++ [.reset])).perform .read).2 =
      some (.ofEnvironment (edited origin.environment operations)) := by
  refine ⟨exists_lastLoad origin operations,?_,?_,?_,?_⟩
  · intro settings since load
    refine ⟨(origin.run operations).shared,rfl,?_⟩
    intro setting
    rw [load.shared,get_altered]
  · intro later outside
    have loaded : (origin.run (operations ++ [.read])).loaded = some (origin.run operations).shared := by
      rw [run_append]
      rfl
    change some (Configuration.shared _) = some (Configuration.shared _)
    rw [Configuration.shared,run_outside loaded outside]
    rfl
  · rw [perform,fresh_run]
  · change some (Configuration.shared _) = _
    rw [run_append]
    change some (Configuration.reset _).shared = _
    rw [reset_shared,fresh_run]

theorem change_loads_first :
    let directory : Text := "LOG_DIR".toList
    let operations : List Operation := [.setVariable directory ['a'],.reset,.change (.logFile ['f']),.setVariable directory ['b']]
    let later : List Operation := [.unsetVariable directory,.describe]
    LastLoad (start []) operations (.ofEnvironment [(directory,['a'])])
      [.change (.logFile ['f']),.setVariable directory ['b']] ∧
    (∀ operation ∈ later, operation.Outside) ∧
    ∃ answer, (((start []).run operations).perform .read).2 = some answer ∧
      (((((start []).run (operations ++ [.read])).run later).perform .read).2 = some answer) ∧
      answer.logDirectory = ['a'] ∧ answer.logFile = ['f'] := by
  intro directory operations later
  have load : LastLoad (start []) operations (.ofEnvironment [(directory,['a'])])
      [.change (.logFile ['f']),.setVariable directory ['b']] :=
    @LastLoad.access (start []) [.setVariable directory ['a'],.reset] [.setVariable directory ['b']] (.change (.logFile ['f']))
      rfl (by simp [Operation.Accesses]) trivial (by simp)
  have outside : ∀ operation ∈ later, operation.Outside := by simp [later,Operation.Outside]
  obtain ⟨_,settled,unmoved,_⟩ := shared_last_change (start []) operations
  obtain ⟨answer,read,values⟩ := settled _ _ load
  exact ⟨load,outside,answer,read,(unmoved later outside).trans read,values .logDirectory,values .logFile⟩

end Configuration
end Marking
