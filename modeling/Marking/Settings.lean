import Marking.Text.Basic

-- The settings of a marking process, taken from the environment and changed while it runs.

namespace Marking

abbrev Environment := List (Text × Text)

namespace Environment

def value? (environment : Environment) (name : Text) : Option Text := environment.lookup name

def unset (environment : Environment) (name : Text) : Environment :=
  environment.filter (·.1 != name)

def set (environment : Environment) (name value : Text) : Environment :=
  (name,value) :: environment.unset name

end Environment

structure Settings where
  environmentName : Text
  projectName : Text
  logLevel : Text
  logFile : Text
  logDirectory : Text
  logToStandardOutput : Bool
  templateDirectory : Option Text
  deriving DecidableEq,Repr

namespace Settings

-- Every setting has a default, and a blank template directory counts as none.
def ofEnvironment (environment : Environment) : Settings :=
  let value (name default : String) : Text :=
    (environment.value? name.toList).getD default.toList
  { environmentName := value "APP_ENV" "development"
    projectName := value "PROJECT_NAME" "grader"
    logLevel := value "LOG_LEVEL" "grader=info"
    logFile := value "LOG_FILE" "grader.log"
    logDirectory := value "LOG_DIR" "logs"
    logToStandardOutput := value "LOG_TO_STDOUT" "false" == "true".toList
    templateDirectory := Text.nonBlank? (environment.value? "HARNESS_TEMPLATE_DIR".toList) }

-- A change of one setting.
inductive Change where
  | environmentName (value : Text)
  | logLevel (value : Text)
  | logFile (value : Text)
  | logDirectory (value : Text)
  | logToStandardOutput (value : Bool)
  | templateDirectory (value : Option Text)
  deriving DecidableEq,Repr

def apply (settings : Settings) : Change → Settings
  | .environmentName value => {settings with environmentName := value}
  | .logLevel value => {settings with logLevel := value}
  | .logFile value => {settings with logFile := value}
  | .logDirectory value => {settings with logDirectory := value}
  | .logToStandardOutput value => {settings with logToStandardOutput := value}
  | .templateDirectory value => {settings with templateDirectory := value}

end Settings

-- The environment of a process and the settings it shares, which are loaded on first use.
structure Configuration where
  environment : Environment
  loaded : Option Settings
  deriving DecidableEq,Repr

namespace Configuration

def start (environment : Environment) : Configuration := ⟨environment,none⟩

-- The settings that the environment describes now. The shared ones stay as they are.
def fresh (configuration : Configuration) : Settings := Settings.ofEnvironment configuration.environment

-- The shared settings.
def shared (configuration : Configuration) : Settings := configuration.loaded.getD configuration.fresh

def load (configuration : Configuration) : Configuration := {configuration with loaded := some configuration.shared}

-- Loads the shared settings again, where they were loaded before.
def reset (configuration : Configuration) : Configuration :=
  {configuration with loaded := configuration.loaded.map fun _ => configuration.fresh}

def change (configuration : Configuration) (change : Settings.Change) : Configuration :=
  {configuration with loaded := some (configuration.shared.apply change)}

def setVariable (configuration : Configuration) (name value : Text) : Configuration :=
  {configuration with environment := configuration.environment.set name value}

def unsetVariable (configuration : Configuration) (name : Text) : Configuration :=
  {configuration with environment := configuration.environment.unset name}

end Configuration
end Marking
