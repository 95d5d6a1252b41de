import Marking.Harness

-- Templates in a directory, one file for each language.

namespace Marking

-- The name of a file need be no text.
structure FileName where
  bytes : List UInt8
  deriving DecidableEq,Repr

instance : Coe Text FileName := ⟨fun name => ⟨Text.encoded name⟩⟩

-- The name of a template file up to the last dot, which is not the first byte, where the rest is
-- the extension of templates.
def FileName.stem? (name : FileName) : Option (List UInt8) :=
  match Text.cutAtLast? '.'.toUInt8 name.bytes with
  | some (stem,extension) =>
    if !stem.isEmpty ∧ extension = Text.encoded "jinja".toList then some stem else none
  | none => none

-- What a directory holds: files with their bytes, files that cannot be read, and other directories.
inductive DirectoryEntry where
  | file (name : FileName) (bytes : List UInt8)
  | locked (name : FileName) (reason : Text)
  | folder (name : FileName)
  deriving DecidableEq,Repr

namespace DirectoryEntry

def name : DirectoryEntry → FileName
  | .file name _ => name
  | .locked name _ => name
  | .folder name => name

-- What reading a regular file gives.
def text? : DirectoryEntry → Option (Except Failure Text)
  | .file _ bytes =>
    match Text.decoded? bytes with
    | some text => some (.ok text)
    | none => some (.error .notUtf8)
  | .locked _ reason => some (.error (.unreadableFile reason))
  | .folder _ => none

-- A template file: its name, what stands before the extension, and what reading it gives.
structure Source where
  name : FileName
  stem : List UInt8
  text : Except Failure Text

def source? (entry : DirectoryEntry) : Option Source := do
  let text ← entry.text?
  let stem ← entry.name.stem?
  some ⟨entry.name,stem,text⟩

-- The template files in the order of their names.
def sources (entries : List DirectoryEntry) : List Source :=
  (entries.filterMap source?).mergeSort fun a b => !decide (b.name.bytes < a.name.bytes)

end DirectoryEntry

namespace Harness

variable [TemplateEngine]

-- Files are read and registered one by one, up to the first that fails. A file whose stem is no
-- text names no language and is passed over.
def registerSources (harness : Harness) :
    List DirectoryEntry.Source → Harness × Except Failure Unit
  | [] => (harness,.ok ())
  | source :: rest =>
    match Text.decoded? source.stem with
    | none => registerSources harness rest
    | some language =>
      match source.text with
      | .error failure => (harness,.error failure)
      | .ok text =>
        match harness.register language text with
        | (next,.ok ()) => registerSources next rest
        | failed => failed

-- Loads a directory, if there is one.
def loadDirectory (harness : Harness) (directory : Option (List DirectoryEntry)) :
    Harness × Except Failure Unit :=
  match directory with
  | none => (harness,.error .directoryMissing)
  | some entries => harness.registerSources (DirectoryEntry.sources entries)

-- The builtin templates and those of a configured directory. The outer option tells
-- whether a directory is configured, the inner one whether it exists.
def configured (directory : Option (Option (List DirectoryEntry))) : Except Failure Harness :=
  match directory with
  | none => .ok initial
  | some directory =>
    match initial.loadDirectory directory with
    | (harness,.ok ()) => .ok harness
    | (_,.error failure) => .error failure

end Harness
end Marking
