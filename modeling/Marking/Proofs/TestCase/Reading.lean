import Marking.Proofs.Json.Number
import Marking.Proofs.Json.Reading
import Marking.Proofs.Json.Record
import Marking.TestCase.Loading

-- Which texts read as test cases, and as which ones.

namespace Marking

namespace Json

def WritesText (text : Text) (json : Json) : Prop := ∃ pieces, json = .string pieces ∧ textOf? pieces = some text

def WritesOptional (text : Option Text) (json : Json) : Prop :=
  match text with
  | none => json = .null
  | some text => WritesText text json

def WritesBool (value : Bool) (json : Json) : Prop := json = .bool value

def IsWeight (weight : Binary64) (json : Json) : Prop :=
  ∃ number : Number, json = .number number ∧ number.binary64? = some weight

-- A field that has to be there, and one that may be left out while it has its default.
def Given (writes : Json → Prop) : Option Json → Prop
  | none => False
  | some json => writes json

def Unless (default : Prop) (writes : Json → Prop) : Option Json → Prop
  | none => default
  | some json => writes json

variable {α : Type} {means : Json → Prop} {read : Json → Option α} {value default : α} {found : Option Json} {json : Json}

theorem Given.imp {others : Json → Prop} (each : ∀ {json}, means json → others json) (given : Given means found) :
    Given others found := by
  cases found with
  | none => exact given
  | some json => exact each given

theorem required_iff (same : ∀ {json}, read json = some value ↔ means json) :
    required read found = some value ↔ Given means found := by
  cases found with
  | none => exact ⟨nofun,nofun⟩
  | some json => exact same

theorem defaulted_iff (same : ∀ {json}, read json = some value ↔ means json) :
    defaulted read default found = some value ↔ Unless (value = default) means found := by
  cases found with
  | none => exact Option.some_inj.trans eq_comm
  | some json => exact same

theorem text_iff {text : Text} : json.text? = some text ↔ WritesText text json := by
  constructor
  · intro read
    cases json with
    | string pieces => exact ⟨pieces,rfl,read⟩
    | null | bool | number | array | object => cases read
  · intro given
    obtain ⟨pieces,rfl,denotes⟩ := given
    exact denotes

theorem optional_iff {text : Option Text} : json.optionalText? = some text ↔ WritesOptional text json := by
  constructor
  · intro read
    cases json with
    | null =>
      cases read
      rfl
    | string pieces =>
      obtain ⟨text,found,rfl⟩ : ∃ found, textOf? pieces = some found ∧ some found = text := Option.map_eq_some_iff.mp read
      exact ⟨pieces,rfl,found⟩
    | bool | number | array | object => cases read
  · intro given
    cases text with
    | none =>
      cases given
      rfl
    | some text =>
      obtain ⟨pieces,rfl,denotes⟩ := given
      exact Option.map_eq_some_iff.mpr ⟨text,denotes,rfl⟩

theorem bool_iff {value : Bool} : json.bool? = some value ↔ WritesBool value json := by
  constructor
  · intro read
    cases json with
    | bool found =>
      cases read
      rfl
    | null | number | string | array | object => cases read
  · intro given
    cases given
    rfl

theorem weight_iff {weight : Binary64} : json.binary64? = some weight ↔ IsWeight weight json := by
  constructor
  · intro read
    cases json with
    | number number => exact ⟨number,rfl,read⟩
    | null | bool | string | array | object => cases read
  · intro given
    obtain ⟨number,rfl,read⟩ := given
    exact read

end Json

open Json

def WritesRecord (names : List Text) (fields : List (Option Json → Prop)) (json : Json) : Prop :=
  ∃ values, Holds names values json ∧ List.Forall₂ (fun field value => field value) fields values

theorem WritesRecord.imp {names : List Text} {fields others : List (Option Json → Prop)} {json : Json}
    (written : WritesRecord names fields json) (each : List.Forall₂ (fun field other => ∀ value, field value → other value) fields others) :
    WritesRecord names others json := by
  obtain ⟨values,held,written⟩ := written
  refine ⟨values,held,?_⟩
  clear held
  induction each generalizing values with
  | nil => exact written
  | cons first _ ih =>
    cases written with
    | cons value written => exact .cons (first _ value) (ih _ written)

def CodingPrompt.readings (prompt : CodingPrompt) : List (Option Json → Prop) := [
  Given (IsInt prompt.id),Given (WritesText prompt.className),Given (WritesText prompt.methodName)]

def CodingPrompt.Reads (prompt : CodingPrompt) (json : Json) : Prop := WritesRecord fieldNames prompt.readings json

theorem CodingPrompt.ofJson_iff {prompt : CodingPrompt} {json : Json} : ofJson? json = some prompt ↔ prompt.Reads json := by
  constructor
  · intro read
    obtain ⟨⟨positional,values⟩,found,build⟩ := Option.bind_eq_some_iff.mp read
    have held := holds_of_fields (by decide) found
    split at build
    · rename_i id className methodName same
      cases same
      obtain ⟨_,id,build⟩ := Option.bind_eq_some_iff.mp build
      obtain ⟨_,className,build⟩ := Option.bind_eq_some_iff.mp build
      obtain ⟨_,methodName,same⟩ := Option.bind_eq_some_iff.mp build
      cases same
      exact ⟨_,held,.cons ((required_iff int_iff).mp id) (.cons ((required_iff text_iff).mp className)
        (.cons ((required_iff text_iff).mp methodName) .nil))⟩
    · cases build
  · intro given
    obtain ⟨values,held,written⟩ := given
    obtain ⟨positional,found⟩ := fields_held (by decide) held
    simp only [readings,List.forall₂_cons_left_iff,List.forall₂_nil_left_iff] at written
    obtain ⟨id,_,first,⟨className,_,second,⟨methodName,_,third,rfl,rfl⟩,rfl⟩,rfl⟩ := written
    simp [ofJson?,found,(required_iff int_iff).mpr first,(required_iff text_iff).mpr second,(required_iff text_iff).mpr third]

namespace TestCase

def readings (case : TestCase) : List (Option Json → Prop) := [
  Given (IsInt case.id),
  Given case.prompt.Reads,
  Unless (case.input = []) (WritesText case.input),
  Unless (case.expectedOutput = []) (WritesText case.expectedOutput),
  Unless (case.description = none) (WritesOptional case.description),
  Unless (case.negativeFeedback = none) (WritesOptional case.negativeFeedback),
  Given (IsWeight case.weight),
  Unless (case.isStatic = false) (WritesBool case.isStatic),
  Unless (case.isScreening = false) (WritesBool case.isScreening),
  Unless (case.isExample = false) (WritesBool case.isExample),
  Unless (case.isHidden = false) (WritesBool case.isHidden)]

def Reads (case : TestCase) (json : Json) : Prop := WritesRecord fieldNames case.readings json

def ReadsAll (cases : List TestCase) (text : Text) : Prop :=
  ∃ items, Spelled (.array items) text ∧ List.Forall₂ Reads cases items

variable {case : TestCase} {cases : List TestCase} {text : Text} {json : Json}

theorem fieldNames_distinct : fieldNames.Nodup := by decide

theorem reads_of_ofJson (read : ofJson? json = some case) : case.Reads json := by
  obtain ⟨⟨positional,values⟩,found,build⟩ := Option.bind_eq_some_iff.mp read
  have held := holds_of_fields fieldNames_distinct found
  split at build
  · rename_i same
    cases same
    obtain ⟨_,id,build⟩ := Option.bind_eq_some_iff.mp build
    obtain ⟨_,prompt,build⟩ := Option.bind_eq_some_iff.mp build
    obtain ⟨_,input,build⟩ := Option.bind_eq_some_iff.mp build
    obtain ⟨_,expectedOutput,build⟩ := Option.bind_eq_some_iff.mp build
    obtain ⟨_,description,build⟩ := Option.bind_eq_some_iff.mp build
    obtain ⟨_,negativeFeedback,build⟩ := Option.bind_eq_some_iff.mp build
    obtain ⟨_,weight,build⟩ := Option.bind_eq_some_iff.mp build
    obtain ⟨_,isStatic,build⟩ := Option.bind_eq_some_iff.mp build
    obtain ⟨_,isScreening,build⟩ := Option.bind_eq_some_iff.mp build
    obtain ⟨_,isExample,build⟩ := Option.bind_eq_some_iff.mp build
    obtain ⟨_,isHidden,same⟩ := Option.bind_eq_some_iff.mp build
    cases same
    refine ⟨_,held,.cons ?_ (.cons ?_ (.cons ?_ (.cons ?_ (.cons ?_ (.cons ?_ (.cons ?_ (.cons ?_ (.cons ?_ (.cons ?_
      (.cons ?_ .nil))))))))))⟩
    · exact (required_iff int_iff).mp id
    · exact (required_iff CodingPrompt.ofJson_iff).mp prompt
    · exact (defaulted_iff text_iff).mp input
    · exact (defaulted_iff text_iff).mp expectedOutput
    · exact (defaulted_iff optional_iff).mp description
    · exact (defaulted_iff optional_iff).mp negativeFeedback
    · exact (required_iff weight_iff).mp weight
    · exact (defaulted_iff bool_iff).mp isStatic
    · exact (defaulted_iff bool_iff).mp isScreening
    · exact (defaulted_iff bool_iff).mp isExample
    · exact (defaulted_iff bool_iff).mp isHidden
  · cases build

theorem ofJson_of_reads (given : case.Reads json) : ofJson? json = some case := by
  obtain ⟨values,held,written⟩ := given
  obtain ⟨positional,found⟩ := fields_held fieldNames_distinct held
  simp only [readings,List.forall₂_cons_left_iff,List.forall₂_nil_left_iff] at written
  obtain ⟨_,_,id,⟨_,_,prompt,⟨_,_,input,⟨_,_,expectedOutput,⟨_,_,description,⟨_,_,negativeFeedback,⟨_,_,weight,
    ⟨_,_,isStatic,⟨_,_,isScreening,⟨_,_,isExample,⟨_,_,isHidden,rfl,rfl⟩,rfl⟩,rfl⟩,rfl⟩,rfl⟩,rfl⟩,rfl⟩,rfl⟩,rfl⟩,
    rfl⟩,rfl⟩ := written
  refine Option.bind_eq_some_iff.mpr ⟨_,found,?_⟩
  refine Option.bind_eq_some_iff.mpr ⟨_,(required_iff int_iff).mpr id,?_⟩
  refine Option.bind_eq_some_iff.mpr ⟨_,(required_iff CodingPrompt.ofJson_iff).mpr prompt,?_⟩
  refine Option.bind_eq_some_iff.mpr ⟨_,(defaulted_iff text_iff).mpr input,?_⟩
  refine Option.bind_eq_some_iff.mpr ⟨_,(defaulted_iff text_iff).mpr expectedOutput,?_⟩
  refine Option.bind_eq_some_iff.mpr ⟨_,(defaulted_iff optional_iff).mpr description,?_⟩
  refine Option.bind_eq_some_iff.mpr ⟨_,(defaulted_iff optional_iff).mpr negativeFeedback,?_⟩
  refine Option.bind_eq_some_iff.mpr ⟨_,(required_iff weight_iff).mpr weight,?_⟩
  refine Option.bind_eq_some_iff.mpr ⟨_,(defaulted_iff bool_iff).mpr isStatic,?_⟩
  refine Option.bind_eq_some_iff.mpr ⟨_,(defaulted_iff bool_iff).mpr isScreening,?_⟩
  refine Option.bind_eq_some_iff.mpr ⟨_,(defaulted_iff bool_iff).mpr isExample,?_⟩
  refine Option.bind_eq_some_iff.mpr ⟨_,(defaulted_iff bool_iff).mpr isHidden,?_⟩
  rfl

theorem ofJson_iff : ofJson? json = some case ↔ case.Reads json := ⟨reads_of_ofJson,ofJson_of_reads⟩

theorem readCases_iff : (read? text).bind listOfJson? = some cases ↔ ReadsAll cases text := by
  constructor
  · intro read
    obtain ⟨json,spelled,read⟩ := Option.bind_eq_some_iff.mp read
    cases json with
    | array items =>
      exact ⟨items,read_eq_some_iff.mp spelled,(mapM_eq_some_iff.mp read).flip.imp fun _ _ => ofJson_iff.mp⟩
    | null | bool | number | string | object => cases read
  · intro given
    obtain ⟨items,spelled,each⟩ := given
    refine Option.bind_eq_some_iff.mpr ⟨.array items,read_eq_some_iff.mpr spelled,?_⟩
    exact mapM_eq_some_iff.mpr (each.flip.imp fun _ _ => ofJson_iff.mpr)

end TestCase

end Marking
