import Marking.Proofs.TestCase.Loading

-- Test cases as they can be written in JSON, and that loading gives them back.

namespace Marking

namespace Json

def WritesInt (n : Int64) (json : Json) : Prop :=
  json = .number ⟨decide (n.toInt < 0),Text.ofNat n.toInt.natAbs,none,none⟩

-- A number to which the weight is nearest. The reader is taken to find the nearest double, as it does for
-- every short number.
def WritesWeight (weight : Binary64) (json : Json) : Prop :=
  ∃ number : Number, json = .number number ∧ number.nearest = weight ∧ number.ReadsNearest

end Json

open Json

def CodingPrompt.fields (prompt : CodingPrompt) : List (Option Json → Prop) := [
  Given (WritesInt prompt.id),Given (WritesText prompt.className),Given (WritesText prompt.methodName)]

def CodingPrompt.Writes (prompt : CodingPrompt) (json : Json) : Prop := WritesRecord fieldNames prompt.fields json

namespace TestCase

def fields (case : TestCase) : List (Option Json → Prop) := [
  Given (WritesInt case.id),
  Given case.prompt.Writes,
  Unless (case.input = []) (WritesText case.input),
  Unless (case.expectedOutput = []) (WritesText case.expectedOutput),
  Unless (case.description = none) (WritesOptional case.description),
  Unless (case.negativeFeedback = none) (WritesOptional case.negativeFeedback),
  Given (WritesWeight case.weight),
  Unless (case.isStatic = false) (WritesBool case.isStatic),
  Unless (case.isScreening = false) (WritesBool case.isScreening),
  Unless (case.isExample = false) (WritesBool case.isExample),
  Unless (case.isHidden = false) (WritesBool case.isHidden)]

def Writes (case : TestCase) (json : Json) : Prop := WritesRecord fieldNames case.fields json

def WritesAll (cases : List TestCase) (text : Text) : Prop :=
  ∃ items, Spelled (.array items) text ∧ List.Forall₂ Writes cases items

end TestCase

theorem Json.int_written {n : Int64} {json : Json} (written : WritesInt n json) : IsInt n json :=
  ⟨_,written,Text.digitsValue_ofNat _⟩

theorem Json.weight_written {weight : Binary64} {json : Json} (written : WritesWeight weight json) : IsWeight weight json := by
  obtain ⟨number,rfl,rfl,nearest⟩ := written
  exact ⟨number,rfl,nearest⟩

theorem CodingPrompt.written {prompt : CodingPrompt} {json : Json} (written : prompt.Writes json) : prompt.Reads json :=
  written.imp (.cons (fun _ => Given.imp int_written) (.cons (fun _ given => given) (.cons (fun _ given => given) .nil)))

namespace TestCase

variable {case : TestCase} {cases : List TestCase} {text : Text}

theorem written {json : Json} (written : case.Writes json) : case.Reads json := by
  refine written.imp (.cons (fun _ => Given.imp int_written) (.cons (fun _ => Given.imp CodingPrompt.written)
    (.cons ?_ (.cons ?_ (.cons ?_ (.cons ?_ (.cons (fun _ => Given.imp weight_written)
      (.cons ?_ (.cons ?_ (.cons ?_ (.cons ?_ .nil)))))))))))
  all_goals exact fun _ given => given

theorem reads : ∀ json, case.Writes json → ofJson? json = some case :=
  fun _ given => ofJson_of_reads (written given)

theorem check_all (valid : ∀ case ∈ cases, case.check = .ok ()) : cases.forM check = .ok () := forM_eq_ok_iff.mpr valid

theorem load_written (written : WritesAll cases text) (valid : ∀ case ∈ cases, case.check = .ok ()) :
    load text = .ok cases := by
  obtain ⟨items,spelled,each⟩ := written
  have read : listOfJson? (.array items) = some cases :=
    mapM_forall₂ (each.flip.imp fun json case written => case.reads json written)
  simp only [load,read_spelled spelled,Option.bind_some,read,check_all valid]
  rfl

def sparse : TestCase where
  id := 1
  prompt := ⟨2,['A'],['f']⟩
  description := some ['d']
  weight := .zero

def digit (d : Char) : Json := .number ⟨false,[d],none,none⟩

def string (text : Text) : Json := .string (text.map unitOf)

def member (name : String) (value : Json) (valueText : Text) : SpelledMember :=
  ⟨name.toList.map unitOf,value,quoted name.toList,valueText⟩

def promptItems : List (Json × Text) := [(digit '2',['2']),(string ['A'],quoted ['A']),(string ['f'],quoted ['f'])]

def promptJson : Json := .array (promptItems.map (·.1))

def promptText : Text := '[' :: joined (promptItems.map (·.2)) ++ [']']

-- The fields in another order, with an unknown one behind them. The prompt is an array.
def sparseMembers : List SpelledMember := [
  member "weight" (digit '0') ['0'],member "id" (digit '1') ['1'],member "coding_prompt" promptJson promptText,
  member "description" (string ['d']) (quoted ['d']),member "x" (.array []) ['[',']']]

def sparseJson : Json := .object (sparseMembers.map fun member => (member.name,member.value))

def sparseText : Text := '\x7b' :: joined (sparseMembers.map SpelledMember.text) ++ ['\x7d']

theorem spelled_digit {d : Char} (valid : Text.isAsciiDigit d = true) : Spelled (digit d) [d] := by
  refine .number ⟨⟨List.cons_ne_nil _ _,by simpa using valid⟩,fun zero => ?_,fun _ given => (nomatch given),[],.none,rfl⟩
  exact congrArg Option.toList zero

theorem spelled_string (text : Text) : Spelled (string text) (quoted text) := .string (spelled_quoted text)

theorem spelled_prompt : Spelled promptJson promptText := by
  refine .array (List.cons_ne_nil _ _) ?_
  simp only [promptItems,List.forall_mem_cons]
  exact ⟨spelled_digit (by decide),spelled_string _,spelled_string _,List.forall_mem_nil _⟩

theorem spelled_sparse : Spelled sparseJson sparseText := by
  have named (name : String) (value : Json) (text : Text) : (member name value text).Named :=
    ⟨[],_,[],List.forall_mem_nil _,List.forall_mem_nil _,spelled_quoted name.toList,by simp [member]⟩
  refine .object (List.cons_ne_nil _ _) ?_ ?_
  · simp only [sparseMembers,List.forall_mem_cons]
    exact ⟨named _ _ _,named _ _ _,named _ _ _,named _ _ _,named _ _ _,List.forall_mem_nil _⟩
  · simp only [sparseMembers,List.forall_mem_cons,member]
    exact ⟨spelled_digit (by decide),spelled_digit (by decide),spelled_prompt,spelled_string _,
      .emptyArray (List.forall_mem_nil _),List.forall_mem_nil _⟩

theorem writes_prompt : sparse.prompt.Writes promptJson :=
  ⟨_,@Holds.array _ _ _ 0 rfl rfl,
    .cons rfl (.cons ⟨_,rfl,textOf_units _⟩ (.cons ⟨_,rfl,textOf_units _⟩ .nil))⟩

theorem writes_sparse : sparse.Writes sparseJson := by
  have named (name : String) : textOf? (name.toList.map unitOf) = some name.toList := textOf_units _
  have zero : WritesWeight .zero (digit '0') :=
    ⟨_,rfl,by decide +kernel,Number.readsNearest_short ⟨by decide,by decide,by decide⟩⟩
  have filled : Filled fieldNames
      [some (digit '1'),some promptJson,none,none,some (string ['d']),none,some (digit '0'),none,none,none,none]
      [("id".toList.map unitOf,digit '1'),("coding_prompt".toList.map unitOf,promptJson),
        ("description".toList.map unitOf,string ['d']),("weight".toList.map unitOf,digit '0')] :=
    .given (named _) (.given (named _) (.missing (.missing (.given (named _) (.missing (.given (named _)
      (.missing (.missing (.missing (.missing .nil))))))))))
  refine ⟨_,@Holds.object _ _ _ _ [("x".toList.map unitOf,.array [])] ?_ filled ?_,?_⟩
  · exact (@List.perm_middle _ ("weight".toList.map unitOf,digit '0') [_,_,_] [_]).symm
  · exact List.forall_mem_singleton.mpr ⟨_,named "x",by decide⟩
  · exact .cons rfl (.cons writes_prompt (.cons rfl (.cons rfl (.cons ⟨_,rfl,textOf_units _⟩ (.cons rfl (.cons zero
      (.cons rfl (.cons rfl (.cons rfl (.cons rfl .nil))))))))))

theorem load_sparse : WritesAll [sparse] ('[' :: sparseText ++ [']']) ∧ load ('[' :: sparseText ++ [']']) = .ok [sparse] := by
  have written : WritesAll [sparse] ('[' :: sparseText ++ [']']) := by
    refine ⟨[sparseJson],?_,.cons writes_sparse .nil⟩
    exact @Spelled.array [(sparseJson,sparseText)] (List.cons_ne_nil _ _) (List.forall_mem_singleton.mpr spelled_sparse)
  refine ⟨written,load_written written ?_⟩
  exact List.forall_mem_singleton.mpr rfl

end TestCase

end Marking
