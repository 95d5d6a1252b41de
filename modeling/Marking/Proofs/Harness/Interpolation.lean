import Marking.Proofs.Harness.Builtin
import Marking.Proofs.Text.Cutting
import Marking.Proofs.Text.Integer
import Mathlib.Data.List.Infix

-- The report line of a failure in a Ruby literal. Its backslashes and quotes are escaped, and its
-- hash signs are not, so feedback can open an interpolation.

namespace Marking.Harness

namespace Ruby

def openers : List Char := ['\x7b','$','@']

def opens (rest : Text) : Bool := rest.head?.any openers.contains

def interpolates : Text → Bool
  | [] => false
  | '\\' :: _ :: rest => interpolates rest
  | c :: rest => (c == '#' && opens rest) || interpolates rest

-- What an escape stands for. A line end stands for nothing. Escapes that go on behind their first
-- character, which name a character by number or by keys, are not read here.
def escape? (c : Char) : Option Text :=
  match c with
  | 'a' => some ['\x07']
  | 'b' => some ['\x08']
  | 'e' => some ['\x1b']
  | 'f' => some ['\x0c']
  | 'n' => some ['\n']
  | 'r' => some ['\r']
  | 's' => some [' ']
  | 't' => some ['\t']
  | 'v' => some ['\x0b']
  | '\n' => some []
  | 'x' | 'u' | 'c' | 'C' | 'M' | '\r' => none
  | _ => if '0' ≤ c ∧ c ≤ '7' then none else some [c]

-- Reads a literal behind its opening quote, and gives its content and what stands behind its
-- closing quote. A carriage return before a line end is no part of it. An interpolation is not read
-- here, and no hash sign that could open one.
def literal? : Text → Option (Text × Text)
  | [] => none
  | '"' :: rest => some ([],rest)
  | '\\' :: c :: rest => do
    let escaped ← escape? c
    let (content,after) ← literal? rest
    some (escaped ++ content,after)
  | '\r' :: '\n' :: rest => (literal? rest).map fun found => ('\n' :: found.1,found.2)
  | c :: rest =>
    if c = '\\' ∨ (c = '#' ∧ opens rest = true) then none
    else (literal? rest).map fun found => (c :: found.1,found.2)

def lineEnds : Text → Text
  | [] => []
  | '\r' :: '\n' :: rest => '\n' :: lineEnds rest
  | c :: rest => c :: lineEnds rest

def Opened (text : Text) : Prop := ∃ c ∈ openers, ['#',c] <:+: text

instance (text : Text) : Decidable (Opened text) :=
  decidable_of_iff (openers.any (fun c => decide (['#',c] <:+: text)) = true) (by simp [Opened])

variable {text rest tail : Text} {a b c m : Char}

theorem opened_cons : Opened (c :: text) ↔ (c = '#' ∧ opens text = true) ∨ Opened text := by
  unfold Opened opens
  simp only [Text.pair_infix_cons]
  cases text with
  | nil => simp
  | cons d text => simp; grind

theorem lineEnds_eq_self_iff : lineEnds text = text ↔ ¬ ['\r','\n'] <:+: text := by
  fun_induction lineEnds text with
  | case1 => simp
  | case2 rest ih => simp [Text.pair_infix_cons]
  | case3 c rest other ih =>
    have apart : ¬ (c = '\r' ∧ rest.head? = some '\n') := by
      rintro ⟨rfl,next⟩
      obtain ⟨after,rfl⟩ := List.head?_eq_some_iff.mp next
      exact other after rfl rfl
    rw [Text.pair_infix_cons,List.cons.injEq,ih]
    simp [apart]

theorem head_escaped (text tail : Text) :
    opens (text.flatMap ReportLine.escape ++ '\\' :: tail) = opens text ∧
    ((text.flatMap ReportLine.escape ++ '\\' :: tail).head? = some '\n' ↔ text.head? = some '\n') := by
  cases text with
  | nil => exact ⟨rfl,by simp⟩
  | cons c text =>
    rw [List.flatMap_cons]
    unfold ReportLine.escape
    split
    · exact ⟨rfl,by simp⟩
    · exact ⟨rfl,by simp⟩
    · exact ⟨rfl,by simp⟩

theorem literal_plain (quote : c ≠ '"') (slash : c ≠ '\\') (single : ¬ (c = '\r' ∧ rest.head? = some '\n')) :
    literal? (c :: rest) =
      if c = '#' ∧ opens rest = true then none
      else (literal? rest).map fun found => (c :: found.1,found.2) := by
  rw [literal?.eq_def]
  split <;> simp_all

theorem literal_escape (c : Char) (rest : Text) (given : escape? c = some tail) :
    literal? ('\\' :: c :: rest) = (literal? rest).map fun found => (tail ++ found.1,found.2) := by
  cases found : literal? rest <;> simp [literal?,given,found]

theorem literal_escaped (text tail : Text) :
    literal? (text.flatMap ReportLine.escape ++ '\\' :: tail) =
      if Opened text then none
      else (literal? ('\\' :: tail)).map fun found => (lineEnds text ++ found.1,found.2) := by
  fun_induction lineEnds text with
  | case1 =>
    have inert : ¬ Opened [] := by simp [Opened]
    simp [inert]
  | case2 rest ih =>
    have step : literal? (('\r' :: '\n' :: rest).flatMap ReportLine.escape ++ '\\' :: tail) =
        (literal? (rest.flatMap ReportLine.escape ++ '\\' :: tail)).map fun found => ('\n' :: found.1,found.2) := rfl
    have same : Opened ('\r' :: '\n' :: rest) ↔ Opened rest := by simp [opened_cons]
    rw [step,ih]
    by_cases opened : Opened rest
    · simp [same,opened]
    · simp [same,opened,Function.comp_def]
  | case3 c rest other ih =>
    rw [List.flatMap_cons,List.append_assoc]
    obtain ⟨opening,ending⟩ := head_escaped rest tail
    generalize rest.flatMap ReportLine.escape ++ '\\' :: tail = after at ih opening ending ⊢
    have escaped (sign : Char) (hash : sign ≠ '#') (given : escape? sign = some [sign]) :
        literal? ('\\' :: sign :: after) =
          if Opened (sign :: rest) then none
          else (literal? ('\\' :: tail)).map fun found => (sign :: lineEnds rest ++ found.1,found.2) := by
      rw [literal_escape sign after given,ih]
      by_cases opened : Opened rest <;> simp [opened_cons,hash,opened,Function.comp_def]
    unfold ReportLine.escape
    split
    · exact escaped '\\' (by decide) rfl
    · exact escaped '"' (by decide) rfl
    · rename_i slash quote
      have single : ¬ (c = '\r' ∧ after.head? = some '\n') := by
        rintro ⟨rfl,next⟩
        obtain ⟨behind,rfl⟩ := List.head?_eq_some_iff.mp (ending.mp next)
        exact other behind rfl rfl
      rw [List.singleton_append,literal_plain quote slash single,ih,opening]
      by_cases here : c = '#' ∧ opens rest = true
      · simp [opened_cons,here]
      · by_cases opened : Opened rest <;> simp [opened_cons,here,opened,Function.comp_def]

theorem interpolates_escaped (text : Text) :
    interpolates (text.flatMap ReportLine.escape) = true ↔ Opened text := by
  induction text with
  | nil => simp [interpolates,Opened]
  | cons c rest ih =>
    have opening : opens (rest.flatMap ReportLine.escape) = opens rest := by
      cases rest with
      | nil => rfl
      | cons d rest =>
        rw [List.flatMap_cons]
        unfold ReportLine.escape
        split <;> rfl
    rw [List.flatMap_cons,opened_cons]
    generalize rest.flatMap ReportLine.escape = after at ih opening ⊢
    unfold ReportLine.escape
    split
    · simpa [interpolates] using ih
    · simpa [interpolates] using ih
    · rename_i slash quote
      have step : interpolates (c :: after) = ((c == '#' && opens after) || interpolates after) := by
        rw [interpolates.eq_def]
        split <;> simp_all
      rw [List.singleton_append,step,opening]
      simp [ih]

end Ruby

-- What stands before and behind the report line of a failure in Ruby code, up to its quotes. The
-- literal ends with an escaped line end.
def beforeReport (case : TestCase) (sink : Option Text) : Text :=
  "  def test".toList ++ Text.ofInt case.id.toInt ++ "\n".toList ++
  "    if ".toList ++ case.prompt.methodName ++ "(".toList ++ case.input ++ ") ==\n".toList ++
  "      ".toList ++ case.expectedOutput ++ "\n".toList ++
  "      ".toList ++ sinkText sink "@@f".toList ++ ".write(\"".toList ++ passLine case ++ "\\n\")\n".toList ++
  "    else\n".toList ++
  "      ".toList ++ sinkText sink "@@f".toList ++ ".write(".toList

def behindReport (case : TestCase) : Text :=
  ")\n".toList ++
  "    end\n".toList ++
  "    assert_equal(".toList ++ case.prompt.methodName ++ "(".toList ++ case.input ++ "), ".toList ++
    case.expectedOutput ++ ")\n".toList ++
  "  end\n\n".toList

variable {language : Text} {case : TestCase} {sink : Option Text} {a b : Char}

theorem rubyCode_report (case : TestCase) (sink : Option Text) :
    rubyCode case sink =
      beforeReport case sink ++ '"' :: (failLine case ++ '\\' :: 'n' :: '"' :: behindReport case) := by
  unfold rubyCode beforeReport behindReport
  simp only [List.append_assoc]
  rfl

theorem pair_infix_written {id : Int64} {feedback : Text} (first : a ≠ '"') (second : b ≠ '"')
    (outside : a ∉ '0' :: ',' :: Text.ofInt id.toInt) :
    [a,b] <:+: (ReportLine.failed id feedback).written ↔ [a,b] <:+: feedback := by
  have shape : (ReportLine.failed id feedback).written =
      ['0',','] ++ '"' :: (feedback ++ '"' :: ',' :: Text.ofInt id.toInt) := by
    simp [ReportLine.written,ReportLine.failed]
  have before : a ∉ ['0',','] := by
    intro member
    rcases List.mem_cons.mp member with rfl | comma
    · exact outside (List.mem_cons_self ..)
    · exact outside (List.mem_cons_of_mem _ (List.mem_singleton.mp comma ▸ List.mem_cons_self ..))
  have behind : a ∉ ',' :: Text.ofInt id.toInt := fun member => outside (List.mem_cons_of_mem _ member)
  rw [shape,Text.pair_infix_append first second,Text.pair_infix_append first second]
  simp [Text.pair_infix_absent before,Text.pair_infix_absent behind]

theorem opened_written (id : Int64) (feedback : Text) :
    Ruby.Opened (ReportLine.failed id feedback).written ↔ Ruby.Opened feedback := by
  have outside : '#' ∉ '0' :: ',' :: Text.ofInt id.toInt := by
    have number : '#' ∉ Text.ofInt id.toInt := Text.not_mem_ofInt (by decide) (by decide)
    simp [number]
  refine exists_congr fun c => and_congr_right fun opener => ?_
  have quote : c ≠ '"' := by
    rintro rfl
    exact absurd opener (by decide)
  exact pair_infix_written (by decide) quote outside

theorem lineEnds_written (id : Int64) (feedback : Text) :
    Ruby.lineEnds (ReportLine.failed id feedback).written = (ReportLine.failed id feedback).written ↔
      ¬ ['\r','\n'] <:+: feedback := by
  have outside : '\r' ∉ '0' :: ',' :: Text.ofInt id.toInt := by
    have number : '\r' ∉ Text.ofInt id.toInt := Text.not_mem_ofInt (by decide) (by decide)
    simp [number]
  rw [Ruby.lineEnds_eq_self_iff,pair_infix_written (by decide) (by decide) outside]

theorem literal_failLine (case : TestCase) (behind : Text) :
    Ruby.literal? (failLine case ++ '\\' :: 'n' :: '"' :: behind) =
      if Ruby.Opened (case.negativeFeedback.getD []) then none
      else some (Ruby.lineEnds (ReportLine.failed case.id (case.negativeFeedback.getD [])).written ++ ['\n'],behind) := by
  unfold failLine ReportLine.literalBody
  rw [Ruby.literal_escaped]
  simp only [opened_written]
  rfl

theorem render_report (ruby : key language = "ruby".toList) :
    initial.render language case sink = .ok
      (beforeReport case sink ++ '"' :: (failLine case ++ '\\' :: 'n' :: '"' :: behindReport case)) := by
  rw [render_ruby ruby,rubyCode_report]

-- The report line of a failure opens an interpolation exactly when the feedback does. It opens none and
-- is written as it is exactly when, beside that, no carriage return stands before a line end of the
-- feedback.
theorem report_inert_iff (case : TestCase) (sink : Option Text) :
    let feedback := case.negativeFeedback.getD []
    initial.render "Ruby".toList case sink = .ok
      (beforeReport case sink ++ '"' :: (failLine case ++ '\\' :: 'n' :: '"' :: behindReport case)) ∧
    (Ruby.interpolates (failLine case) = true ↔ Ruby.Opened feedback) ∧
    (Ruby.interpolates (failLine case) = false ∧
        Ruby.literal? (failLine case ++ '\\' :: 'n' :: '"' :: behindReport case) =
          some ((ReportLine.failed case.id feedback).written ++ ['\n'],behindReport case) ↔
      ¬ Ruby.Opened feedback ∧ ¬ ['\r','\n'] <:+: feedback) := by
  intro feedback
  have interpolates : Ruby.interpolates (failLine case) = true ↔ Ruby.Opened feedback := by
    unfold failLine ReportLine.literalBody
    rw [Ruby.interpolates_escaped,opened_written]
  refine ⟨render_report spelled_ruby.2,interpolates,?_⟩
  rw [← Bool.not_eq_true,interpolates]
  refine and_congr_right fun inert => ?_
  rw [literal_failLine,if_neg inert,← lineEnds_written case.id]
  simp [feedback]

theorem hash_feedback_interpolated :
    let case : TestCase :=
      {id := 4,prompt := ⟨1,"Answer".toList,"f".toList⟩,negativeFeedback := some "#\x7b1\x7d".toList,weight := .zero}
    initial.render "Ruby".toList case none = .ok
      (beforeReport case none ++ '"' :: (failLine case ++ '\\' :: 'n' :: '"' :: behindReport case)) ∧
    failLine case = "0,\\\"#\x7b1\x7d\\\",4".toList ∧
    Ruby.interpolates (failLine case) = true ∧
    Ruby.literal? (failLine case ++ '\\' :: 'n' :: '"' :: behindReport case) = none := by
  intro case
  have opened : Ruby.Opened (case.negativeFeedback.getD []) := by decide
  exact ⟨render_report spelled_ruby.2,by decide,by decide,by rw [literal_failLine,if_pos opened]⟩

end Marking.Harness
