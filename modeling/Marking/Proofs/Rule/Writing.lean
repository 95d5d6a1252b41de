import Marking.Proofs.Rule.Compilation
import Marking.Proofs.Rule.Listing
import Mathlib

-- How rules are written: reading undoes every way of writing one, and accepts nothing else.

namespace Marking

-- Each letter of a marker, small or capital.
def Cased (marker head : Text) : Prop := List.Forall₂ (fun m c => c = m ∨ c = m.toUpper) marker head

def NameKind.Opens (kind : NameKind) (head : Text) : Prop := ∃ marker ∈ kind.markers, Cased marker head

def IsFlag (flag : Char) : Prop := flag = 'i' ∨ flag = 'm' ∨ flag = 'x'

def PatternFlags.named (flags : Text) : PatternFlags :=
  ⟨flags.contains 'i',flags.contains 'm',flags.contains 'x'⟩

inductive RuleSpec.Written : Text → RuleSpec → Prop where
  | names {kind : NameKind} {head lead list : Text} {listed : List Text} (opens : kind.Opens head)
      (separators : IsGap lead) (names : Listed listed list) :
      Written (head ++ (lead ++ list)) (.names kind listed)
  | pattern {flags : Text} (body : Text) (known : ∀ flag ∈ flags, IsFlag flag) :
      Written ('/' :: (body ++ '/' :: flags)) (.pattern body (.named flags))
  | literal {text : Text} (nonempty : text ≠ []) (slash : text.head? ≠ some '/')
      (free : ∀ kind head, NameKind.Opens kind head → ¬ head <+: text) : Written text (.literal text)

def PatternFlags.union (left right : PatternFlags) : PatternFlags :=
  ⟨left.ignoreCase || right.ignoreCase,left.dotAll || right.dotAll,left.extended || right.extended⟩

variable {kind : NameKind} {marker head input rest flags : Text} {m c : Char} {spec : RuleSpec}

theorem toLower_eq_iff (small : m.toLower = m) : m.toLower = c.toLower ↔ c = m ∨ c = m.toUpper := by
  constructor
  · intro same
    by_cases capital : c.isUpper = true
    · have upper : c.toUpper = c := Char.toUpper_eq_of_not_isLower (Char.not_isLower_of_isUpper capital)
      right
      rw [← small,same,Char.toUpper_toLower_eq_toUpper,upper]
    · left
      rw [← small,same,Char.toLower_eq_of_not_isUpper capital]
  · rintro (rfl | rfl)
    · rfl
    · exact (Char.toLower_toUpper_eq_toLower m).symm

theorem cased_iff (small : ∀ m ∈ marker, m.toLower = m) : Cased marker head ↔ marker = head.map Char.toLower := by
  induction marker generalizing head with
  | nil => cases head <;> simp [Cased]
  | cons m marker ih =>
    obtain ⟨first,later⟩ := List.forall_mem_cons.mp small
    cases head with
    | nil => simp [Cased]
    | cons c head =>
      have here : m = c.toLower ↔ c = m ∨ c = m.toUpper := by rw [← toLower_eq_iff first,first]
      rw [List.map_cons,List.cons.injEq,here,← ih later]
      exact List.forall₂_cons

theorem afterMarker_exact (small : ∀ m ∈ marker, m.toLower = m) :
    afterMarker? marker input = some rest ↔ ∃ head, Cased marker head ∧ input = head ++ rest := by
  induction marker generalizing input with
  | nil => simp [afterMarker?,Cased]
  | cons m marker ih =>
    obtain ⟨first,later⟩ := List.forall_mem_cons.mp small
    cases input with
    | nil =>
      constructor
      · intro read
        cases read
      · rintro ⟨head,cased,same⟩
        cases cased
        cases same
    | cons c input =>
      simp only [afterMarker?,toLower_eq_iff first]
      constructor
      · intro read
        split at read
        · rename_i here
          obtain ⟨head,cased,rfl⟩ := (ih later).mp read
          exact ⟨c :: head,.cons here cased,rfl⟩
        · cases read
      · rintro ⟨head,cased,same⟩
        cases cased with
        | cons here cased =>
          cases same
          rw [if_pos here]
          exact (ih later).mpr ⟨_,cased,rfl⟩

theorem markers_small (kind : NameKind) (member : marker ∈ kind.markers) : ∀ m ∈ marker, m.toLower = m := by
  have checked : (kind.markers.all fun marker => marker.all fun m => m.toLower == m) = true := by
    cases kind <;> decide +kernel
  simpa using List.all_eq_true.mp checked marker member

theorem markers_comparable {first second left right : Text} (one : afterMarker? first input = some left)
    (two : afterMarker? second input = some right) :
    first.map Char.toLower <+: second.map Char.toLower ∨ second.map Char.toLower <+: first.map Char.toLower := by
  induction first generalizing second input with
  | nil => exact .inl (List.nil_prefix ..)
  | cons m first ih =>
    cases second with
    | nil => exact .inr (List.nil_prefix ..)
    | cons n second =>
      cases input with
      | nil => cases one
      | cons c input =>
        simp only [afterMarker?,Option.ite_none_right_eq_some] at one two
        simpa [one.1.trans two.1.symm] using ih one.2 two.2

def NameKind.marked : List (NameKind × Text) := NameKind.all.flatMap fun kind => kind.markers.map (kind,·)

theorem marked_apart {first second : NameKind × Text} (one : first ∈ NameKind.marked)
    (two : second ∈ NameKind.marked)
    (begins : first.2.map Char.toLower <+: second.2.map Char.toLower) : first = second := by
  have checked : (NameKind.marked.all fun first => NameKind.marked.all fun second =>
      !(first.2.map Char.toLower).isPrefixOf (second.2.map Char.toLower) || first == second) = true := by
    decide +kernel
  have pair := List.all_eq_true.mp (List.all_eq_true.mp checked first one) second two
  simpa [List.isPrefixOf_iff_prefix.mpr begins] using pair

theorem findSome_unique {α β : Type} {items : List α} {pick : α → Option β} {item : α} {value : β}
    (member : item ∈ items) (picked : pick item = some value)
    (unique : ∀ other ∈ items, ∀ found, pick other = some found → found = value) :
    items.findSome? pick = some value := by
  cases result : items.findSome? pick with
  | none =>
    rw [List.findSome?_eq_none_iff] at result
    simp [result item member] at picked
  | some found =>
    obtain ⟨other,inside,given⟩ := List.exists_of_findSome?_eq_some result
    rw [unique other inside found given]

theorem marker_unique {first second : NameKind × Text} {left right : Text} (one : first ∈ NameKind.marked)
    (two : second ∈ NameKind.marked) (found : afterMarker? first.2 input = some left)
    (again : afterMarker? second.2 input = some right) : first.1 = second.1 ∧ left = right := by
  have same : first = second := by
    rcases markers_comparable found again with begins | begins
    · exact marked_apart one two begins
    · exact (marked_apart two one begins).symm
  subst same
  exact ⟨rfl,Option.some.inj (found.symm.trans again)⟩

theorem mem_marked (member : marker ∈ kind.markers) : (kind,marker) ∈ NameKind.marked := by
  cases kind <;> simp [NameKind.marked,NameKind.all,member]

theorem after_of_marker (member : marker ∈ kind.markers) (found : afterMarker? marker input = some rest) :
    kind.after? input = some rest := by
  refine findSome_unique member found ?_
  intro other inside tail again
  exact (marker_unique (mem_marked inside) (mem_marked member) again found).2

def RuleSpec.opening? (input : Text) : Option (NameKind × Text) :=
  NameKind.all.findSome? fun kind => (kind.after? input).map (kind,·)

theorem opening_exact :
    RuleSpec.opening? input = some (kind,rest) ↔ ∃ head, kind.Opens head ∧ input = head ++ rest := by
  constructor
  · intro opened
    obtain ⟨found,_,given⟩ := List.exists_of_findSome?_eq_some opened
    obtain ⟨tail,after,same⟩ := Option.map_eq_some_iff.mp given
    cases same
    obtain ⟨marker,member,read⟩ := List.exists_of_findSome?_eq_some after
    obtain ⟨head,cased,split⟩ := (afterMarker_exact (markers_small kind member)).mp read
    exact ⟨head,⟨marker,member,cased⟩,split⟩
  · rintro ⟨head,⟨marker,member,cased⟩,split⟩
    have read : afterMarker? marker input = some rest :=
      (afterMarker_exact (markers_small kind member)).mpr ⟨head,cased,split⟩
    have listed : kind ∈ NameKind.all := by cases kind <;> simp [NameKind.all]
    refine findSome_unique listed (by simp [after_of_marker member read]) ?_
    intro other _ found given
    obtain ⟨tail,after,same⟩ := Option.map_eq_some_iff.mp given
    cases same
    obtain ⟨marker',inside,again⟩ := List.exists_of_findSome?_eq_some after
    obtain ⟨rfl,rfl⟩ := marker_unique (mem_marked inside) (mem_marked member) again read
    rfl

theorem opening_none : RuleSpec.opening? input = none ↔ ∀ kind head, NameKind.Opens kind head → ¬ head <+: input := by
  constructor
  · rintro closed kind head opens ⟨rest,rfl⟩
    rw [opening_exact.mpr ⟨head,opens,rfl⟩] at closed
    cases closed
  · intro free
    cases opened : RuleSpec.opening? input with
    | none => rfl
    | some found =>
      obtain ⟨head,opens,rfl⟩ := opening_exact.mp opened
      exact absurd (List.prefix_append ..) (free found.1 head opens)

theorem NameKind.Opens.no_slash (opens : kind.Opens head) (rest : Text) : (head ++ rest).head? ≠ some '/' := by
  obtain ⟨marker,member,cased⟩ := opens
  cases kind <;> simp [NameKind.markers] at member <;> rcases member with rfl | rfl
  all_goals
    cases cased with
    | cons here _ => rcases here with rfl | rfl <;> simp

theorem flags_fold {step : PatternFlags → Char → Except Failure PatternFlags} {start result : PatternFlags}
    (known : ∀ read flag, IsFlag flag → step read flag = .ok (read.union (.named [flag])))
    (unknown : ∀ read flag, ¬ IsFlag flag → ∃ failure, step read flag = .error failure) :
    flags.foldlM step start = .ok result ↔ (∀ flag ∈ flags, IsFlag flag) ∧ result = start.union (.named flags) := by
  induction flags generalizing start with
  | nil => simp [pure,Except.pure,PatternFlags.union,PatternFlags.named,eq_comm]
  | cons flag flags ih =>
    rw [List.foldlM_cons]
    by_cases here : IsFlag flag
    · have joined : (start.union (.named [flag])).union (.named flags) = start.union (.named (flag :: flags)) := by
        simp [PatternFlags.union,PatternFlags.named,Bool.or_assoc]
      have next : (step start flag >>= fun read => flags.foldlM step read) =
          flags.foldlM step (start.union (.named [flag])) := by
        rw [known start flag here]
        rfl
      rw [next,ih,joined]
      simp [here]
    · obtain ⟨failure,refused⟩ := unknown start flag here
      rw [refused]
      constructor
      · intro read
        cases read
      · rintro ⟨all,_⟩
        exact absurd (all flag (by simp)) here

theorem flags_exact {result : PatternFlags} :
    PatternFlags.read flags = .ok result ↔ (∀ flag ∈ flags, IsFlag flag) ∧ result = .named flags := by
  unfold PatternFlags.read
  rw [flags_fold]
  · simp [PatternFlags.union]
  · rintro read flag (rfl | rfl | rfl) <;> simp [PatternFlags.union,PatternFlags.named]
  · intro read flag unknown
    split
    · exact absurd (.inl rfl) unknown
    · exact absurd (.inr (.inl rfl)) unknown
    · exact absurd (.inr (.inr rfl)) unknown
    · exact ⟨_,rfl⟩

theorem RuleSpec.Written.roundtrip (written : RuleSpec.Written input spec) : RuleSpec.read input = .ok spec := by
  cases written with
  | @names kind head lead list listed opens separators written =>
    have opened : RuleSpec.opening? (head ++ (lead ++ list)) = some (kind,lead ++ list) :=
      opening_exact.mpr ⟨head,opens,rfl⟩
    have read : Marking.names (lead ++ list) = listed := by rw [names_gap_append separators,written.roundtrip]
    unfold RuleSpec.opening? at opened
    simp [RuleSpec.read,opened,read,written.nonempty]
  | @pattern flags body known =>
    have closed : RuleSpec.opening? ('/' :: (body ++ '/' :: flags)) = none := by
      rw [opening_none]
      rintro kind head opens ⟨rest,split⟩
      have first := opens.no_slash rest
      simp [split] at first
    have last : '/' ∉ flags := by
      intro member
      rcases known '/' member with flag | flag | flag <;> cases flag
    have read := flags_exact.mpr ⟨known,rfl⟩
    unfold RuleSpec.opening? at closed
    simp [RuleSpec.read,closed,Text.cutAtLast_append last,read,Except.map]
  | literal nonempty slash free =>
    have closed := opening_none.mpr free
    unfold RuleSpec.opening? at closed
    unfold RuleSpec.read
    rw [closed]
    dsimp only
    split
    · exact absurd rfl nonempty
    · exact absurd rfl slash
    · rfl

theorem RuleSpec.read_canonical (read : RuleSpec.read input = .ok spec) : RuleSpec.Written input spec := by
  unfold RuleSpec.read at read
  split at read
  · rename_i kind rest opened
    obtain ⟨head,opens,rfl⟩ := opening_exact.mp opened
    split at read
    · cases read
    · rename_i nonempty
      cases read
      obtain ⟨lead,list,separators,written,rfl⟩ := (names_exact (by simpa using nonempty)).mp rfl
      exact .names opens separators written
  · rename_i closed
    split at read
    · cases read
    · rename_i rest
      split at read
      · cases read
      · rename_i body flags cut
        obtain ⟨rfl,last⟩ := Text.cutAtLast_eq_some_iff.mp cut
        cases named : PatternFlags.read flags with
        | error failure => rw [named] at read; cases read
        | ok result =>
          rw [named] at read
          cases read
          obtain ⟨known,rfl⟩ := flags_exact.mp named
          exact .pattern body known
    · rename_i nonempty slash
      cases read
      refine .literal nonempty ?_ (opening_none.mp closed)
      intro first
      obtain ⟨rest,rfl⟩ := List.head?_eq_some_iff.mp first
      exact slash rest rfl

theorem rule_read_exact (input : Text) :
    (∀ spec, RuleSpec.read input = .ok spec ↔ RuleSpec.Written input spec) ∧
    ((¬ ∃ spec, RuleSpec.Written input spec) ↔
      ∃ failure, RuleSpec.read input = .error failure ∧ failure.kind = .configuration) := by
  have exact (spec : RuleSpec) : RuleSpec.read input = .ok spec ↔ RuleSpec.Written input spec :=
    ⟨RuleSpec.read_canonical,RuleSpec.Written.roundtrip⟩
  refine ⟨exact,?_⟩
  constructor
  · intro unwritten
    cases read : RuleSpec.read input with
    | ok spec => exact absurd ⟨spec,RuleSpec.read_canonical read⟩ unwritten
    | error failure => exact ⟨failure,rfl,RuleSpec.read_failure read⟩
  · rintro ⟨failure,failed,_⟩ ⟨spec,written⟩
    rw [written.roundtrip] at failed
    cases failed

example : RuleSpec.read "METHODS:, size,\tget ".toList = .ok (.names .method ["size".toList,"get".toList]) := by
  rfl

end Marking
