import Marking.Pattern.Basic
import Mathlib.Data.List.Basic
import Mathlib.Logic.Function.Iterate

-- What the search for a pattern finds: a stretch of the text that the pattern takes, where taking
-- is said part by part and without marks.

namespace Marking.Pattern

-- A match takes a stretch of a text between what stands before and after it.
abbrev Taking := Text → Text → Text → Prop

namespace Taking

def nothing : Taking := fun _ taken _ => taken = []

def andThen (first second : Taking) : Taking := fun before taken after =>
  ∃ front back, taken = front ++ back ∧ first before front (back ++ after) ∧ second (before ++ front) back after

def orElse (left right : Taking) : Taking := fun before taken after =>
  left before taken after ∨ right before taken after

def times (takes : Taking) : Nat → Taking
  | 0 => nothing
  | count + 1 => takes.andThen (takes.times count)

def between (takes : Taking) (least : Nat) (most : Option Nat) : Taking := fun before taken after =>
  ∃ more, (∀ limit, most = some limit → more ≤ limit - least) ∧ takes.times (least + more) before taken after

end Taking

def Takes : Pattern → Taking
  | .empty => .nothing
  | .one set => fun _ taken _ => ∃ c, taken = [c] ∧ set.has c = true
  | .assert assertion => fun before taken after => taken = [] ∧ assertion.holds before.getLast? after.head? = true
  | .both first second => first.Takes.andThen second.Takes
  | .either left right => left.Takes.orElse right.Takes
  | .repeated body least most => body.Takes.between least most
  | .group body => body.Takes

def Marks.At (marks : Marks) (before : Text) : Prop := marks[before.length]? = some true

-- Whether a step of the search leads from the marked places to exactly the ends of what is taken there.
structure Tracks (text : Text) (advance : Marks → Marks) (takes : Taking) : Prop where
  sized : ∀ {marks}, marks.length = text.length + 1 → (advance marks).length = text.length + 1
  marked : ∀ {marks front after}, marks.length = text.length + 1 → text = front ++ after →
    ((advance marks).At front ↔ ∃ before taken, front = before ++ taken ∧ marks.At before ∧ takes before taken after)

variable {text before taken after front back : Text} {advance other : Marks → Marks} {takes also : Taking}
  {marks more : Marks} {set : CharSet} {assertion : Assertion} {count limit least m n : Nat} {most : Option Nat}
  {pattern : Pattern}

theorem nothing_andThen : Taking.nothing.andThen takes = takes := by
  funext before taken after
  simp [Taking.andThen,Taking.nothing]

theorem andThen_nothing : takes.andThen .nothing = takes := by
  funext before taken after
  simp [Taking.andThen,Taking.nothing]

theorem andThen_assoc {first second third : Taking} :
    (first.andThen second).andThen third = first.andThen (second.andThen third) := by
  funext before taken after
  apply propext
  constructor
  · rintro ⟨_,back,rfl,⟨front,middle,rfl,one,two⟩,three⟩
    exact ⟨front,middle ++ back,by simp,by simpa using one,middle,back,rfl,two,by simpa using three⟩
  · rintro ⟨front,_,rfl,one,middle,back,rfl,two,three⟩
    exact ⟨front ++ middle,back,by simp,⟨front,middle,rfl,by simpa using one,two⟩,by simpa using three⟩

theorem times_add : takes.times (m + n) = (takes.times m).andThen (takes.times n) := by
  induction m with
  | zero => rw [Nat.zero_add,Taking.times,nothing_andThen]
  | succ m ih => rw [Nat.succ_add,Taking.times,ih,Taking.times,andThen_assoc]

theorem times_optional : (Taking.nothing.orElse takes).times count before taken after ↔
    ∃ n ≤ count, takes.times n before taken after := by
  induction count generalizing before taken with
  | zero => simp [Taking.times]
  | succ count ih =>
    constructor
    · rintro ⟨front,back,rfl,rfl | here,later⟩
      · obtain ⟨n,few,later⟩ := ih.mp later
        exact ⟨n,Nat.le_succ_of_le few,by simpa using later⟩
      · obtain ⟨n,few,later⟩ := ih.mp later
        exact ⟨n + 1,Nat.succ_le_succ few,front,back,rfl,here,later⟩
    · rintro ⟨n,few,row⟩
      cases n with
      | zero => exact ⟨[],taken,rfl,.inl rfl,ih.mpr ⟨0,Nat.zero_le _,row⟩⟩
      | succ n =>
        obtain ⟨front,back,rfl,here,later⟩ := row
        exact ⟨front,back,rfl,.inr here,ih.mpr ⟨n,Nat.le_of_succ_le_succ few,later⟩⟩

-- Matches of nothing can be left out, and the others take a character each.
theorem times_short (row : takes.times count before taken after) :
    ∃ n ≤ taken.length, takes.times n before taken after := by
  induction count generalizing before taken with
  | zero => exact ⟨0,Nat.zero_le _,row⟩
  | succ count ih =>
    obtain ⟨front,back,rfl,here,later⟩ := row
    obtain ⟨n,few,rest⟩ := ih later
    cases front with
    | nil => exact ⟨n,few,by simpa using rest⟩
    | cons c front =>
      have fewer : n + 1 ≤ (c :: front ++ back).length := by
        rw [List.cons_append,List.length_cons,List.length_append]
        omega
      exact ⟨n + 1,fewer,c :: front,back,rfl,here,rest⟩

theorem Tracks.congr (tracks : Tracks text advance takes)
    (same : ∀ before taken after, text = before ++ (taken ++ after) → (takes before taken after ↔ also before taken after)) :
    Tracks text advance also := by
  refine ⟨tracks.sized,?_⟩
  intro marks front after sized split
  rw [tracks.marked sized split]
  constructor
  · rintro ⟨before,taken,rfl,marked,here⟩
    exact ⟨before,taken,rfl,marked,(same _ _ _ (by simpa using split)).mp here⟩
  · rintro ⟨before,taken,rfl,marked,here⟩
    exact ⟨before,taken,rfl,marked,(same _ _ _ (by simpa using split)).mpr here⟩

theorem Tracks.stay : Tracks text id .nothing := by
  refine ⟨id,?_⟩
  intro marks front after sized split
  constructor
  · intro marked
    exact ⟨front,[],by simp,marked,rfl⟩
  · rintro ⟨before,taken,rfl,marked,rfl⟩
    simpa using marked

theorem Tracks.andThen (first : Tracks text advance takes) (second : Tracks text other also) :
    Tracks text (other ∘ advance) (takes.andThen also) := by
  refine ⟨fun sized => second.sized (first.sized sized),?_⟩
  intro marks front after sized split
  rw [Function.comp_apply,second.marked (first.sized sized) split]
  constructor
  · rintro ⟨middle,back,rfl,marked,later⟩
    have earlier : text = middle ++ (back ++ after) := by simpa using split
    obtain ⟨before,taken,rfl,marked,here⟩ := (first.marked sized earlier).mp marked
    exact ⟨before,taken ++ back,by simp,marked,taken,back,rfl,here,later⟩
  · rintro ⟨before,_,rfl,marked,front,back,rfl,here,later⟩
    have earlier : text = (before ++ front) ++ (back ++ after) := by simpa using split
    exact ⟨before ++ front,back,by simp,(first.marked sized earlier).mpr ⟨before,front,rfl,marked,here⟩,later⟩

theorem merge_at (sized : marks.length = more.length) : (marks.merge more).At front ↔ marks.At front ∨ more.At front := by
  unfold Marks.At Marks.merge
  rw [List.getElem?_zipWith]
  by_cases within : front.length < marks.length
  · simp [within,sized ▸ within]
  · have beyond : more.length ≤ front.length := by omega
    simp [List.getElem?_eq_none beyond,List.getElem?_eq_none (Nat.le_of_not_lt within)]

theorem Tracks.merge (left : Tracks text advance takes) (right : Tracks text other also) :
    Tracks text (fun marks => Marks.merge (advance marks) (other marks)) (takes.orElse also) := by
  refine ⟨?_,?_⟩
  · intro marks sized
    simp [Marks.merge,left.sized sized,right.sized sized]
  · intro marks front after sized split
    rw [merge_at ((left.sized sized).trans (right.sized sized).symm),left.marked sized split,right.marked sized split]
    constructor
    · rintro (⟨before,taken,joined,marked,here⟩ | ⟨before,taken,joined,marked,here⟩)
      · exact ⟨before,taken,joined,marked,.inl here⟩
      · exact ⟨before,taken,joined,marked,.inr here⟩
    · rintro ⟨before,taken,joined,marked,here | here⟩
      · exact .inl ⟨before,taken,joined,marked,here⟩
      · exact .inr ⟨before,taken,joined,marked,here⟩

-- Steps that are left out would have changed nothing.
theorem steps_eq_iterate : Marks.steps advance count marks = advance^[count] marks := by
  induction count generalizing marks with
  | zero => rfl
  | succ count ih =>
    rw [Marks.steps,Function.iterate_succ_apply]
    split
    · rename_i still
      rw [still,Function.iterate_fixed still]
    · exact ih

theorem grow_eq_steps : Marks.grow advance count marks =
    Marks.steps (fun marks => marks.merge (advance marks)) count marks := by
  induction count generalizing marks with
  | zero => rfl
  | succ count ih =>
    rw [Marks.grow,Marks.steps]
    split
    · rfl
    · exact ih

theorem Tracks.iterate (tracks : Tracks text advance takes) : Tracks text advance^[count] (takes.times count) := by
  induction count with
  | zero => exact Tracks.stay
  | succ count ih => exact tracks.andThen ih

theorem Tracks.steps (tracks : Tracks text advance takes) : Tracks text (Marks.steps advance count) (takes.times count) := by
  have same : Marks.steps advance count = advance^[count] := funext fun marks => steps_eq_iterate
  exact same ▸ tracks.iterate

theorem Tracks.grow (tracks : Tracks text advance takes) :
    Tracks text (Marks.grow advance count) (fun before taken after => ∃ n ≤ count, takes.times n before taken after) := by
  have same : Marks.grow advance count = Marks.steps (fun marks => marks.merge (advance marks)) count :=
    funext fun marks => grow_eq_steps
  rw [same]
  exact (Tracks.stay.merge tracks).steps.congr fun _ _ _ _ => times_optional

theorem Tracks.repeated (tracks : Tracks text advance takes) :
    Tracks text (Marks.grow advance ((most.map (· - least)).getD (text.length + 1)) ∘ Marks.steps advance least)
      (takes.between least most) := by
  refine (tracks.steps.andThen tracks.grow).congr ?_
  intro before taken after split
  constructor
  · rintro ⟨front,back,rfl,first,n,few,later⟩
    refine ⟨n,?_,times_add ▸ ⟨front,back,rfl,first,later⟩⟩
    rintro limit rfl
    exact few
  · rintro ⟨more,bounded,taken⟩
    rw [times_add] at taken
    obtain ⟨front,back,rfl,first,later⟩ := taken
    cases most with
    | some limit => exact ⟨front,back,rfl,first,more,bounded limit rfl,later⟩
    | none =>
      obtain ⟨n,few,later⟩ := times_short later
      have within : back.length ≤ text.length := by
        simp only [split,List.length_append]
        omega
      exact ⟨front,back,rfl,first,n,Nat.le_succ_of_le (Nat.le_trans few within),later⟩

theorem Tracks.one : Tracks text (reach text (.one set)) (Takes (.one set)) := by
  refine ⟨?_,?_⟩
  · intro marks sized
    simp [reach,sized]
  · rintro marks front after sized rfl
    rcases List.eq_nil_or_concat' front with rfl | ⟨initial,c,rfl⟩
    · simp [reach,Marks.At,Takes]
    · have step : (reach (initial ++ [c] ++ after) (.one set) marks).At (initial ++ [c]) ↔
          marks.At initial ∧ set.has c = true := by
        cases mark : marks[initial.length]? <;> simp [reach,Marks.At,List.getElem?_zipWith,mark]
      rw [step]
      constructor
      · rintro ⟨marked,member⟩
        exact ⟨initial,[c],rfl,marked,c,rfl,member⟩
      · rintro ⟨before,_,joined,marked,d,rfl,member⟩
        obtain ⟨rfl,rfl⟩ : initial = before ∧ c = d := by simpa using joined
        exact ⟨marked,member⟩

theorem sidesFrom_length {side : Option Char} : (sidesFrom side text).length = text.length + 1 := by
  induction text generalizing side with
  | nil => rfl
  | cons c text ih => rw [sidesFrom,List.length_cons,ih,List.length_cons]

theorem sidesFrom_at {side : Option Char} :
    (sidesFrom side (front ++ after))[front.length]? = some (front.getLast?.or side,after.head?) := by
  induction front generalizing side with
  | nil => cases after <;> rfl
  | cons c front ih =>
    have last : (c :: front).getLast?.or side = front.getLast?.or (some c) := by
      cases front <;> simp [List.getLast?_cons]
    rw [last,← ih]
    rfl

theorem Tracks.assert : Tracks text (reach text (.assert assertion)) (Takes (.assert assertion)) := by
  refine ⟨?_,?_⟩
  · intro marks sized
    simp [reach,sides,sidesFrom_length,sized]
  · rintro marks front after sized rfl
    have step : (reach (front ++ after) (.assert assertion) marks).At front ↔
        marks.At front ∧ assertion.holds front.getLast? after.head? = true := by
      cases mark : marks[front.length]? <;> simp [reach,sides,Marks.At,List.getElem?_zipWith,sidesFrom_at,mark]
    rw [step]
    constructor
    · rintro ⟨marked,holds⟩
      exact ⟨front,[],by simp,marked,rfl,holds⟩
    · rintro ⟨before,_,joined,marked,rfl,holds⟩
      obtain rfl : front = before := by simpa using joined
      exact ⟨marked,holds⟩

theorem reach_tracks : Tracks text (reach text pattern) (Takes pattern) := by
  induction pattern with
  | empty => exact Tracks.stay
  | one set => exact Tracks.one
  | assert assertion => exact Tracks.assert
  | both first second front back => exact front.andThen back
  | either left right this that => exact this.merge that
  | repeated body least most tracks => exact tracks.repeated
  | group body tracks => exact tracks

theorem everywhere_at (split : text = front ++ after) : (everywhere text).At front := by
  have within : front.length < text.length + 1 := by
    rw [split,List.length_append]
    omega
  unfold everywhere Marks.At
  rw [List.getElem?_replicate,if_pos within]

theorem isMatch_iff : pattern.isMatch text = true ↔
    ∃ before taken after, text = before ++ (taken ++ after) ∧ Takes pattern before taken after := by
  have start : (everywhere text).length = text.length + 1 := List.length_replicate
  have tracks : Tracks text (reach text pattern) (Takes pattern) := reach_tracks
  constructor
  · intro found
    obtain ⟨mark,member,rfl⟩ := List.any_eq_true.mp found
    obtain ⟨place,marked⟩ := List.mem_iff_getElem?.mp member
    obtain ⟨within,_⟩ := List.getElem?_eq_some_iff.mp marked
    rw [tracks.sized start] at within
    have behind : (text.take place).length = place := List.length_take_of_le (Nat.le_of_lt_succ within)
    have split : text = text.take place ++ text.drop place := (List.take_append_drop place text).symm
    obtain ⟨before,taken,joined,_,here⟩ := (tracks.marked start split).mp (by rwa [Marks.At,behind])
    refine ⟨before,taken,text.drop place,?_,here⟩
    rw [← List.append_assoc,← joined,← split]
  · rintro ⟨before,taken,after,split,here⟩
    have marked : (reach text pattern (everywhere text)).At (before ++ taken) :=
      (tracks.marked start (by simpa using split)).mpr ⟨before,taken,rfl,everywhere_at split,here⟩
    exact List.any_eq_true.mpr ⟨true,List.mem_of_getElem? marked,rfl⟩

end Marking.Pattern
