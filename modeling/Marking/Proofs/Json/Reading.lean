import Marking.Proofs.Json.Spelling

-- What the reader takes is spelled as the value that it gives, so that the values a text reads as are
-- those that it spells.

namespace Marking.Json

variable {json : Json} {text rest digits : Text} {pieces : List Piece} {number : Number} {fuel : Nat}

theorem skip_eq (found : skip text = rest) : ∃ gap, Blank gap ∧ text = gap ++ rest := by
  refine ⟨text.takeWhile isSpace,fun c member => List.mem_takeWhile_imp member,?_⟩
  rw [← found]
  exact List.takeWhile_append_dropWhile.symm

theorem readString_sound (read : readString? text = some (pieces,rest)) :
    ∃ inner, SpelledPieces pieces inner ∧ text = inner ++ '"' :: rest := by
  fun_induction readString? text generalizing pieces rest with
  | case1 => cases read
  | case2 after =>
    cases read
    exact ⟨[],.nil,rfl⟩
  | case3 a b c d after ih =>
    obtain ⟨code,unit,read⟩ := Option.bind_eq_some_iff.mp read
    obtain ⟨⟨others,behind⟩,later,same⟩ := Option.bind_eq_some_iff.mp read
    cases same
    obtain ⟨inner,spelled,rfl⟩ := ih later
    exact ⟨_,.unit unit spelled,rfl⟩
  | case4 c after _ ih =>
    obtain ⟨escaped,letter,read⟩ := Option.bind_eq_some_iff.mp read
    obtain ⟨⟨others,behind⟩,later,same⟩ := Option.bind_eq_some_iff.mp read
    cases same
    obtain ⟨inner,spelled,rfl⟩ := ih later
    exact ⟨_,.short letter spelled,rfl⟩
  | case5 c after quote _ _ refused => cases read
  | case6 c after quote _ _ allowed ih =>
    obtain ⟨⟨others,behind⟩,later,same⟩ := Option.bind_eq_some_iff.mp read
    cases same
    obtain ⟨inner,spelled,rfl⟩ := ih later
    obtain ⟨visible,slash⟩ := not_or.mp allowed
    exact ⟨_,.plain visible quote slash spelled,rfl⟩

theorem readDigits_sound (read : readDigits? text = some (digits,rest)) : Digits digits ∧ text = digits ++ rest := by
  rw [readDigits?] at read
  split at read
  · cases read
  · rename_i some
    cases read
    refine ⟨⟨by simpa using some,fun c member => List.mem_takeWhile_imp member⟩,?_⟩
    exact List.takeWhile_append_dropWhile.symm

theorem readWhole_sound (read : readWhole? text = some (digits,rest)) :
    (Digits digits ∧ (digits.head? = some '0' → digits = ['0'])) ∧ text = digits ++ rest := by
  obtain ⟨⟨found,behind⟩,first,read⟩ := Option.bind_eq_some_iff.mp read
  obtain ⟨valid,split⟩ := readDigits_sound first
  dsimp only at read
  split at read
  · cases read
  · rename_i lone
    cases read
    refine ⟨⟨valid,?_⟩,split⟩
    intro zero
    obtain ⟨d,more,rfl,_⟩ := valid.head
    cases Option.some.inj zero
    have short : more.length = 0 := by
      simp only [List.length_cons,List.head?_cons,and_true] at lone
      omega
    rw [List.length_eq_zero_iff.mp short]

theorem readFraction_sound {fraction : Option Text} (read : readFraction? text = some (fraction,rest)) :
    (∀ digits, fraction = some digits → Digits digits) ∧ text = fractionText fraction ++ rest := by
  unfold readFraction? at read
  split at read
  · obtain ⟨⟨digits,behind⟩,found,same⟩ := Option.map_eq_some_iff.mp read
    cases same
    obtain ⟨valid,rfl⟩ := readDigits_sound found
    refine ⟨?_,rfl⟩
    intro others same
    cases same
    exact valid
  · cases read
    exact ⟨nofun,rfl⟩

theorem readExponent_sound {exponent : Option (Bool × Text)} (read : readExponent? text = some (exponent,rest)) :
    ∃ spelled, SpelledExponent exponent spelled ∧ text = spelled ++ rest := by
  unfold readExponent? at read
  split at read
  · cases read
    exact ⟨[],.none,rfl⟩
  · split at read
    · rename_i marked
      split at read
      all_goals
        obtain ⟨⟨digits,behind⟩,found,same⟩ := Option.map_eq_some_iff.mp read
        cases same
        obtain ⟨valid,rfl⟩ := readDigits_sound found
      · exact ⟨_,.minus marked valid,rfl⟩
      · exact ⟨_,.plus marked valid,rfl⟩
      · exact ⟨_,.plain marked valid,rfl⟩
    · cases read
      exact ⟨[],.none,rfl⟩

def signed (text : Text) : Bool × Text :=
  match text with
  | '-' :: rest => (true,rest)
  | _ => (false,text)

theorem signed_split (text : Text) : text = (if (signed text).1 then ['-'] else []) ++ (signed text).2 := by
  unfold signed
  split <;> rfl

theorem readNumber_sound (read : readNumber? text = some (number,rest)) :
    ∃ spelled, SpelledNumber number spelled ∧ text = spelled ++ rest := by
  obtain ⟨⟨whole,afterWhole⟩,first,read⟩ := Option.bind_eq_some_iff.mp read
  obtain ⟨⟨fraction,afterFraction⟩,second,read⟩ := Option.bind_eq_some_iff.mp read
  obtain ⟨⟨exponent,afterExponent⟩,third,same⟩ := Option.bind_eq_some_iff.mp read
  cases same
  obtain ⟨⟨valid,leading⟩,one⟩ := readWhole_sound first
  obtain ⟨digits,two⟩ := readFraction_sound second
  obtain ⟨spelled,written,three⟩ := readExponent_sound third
  have unsigned : (signed text).2 = whole ++ (fractionText fraction ++ (spelled ++ rest)) := by
    rw [← three,← two]
    exact one
  refine ⟨_,⟨valid,leading,digits,spelled,written,rfl⟩,(signed_split text).trans ?_⟩
  rw [unsigned]
  simp only [List.append_assoc]
  rfl

def ItemsSpelled (items : List Json) (text : Text) : Prop :=
  ∃ found : List (Json × Text), found ≠ [] ∧ (∀ item ∈ found, Spelled item.1 item.2) ∧
    items = found.map (·.1) ∧ text = joined (found.map (·.2))

def MembersSpelled (members : List (List Piece × Json)) (text : Text) : Prop :=
  ∃ found : List SpelledMember, found ≠ [] ∧ (∀ member ∈ found, member.Named) ∧
    (∀ member ∈ found, Spelled member.value member.valueText) ∧
    members = found.map (fun member => (member.name,member.value)) ∧ text = joined (found.map SpelledMember.text)

-- What one call is taken to give: the value of a spelling behind white space, items up to a bracket, and members
-- up to a brace.
def ValuesSound (fuel : Nat) : Prop := ∀ text json rest, readValue? fuel text = some (json,rest) →
  ∃ before spelled, Blank before ∧ Spelled json spelled ∧ text = before ++ (spelled ++ rest)

def ItemsSound (fuel : Nat) : Prop := ∀ text items rest, readItems? fuel text = some (items,rest) →
  ∃ inner, ItemsSpelled items inner ∧ text = inner ++ ']' :: rest

def MembersSound (fuel : Nat) : Prop := ∀ text members rest, readMembers? fuel text = some (members,rest) →
  ∃ inner, MembersSpelled members inner ∧ text = inner ++ '\x7d' :: rest

theorem array_sound (items : ItemsSound fuel)
    (read : (match skip text with
      | ']' :: after => some (.array [],after)
      | _ => (readItems? fuel text).map fun found => (.array found.1,found.2)) = some (json,rest)) :
    ∃ spelled, Spelled json spelled ∧ '[' :: text = spelled ++ rest := by
  split at read
  · rename_i after closing
    cases read
    obtain ⟨gap,blank,rfl⟩ := skip_eq closing
    exact ⟨_,.emptyArray blank,by simp⟩
  · obtain ⟨⟨found,behind⟩,more,same⟩ := Option.map_eq_some_iff.mp read
    cases same
    obtain ⟨_,⟨list,some,each,rfl,rfl⟩,rfl⟩ := items _ _ _ more
    exact ⟨_,.array some each,by simp⟩

theorem object_sound (members : MembersSound fuel)
    (read : (match skip text with
      | '\x7d' :: after => some (.object [],after)
      | _ => (readMembers? fuel text).map fun found => (.object found.1,found.2)) = some (json,rest)) :
    ∃ spelled, Spelled json spelled ∧ '\x7b' :: text = spelled ++ rest := by
  split at read
  · rename_i after closing
    cases read
    obtain ⟨gap,blank,rfl⟩ := skip_eq closing
    exact ⟨_,.emptyObject blank,by simp⟩
  · obtain ⟨⟨found,behind⟩,more,same⟩ := Option.map_eq_some_iff.mp read
    cases same
    obtain ⟨_,⟨list,some,named,each,rfl,rfl⟩,rfl⟩ := members _ _ _ more
    exact ⟨_,.object some named each,by simp⟩

theorem values_sound (items : ItemsSound fuel) (members : MembersSound fuel) : ValuesSound (fuel + 1) := by
  intro text json rest read
  suffices ∃ spelled, Spelled json spelled ∧ skip text = spelled ++ rest by
    obtain ⟨spelled,written,split⟩ := this
    obtain ⟨before,blank,same⟩ := skip_eq split
    exact ⟨before,spelled,blank,written,same⟩
  rw [readValue?] at read
  split at read
  · rename_i same
    cases read
    exact ⟨_,.null,same⟩
  · rename_i same
    cases read
    exact ⟨_,.bool true,same⟩
  · rename_i same
    cases read
    exact ⟨_,.bool false,same⟩
  · rename_i inner same
    obtain ⟨⟨pieces,behind⟩,found,equal⟩ := Option.map_eq_some_iff.mp read
    cases equal
    obtain ⟨inner,written,rfl⟩ := readString_sound found
    exact ⟨_,.string ⟨inner,written,rfl⟩,by simp [same]⟩
  · rename_i inner same
    rw [same]
    exact array_sound items read
  · rename_i inner same
    rw [same]
    exact object_sound members read
  · obtain ⟨⟨number,behind⟩,found,equal⟩ := Option.map_eq_some_iff.mp read
    cases equal
    obtain ⟨spelled,written,split⟩ := readNumber_sound found
    exact ⟨spelled,.number written,split⟩

theorem ItemsSpelled.cons {items : List Json} (first : Spelled json text) (others : ItemsSpelled items rest) :
    ItemsSpelled (json :: items) (text ++ ',' :: rest) := by
  obtain ⟨found,some,each,rfl,rfl⟩ := others
  have more : found.map (·.2) ≠ [] := by simpa using some
  exact ⟨(json,text) :: found,List.cons_ne_nil _ _,List.forall_mem_cons.mpr ⟨first,each⟩,rfl,(joined_cons text more).symm⟩

theorem ItemsSpelled.single (only : Spelled json text) : ItemsSpelled [json] text :=
  ⟨[(json,text)],List.cons_ne_nil _ _,List.forall_mem_singleton.mpr only,rfl,(joined_single text).symm⟩

theorem items_sound (values : ValuesSound fuel) (items : ItemsSound fuel) : ItemsSound (fuel + 1) := by
  intro text found rest read
  obtain ⟨⟨item,behind⟩,one,ending⟩ := Option.bind_eq_some_iff.mp read
  obtain ⟨before,spelled,first,written,rfl⟩ := values _ _ _ one
  dsimp only at ending
  split at ending
  · rename_i more same
    obtain ⟨gap,last,rfl⟩ := skip_eq same
    obtain ⟨⟨others,after⟩,later,equal⟩ := Option.bind_eq_some_iff.mp ending
    cases equal
    obtain ⟨inner,list,rfl⟩ := items _ _ _ later
    exact ⟨_,.cons (.spaced first last written) list,by simp⟩
  · rename_i after same
    cases ending
    obtain ⟨gap,last,rfl⟩ := skip_eq same
    exact ⟨_,.single (.spaced first last written),by simp⟩
  · cases ending

theorem MembersSpelled.cons {member : SpelledMember} {members : List (List Piece × Json)} (named : member.Named)
    (first : Spelled member.value member.valueText) (others : MembersSpelled members rest) :
    MembersSpelled ((member.name,member.value) :: members) (member.text ++ ',' :: rest) := by
  obtain ⟨found,some,names,each,rfl,rfl⟩ := others
  have more : found.map SpelledMember.text ≠ [] := by simpa using some
  exact ⟨member :: found,List.cons_ne_nil _ _,List.forall_mem_cons.mpr ⟨named,names⟩,
    List.forall_mem_cons.mpr ⟨first,each⟩,rfl,(joined_cons member.text more).symm⟩

theorem MembersSpelled.single {member : SpelledMember} (named : member.Named) (only : Spelled member.value member.valueText) :
    MembersSpelled [(member.name,member.value)] member.text :=
  ⟨[member],List.cons_ne_nil _ _,List.forall_mem_singleton.mpr named,List.forall_mem_singleton.mpr only,rfl,
    (joined_single member.text).symm⟩

theorem members_sound (values : ValuesSound fuel) (members : MembersSound fuel) : MembersSound (fuel + 1) := by
  intro text found rest read
  rw [readMembers?] at read
  split at read
  · rename_i quoted opened
    obtain ⟨before,first,rfl⟩ := skip_eq opened
    obtain ⟨⟨name,behind⟩,string,further⟩ := Option.bind_eq_some_iff.mp read
    obtain ⟨letters,pieces,rfl⟩ := readString_sound string
    dsimp only at further
    split at further
    · rename_i value colon
      obtain ⟨middle,between,rfl⟩ := skip_eq colon
      obtain ⟨⟨json,after⟩,one,ending⟩ := Option.bind_eq_some_iff.mp further
      obtain ⟨front,spelled,left,written,rfl⟩ := values _ _ _ one
      -- The member, with the white space found on all sides of its name and its value.
      let member (gap : Text) : SpelledMember :=
        ⟨name,json,before ++ (('"' :: letters ++ ['"']) ++ middle),front ++ (spelled ++ gap)⟩
      have named (gap : Text) : (member gap).Named := ⟨before,_,middle,first,between,⟨letters,pieces,rfl⟩,rfl⟩
      dsimp only at ending
      split at ending
      · rename_i more same
        obtain ⟨gap,last,rfl⟩ := skip_eq same
        obtain ⟨⟨others,final⟩,later,equal⟩ := Option.bind_eq_some_iff.mp ending
        cases equal
        obtain ⟨inner,list,rfl⟩ := members _ _ _ later
        exact ⟨_,.cons (named gap) (.spaced left last written) list,by simp [SpelledMember.text,member]⟩
      · rename_i final same
        cases ending
        obtain ⟨gap,last,rfl⟩ := skip_eq same
        exact ⟨_,.single (named gap) (.spaced left last written),by simp [SpelledMember.text,member]⟩
      · cases ending
    · cases further
  · cases read

theorem reading_sound (fuel : Nat) : ValuesSound fuel ∧ ItemsSound fuel ∧ MembersSound fuel := by
  induction fuel with
  | zero => exact ⟨nofun,nofun,nofun⟩
  | succ fuel ih =>
    obtain ⟨values,items,members⟩ := ih
    exact ⟨values_sound items members,items_sound values items,members_sound values members⟩

theorem spelled_of_read (read : read? text = some json) : Spelled json text := by
  rw [read?] at read
  split at read
  · rename_i value rest found
    split at read
    · rename_i empty
      cases read
      obtain ⟨before,spelled,first,written,rfl⟩ := (reading_sound _).1 _ _ _ found
      obtain ⟨gap,last,rfl⟩ := skip_eq (List.isEmpty_iff.mp empty)
      rw [List.append_nil]
      exact .spaced first last written
    · cases read
  · cases read

theorem read_eq_some_iff : read? text = some json ↔ Spelled json text := ⟨spelled_of_read,read_spelled⟩

end Marking.Json
