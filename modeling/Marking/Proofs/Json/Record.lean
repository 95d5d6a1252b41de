import Marking.Json
import Mathlib.Data.List.Forall2

-- Records in JSON: the values of their fields, read from an object with its members in any order
-- and others among them, or from an array.

namespace Marking.Json

-- The members that give values to the named fields, in the order of the fields. A field may be left
-- out, and a name may be spelled in any way.
inductive Filled : List Text → List (Option Json) → List (List Piece × Json) → Prop where
  | nil : Filled [] [] []
  | missing {name : Text} {names : List Text} {values : List (Option Json)} {members : List (List Piece × Json)}
      (rest : Filled names values members) : Filled (name :: names) (none :: values) members
  | given {name : Text} {names : List Text} {value : Json} {values : List (Option Json)} {pieces : List Piece}
      {members : List (List Piece × Json)} (named : textOf? pieces = some name) (rest : Filled names values members) :
      Filled (name :: names) (some value :: values) ((pieces,value) :: members)

def Unknown (names : List Text) (members : List (List Piece × Json)) : Prop :=
  ∀ member ∈ members, ∃ name, textOf? member.1 = some name ∧ name ∉ names

-- A record with these values: an object whose members are those of the fields and unknown ones, in
-- any order, or an array of the values that may end before the last ones.
inductive Holds (names : List Text) (values : List (Option Json)) : Json → Prop where
  | object {members known unknown : List (List Piece × Json)} (order : members.Perm (known ++ unknown))
      (filled : Filled names values known) (others : Unknown names unknown) : Holds names values (.object members)
  | array {items : List Json} {missing : Nat} (fits : items.length + missing = names.length)
      (filled : values = items.map some ++ List.replicate missing none) : Holds names values (.array items)

variable {α β : Type} {names : List Text} {values : List (Option Json)} {members known unknown : List (List Piece × Json)}
  {name : Text} {json : Json}

theorem mapM_forall₂ {f : α → Option β} {items : List α} {results : List β}
    (each : List.Forall₂ (fun item result => f item = some result) items results) :
    items.mapM f = some results := by
  induction each with
  | nil => rfl
  | cons first _ ih => simp [first,ih]

theorem mapM_eq_some_iff {f : α → Option β} {items : List α} {results : List β} :
    items.mapM f = some results ↔ List.Forall₂ (fun item result => f item = some result) items results := by
  refine ⟨?_,mapM_forall₂⟩
  intro all
  induction items generalizing results with
  | nil =>
    cases all
    exact .nil
  | cons item items ih =>
    rw [List.mapM_cons] at all
    obtain ⟨result,first,all⟩ := Option.bind_eq_some_iff.mp all
    obtain ⟨results,others,same⟩ := Option.bind_eq_some_iff.mp all
    cases same
    exact .cons first (ih others)

-- A member with its name as a text; only a name that is none has a stand-in.
def entry (member : List Piece × Json) : Text × Json := ((textOf? member.1).getD [],member.2)

def Texts (members : List (List Piece × Json)) : Prop := ∀ member ∈ members, ∃ name, textOf? member.1 = some name

def entriesOf (name : Text) (members : List (List Piece × Json)) : List (Text × Json) :=
  (members.map entry).filter (·.1 == name)

theorem entry_named {member : List Piece × Json} (named : textOf? member.1 = some name) : entry member = (name,member.2) := by
  simp [entry,named]

theorem Filled.named (filled : Filled names values known) :
    ∀ member ∈ known, ∃ name, textOf? member.1 = some name ∧ name ∈ names := by
  induction filled with
  | nil => exact List.forall_mem_nil _
  | missing rest ih =>
    intro member inside
    obtain ⟨name,named,listed⟩ := ih member inside
    exact ⟨name,named,List.mem_cons_of_mem _ listed⟩
  | given named rest ih =>
    refine List.forall_mem_cons.mpr ⟨⟨_,named,List.mem_cons_self ..⟩,?_⟩
    intro member inside
    obtain ⟨name,named,listed⟩ := ih member inside
    exact ⟨name,named,List.mem_cons_of_mem _ listed⟩

theorem entriesOf_nil (other : ∀ member ∈ members, ∃ known, textOf? member.1 = some known ∧ known ≠ name) :
    entriesOf name members = [] := by
  refine List.filter_eq_nil_iff.mpr ?_
  intro found inside
  obtain ⟨member,listed,rfl⟩ := List.mem_map.mp inside
  obtain ⟨known,named,different⟩ := other member listed
  simp [entry,named,different]

theorem entriesOf_other {member : List Piece × Json} {known : Text} (named : textOf? member.1 = some known)
    (different : known ≠ name) : entriesOf name (member :: members) = entriesOf name members := by
  simp [entriesOf,entry,named,different]

theorem entriesOf_self {pieces : List Piece} {value : Json} (named : textOf? pieces = some name) :
    entriesOf name ((pieces,value) :: members) = (name,value) :: entriesOf name members := by
  simp [entriesOf,entry,named]

theorem Filled.entries (filled : Filled names values known) (distinct : names.Nodup) :
    List.Forall₂ (fun name value => entriesOf name known = (value.map (name,·)).toList) names values := by
  induction filled with
  | nil => exact .nil
  | @missing name names values members rest ih =>
    obtain ⟨fresh,others⟩ := List.nodup_cons.mp distinct
    refine .cons (entriesOf_nil ?_) (ih others)
    intro member inside
    obtain ⟨known,named,listed⟩ := rest.named member inside
    exact ⟨known,named,fun same => fresh (same ▸ listed)⟩
  | @given name names value values pieces members named rest ih =>
    obtain ⟨fresh,others⟩ := List.nodup_cons.mp distinct
    have absent : entriesOf name members = [] := by
      refine entriesOf_nil ?_
      intro member inside
      obtain ⟨known,named,listed⟩ := rest.named member inside
      exact ⟨known,named,fun same => fresh (same ▸ listed)⟩
    refine .cons (by rw [entriesOf_self named,absent]; rfl) ?_
    have different : ∀ other ∈ names, name ≠ other := fun other listed same => fresh (same ▸ listed)
    refine ((List.forall₂_and_left ..).mpr ⟨different,ih others⟩).imp ?_
    rintro other value ⟨apart,found⟩
    rw [entriesOf_other named apart,found]

theorem entriesOf_order (order : members.Perm (known ++ unknown)) (others : Unknown names unknown)
    (listed : name ∈ names) {value : Option Json} (found : entriesOf name known = (value.map (name,·)).toList) :
    entriesOf name members = (value.map (name,·)).toList := by
  have absent : entriesOf name unknown = [] := by
    refine entriesOf_nil ?_
    intro member inside
    obtain ⟨other,named,strange⟩ := others member inside
    exact ⟨other,named,fun same => strange (same ▸ listed)⟩
  have same : (entriesOf name members).Perm (entriesOf name known ++ entriesOf name unknown) := by
    simpa only [entriesOf,List.map_append,List.filter_append] using (order.map entry).filter (·.1 == name)
  rw [absent,found,List.append_nil] at same
  cases value with
  | none => exact List.perm_nil.mp same
  | some value => exact List.perm_singleton.mp same

theorem decoded_iff {entries : List (Text × Json)} :
    members.mapM (fun member => (textOf? member.1).map (·,member.2)) = some entries ↔ Texts members ∧ entries = members.map entry := by
  rw [mapM_eq_some_iff]
  constructor
  · intro decoded
    induction decoded with
    | nil => exact ⟨nofun,rfl⟩
    | cons first _ ih =>
      obtain ⟨name,named,rfl⟩ := Option.map_eq_some_iff.mp first
      obtain ⟨texts,rfl⟩ := ih
      exact ⟨List.forall_mem_cons.mpr ⟨⟨name,named⟩,texts⟩,by rw [List.map_cons,entry_named named]⟩
  · intro given
    obtain ⟨texts,rfl⟩ := given
    refine List.forall₂_map_right_iff.mpr (List.forall₂_same.mpr ?_)
    intro member inside
    obtain ⟨name,named⟩ := texts member inside
    simp [entry_named named,named]

theorem looked_iff {value : Option Json} :
    (match entriesOf name members with
      | [] => some none
      | [member] => some (some member.2)
      | _ => none) = some value ↔ entriesOf name members = (value.map (name,·)).toList := by
  have own : ∀ member ∈ entriesOf name members, member.1 = name := by simp [entriesOf]
  generalize entriesOf name members = entries at own
  constructor
  · intro found
    split at found
    · cases found
      rfl
    · cases found
      rw [← own _ (List.mem_singleton_self _)]
      rfl
    · cases found
  · intro same
    rw [same]
    cases value <;> rfl

theorem fields_object_iff : fields? names (.object members) = some (false,values) ↔
    Texts members ∧ List.Forall₂ (fun name value => entriesOf name members = (value.map (name,·)).toList) names values := by
  constructor
  · intro read
    obtain ⟨entries,decoded,read⟩ := Option.bind_eq_some_iff.mp read
    obtain ⟨found,looked,same⟩ := Option.bind_eq_some_iff.mp read
    cases same
    obtain ⟨texts,rfl⟩ := decoded_iff.mp decoded
    exact ⟨texts,(mapM_eq_some_iff.mp looked).imp fun name value => looked_iff.mp⟩
  · intro given
    obtain ⟨texts,found⟩ := given
    refine Option.bind_eq_some_iff.mpr ⟨_,decoded_iff.mpr ⟨texts,rfl⟩,?_⟩
    refine Option.bind_eq_some_iff.mpr ⟨values,mapM_eq_some_iff.mpr ?_,rfl⟩
    exact found.imp fun name value => looked_iff.mpr

theorem fields_object (distinct : names.Nodup) (order : members.Perm (known ++ unknown))
    (filled : Filled names values known) (others : Unknown names unknown) :
    fields? names (.object members) = some (false,values) := by
  refine fields_object_iff.mpr ⟨?_,?_⟩
  · intro member inside
    rcases List.mem_append.mp (order.subset inside) with field | other
    · exact (filled.named member field).imp fun _ found => found.1
    · exact (others member other).imp fun _ found => found.1
  · refine ((List.forall₂_and_left ..).mpr ⟨fun name listed => listed,filled.entries distinct⟩).imp ?_
    intro name value given
    exact entriesOf_order order others given.1 given.2

theorem fields_array {items : List Json} {missing : Nat} (fits : items.length + missing = names.length)
    (filled : values = items.map some ++ List.replicate missing none) :
    fields? names (.array items) = some (true,values) := by
  have shorter : items.length ≤ names.length := by omega
  have rest : names.length - items.length = missing := by omega
  simp [fields?,shorter,rest,filled]

theorem fields_held (distinct : names.Nodup) (held : Holds names values json) :
    ∃ positional, fields? names json = some (positional,values) := by
  cases held with
  | object order filled others => exact ⟨false,fields_object distinct order filled others⟩
  | array fits filled => exact ⟨true,fields_array fits filled⟩

theorem entriesOf_filter {other : Text} (different : other ≠ name) :
    entriesOf other (members.filter fun member => !((entry member).1 == name)) = entriesOf other members := by
  simp only [entriesOf,List.filter_map,List.filter_filter]
  congr 1
  refine List.filter_congr ?_
  intro member _
  by_cases same : (entry member).1 = other <;> simp [same,different]

theorem entriesOf_eq_filter : entriesOf name members = (members.filter fun member => (entry member).1 == name).map entry :=
  List.filter_map ..

theorem filled_of_entries (texts : Texts members) (distinct : names.Nodup)
    (found : List.Forall₂ (fun name value => entriesOf name members = (value.map (name,·)).toList) names values) :
    ∃ known unknown, members.Perm (known ++ unknown) ∧ Filled names values known ∧ Unknown names unknown := by
  induction names generalizing members values with
  | nil =>
    cases found
    refine ⟨[],members,.refl _,.nil,?_⟩
    intro member inside
    obtain ⟨name,named⟩ := texts member inside
    exact ⟨name,named,nofun⟩
  | cons name names ih =>
    cases found with
    | @cons _ value _ values first others =>
      obtain ⟨fresh,distinct⟩ := List.nodup_cons.mp distinct
      let named := members.filter fun member => (entry member).1 == name
      let rest := members.filter fun member => !((entry member).1 == name)
      have split : members.Perm (named ++ rest) := (List.filter_append_perm _ members).symm
      have inside : ∀ member ∈ rest, member ∈ members ∧ (entry member).1 ≠ name := by
        intro member listed
        simpa [rest] using listed
      have others : List.Forall₂ (fun name value => entriesOf name rest = (value.map (name,·)).toList) names values := by
        have different : ∀ other ∈ names, other ≠ name := fun other listed same => fresh (same ▸ listed)
        refine ((List.forall₂_and_left ..).mpr ⟨different,others⟩).imp ?_
        intro other value given
        exact (entriesOf_filter given.1).trans given.2
      obtain ⟨known,unknown,order,filled,strange⟩ := ih (fun member listed => texts member (inside member listed).1) distinct others
      have strange : Unknown (name :: names) unknown := by
        intro member listed
        obtain ⟨other,denoted,absent⟩ := strange member listed
        have apart := (inside member (order.symm.subset (List.mem_append_right _ listed))).2
        rw [entry_named denoted] at apart
        exact ⟨other,denoted,List.not_mem_cons_of_ne_of_not_mem apart absent⟩
      rw [entriesOf_eq_filter] at first
      cases value with
      | none =>
        have empty : named = [] := List.map_eq_nil_iff.mp first
        rw [empty] at split
        exact ⟨known,unknown,split.trans order,.missing filled,strange⟩
      | some value =>
        obtain ⟨member,single,same⟩ := List.map_eq_singleton_iff.mp first
        have single : named = [member] := single
        rw [single] at split
        obtain ⟨other,denoted⟩ := texts member (split.symm.subset (List.mem_cons_self ..))
        rw [entry_named denoted] at same
        cases same
        exact ⟨member :: known,unknown,split.trans (order.cons member),.given denoted filled,strange⟩

theorem holds_of_fields (distinct : names.Nodup) {positional : Bool} (read : fields? names json = some (positional,values)) :
    Holds names values json := by
  cases json with
  | object members =>
    have named : positional = false := by
      obtain ⟨_,_,read⟩ := Option.bind_eq_some_iff.mp read
      obtain ⟨_,_,same⟩ := Option.bind_eq_some_iff.mp read
      cases same
      rfl
    rw [named] at read
    obtain ⟨texts,found⟩ := fields_object_iff.mp read
    obtain ⟨known,unknown,order,filled,others⟩ := filled_of_entries texts distinct found
    exact .object order filled others
  | array items =>
    rw [fields?] at read
    split at read
    · rename_i shorter
      cases read
      exact .array (Nat.add_sub_cancel' shorter) rfl
    · cases read
  | null | bool | number | string => cases read

end Marking.Json
