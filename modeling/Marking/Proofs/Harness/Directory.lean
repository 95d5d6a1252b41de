import Marking.Proofs.Harness.Rejection
import Marking.Proofs.Text.Cutting

-- Loading a directory: which files are loaded, in which order whatever the order of the listing, where a
-- load ends, and which of several files for one language counts.

namespace Marking

namespace Text

variable {bytes : List UInt8} {text one two : Text}

theorem bytes_encode (text : Text) : ByteArray.mk (encoded text).toArray = text.utf8Encode := by
  rw [← List.data_toByteArray]
  rfl

theorem decoded_eq_some_iff : decoded? bytes = some text ↔ bytes = encoded text := by
  unfold decoded? String.fromUTF8?
  constructor
  · intro read
    obtain ⟨string,valid,rfl⟩ := Option.map_eq_some_iff.mp read
    split at valid
    · cases valid
      have same := (bytes_encode _).trans (String.utf8Encode_toList (b := String.fromUTF8 ⟨bytes.toArray⟩ ‹_›))
      simpa [String.fromUTF8] using same.symm
    · cases valid
  · rintro rfl
    have valid : (ByteArray.mk (encoded text).toArray).IsValidUTF8 := .intro text (bytes_encode text)
    have whole : String.fromUTF8 _ valid = String.ofList text :=
      String.toByteArray_inj.mp ((bytes_encode text).trans String.toByteArray_ofList.symm)
    rw [dif_pos valid,whole]
    simp

theorem decoded_eq_none_iff : decoded? bytes = none ↔ ∀ text, bytes ≠ encoded text := by
  rw [Option.eq_none_iff_forall_ne_some]
  exact forall_congr' fun text => not_congr decoded_eq_some_iff

theorem encoded_inj (same : encoded one = encoded two) : one = two :=
  Option.some.inj ((decoded_eq_some_iff.mpr rfl).symm.trans (decoded_eq_some_iff.mpr same))

end Text

-- What is in a directory. No two entries have one name.
structure Directory where
  entries : List DirectoryEntry
  distinct : (entries.map DirectoryEntry.name).Nodup

namespace DirectoryEntry
open Text

-- A regular file holds a text, or bytes that are none, or it cannot be read.
inductive ReadsAs : DirectoryEntry → Except Failure Text → Prop where
  | text (name : FileName) (text : Text) : ReadsAs (.file name (encoded text)) (.ok text)
  | illegible (name : FileName) {bytes : List UInt8} (illegible : ∀ text, bytes ≠ encoded text) :
      ReadsAs (.file name bytes) (.error .notUtf8)
  | locked (name : FileName) (reason : Text) : ReadsAs (.locked name reason) (.error (.unreadableFile reason))

structure IsTemplate (entries : List DirectoryEntry) (source : Source) : Prop where
  listed : ∃ entry ∈ entries, entry.name = source.name ∧ entry.ReadsAs source.text
  named : source.name.bytes = source.stem ++ encoded ".jinja".toList
  stem : source.stem ≠ []

variable {entries listing : List DirectoryEntry} {entry other : DirectoryEntry} {source found : Source}
  {name : FileName} {stem : List UInt8} {content : Except Failure Text}

theorem text_eq_some_iff : entry.text? = some content ↔ entry.ReadsAs content := by
  constructor
  · intro read
    cases entry with
    | file name bytes =>
      cases decoded : decoded? bytes with
      | none =>
        simp only [text?,decoded] at read
        cases read
        exact .illegible name (decoded_eq_none_iff.mp decoded)
      | some text =>
        simp only [text?,decoded] at read
        cases read
        obtain rfl := decoded_eq_some_iff.mp decoded
        exact .text name text
    | locked name reason =>
      cases read
      exact .locked name reason
    | folder name => cases read
  · intro reads
    cases reads with
    | text name text => simp only [text?,decoded_eq_some_iff.mpr rfl]
    | illegible name illegible => simp only [text?,decoded_eq_none_iff.mpr illegible]
    | locked name reason => rfl

theorem stem_eq_some_iff : name.stem? = some stem ↔ name.bytes = stem ++ encoded ".jinja".toList ∧ stem ≠ [] := by
  have dotted : encoded ".jinja".toList = '.'.toUInt8 :: encoded "jinja".toList := rfl
  have last : '.'.toUInt8 ∉ encoded "jinja".toList := by decide
  unfold FileName.stem?
  constructor
  · intro read
    split at read
    · rename_i front extension cut
      obtain ⟨split,_⟩ := Text.cutAtLast_eq_some_iff.mp cut
      obtain ⟨⟨named,rfl⟩,same⟩ := Option.ite_none_right_eq_some.mp read
      cases same
      exact ⟨split,by simpa using named⟩
    · cases read
  · intro spelled
    obtain ⟨split,named⟩ := spelled
    have cut : Text.cutAtLast? '.'.toUInt8 name.bytes = some (stem,encoded "jinja".toList) := by
      rw [split,dotted]
      exact Text.cutAtLast_append last
    rw [cut]
    exact if_pos ⟨by simpa using named,rfl⟩

theorem source_eq_some_iff : entry.source? = some source ↔ entry.name = source.name ∧ entry.ReadsAs source.text ∧
    source.name.bytes = source.stem ++ encoded ".jinja".toList ∧ source.stem ≠ [] := by
  obtain ⟨name,stem,content⟩ := source
  simp only [source?,Option.bind_eq_bind,Option.bind_eq_some_iff,text_eq_some_iff,stem_eq_some_iff]
  constructor
  · intro found
    obtain ⟨text,reads,front,⟨split,named⟩,same⟩ := found
    cases same
    exact ⟨rfl,reads,split,named⟩
  · intro facts
    obtain ⟨same,reads,split,named⟩ := facts
    exact ⟨content,reads,stem,⟨same ▸ split,named⟩,by rw [same]⟩

theorem mem_sources : source ∈ sources entries ↔ IsTemplate entries source := by
  rw [sources,List.mem_mergeSort,List.mem_filterMap]
  constructor
  · intro found
    obtain ⟨entry,listed,read⟩ := found
    obtain ⟨same,reads,named,stem⟩ := source_eq_some_iff.mp read
    exact ⟨⟨entry,listed,same,reads⟩,named,stem⟩
  · intro template
    obtain ⟨⟨entry,listed,same,reads⟩,named,stem⟩ := template
    exact ⟨entry,listed,source_eq_some_iff.mpr ⟨same,reads,named,stem⟩⟩

theorem sources_ascending (distinct : (entries.map DirectoryEntry.name).Nodup) :
    (sources entries).Pairwise fun a b => a.name.bytes < b.name.bytes := by
  have sorted : (sources entries).Pairwise fun a b => ¬ b.name.bytes < a.name.bytes := by
    refine (List.pairwise_mergeSort ?_ ?_ (entries.filterMap source?)).imp ?_
    · intro a b c first second
      simp only [Bool.not_eq_true',decide_eq_false_iff_not,List.not_lt] at *
      exact List.le_trans first second
    · intro a b
      simp only [Bool.or_eq_true,Bool.not_eq_true',decide_eq_false_iff_not,List.not_lt]
      exact List.le_total a.name.bytes b.name.bytes
    · intro a b notAfter
      simpa using notAfter
  have apart : (sources entries).Pairwise fun a b => a.name.bytes ≠ b.name.bytes := by
    have filtered : (entries.filterMap source?).Pairwise fun a b => a.name.bytes ≠ b.name.bytes := by
      refine (List.pairwise_map.mp distinct).filterMap _ ?_
      intro one two different source read other again same
      have first := (source_eq_some_iff.mp read).1
      have second := (source_eq_some_iff.mp again).1
      have equal : source.name = other.name := congrArg FileName.mk same
      exact different (first.trans (equal.trans second.symm))
    exact ((List.mergeSort_perm ..).symm.pairwise_iff fun different => Ne.symm different).mp filtered
  refine (sorted.and apart).imp ?_
  intro a b both
  obtain ⟨notAfter,different⟩ := both
  exact (List.le_iff_lt_or_eq.mp (List.not_lt.mp notAfter)).resolve_right different

theorem sources_perm (distinct : (entries.map DirectoryEntry.name).Nodup) (listed : listing.Perm entries) :
    sources listing = sources entries := by
  have same : (sources listing).Perm (sources entries) :=
    (List.mergeSort_perm ..).trans ((listed.filterMap source?).trans (List.mergeSort_perm ..).symm)
  have other : (listing.map DirectoryEntry.name).Nodup := (listed.map _).nodup_iff.mpr distinct
  refine same.eq_of_pairwise ?_ (sources_ascending other) (sources_ascending distinct)
  intro a b _ _ before after
  exact absurd after (List.lt_asymm before)

theorem sources_sorted {files : List Source} (read : entries.filterMap source? = files)
    (ascending : files.Pairwise fun a b => a.name.bytes < b.name.bytes) : sources entries = files := by
  rw [sources,read]
  refine List.mergeSort_of_pairwise (ascending.imp ?_)
  intro a b before
  simpa using List.le_of_lt before

end DirectoryEntry

namespace Harness
open DirectoryEntry Text

section Engines
variable [TemplateEngine]

-- Files that are registered one after the other, apart from those whose stem is no text: they name no
-- language and are passed over.
inductive Loaded : Harness → List Source → Harness → Prop where
  | nothing (harness : Harness) : Loaded harness [] harness
  | passed {harness last : Harness} {source : Source} {rest : List Source}
      (unnamed : ∀ language, source.stem ≠ encoded language) (more : Loaded harness rest last) :
      Loaded harness (source :: rest) last
  | next {harness middle last : Harness} {source : Source} {language text : Text} {rest : List Source}
      (named : source.stem = encoded language) (read : source.text = .ok text)
      (registered : harness.register language text = (middle,.ok ())) (more : Loaded middle rest last) :
      Loaded harness (source :: rest) last

-- A load goes through all files, or it ends at the first with a language that cannot be read or that is
-- refused. The files before that one are registered, those behind it are not touched.
inductive Loads (harness : Harness) : List Source → Harness × Except Failure Unit → Prop where
  | all {files : List Source} {last : Harness} (loaded : Loaded harness files last) : Loads harness files (last,.ok ())
  | unreadable {before : List Source} {last : Harness} {source : Source} {language : Text} {failure : Failure}
      (loaded : Loaded harness before last) (named : source.stem = encoded language)
      (unread : source.text = .error failure) (after : List Source) :
      Loads harness (before ++ source :: after) (last,.error failure)
  | refused {before : List Source} {middle last : Harness} {source : Source} {language text : Text} {failure : Failure}
      (loaded : Loaded harness before middle) (named : source.stem = encoded language) (read : source.text = .ok text)
      (refusal : middle.register language text = (last,.error failure)) (after : List Source) :
      Loads harness (before ++ source :: after) (last,.error failure)

variable {harness middle last : Harness} {files before after rest : List Source} {file source : Source}
  {done : Harness × Except Failure Unit} {directory : Directory} {requests : List Request}
  {language text : Text}

theorem Loads.passed (unnamed : ∀ language, source.stem ≠ encoded language) (more : Loads harness rest done) :
    Loads harness (source :: rest) done := by
  cases more with
  | all loaded => exact .all (.passed unnamed loaded)
  | unreadable loaded named unread after => exact .unreadable (.passed unnamed loaded) named unread after
  | refused loaded named read refusal after => exact .refused (.passed unnamed loaded) named read refusal after

theorem Loads.next (named : source.stem = encoded language) (read : source.text = .ok text)
    (registered : harness.register language text = (middle,.ok ())) (more : Loads middle rest done) :
    Loads harness (source :: rest) done := by
  cases more with
  | all loaded => exact .all (.next named read registered loaded)
  | unreadable loaded other unread after => exact .unreadable (.next named read registered loaded) other unread after
  | refused loaded other legible refusal after =>
    exact .refused (.next named read registered loaded) other legible refusal after

theorem registerSources_loads (harness : Harness) (files : List Source) :
    Loads harness files (harness.registerSources files) := by
  induction files generalizing harness with
  | nil => exact .all (.nothing harness)
  | cons source rest ih =>
    unfold registerSources
    cases decoded : decoded? source.stem with
    | none => exact .passed (decoded_eq_none_iff.mp decoded) (ih harness)
    | some language =>
      have named := decoded_eq_some_iff.mp decoded
      cases read : source.text with
      | error failure => exact .unreadable (.nothing harness) named read rest
      | ok text =>
        cases registered : harness.register language text with
        | mk next outcome =>
          cases outcome with
          | error failure =>
            simp only [registered]
            exact .refused (.nothing harness) named read registered rest
          | ok done =>
            simp only [registered]
            exact .next named read registered (ih next)

theorem Loaded.split (loaded : Loaded harness (before ++ source :: after) last) (named : source.stem = encoded language) :
    ∃ middle next text, Loaded harness before middle ∧ source.text = .ok text ∧
      middle.register language text = (next,.ok ()) ∧ Loaded next after last := by
  induction before generalizing harness with
  | nil =>
    cases loaded with
    | passed unnamed more => exact absurd named (unnamed language)
    | next spelled read registered more =>
      obtain rfl := encoded_inj (named.symm.trans spelled)
      exact ⟨_,_,_,.nothing harness,read,registered,more⟩
  | cons other before ih =>
    cases loaded with
    | passed unnamed more =>
      obtain ⟨middle,next,text,earlier,legible,accepted,later⟩ := ih more
      exact ⟨middle,next,text,.passed unnamed earlier,legible,accepted,later⟩
    | next spelled read registered more =>
      obtain ⟨middle,next,text,earlier,legible,accepted,later⟩ := ih more
      exact ⟨middle,next,text,.next spelled read registered earlier,legible,accepted,later⟩

theorem Loaded.keyed (loaded : Loaded harness files last) (valid : Keyed harness) : Keyed last := by
  induction loaded with
  | nothing harness => exact valid
  | passed unnamed more ih => exact ih valid
  | @next harness _ _ source language text _ named read registered more ih =>
    have kept := keyed_stable harness language text valid
    rw [registered] at kept
    exact ih kept

theorem Loaded.held_other (loaded : Loaded harness files last) (valid : Keyed harness)
    (others : ∀ file ∈ files, ∀ spelled, file.stem = encoded spelled → key spelled ≠ key language) :
    last.held (key language) = harness.held (key language) := by
  induction loaded with
  | nothing harness => rfl
  | passed unnamed more ih => exact ih valid (List.forall_mem_cons.mp others).2
  | @next harness _ _ source spelled text _ named read registered more ih =>
    obtain ⟨first,later⟩ := List.forall_mem_cons.mp others
    have step := register_registration harness spelled text
    have kept := keyed_stable harness spelled text valid
    rw [registered] at step kept
    rw [ih kept later,step.held_other valid (Ne.symm (first spelled named))]

theorem Loaded.held_last (loaded : Loaded harness (before ++ source :: after) last) (valid : Keyed harness)
    (named : source.stem = encoded language)
    (others : ∀ file ∈ after, ∀ spelled, file.stem = encoded spelled → key spelled ≠ key language) :
    ∃ text template, source.text = .ok text ∧ TemplateEngine.read? (trim language) text = some template ∧
      last.held (key language) = some (trim language,some template) := by
  obtain ⟨middle,next,text,earlier,read,registered,later⟩ := loaded.split named
  have keyed := earlier.keyed valid
  have step := register_registration middle language text
  have kept := keyed_stable middle language text keyed
  rw [registered] at step kept
  cases step with
  | entered written accepted =>
    refine ⟨text,_,read,accepted,?_⟩
    rw [later.held_other kept others,Registration.held_self (.entered written accepted)]
    exact replaced_read written accepted _

def Loadable (file : Source) : Prop :=
  ∀ language, file.stem = encoded language → ∃ text, file.text = .ok text ∧ accepts (language,text) = true

theorem Loaded.loadable (loaded : Loaded harness files last) : ∀ file ∈ files, Loadable file := by
  induction loaded with
  | nothing harness => nofun
  | passed unnamed more ih => exact List.forall_mem_cons.mpr ⟨fun language named => absurd named (unnamed language),ih⟩
  | next named read registered more ih =>
    refine List.forall_mem_cons.mpr ⟨?_,ih⟩
    intro language spelled
    obtain rfl := encoded_inj (named.symm.trans spelled)
    exact ⟨_,read,register_ok_iff.mp (congrArg Prod.snd registered)⟩

theorem Loads.ok_iff (loads : Loads harness files done) : done.2 = .ok () ↔ ∀ file ∈ files, Loadable file := by
  cases loads with
  | all loaded => exact ⟨fun _ => loaded.loadable,fun _ => rfl⟩
  | @unreadable _ _ source language failure loaded named unread after =>
    constructor
    · nofun
    · intro loadable
      obtain ⟨text,read,_⟩ := loadable source (by simp) language named
      cases unread.symm.trans read
  | @refused _ middle _ source language text failure loaded named read refusal after =>
    constructor
    · nofun
    · intro loadable
      obtain ⟨other,again,accepted⟩ := loadable source (by simp) language named
      cases read.symm.trans again
      have ok : (middle.register language text).2 = .ok () := register_ok_iff.mpr accepted
      rw [refusal] at ok
      cases ok

structure Loading (harness : Harness) (directory : Directory) (files : List Source)
    (outcome : Harness × Except Failure Unit) : Prop where
  ascending : files.Pairwise fun a b => a.name.bytes < b.name.bytes
  templates : ∀ file, file ∈ files ↔ IsTemplate directory.entries file
  anyOrder : ∀ listing, listing.Perm directory.entries → harness.loadDirectory (some listing) = outcome
  loads : Loads harness files outcome
  succeeds : outcome.2 = .ok () ↔ ∀ file ∈ files, Loadable file
  -- Where all of them load, the last file under a key is the one that is rendered.
  lastWins : outcome.2 = .ok () → ∀ file ∈ files, ∀ language, file.stem = encoded language →
    (∀ other ∈ files, ∀ spelled, other.stem = encoded spelled → key spelled = key language →
      other = file ∨ other.name.bytes < file.name.bytes) →
    ∃ text template, file.text = .ok text ∧ TemplateEngine.read? (trim language) text = some template ∧
      trim language ∈ outcome.1.names ∧
      ∀ asked case sink, key asked = key language →
        outcome.1.render asked case sink = outcome.1.codeOf (trim language) template case sink

theorem Loads.last_wins (loads : Loads harness files done) (valid : Keyed harness)
    (ascending : files.Pairwise fun a b => a.name.bytes < b.name.bytes) (ok : done.2 = .ok ())
    (member : file ∈ files) (named : file.stem = encoded language)
    (latest : ∀ other ∈ files, ∀ spelled, other.stem = encoded spelled → key spelled = key language →
      other = file ∨ other.name.bytes < file.name.bytes) :
    ∃ text template, file.text = .ok text ∧ TemplateEngine.read? (trim language) text = some template ∧
      done.1.held (key language) = some (trim language,some template) := by
  cases loads with
  | unreadable => cases ok
  | refused => cases ok
  | all loaded =>
    obtain ⟨before,after,rfl⟩ := List.append_of_mem member
    have behind : ∀ other ∈ after, file.name.bytes < other.name.bytes :=
      (List.pairwise_cons.mp (List.pairwise_append.mp ascending).2.1).1
    refine loaded.held_last valid named ?_
    intro other later spelled written same
    have listed : other ∈ before ++ file :: after := List.mem_append_right _ (List.mem_cons_of_mem _ later)
    rcases latest other listed spelled written same with rfl | earlier
    · exact List.lt_irrefl _ (behind other later)
    · exact List.lt_asymm (behind other later) earlier

theorem directory_loaded (requests : List Request) (directory : Directory) :
    ∃ files outcome, Loading (initial.run requests) directory files outcome := by
  have ascending := sources_ascending directory.distinct
  have loads := registerSources_loads (initial.run requests) (sources directory.entries)
  refine ⟨_,_,ascending,fun _ => mem_sources,?_,loads,loads.ok_iff,?_⟩
  · intro listing listed
    rw [← sources_perm directory.distinct listed]
    rfl
  · intro ok file member language named latest
    obtain ⟨text,template,read,accepted,found⟩ :=
      loads.last_wins (run_keyed requests) ascending ok member named latest
    refine ⟨text,template,read,accepted,name_of_held found,?_⟩
    intro asked case sink same
    rw [render_held,same]
    simp only [found]

end Engines

-- Two files for one language, one of them in capitals, one whose stem is no text, and two entries that are
-- no templates.
theorem small_letters_win :
    let unnamed : FileName := ⟨255 :: encoded ".jinja".toList⟩
    let listing : List DirectoryEntry := [.file "go.jinja".toList [120],.folder "b.jinja".toList,
      .file unnamed [122],.file ".jinja".toList [255],.file "GO.jinja".toList [121]]
    let outcome := initial.loadDirectory (some listing)
    outcome.2 = .ok () ∧ ∀ case sink, outcome.1.render "Go".toList case sink = .ok "x".toList := by
  intro unnamed listing outcome
  let small : Source := ⟨"go.jinja".toList,encoded "go".toList,.ok "x".toList⟩
  let capital : Source := ⟨"GO.jinja".toList,encoded "GO".toList,.ok "y".toList⟩
  let other : Source := ⟨unnamed,[255],.ok "z".toList⟩
  obtain ⟨files,result,loading⟩ := directory_loaded [] ⟨listing.reverse,by decide⟩
  have same : outcome = result := loading.anyOrder listing (List.reverse_perm listing).symm
  have three : ∀ file, file ∈ files ↔ file = capital ∨ file = other ∨ file = small := by
    have read : listing.reverse.filterMap source? = [capital,other,small] := rfl
    intro file
    rw [loading.templates,← mem_sources,sources,List.mem_mergeSort,read]
    simp
  have passed : ∀ language, other.stem ≠ encoded language := decoded_eq_none_iff.mp (by decide)
  have ok : result.2 = .ok () := by
    rw [loading.succeeds]
    intro file member language named
    rcases (three file).mp member with rfl | rfl | rfl
    · obtain rfl := encoded_inj (show encoded "GO".toList = encoded language from named)
      exact ⟨"y".toList,rfl,by decide +kernel⟩
    · exact absurd named (passed language)
    · obtain rfl := encoded_inj (show encoded "go".toList = encoded language from named)
      exact ⟨"x".toList,rfl,by decide +kernel⟩
  have latest : ∀ file ∈ files, ∀ spelled, file.stem = encoded spelled → key spelled = key "go".toList →
      file = small ∨ file.name.bytes < small.name.bytes := by
    intro file member spelled named _
    rcases (three file).mp member with rfl | rfl | rfl
    · exact .inr (by decide)
    · exact absurd named (passed spelled)
    · exact .inl rfl
  obtain ⟨text,template,content,read,_,code⟩ :=
    loading.lastWins ok small ((three small).mpr (.inr (.inr rfl))) "go".toList rfl latest
  cases content
  have whole : Template.read? "x".toList = some (.data "x".toList .done) := rfl
  cases read.symm.trans whole
  rw [same]
  exact ⟨ok,fun case sink => code "Go".toList case sink (by decide +kernel)⟩

-- A file with a stem that is no text is left out without an error, and a broken template in small letters
-- takes the one in capitals along that was loaded before it.
theorem listed_files_unregistered :
    let unnamed : FileName := ⟨255 :: encoded ".jinja".toList⟩
    let respelled : List DirectoryEntry := [.file "GO.jinja".toList [120],.file "go.jinja".toList (encoded broken)]
    let case : TestCase := {id := 1,prompt := ⟨1,"Answer".toList,"f".toList⟩,weight := .zero}
    (IsTemplate [.file unnamed [120]] ⟨unnamed,[255],.ok "x".toList⟩ ∧
      initial.loadDirectory (some [.file unnamed [120]]) = (initial,.ok ())) ∧
    (initial.loadDirectory (some respelled)).2 = .error (.invalidTemplate "go".toList) ∧
      (initial.loadDirectory (some respelled)).1.render "GO".toList case none =
        .error (.templateMissing (quoted "GO".toList)) := by
  intro unnamed respelled case
  have listed : IsTemplate [.file unnamed [120]] ⟨unnamed,[255],.ok "x".toList⟩ :=
    ⟨⟨_,List.mem_singleton_self _,rfl,.text unnamed "x".toList⟩,rfl,by decide⟩
  have passed : initial.loadDirectory (some [.file unnamed [120]]) = (initial,.ok ()) := by
    have alone : sources [.file unnamed [120]] = [⟨unnamed,[255],.ok "x".toList⟩] :=
      sources_sorted rfl (List.pairwise_singleton _ _)
    have illegible : decoded? [255] = none := by decide
    simp only [loadDirectory,alone,registerSources,illegible]
  let first := (initial.register "GO".toList "x".toList).1
  have entered : initial.register "GO".toList "x".toList = (first,.ok ()) :=
    Prod.ext rfl (register_ok_iff.mpr (by decide +kernel))
  have failed : (first.register "go".toList broken).2 = .error (.invalidTemplate "go".toList) := broken_rejected first
  have displaced : first.Displaces "go".toList "GO".toList := by
    have read : Template.read? "x".toList = some (.data "x".toList .done) := rfl
    exact register_displaces (by decide) read (by decide) (by decide) (by decide)
  have loaded : initial.loadDirectory (some respelled) = first.register "go".toList broken := by
    have pair : sources respelled = [⟨"GO.jinja".toList,encoded "GO".toList,.ok "x".toList⟩,
        ⟨"go.jinja".toList,encoded "go".toList,.ok broken⟩] := sources_sorted rfl (by decide)
    have refused : first.register "go".toList broken =
        ((first.register "go".toList broken).1,.error (.invalidTemplate "go".toList)) := Prod.ext rfl failed
    simp only [loadDirectory,pair,registerSources,decoded_eq_some_iff.mpr rfl,entered]
    rw [refused]
  have rejected : Rejected first (first.register "go".toList broken).1 "go".toList :=
    (register_registration first "go".toList broken).rejected engine_lawful (keyed_stable initial _ _ (run_keyed [])) failed
  rw [loaded]
  exact ⟨⟨listed,passed⟩,failed,rejected.lost _ displaced _ case none (by decide)⟩

end Harness
end Marking
