import Keepalive.Config.File
import Keepalive.Proofs.Config.Escapes

/-!
# Files that get past the report

A configuration file that is wrong is reported, as a rule. A file gets past the report (`FileEscapes`) when its path is too long,
when its octets are no text, when its document holds a numeral that is too long or nests too deep to be read, when a profile or a
setting is looked up in what is no table (`Untabled`), and when a field of the settings that count (`Chosen`) escapes. In all other
states of a path the loading gives a configuration or is rejected (`loadFile_reported_iff`).
-/

namespace Keepalive.Config

open Outcome

/-! ## Names looked up in values -/

/-- A text occurs in another exactly when it is a run of its characters. -/
theorem occurs_iff {part s : List Char} : occurs part s = true ↔ part <:+: s := by
  induction s with
  | nil => rw [occurs, List.isEmpty_iff, List.infix_nil]
  | cons c r ih => rw [occurs, Bool.or_eq_true, ih, List.isPrefixOf_iff_prefix, List.infix_cons_iff]

/-- A name is an item of a list exactly when its text is. -/
theorem any_isText_iff {name : String} {items : List Value} : items.any (isText name) = true ↔ .text name ∈ items := by
  rw [List.any_eq_true]
  constructor
  · rintro ⟨item, hm, hitem⟩
    cases item with
    | text t =>
      have ht : t = name := beq_iff_eq.mp hitem
      rwa [ht] at hm
    | _ => nomatch hitem
  · intro hm
    exact ⟨_, hm, beq_self_eq_true name⟩

/-- A name cannot be looked up in a value: the value is a text that holds the name or a list that has it as an item, from which
nothing can be taken by name, or it is neither a text nor a list nor a table, and cannot be asked for the name at all. -/
inductive Untabled (name : String) : Value → Prop where
  | text {t : String} : name.toList <:+: t.toList → Untabled name (.text t)
  | list {items : List Value} : .text name ∈ items → Untabled name (.list items)
  | other {value : Value} : (∀ t, value ≠ .text t) → (∀ items, value ≠ .list items) → (∀ entries, value ≠ .table entries) →
      Untabled name value

/-- A table can be asked for any name. -/
theorem Untabled.ne_table {name : String} {value : Value} (h : Untabled name value) (entries : Entries) : value ≠ .table entries := by
  cases h with
  | text _ => nofun
  | list _ => nofun
  | other _ _ htable => exact htable entries

/-- Where a name cannot be looked up, it is found, or it cannot be asked for. -/
theorem Untabled.holds_eq {name : String} {value : Value} (h : Untabled name value) :
    holds name value = .ok true ∨ holds name value = .error .notATable := by
  cases h with
  | text ht => exact .inl (congrArg Except.ok (occurs_iff.mpr ht))
  | list hi => exact .inl (congrArg Except.ok (any_isText_iff.mpr hi))
  | other htext hlist htable =>
    right
    cases value with
    | text t => exact absurd rfl (htext t)
    | list items => exact absurd rfl (hlist items)
    | table entries => exact absurd rfl (htable entries)
    | _ => rfl

/-- A value is a table, or a name cannot be looked up in it, or it is no table and the name is not in it. -/
theorem table_or_untabled (name : String) (value : Value) : (∃ entries, value = .table entries) ∨ Untabled name value ∨
    ((∀ entries, value ≠ .table entries) ∧ holds name value = .ok false) := by
  cases value with
  | table entries => exact .inl ⟨entries, rfl⟩
  | text t =>
    by_cases ht : occurs name.toList t.toList = true
    · exact .inr (.inl (.text (occurs_iff.mp ht)))
    · exact .inr (.inr ⟨fun _ => nofun, congrArg Except.ok (Bool.eq_false_iff.mpr ht)⟩)
  | list items =>
    by_cases hi : items.any (isText name) = true
    · exact .inr (.inl (.list (any_isText_iff.mp hi)))
    · exact .inr (.inr ⟨fun _ => nofun, congrArg Except.ok (Bool.eq_false_iff.mpr hi)⟩)
  | _ => exact .inr (.inl (.other (fun _ => nofun) (fun _ => nofun) fun _ => nofun))

/-! ## Profiles -/

section

variable {profile : String} {value settings : Value} {fault : LoadFault}

/-- A profile is taken from a table that has it. -/
theorem profileOf_table (entries : Entries) (profile : String) : profileOf (.table entries) profile =
    match entries.get? profile with
    | some settings => .ok settings
    | none => .error (.rejected (.noProfile profile)) := by
  rw [profileOf, holds]
  cases entries.get? profile <;> rfl

/-- A profile cannot be taken from a value in which it cannot be looked up. -/
theorem profileOf_of_untabled (h : Untabled profile value) : profileOf value profile = .error .notATable := by
  unfold profileOf
  rcases h.holds_eq with hholds | hholds
  · rw [hholds]
    cases value with
    | table entries => exact absurd rfl (h.ne_table entries)
    | _ => rfl
  · rw [hholds]

/-- A profile that is not in a value is not found. -/
theorem profileOf_of_absent (h : holds profile value = .ok false) :
    profileOf value profile = .error (.rejected (.noProfile profile)) := by
  unfold profileOf
  rw [h]

/-- The profile that is taken is the one that a table has under the name. -/
theorem profileOf_eq_ok_iff : profileOf value profile = .ok settings ↔
    ∃ entries, value = .table entries ∧ Entries.get? entries profile = some settings := by
  constructor
  · intro h
    rcases table_or_untabled profile value with ⟨entries, rfl⟩ | hu | ⟨-, ha⟩
    · rw [profileOf_table] at h
      cases hg : Entries.get? entries profile with
      | none =>
        rw [hg] at h
        nomatch h
      | some found =>
        rw [hg] at h
        exact ⟨entries, rfl, by rw [hg, Except.ok.inj h]⟩
    · rw [profileOf_of_untabled hu] at h
      nomatch h
    · rw [profileOf_of_absent ha] at h
      nomatch h
  · rintro ⟨entries, rfl, hg⟩
    rw [profileOf_table, hg]

/-- Taking a profile escapes the report exactly when it cannot be looked up. -/
theorem unreported_profileOf_iff :
    (profileOf value profile = .error fault ∧ Unreported fault) ↔ fault = .notATable ∧ Untabled profile value := by
  constructor
  · rintro ⟨h, hu⟩
    rcases table_or_untabled profile value with ⟨entries, rfl⟩ | hn | ⟨-, ha⟩
    · rw [profileOf_table] at h
      cases hg : Entries.get? entries profile with
      | none =>
        rw [hg] at h
        rw [← Except.error.inj h] at hu
        exact absurd hu (not_unreported_rejected _)
      | some found =>
        rw [hg] at h
        nomatch h
    · rw [profileOf_of_untabled hn] at h
      exact ⟨(Except.error.inj h).symm, hn⟩
    · rw [profileOf_of_absent ha] at h
      rw [← Except.error.inj h] at hu
      exact absurd hu (not_unreported_rejected _)
  · rintro ⟨rfl, hn⟩
    exact ⟨profileOf_of_untabled hn, rfl⟩

/-! ## Settings -/

variable [Depths]

/-- No configuration is made of a value in which the host's address cannot be looked up. -/
theorem ofValue_of_untabled (h : Untabled "host_ip" value) : ofValue value = .error .notATable := by
  unfold ofValue
  split
  · rename_i entries
    exact absurd rfl (h.ne_table entries)
  · rcases h.holds_eq with hholds | hholds
    · rw [hholds]
    · rw [hholds]

/-- A value that is no table and in which the host's address is not misses it. -/
theorem ofValue_of_absent (hv : ∀ entries, value ≠ .table entries) (h : holds "host_ip" value = .ok false) :
    ofValue value = .error (.rejected (.missingField "host_ip")) := by
  unfold ofValue
  split
  · rename_i entries
    exact absurd rfl (hv entries)
  · rw [h]

/-- Making a configuration of a value escapes the report exactly when the host's address cannot be looked up in it, or when it is a
table of which a field escapes. -/
theorem unreported_ofValue_iff : (ofValue value = .error fault ∧ Unreported fault) ↔
    (fault = .notATable ∧ Untabled "host_ip" value) ∨ ∃ entries field, value = .table entries ∧ Escapes entries field fault := by
  constructor
  · rintro ⟨h, hu⟩
    rcases table_or_untabled "host_ip" value with ⟨entries, rfl⟩ | hn | ⟨hv, ha⟩
    · obtain ⟨field, he⟩ := unreported_ofEntries_iff.mp ⟨h, hu⟩
      exact .inr ⟨entries, field, rfl, he⟩
    · rw [ofValue_of_untabled hn] at h
      exact .inl ⟨(Except.error.inj h).symm, hn⟩
    · rw [ofValue_of_absent hv ha] at h
      rw [← Except.error.inj h] at hu
      exact absurd hu (not_unreported_rejected _)
  · rintro (⟨rfl, hn⟩ | ⟨entries, field, rfl, he⟩)
    · exact ⟨ofValue_of_untabled hn, rfl⟩
    · exact unreported_ofEntries_iff.mpr ⟨field, he⟩

end

/-! ## Documents -/

/-- The settings that count in a document for a profile: those of the profile, those under `drcom` when there are no profiles, or
the document itself when there is neither. -/
inductive Chosen (document : Entries) (profile : String) : Value → Prop where
  | profile {profiles : Entries} {settings : Value} : document.get? "profile" = some (.table profiles) →
      profiles.get? profile = some settings → Chosen document profile settings
  | section {settings : Value} : document.get? "profile" = none → document.get? "drcom" = some settings →
      Chosen document profile settings
  | root : document.get? "profile" = none → document.get? "drcom" = none → Chosen document profile (.table document)

section

variable {document : Entries} {profile : String} {fault : LoadFault}

/-- The settings that are selected are those that count. -/
theorem select_eq_ok_iff {settings : Value} :
    (∃ ignored, select document profile = .ok ⟨settings, ignored⟩) ↔ Chosen document profile settings := by
  unfold select
  constructor
  · rintro ⟨ignored, h⟩
    split at h
    · rename_i profiles hprofiles
      obtain ⟨found, hfound, hsel⟩ := map_eq_ok.mp h
      obtain ⟨entries, rfl, hg⟩ := profileOf_eq_ok_iff.mp hfound
      rw [← (Selection.mk.inj hsel).1]
      exact .profile hprofiles hg
    · rename_i hprofiles
      split at h
      · rename_i found hsection
        rw [← (Selection.mk.inj (Except.ok.inj h)).1]
        exact .section hprofiles hsection
      · rename_i hsection
        rw [← (Selection.mk.inj (Except.ok.inj h)).1]
        exact .root hprofiles hsection
  · intro h
    cases h with
    | profile hprofiles hg =>
      refine ⟨false, ?_⟩
      rw [hprofiles]
      exact map_eq_ok.mpr ⟨_, profileOf_eq_ok_iff.mpr ⟨_, rfl, hg⟩, rfl⟩
    | «section» hprofiles hsection =>
      refine ⟨profile != defaultProfile, ?_⟩
      rw [hprofiles, hsection]
    | root hprofiles hsection =>
      refine ⟨false, ?_⟩
      rw [hprofiles, hsection]

/-- Selecting settings escapes the report exactly when the profile cannot be looked up in what the document has under `profile`. -/
theorem unreported_select_iff : (select document profile = .error fault ∧ Unreported fault) ↔
    fault = .notATable ∧ ∃ profiles, document.get? "profile" = some profiles ∧ Untabled profile profiles := by
  unfold select
  constructor
  · rintro ⟨h, hu⟩
    split at h
    · rename_i profiles hprofiles
      obtain ⟨hfault, hn⟩ := unreported_profileOf_iff.mp ⟨map_eq_error.mp h, hu⟩
      exact ⟨hfault, profiles, hprofiles, hn⟩
    · split at h
      · nomatch h
      · nomatch h
  · rintro ⟨hfault, profiles, hprofiles, hn⟩
    obtain ⟨h, hu⟩ := unreported_profileOf_iff.mpr ⟨hfault, hn⟩
    rw [hprofiles]
    exact ⟨map_eq_error.mpr h, hu⟩

variable [Depths]

/-- A document is loaded as the settings that are selected from it; the warning changes nothing. -/
theorem outcome_loadDocument (document : Entries) (profile : String) :
    (loadDocument document profile).outcome = select document profile >>= fun selection => ofValue selection.settings := by
  rw [loadDocument, Logged.outcome_bind, Logged.outcome_ofExcept]
  cases select document profile with
  | error fault => rfl
  | ok selection =>
    rw [ok_bind, ok_bind]
    cases selection.ignored with
    | false => exact outcome_load selection.settings
    | true => exact outcome_load selection.settings

/-- The settings that count decide how loading a document ends. -/
theorem outcome_of_chosen {settings : Value} (h : Chosen document profile settings) :
    (loadDocument document profile).outcome = (load settings).outcome := by
  obtain ⟨ignored, hselect⟩ := select_eq_ok_iff.mpr h
  rw [outcome_loadDocument, hselect, ok_bind, outcome_load]

/-- Loading a document escapes the report exactly when selecting its settings does, or making a configuration of the ones that
count. -/
theorem unreported_loadDocument_iff : ((loadDocument document profile).outcome = .error fault ∧ Unreported fault) ↔
    (fault = .notATable ∧ ∃ profiles, document.get? "profile" = some profiles ∧ Untabled profile profiles) ∨
      ∃ settings, Chosen document profile settings ∧ ofValue settings = .error fault ∧ Unreported fault := by
  rw [outcome_loadDocument, bind_eq_error, ← unreported_select_iff]
  constructor
  · rintro ⟨h | ⟨⟨settings, ignored⟩, hselect, h⟩, hu⟩
    · exact .inl ⟨h, hu⟩
    · exact .inr ⟨settings, select_eq_ok_iff.mp ⟨ignored, hselect⟩, h, hu⟩
  · rintro (⟨h, hu⟩ | ⟨settings, hchosen, h, hu⟩)
    · exact ⟨.inl h, hu⟩
    · obtain ⟨ignored, hselect⟩ := select_eq_ok_iff.mpr hchosen
      exact ⟨.inr ⟨_, hselect, h⟩, hu⟩

end

/-! ## Files -/

section

variable [Depths] {files : Files} {path : Path} {profile : String} {document : Entries} {fault : LoadFault}

/-- The text of the file where a path leads, whose octets are the text in UTF-8. -/
def HasText (files : Files) (path : Path) (text : String) : Prop :=
  ∃ octets, files.find path = .ok (.content octets) ∧ Text.ofUtf8? octets = some text

/-- The document of the file where a path leads, in its text. -/
def HasDocument (files : Files) (path : Path) (document : Entries) : Prop :=
  ∃ text, HasText files path text ∧ Toml.document Depths.document text = .ok document

/-- The faults of reading a file that are not reported: its path is too long, its octets are no text, or the text holds a numeral
that is too long or nests too deep. -/
inductive Unread (files : Files) (path : Path) : LoadFault → Prop where
  | pathTooLong : files.find path = .error .nameTooLong → Unread files path .pathTooLong
  | undecodable {octets : Bytes} : files.find path = .ok (.content octets) → Text.ofUtf8? octets = none →
      Unread files path .undecodable
  | longNumeral {text : String} {digits : Nat} : HasText files path text →
      Toml.document Depths.document text = .error (.longNumeral digits) → Unread files path (.longNumeral digits)
  | tooDeep {text : String} : HasText files path text → Toml.document Depths.document text = .error .tooDeep →
      Unread files path .tooDeep

/-- Octets have a document when they are a text that is one. -/
theorem documentOfBytes_eq_ok_iff {octets : Bytes} : documentOfBytes octets = .ok document ↔
    ∃ text, Text.ofUtf8? octets = some text ∧ Toml.document Depths.document text = .ok document := by
  unfold documentOfBytes
  constructor
  · intro h
    split at h
    · nomatch h
    · rename_i text htext
      split at h
      · rename_i read hread
        exact ⟨text, htext, hread.trans (congrArg _ (Except.ok.inj h))⟩
      · nomatch h
      · nomatch h
      · nomatch h
  · rintro ⟨text, htext, hdocument⟩
    simp only [htext, hdocument]

/-- Octets escape the report when they are no text, and when their text holds a numeral that is too long or nests too deep. -/
theorem unreported_documentOfBytes_iff {octets : Bytes} : (documentOfBytes octets = .error fault ∧ Unreported fault) ↔
    (fault = .undecodable ∧ Text.ofUtf8? octets = none) ∨ ∃ text, Text.ofUtf8? octets = some text ∧
      ((∃ digits, fault = .longNumeral digits ∧ Toml.document Depths.document text = .error (.longNumeral digits)) ∨
        fault = .tooDeep ∧ Toml.document Depths.document text = .error .tooDeep) := by
  unfold documentOfBytes
  constructor
  · rintro ⟨h, hu⟩
    split at h
    · rename_i htext
      exact .inl ⟨(Except.error.inj h).symm, htext⟩
    · rename_i text htext
      refine .inr ⟨text, htext, ?_⟩
      split at h
      · nomatch h
      · exact absurd (Except.error.inj h ▸ hu) (not_unreported_rejected _)
      · rename_i digits hread
        exact .inl ⟨digits, (Except.error.inj h).symm, hread⟩
      · rename_i hread
        exact .inr ⟨(Except.error.inj h).symm, hread⟩
  · rintro (⟨rfl, htext⟩ | ⟨text, htext, ⟨digits, rfl, hread⟩ | ⟨rfl, hread⟩⟩)
    · rw [htext]
      exact ⟨rfl, rfl⟩
    · simp only [htext, hread, true_and]
      rfl
    · simp only [htext, hread, true_and]
      rfl

/-- The octets of a file have a document when the file has it. -/
theorem documentOf_content {octets : Bytes} (hf : files.find path = .ok (.content octets)) :
    documentOf files path = documentOfBytes octets := by
  rw [documentOf, Files.lookUp_eq_some_iff.mpr hf]

/-- The document that is read is that of the file. -/
theorem documentOf_eq_ok_iff : documentOf files path = .ok document ↔ HasDocument files path document := by
  constructor
  · intro h
    unfold documentOf at h
    split at h
    · nomatch h
    · nomatch h
    · nomatch h
    · rename_i octets hlook
      obtain ⟨text, htext, hdocument⟩ := documentOfBytes_eq_ok_iff.mp h
      exact ⟨text, ⟨octets, Files.lookUp_eq_some_iff.mp hlook, htext⟩, hdocument⟩
  · rintro ⟨text, ⟨octets, hfind, htext⟩, hdocument⟩
    rw [documentOf_content hfind]
    exact documentOfBytes_eq_ok_iff.mpr ⟨text, htext, hdocument⟩

/-- Reading a file escapes the report with the faults that are not reported, and no others. -/
theorem unreported_documentOf_iff : (documentOf files path = .error fault ∧ Unreported fault) ↔ Unread files path fault := by
  constructor
  · rintro ⟨h, hu⟩
    unfold documentOf at h
    split at h
    · rename_i hlook
      exact Except.error.inj h ▸ .pathTooLong (Files.lookUp_eq_error_iff.mp hlook).2
    · exact absurd (Except.error.inj h ▸ hu) (not_unreported_rejected _)
    · exact absurd (Except.error.inj h ▸ hu) (not_unreported_rejected _)
    · rename_i octets hlook
      have hfind := Files.lookUp_eq_some_iff.mp hlook
      obtain ⟨rfl, htext⟩ | ⟨text, htext, ⟨digits, rfl, hread⟩ | ⟨rfl, hread⟩⟩ := unreported_documentOfBytes_iff.mp ⟨h, hu⟩
      · exact .undecodable hfind htext
      · exact .longNumeral ⟨octets, hfind, htext⟩ hread
      · exact .tooDeep ⟨octets, hfind, htext⟩ hread
  · intro h
    cases h with
    | pathTooLong hfind =>
      have hlook : files.lookUp path = .error .nameTooLong := Files.lookUp_eq_error_iff.mpr ⟨rfl, hfind⟩
      exact ⟨by rw [documentOf, hlook], rfl⟩
    | undecodable hfind htext =>
      rw [documentOf_content hfind]
      exact unreported_documentOfBytes_iff.mpr (.inl ⟨rfl, htext⟩)
    | longNumeral hhas hread =>
      obtain ⟨octets, hfind, htext⟩ := hhas
      rw [documentOf_content hfind]
      exact unreported_documentOfBytes_iff.mpr (.inr ⟨_, htext, .inl ⟨_, rfl, hread⟩⟩)
    | tooDeep hhas hread =>
      obtain ⟨octets, hfind, htext⟩ := hhas
      rw [documentOf_content hfind]
      exact unreported_documentOfBytes_iff.mpr (.inr ⟨_, htext, .inr ⟨rfl, hread⟩⟩)

/-- A file is loaded as its document is. -/
theorem outcome_loadFile (files : Files) (path : Path) (profile : String) :
    (loadFile files path profile).outcome = documentOf files path >>= fun document => (loadDocument document profile).outcome := by
  rw [loadFile, Logged.outcome_bind, Logged.outcome_ofExcept]

/-- What gets past the report when a file is loaded for a profile: reading the file fails without one, the profile cannot be looked
up in what the document has under `profile`, the host's address cannot be looked up in the settings that count, or these are a
table of which a field escapes. -/
inductive FileEscapes (files : Files) (path : Path) (profile : String) : LoadFault → Prop where
  | reading {fault : LoadFault} : Unread files path fault → FileEscapes files path profile fault
  | profiles {document : Entries} {profiles : Value} : HasDocument files path document →
      document.get? "profile" = some profiles → Untabled profile profiles → FileEscapes files path profile .notATable
  | settings {document : Entries} {settings : Value} : HasDocument files path document → Chosen document profile settings →
      Untabled "host_ip" settings → FileEscapes files path profile .notATable
  | field {document entries : Entries} {field : Field} {fault : LoadFault} : HasDocument files path document →
      Chosen document profile (.table entries) → Escapes entries field fault → FileEscapes files path profile fault

/-- A file whose loading ends in a fault that is not reported is one that gets past the report with it. -/
theorem unreported_loadFile_iff :
    ((loadFile files path profile).outcome = .error fault ∧ Unreported fault) ↔ FileEscapes files path profile fault := by
  rw [outcome_loadFile, bind_eq_error]
  constructor
  · rintro ⟨h | ⟨document, hread, h⟩, hu⟩
    · exact .reading (unreported_documentOf_iff.mp ⟨h, hu⟩)
    · have hdocument := documentOf_eq_ok_iff.mp hread
      rcases unreported_loadDocument_iff.mp ⟨h, hu⟩ with ⟨rfl, profiles, hprofiles, hn⟩ | ⟨settings, hchosen, hmade⟩
      · exact .profiles hdocument hprofiles hn
      · rcases unreported_ofValue_iff.mp hmade with ⟨rfl, hn⟩ | ⟨entries, field, rfl, he⟩
        · exact .settings hdocument hchosen hn
        · exact .field hdocument hchosen he
  · intro h
    have hrest : ∀ {document}, HasDocument files path document →
        (loadDocument document profile).outcome = .error fault ∧ Unreported fault →
        (documentOf files path = .error fault ∨ ∃ document, documentOf files path = .ok document ∧
          (loadDocument document profile).outcome = .error fault) ∧ Unreported fault :=
      fun hdocument hload => ⟨.inr ⟨_, documentOf_eq_ok_iff.mpr hdocument, hload.1⟩, hload.2⟩
    cases h with
    | reading hunread =>
      obtain ⟨hread, hu⟩ := unreported_documentOf_iff.mpr hunread
      exact ⟨.inl hread, hu⟩
    | profiles hdocument hprofiles hn =>
      exact hrest hdocument (unreported_loadDocument_iff.mpr (.inl ⟨rfl, _, hprofiles, hn⟩))
    | settings hdocument hchosen hn =>
      exact hrest hdocument (unreported_loadDocument_iff.mpr (.inr ⟨_, hchosen, unreported_ofValue_iff.mpr (.inl ⟨rfl, hn⟩)⟩))
    | field hdocument hchosen he =>
      exact hrest hdocument
        (unreported_loadDocument_iff.mpr (.inr ⟨_, hchosen, unreported_ofValue_iff.mpr (.inr ⟨_, _, rfl, he⟩)⟩))

end

/-- Loading a file, whatever is at its path, for any profile gives a configuration or is rejected exactly when nothing gets past the
report; and when something does, loading ends in its fault. -/
theorem loadFile_reported_iff [Depths] (files : Files) (path : Path) (profile : String) :
    (((∃ config, (loadFile files path profile).outcome = .ok config) ∨
        ∃ cause, (loadFile files path profile).outcome = .error (.rejected cause)) ↔ ∀ fault, ¬FileEscapes files path profile fault) ∧
      ∀ fault, FileEscapes files path profile fault → (loadFile files path profile).outcome = .error fault := by
  have hends : ∀ fault, FileEscapes files path profile fault →
      (loadFile files path profile).outcome = .error fault ∧ Unreported fault :=
    fun fault he => unreported_loadFile_iff.mpr he
  refine ⟨⟨?_, ?_⟩, fun fault he => (hends fault he).1⟩
  · intro hreported fault he
    obtain ⟨hload, hu⟩ := hends fault he
    rcases hreported with ⟨config, h⟩ | ⟨cause, h⟩
    · rw [hload] at h
      nomatch h
    · rw [hload] at h
      exact unreported_iff.mp hu cause (Except.error.inj h)
  · intro hnone
    cases hload : (loadFile files path profile).outcome with
    | ok config => exact .inl ⟨config, rfl⟩
    | error fault =>
      cases fault with
      | rejected cause => exact .inr ⟨cause, rfl⟩
      | _ => exact absurd (unreported_loadFile_iff.mp ⟨hload, rfl⟩) (hnone _)

open scoped Depths

/-- A file of an octet that is no text. -/
def undecodableFiles : Files := .only fileName (.content [0xFF])

/-- A file of an octet that is no text is neither accepted nor rejected. -/
theorem not_reported_of_undecodable : ¬((∃ config, (loadFile undecodableFiles filePath "default").outcome = .ok config) ∨
    ∃ cause, (loadFile undecodableFiles filePath "default").outcome = .error (.rejected cause)) ∧
    (loadFile undecodableFiles filePath "default").outcome = .error .undecodable := by
  have hload : (loadFile undecodableFiles filePath "default").outcome = .error .undecodable := by decide +kernel
  refine ⟨?_, hload⟩
  rw [hload]
  rintro (⟨config, h⟩ | ⟨cause, h⟩)
  · nomatch h
  · nomatch h

end Keepalive.Config
