import Keepalive.Proofs.Config.Routes

/-!
# Which section counts

A file that is read has one section of its document that counts: the profile asked for when there are profiles, else the section
`drcom`, else the document itself. The file is loaded just as this section is, and everything else in the document is without
influence. A profile that is missing is rejected, and one that is asked for where there are none is ignored with a warning
(`loadFile_by_section`).
-/

namespace Keepalive

/-- The texts of the warnings that work leaves. -/
def Logged.warnings {ε α : Type} (work : Logged ε α) : List String :=
  (work.records.filter fun record => record.level = .warning).map Record.text

namespace Config

open Outcome

/-- Loading a value leaves no warning: the one record it may leave is for tracing. -/
theorem warnings_load [Depths] (value : Value) : (load value).warnings = [] := by
  rw [load]
  cases h : ofValue value with
  | ok config =>
    rw [Logged.ofExcept_bind_ok rfl]
    rfl
  | error fault =>
    rw [Logged.ofExcept_bind_error rfl]
    rfl

section

variable [Depths] {document profiles : Entries} {profile : String} {settings : Value}

/-- Where settings are selected, a document is loaded as they are, after the warning if the profile was ignored. -/
theorem loadDocument_of_select {ignored : Bool} (h : select document profile = .ok ⟨settings, ignored⟩) :
    loadDocument document profile =
      ⟨(if ignored then [⟨.warning, ignoredWarning profile⟩] else []) ++ (load settings).records, (load settings).outcome⟩ := by
  rw [loadDocument, Logged.ofExcept_bind_ok h]
  cases ignored with
  | false => rfl
  | true => rfl

/-- A profile that a document has is loaded as its settings are. -/
theorem loadDocument_of_profile (hp : document.get? "profile" = some (.table profiles)) (hs : profiles.get? profile = some settings) :
    loadDocument document profile = load settings := by
  have hselect : select document profile = .ok ⟨settings, false⟩ := by
    rw [select, hp]
    exact map_eq_ok.mpr ⟨settings, profileOf_eq_ok_iff.mpr ⟨profiles, rfl, hs⟩, rfl⟩
  rw [loadDocument_of_select hselect]
  rfl

/-- A profile that is missing among the profiles of a document is rejected. -/
theorem loadDocument_of_missing (hp : document.get? "profile" = some (.table profiles)) (hs : profiles.get? profile = none) :
    loadDocument document profile = ⟨[], .error (.rejected (.noProfile profile))⟩ := by
  have hselect : select document profile = .error (.rejected (.noProfile profile)) := by
    rw [select, hp]
    refine map_eq_error.mpr ?_
    rw [profileOf_table, hs]
  rw [loadDocument, Logged.ofExcept_bind_error hselect]

/-- A document without profiles is loaded as its section is, with a warning when another profile than the standard one was asked
for. -/
theorem loadDocument_of_section (hp : document.get? "profile" = none) (hs : document.get? "drcom" = some settings) :
    loadDocument document profile = ⟨(if profile = defaultProfile then [] else [⟨.warning, ignoredWarning profile⟩]) ++
      (load settings).records, (load settings).outcome⟩ := by
  have hselect : select document profile = .ok ⟨settings, profile != defaultProfile⟩ := by
    rw [select, hp, hs]
  rw [loadDocument_of_select hselect]
  by_cases hd : profile = defaultProfile
  · rw [if_pos hd, if_neg (by simp [hd])]
  · rw [if_neg hd, if_pos (by simp [hd])]

/-- A document with neither profiles nor the section is loaded as a table of settings. -/
theorem loadDocument_of_root (hp : document.get? "profile" = none) (hs : document.get? "drcom" = none) :
    loadDocument document profile = load (.table document) := by
  have hselect : select document profile = .ok ⟨.table document, false⟩ := by
    rw [select, hp, hs]
  rw [loadDocument_of_select hselect]
  rfl

/-- A document gives a configuration exactly when the settings that count are a table that makes it. -/
theorem loadDocument_eq_ok_iff {config : Config} : (loadDocument document profile).outcome = .ok config ↔
    ∃ entries, Chosen document profile (.table entries) ∧ Accepted entries config := by
  constructor
  · intro h
    rw [outcome_loadDocument] at h
    obtain ⟨⟨settings, ignored⟩, hselect, hmade⟩ := bind_eq_ok.mp h
    obtain ⟨entries, rfl, ha⟩ := ofValue_eq_ok_iff.mp hmade
    exact ⟨entries, select_eq_ok_iff.mp ⟨ignored, hselect⟩, ha⟩
  · rintro ⟨entries, hchosen, ha⟩
    rw [outcome_of_chosen hchosen]
    exact load_eq_ok_iff.mpr ha

end

/-- A file that can be read is loaded as its document is. -/
theorem loadFile_of_document [Depths] {files : Files} {path : Path} {document : Entries} (h : HasDocument files path document)
    (profile : String) : loadFile files path profile = loadDocument document profile := by
  rw [loadFile, Logged.ofExcept_bind_ok (documentOf_eq_ok_iff.mpr h)]

/-- The standard profile is never ignored. -/
theorem not_ignored_default {document : Entries} {selection : Selection} (h : select document defaultProfile = .ok selection) :
    selection.ignored = false := by
  unfold select at h
  split at h
  · obtain ⟨settings, -, rfl⟩ := map_eq_ok.mp h
    rfl
  · split at h
    · rw [← Except.ok.inj h]
      rfl
    · rw [← Except.ok.inj h]

/-- A file that is loaded for the standard profile leaves the record of its configuration, and no other. -/
theorem loadFile_default [Depths] {files : Files} {path : Path} {config : Config}
    (h : (loadFile files path defaultProfile).outcome = .ok config) :
    loadFile files path defaultProfile = ⟨[loaded config], .ok config⟩ ∧ ∃ entries, Accepted entries config := by
  rw [outcome_loadFile] at h
  obtain ⟨document, hread, hload⟩ := bind_eq_ok.mp h
  rw [outcome_loadDocument] at hload
  obtain ⟨⟨settings, ignored⟩, hselect, hmade⟩ := bind_eq_ok.mp hload
  obtain ⟨entries, rfl, ha⟩ := ofValue_eq_ok_iff.mp hmade
  obtain rfl : ignored = false := not_ignored_default hselect
  rw [loadFile_of_document (documentOf_eq_ok_iff.mp hread), loadDocument_of_select hselect,
    load_of_ok (ofEntries_eq_ok_iff.mpr ha)]
  exact ⟨rfl, entries, ha⟩

/-- A file that can be read, loaded for a profile. Where it has profiles, one that is missing is rejected, and one that is a table is
loaded as this table, without a warning and as from every other file with the same table for it. Where it has the section `drcom` and
no profiles, this table is loaded for every profile, with one warning if it is not the standard one, and as from every other file with
the same section. Where it has neither, it is loaded as a table itself, without a warning. The settings that count decide how all of
these end, and a configuration is made of nothing but them. -/
theorem loadFile_by_section [Depths] (files : Files) (path : Path) (profile : String) (document : Entries)
    (hd : HasDocument files path document) :
    (∀ profiles : Entries, document.get? "profile" = some (.table profiles) →
      (profiles.get? profile = none → loadFile files path profile = ⟨[], .error (.rejected (.noProfile profile))⟩) ∧
      ∀ entries : Entries, profiles.get? profile = some (.table entries) →
        loadFile files path profile = load (.table entries) ∧ (loadFile files path profile).warnings = [] ∧
        ∀ files' path' document' (profiles' : Entries), HasDocument files' path' document' →
          document'.get? "profile" = some (.table profiles') →
          profiles'.get? profile = profiles.get? profile → loadFile files' path' profile = loadFile files path profile) ∧
    (∀ entries : Entries, document.get? "profile" = none → document.get? "drcom" = some (.table entries) →
      (loadFile files path profile).outcome = (load (.table entries)).outcome ∧
      (loadFile files path profile).warnings = (if profile = defaultProfile then [] else [ignoredWarning profile]) ∧
      ∀ files' path' document', HasDocument files' path' document' → document'.get? "profile" = none →
        document'.get? "drcom" = document.get? "drcom" → loadFile files' path' profile = loadFile files path profile) ∧
    (document.get? "profile" = none → document.get? "drcom" = none →
      loadFile files path profile = load (.table document) ∧ (loadFile files path profile).warnings = []) ∧
    (∀ settings, Chosen document profile settings → (loadFile files path profile).outcome = (load settings).outcome) ∧
    ∀ config, (loadFile files path profile).outcome = .ok config ↔
      ∃ entries, Chosen document profile (.table entries) ∧ Accepted entries config := by
  rw [loadFile_of_document hd]
  refine ⟨?profiles, ?plain, ?root, fun _ hchosen => outcome_of_chosen hchosen, fun _ => loadDocument_eq_ok_iff⟩
  case profiles =>
    intro profiles hp
    refine ⟨loadDocument_of_missing hp, fun entries hs => ?_⟩
    rw [loadDocument_of_profile hp hs]
    refine ⟨rfl, warnings_load _, ?_⟩
    intro files' path' document' profiles' hd' hp' hs'
    rw [loadFile_of_document hd', loadDocument_of_profile hp' (hs'.trans hs)]
  case plain =>
    intro entries hp hs
    rw [loadDocument_of_section hp hs]
    refine ⟨rfl, ?_, ?_⟩
    · rw [Logged.warnings, List.filter_append, List.map_append, ← Logged.warnings, warnings_load, List.append_nil]
      split <;> rfl
    · intro files' path' document' hd' hp' hs'
      rw [loadFile_of_document hd', loadDocument_of_section hp' (hs'.trans hs)]
  case root =>
    intro hp hs
    rw [loadDocument_of_root hp hs]
    exact ⟨rfl, warnings_load _⟩

open scoped Depths

/-- A document with a host's address at its root and another in its section. -/
def sectionDocument : String := "host_ip='8.8.8.8'\n[drcom]\nhost_ip='10.0.0.1'\n"

/-- The document in a file. -/
def sectionFiles : Files := .only fileName (.content (Text.utf8 sectionDocument))

/-- The settings in the section. -/
def sectionSettings : Entries := [("host_ip", .text "10.0.0.1")]

set_option maxRecDepth 2000 in
/-- For a profile that is not there the address in the section is loaded, with a warning. -/
theorem loadFile_of_sectionDocument :
    HasDocument sectionFiles filePath [("host_ip", .text "8.8.8.8"), ("drcom", .table sectionSettings)] ∧
    (loadFile sectionFiles filePath "home").outcome = .ok { host := ⟨0x0A000001⟩ } ∧
    (loadFile sectionFiles filePath "home").warnings = [ignoredWarning "home"] := by
  have hparsed : Toml.document Depths.document sectionDocument =
      .ok [("host_ip", .text "8.8.8.8"), ("drcom", .table sectionSettings)] := by
    cbv
  have hfind : sectionFiles.find filePath = .ok (.content (Text.utf8 sectionDocument)) := rfl
  have hd := documentOf_eq_ok_iff.mp (documentOf_of_text hfind hparsed)
  have hsettings : (load (.table sectionSettings)).outcome = .ok { host := ⟨0x0A000001⟩ } :=
    load_eq_ok_iff.mpr ⟨rfl, rfl, rfl, rfl, rfl, rfl⟩
  obtain ⟨hload, hwarned, -⟩ := (loadFile_by_section sectionFiles filePath "home" _ hd).2.1 sectionSettings rfl rfl
  exact ⟨hd, hload.trans hsettings, hwarned⟩

end Config

end Keepalive
