import Keepalive.Config.File
import Keepalive.Proofs.Config.Sections
import Keepalive.Proofs.Config.Spelling
import Keepalive.Proofs.Environment.Variables
import Mathlib

/-!
# The ways to a configuration

A configuration in writing can be loaded from a table of settings, from the variables of the environment and from a document,
whose settings may stand under a profile, under `drcom` or at the root (`Sited`). Whichever way its six texts take, they come
back as the configuration (`load_of_spells`). Only a NUL in the server's address is in the way, since no variable can hold one.
-/

namespace Keepalive

open Outcome Text

/-! ## Octets of a text -/

namespace Text

theorem toList_loop (b : ByteArray) (i : Nat) (r : List UInt8) :
    ByteArray.toList.loop b i r = r.reverse ++ b.data.toList.drop i := by
  fun_induction ByteArray.toList.loop b i r with
  | case1 i r h ih =>
    have hi : i < b.data.toList.length := h
    have hget : b.get! i = b.data.toList[i] := getElem!_pos b.data i h
    rw [ih, List.reverse_cons, List.append_assoc, List.drop_eq_getElem_cons hi, hget]
    rfl
  | case2 i r h => rw [List.drop_eq_nil_of_le (Nat.le_of_not_lt h), List.append_nil]

/-- A text is read back from its octets. -/
theorem ofUtf8?_utf8 (s : String) : ofUtf8? (utf8 s) = some s := by
  have hl : s.toUTF8.toList = s.toUTF8.data.toList := toList_loop s.toUTF8 0 []
  rw [ofUtf8?, utf8, hl]
  exact dif_pos s.isValidUTF8

end Text

/-! ## Variables -/

/-- Digits in either case with separators between them hold no NUL. -/
theorem Spread.nul_notMem {letters text : List Char} (h : Spread letters text)
    (hl : ∀ c ∈ letters, ∃ d, Numeral.digit? 16 c = some d) : '\x00' ∉ text := by
  induction h with
  | nil => exact List.not_mem_nil
  | separator hc _ ih =>
    intro hm
    rcases List.mem_cons.mp hm with rfl | hm
    · exact absurd hc (by decide)
    · exact ih hl hm
  | letter _ ih =>
    intro hm
    obtain ⟨⟨d, hd⟩, hrest⟩ := List.forall_mem_cons.mp hl
    rcases List.mem_cons.mp hm with rfl | hm
    · nomatch hd
    · exact ih hrest hm

/-- The dotted text of an address holds no NUL. -/
theorem Address.nulFree_dotted (a : Address) : NulFree a.dotted := by
  intro h
  rw [dotted, String.toList_ofList] at h
  rcases mem_dottedChars h with h | h
  · exact absurd h (by decide)
  · exact absurd h (by decide)

/-- Decimal text holds no NUL. -/
theorem Numeral.nulFree_decimal (n : Int) : NulFree (decimal n) := by
  intro h
  rcases mem_decimal h with h | h
  · nomatch h
  · exact absurd h (by decide)

namespace Config

/-- A text that spells a number holds no NUL. -/
theorem SpellsOctet.nulFree {number : Int} {text : String} (h : SpellsOctet number text) : NulFree text := by
  cases h with
  | decimal => exact Numeral.nulFree_decimal number
  | hexadecimal width digits =>
    intro hm
    have hlow : ('\x00').toLower ∈ '0' :: 'x' :: Numeral.padded width (Nat.toDigits 16 number.toNat) :=
      digits ▸ List.mem_map_of_mem hm
    exact absurd (Numeral.range_of_mem_marked hlow) (by decide)

/-- The texts as values of the variables of their settings. -/
def Texts.assignments (texts : Texts) : List (String × String) :=
  [("DRCOM_HOST_IP", texts.host), ("DRCOM_MAC", texts.mac), ("DRCOM_TYPE_ID", texts.typeId),
    ("DRCOM_UID_LENGTH", texts.uidLength), ("DRCOM_SERVER_IP", texts.server), ("DRCOM_PORT", texts.port)]

/-- The settings of an environment whose variables have the texts are the texts. -/
theorem Texts.settings_eq {texts : Texts} {e : Environment} (h : ∀ entry ∈ texts.assignments, e.get? entry.1 = some entry.2) :
    e.settings = texts.entries := by
  simp only [assignments, List.forall_mem_cons, List.not_mem_nil, false_imp_iff, implies_true, and_true] at h
  obtain ⟨hhost, hmac, htype, hlength, hserver, hport⟩ := h
  simp only [Environment.settings, Environment.settingNames, List.filterMap_cons, List.filterMap_nil, hhost, hmac, htype,
    hlength, hserver, hport, Option.map_some]
  rfl

/-- The texts of a configuration can be the values of variables, but for a NUL in the server's address. -/
theorem Spells.settable {config : Config} {texts : Texts} (hs : Spells config texts) (hserver : NulFree config.server) :
    ∀ entry ∈ texts.assignments, Environment.refusal? entry.1 entry.2 = none := by
  have hvalue : ∀ {name value : String}, '\x00' ∉ name.toList → '=' ∉ name.toList → name.isEmpty = false → NulFree value →
      Environment.refusal? name value = none :=
    fun hn heq hne hv => Environment.refusal?_eq_none_iff.mpr ⟨hn, hv, heq, hne⟩
  have hmac : NulFree texts.mac := hs.mac.nul_notMem fun c hc => Bytes.exists_digit_of_mem_hexDigits hc
  simp only [Texts.assignments, List.forall_mem_cons, List.not_mem_nil, false_imp_iff, implies_true, and_true]
  refine ⟨?_, ?_, ?_, ?_, ?_, ?_⟩
  · exact hvalue (by decide) (by decide) rfl (hs.host ▸ config.host.nulFree_dotted)
  · exact hvalue (by decide) (by decide) rfl hmac
  · exact hvalue (by decide) (by decide) rfl hs.typeId.nulFree
  · exact hvalue (by decide) (by decide) rfl hs.uidLength.nulFree
  · exact hvalue (by decide) (by decide) rfl (hs.server ▸ hserver)
  · exact hvalue (by decide) (by decide) rfl (hs.port ▸ Numeral.nulFree_decimal config.port)

/-! ## Documents -/

/-- Where the settings of a profile stand in a document: under the profile, under `drcom` when there are no profiles, or at the
root when there is neither. -/
inductive Sited (settings : Entries) (profile : String) : Entries → Prop where
  | profile {document profiles : Entries} : document.get? "profile" = some (.table profiles) →
      profiles.get? profile = some (.table settings) → Sited settings profile document
  | section {document : Entries} : document.get? "profile" = none → document.get? "drcom" = some (.table settings) →
      Sited settings profile document
  | root : settings.get? "profile" = none → settings.get? "drcom" = none → Sited settings profile settings

/-- The settings of a profile are the ones that count where they stand. -/
theorem Sited.chosen {settings document : Entries} {profile : String} (h : Sited settings profile document) :
    Chosen document profile (.table settings) := by
  cases h with
  | profile hprofiles hsettings => exact .profile hprofiles hsettings
  | «section» hprofiles hsettings => exact .section hprofiles hsettings
  | root hprofiles hsection => exact .root hprofiles hsection

/-- Settings are loaded from a file for a profile as they are on their own, wherever in its document they stand. -/
theorem outcome_loadFile_of_sited [Depths] {files : Files} {path : Path} {profile : String} {document settings : Entries}
    (hd : documentOf files path = .ok document) (hsite : Sited settings profile document) :
    (loadFile files path profile).outcome = (load (.table settings)).outcome := by
  rw [outcome_loadFile, hd, ok_bind, outcome_of_chosen hsite.chosen]

/-- A file that holds a text has the document of the text. -/
theorem documentOf_of_text [Depths] {files : Files} {path : Path} {text : String} {document : Entries}
    (hf : files.find path = .ok (.content (utf8 text))) (h : Toml.document Depths.document text = .ok document) :
    documentOf files path = .ok document :=
  documentOf_eq_ok_iff.mpr ⟨text, ⟨_, hf, ofUtf8?_utf8 text⟩, h⟩

/-! ## Every way -/

/-- A well-formed configuration, written in any spelling, comes back by every way: from a table that holds the texts in whatever
order, from a file in whose document that table stands at any of its sites, from an environment whose variables have the texts,
and from any environment in which they are set, which they can be unless the server's address holds a NUL. -/
theorem load_of_spells [Depths] (config : Config) (texts : Texts) (hw : config.WellFormed) (hs : Spells config texts) :
    (∀ entries, SameSettings entries texts.entries →
      (load (.table entries)).outcome = .ok config ∧
        ∀ files path document profile, documentOf files path = .ok document → Sited entries profile document →
          (loadFile files path profile).outcome = .ok config) ∧
      (∀ (e : Environment) loader, (∀ entry ∈ texts.assignments, e.get? entry.1 = some entry.2) →
        (e.load loader none).1.outcome = .ok config) ∧
      (NulFree config.server → ∀ (e : Environment) loader, (e.setAll texts.assignments).1 = .ok () ∧
        ((e.setAll texts.assignments).2.load loader none).1.outcome = .ok config) := by
  have htable : ∀ entries, SameSettings entries texts.entries → (load (.table entries)).outcome = .ok config :=
    fun entries he => load_eq_ok_iff.mpr (accepted_of_spells hw hs he)
  have hvariables : ∀ (e : Environment) loader, (∀ entry ∈ texts.assignments, e.get? entry.1 = some entry.2) →
      (e.load loader none).1.outcome = .ok config := by
    intro e loader he
    have hsome : texts.entries ≠ [] := List.cons_ne_nil _ _
    rw [Environment.load_none, Environment.loadSettings_eq, Texts.settings_eq he, if_neg hsome]
    exact htable _ fun _ => rfl
  refine ⟨fun entries he => ⟨htable entries he, ?_⟩, hvariables, ?_⟩
  · intro files path document profile hd hsite
    rw [outcome_loadFile_of_sited hd hsite]
    exact htable entries he
  · intro hserver e loader
    have hnames : (texts.assignments.map Prod.fst).Nodup := by
      show ["DRCOM_HOST_IP", "DRCOM_MAC", "DRCOM_TYPE_ID", "DRCOM_UID_LENGTH", "DRCOM_SERVER_IP", "DRCOM_PORT"].Nodup
      decide
    obtain ⟨hdone, hvalues, -⟩ := Environment.setAll_of_settable e (hs.settable hserver) hnames
    exact ⟨hdone, hvariables _ loader hvalues⟩

open scoped Depths

/-- A configuration with fields at their bounds. -/
def boundaryConfig : Config := ⟨⟨0xC0A800FF⟩, [0xAB, 0xCD, 0xEF, 0x01, 0x23, 0x45], 255, 0, "auth.example", 65535⟩

/-- The configuration in writing, with letters of both cases and every separator. -/
def boundaryTexts : Texts := ⟨"192.168.0.255", "aB-cD.eF:012345", "0X0fF", "0", "auth.example", "65535"⟩

/-- The texts under a profile of a document. -/
def boundaryDocument : String :=
  "[profile.home]\nhost_ip='192.168.0.255'\nmac='aB-cD.eF:012345'\ntype_id='0X0fF'\nuid_length='0'\n" ++
    "server_ip='auth.example'\ndrcom_port='65535'"

set_option maxRecDepth 4000 in
/-- The document holds the texts under its profile. -/
theorem document_boundaryDocument :
    Toml.document Depths.document boundaryDocument = .ok [("profile", .table [("home", .table boundaryTexts.entries)])] := by
  cbv

/-- The document in a file. -/
def boundaryFiles : Files := .only fileName (.content (utf8 boundaryDocument))

/-- The texts spell the configuration, which comes back from a table, from a file and from an environment. -/
theorem load_of_boundary : boundaryConfig.WellFormed ∧ Spells boundaryConfig boundaryTexts ∧
    (load (.table boundaryTexts.entries)).outcome = .ok boundaryConfig ∧
    (loadFile boundaryFiles filePath "home").outcome = .ok boundaryConfig ∧
    ((Environment.setAll ⟨[], .empty⟩ boundaryTexts.assignments).2.load (fun e _ => (.ok (), e)) none).1.outcome = .ok boundaryConfig := by
  have hw : boundaryConfig.WellFormed := ⟨rfl, by decide, by decide, by decide⟩
  have hs : Spells boundaryConfig boundaryTexts :=
    ⟨by decide +kernel, Spread.of_filter (by decide +kernel), .hexadecimal 3 (by decide +kernel), .decimal, rfl, by decide +kernel⟩
  obtain ⟨htable, -, henvironment⟩ := load_of_spells boundaryConfig boundaryTexts hw hs
  obtain ⟨hload, hfile⟩ := htable boundaryTexts.entries fun _ => rfl
  have hfind : boundaryFiles.find filePath = .ok (.content (utf8 boundaryDocument)) := rfl
  have hdocument := documentOf_of_text hfind document_boundaryDocument
  exact ⟨hw, hs, hload, hfile _ _ _ _ hdocument (.profile rfl rfl), (henvironment (by unfold NulFree; decide) _ _).2⟩

end Config

end Keepalive
