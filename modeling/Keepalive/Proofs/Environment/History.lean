import Keepalive.Proofs.Environment.Variables
import Keepalive.Proofs.Journal

/-!
# The history of the variables

Every variable has the value of the last change of it (`Tracks`): of a value that was written (`LastWritten`), or of a removal. Loading
a configuration changes variables too, since it leaves the values of its environment file behind (`bound`). Which values these are is a
matter of how such files are written (`Dialect`), and of what reads them nothing is asked but that it sets the values of a file, in
order (`Loader.Follows`). In an environment without a NUL, with files whose values can be set (`Sound`), a load that finds its file then
writes all of these and loads what the variables hold (`load_of_found`).
-/

namespace Keepalive.Environment

/-! ## Changes -/

/-- A change of a variable: the value it gets, or none when it is removed. -/
structure Change where
  name : String
  value : Option String
  deriving DecidableEq, Repr

/-- The change that gives a variable a value. -/
def Change.written (entry : String × String) : Change := ⟨entry.1, some entry.2⟩

/-- A value was written to a variable that was not changed after that. -/
def LastWritten (past : List Change) (name value : String) : Prop :=
  ∃ before behind, past = before ++ .written (name, value) :: behind ∧ ∀ change ∈ behind, change.name ≠ name

/-- The value that changes leave a variable: that of the last change of it, if there is one. -/
def lastValue (past : List Change) (name : String) : Option String :=
  (past.reverse.find? fun change => change.name == name).bind Change.value

section

variable {past : List Change} {name : String}

/-- Changes leave a variable the value that was written last. -/
theorem lastValue_eq_some_iff {value : String} : lastValue past name = some value ↔ LastWritten past name value := by
  unfold lastValue LastWritten
  rw [Option.bind_eq_some_iff]
  constructor
  · rintro ⟨⟨other, last⟩, hfound, rfl⟩
    obtain ⟨hname, behind, before, heq, hbehind⟩ := List.find?_eq_some_iff_append.mp hfound
    obtain rfl : other = name := beq_iff_eq.mp hname
    refine ⟨before.reverse, behind.reverse, ?_, ?_⟩
    · rw [← List.reverse_reverse past, heq, List.reverse_append, List.reverse_cons, List.append_assoc]
      rfl
    · intro change hm
      simpa using hbehind change (List.mem_reverse.mp hm)
  · rintro ⟨before, behind, rfl, hbehind⟩
    refine ⟨.written (name, value), List.find?_eq_some_iff_append.mpr ⟨beq_self_eq_true name, ?_⟩, rfl⟩
    refine ⟨behind.reverse, before.reverse, ?_, ?_⟩
    · rw [List.reverse_append, List.reverse_cons, List.append_assoc]
      rfl
    · intro change hm
      simpa using hbehind change (List.mem_reverse.mp hm)

/-- A change decides on its variable and on no other. -/
theorem lastValue_concat (past : List Change) (change : Change) (name : String) :
    lastValue (past ++ [change]) name = if name = change.name then change.value else lastValue past name := by
  unfold lastValue
  rw [List.reverse_append, List.reverse_singleton, List.singleton_append, List.find?_cons]
  by_cases h : name = change.name
  · rw [if_pos h, beq_iff_eq.mpr h.symm]
    rfl
  · rw [if_neg h, beq_eq_false_iff_ne.mpr fun he => h he.symm]

/-- Changes of other variables do not matter. -/
theorem lastValue_append_of_ne {later : List Change} (h : ∀ change ∈ later, change.name ≠ name) :
    lastValue (past ++ later) name = lastValue past name := by
  unfold lastValue
  rw [List.reverse_append, List.find?_append, List.find?_eq_none.mpr, Option.none_or]
  intro change hm
  simpa using h change (List.mem_reverse.mp hm)

end

/-- Every variable has the value that the changes leave it. -/
def Tracks (e : Environment) (past : List Change) : Prop := ∀ name, e.get? name = lastValue past name

namespace Tracks

variable {e : Environment} {past : List Change}

theorem set (h : e.Tracks past) (name value : String) : (e.set name value).Tracks (past ++ [.written (name, value)]) := by
  intro key
  rw [get?_set, lastValue_concat, h key]
  rfl

theorem unset (h : e.Tracks past) (name : String) : (e.unset name).Tracks (past ++ [⟨name, none⟩]) := by
  intro key
  rw [get?_unset, lastValue_concat, h key]

/-- Values that can all be set are changes one after the other. -/
theorem setAll {assignments : List (String × String)} (h : e.Tracks past)
    (hs : ∀ entry ∈ assignments, refusal? entry.1 entry.2 = none) :
    (e.setAll assignments).2.Tracks (past ++ assignments.map .written) := by
  induction assignments generalizing e past with
  | nil =>
    rw [List.map_nil, List.append_nil]
    exact h
  | cons entry rest ih =>
    obtain ⟨name, value⟩ := entry
    obtain ⟨hfirst, hrest⟩ := List.forall_mem_cons.mp hs
    rw [setAll_cons_of_settable e hfirst, List.map_cons, List.append_cons]
    exact ih (h.set name value) hrest

end Tracks

/-! ## Environment files -/

/-- How environment files are written: whether an environment turns them off, and what a text binds in an environment, names in order,
each with its value, if it has one. -/
structure Dialect where
  off : Environment → Bool
  bindings : Environment → String → List (String × Option String)

namespace Dialect

/-- The values that a file is to set in an environment: those that its text binds, in order, and none when files are turned off. -/
def writes (d : Dialect) (e : Environment) : File → List (String × String)
  | .directory => []
  | .content octets =>
    if d.off e then []
    else
      match Text.ofUtf8? octets with
      | some text => (d.bindings e text).filterMap fun (name, value) => value.map (name, ·)
      | none => []

/-- A file whose values can be set: a directory, or a text in UTF-8 without a NUL that binds no name that is refused. -/
inductive Readable (d : Dialect) : File → Prop where
  | directory : d.Readable .directory
  | content {octets : Bytes} {text : String} : Text.ofUtf8? octets = some text → NulFree text →
      (∀ e, ∀ binding ∈ d.bindings e text, refusal? binding.1 "" = none) → d.Readable (.content octets)

end Dialect

/-- No value of an environment holds a NUL. -/
def Clear (e : Environment) : Prop := ∀ name value, e.get? name = some value → NulFree value

/-- What reads environment files follows a dialect: it sets the values of a file that can be read, in order and up to one that cannot
be set. And no value in a file holds a NUL that is neither in its text nor in the environment. -/
structure Loader.Follows (loader : Loader) (d : Dialect) : Prop where
  sets : ∀ e file, d.Readable file →
    loader e file = ((e.setAll (d.writes e file)).1.mapError .badVariable, (e.setAll (d.writes e file)).2)
  clear : ∀ e text name value, e.Clear → NulFree text → (name, some value) ∈ d.bindings e text → NulFree value

/-- The values of a file that can be read can all be set in an environment without a NUL. -/
theorem Loader.Follows.refusal?_of_writes {loader : Loader} {d : Dialect} (hl : loader.Follows d) {e : Environment} (he : e.Clear)
    {file : File} (hf : d.Readable file) : ∀ entry ∈ d.writes e file, refusal? entry.1 entry.2 = none := by
  intro entry hm
  cases hf with
  | directory => nomatch hm
  | content htext hnul hnames =>
    unfold Dialect.writes at hm
    simp only [htext] at hm
    split at hm
    · nomatch hm
    · obtain ⟨⟨name, bound⟩, hbinding, hentry⟩ := List.mem_filterMap.mp hm
      obtain ⟨value, rfl, rfl⟩ := Option.map_eq_some_iff.mp hentry
      obtain ⟨hname, -, heq, hempty⟩ := refusal?_eq_none_iff.mp (hnames e _ hbinding)
      exact refusal?_eq_none_iff.mpr ⟨hname, hl.clear e _ name value he hnul hbinding, heq, hempty⟩

/-! ## Environments without a NUL -/

/-- No value holds a NUL, and the values of every file can be set. -/
structure Sound (e : Environment) (d : Dialect) : Prop where
  clear : e.Clear
  files : ∀ entry ∈ e.files.entries, d.Readable entry.2

namespace Sound

variable {e : Environment} {d : Dialect}

/-- The values of a file that is found can be set. -/
theorem readable_of_find {path : Path} {file : File} (h : e.Sound d) (hf : e.files.find path = .ok file) : d.Readable file := by
  unfold Files.find at hf
  obtain ⟨place, -, hplace⟩ := Outcome.bind_eq_ok.mp hf
  cases hat : e.files.at? place with
  | none =>
    rw [hat] at hplace
    nomatch hplace
  | some found =>
    rw [hat] at hplace
    cases hplace
    unfold Files.at? at hat
    split at hat
    · cases hat
      exact .directory
    · exact h.files _ (mem_of_lookup hat)

theorem set (h : e.Sound d) {name value : String} (hs : refusal? name value = none) : (e.set name value).Sound d where
  clear := by
    intro key found hfound
    rw [get?_set] at hfound
    split at hfound
    · exact Option.some.inj hfound ▸ (refusal?_eq_none_iff.mp hs).2.1
    · exact h.clear key found hfound
  files := h.files

theorem unset (h : e.Sound d) (name : String) : (e.unset name).Sound d where
  clear := by
    intro key found hfound
    rw [get?_unset] at hfound
    split at hfound
    · nomatch hfound
    · exact h.clear key found hfound
  files := h.files

theorem setAll {assignments : List (String × String)} (h : e.Sound d)
    (hs : ∀ entry ∈ assignments, refusal? entry.1 entry.2 = none) : (e.setAll assignments).2.Sound d := by
  induction assignments generalizing e with
  | nil => exact h
  | cons entry rest ih =>
    obtain ⟨name, value⟩ := entry
    obtain ⟨hfirst, hrest⟩ := List.forall_mem_cons.mp hs
    rw [setAll_cons_of_settable e hfirst]
    exact ih (h.set hfirst) hrest

/-- What is at a place that files did not hold before is the file that was put there. -/
theorem readable_of_put {files : Files} {place : Place} {file : File} (h : ∀ entry ∈ files.entries, d.Readable entry.2)
    (hf : d.Readable file) : ∀ entry ∈ (files.put place file).entries, d.Readable entry.2 := by
  intro entry hm
  rcases List.mem_cons.mp hm with rfl | hm
  · exact hf
  · exact h entry (List.mem_filter.mp hm).1

/-- What is made at a path is a file like any other. -/
theorem readable_of_create {files after : Files} {path : Path} {file : File} (h : ∀ entry ∈ files.entries, d.Readable entry.2)
    (hf : d.Readable file) (hc : files.create path file = .ok after) : ∀ entry ∈ after.entries, d.Readable entry.2 := by
  cases file with
  | directory =>
    obtain ⟨place, -, hrest⟩ := Outcome.bind_eq_ok.mp hc
    split at hrest
    · nomatch hrest
    · exact Outcome.pure_eq_ok.mp hrest ▸ readable_of_put h hf
  | content octets =>
    obtain ⟨place, -, hrest⟩ := Outcome.bind_eq_ok.mp hc
    split at hrest
    · nomatch hrest
    · exact Outcome.pure_eq_ok.mp hrest ▸ readable_of_put h hf

theorem write {path : Path} {file : File} {after : Environment} (h : e.Sound d) (hf : d.Readable file)
    (hw : e.write path file = .ok after) : after.Sound d := by
  obtain ⟨files, hcreate, rfl⟩ := Outcome.map_eq_ok.mp hw
  exact ⟨h.clear, readable_of_create h.files hf hcreate⟩

end Sound

/-! ## Loading -/

/-- The values that a load writes: those of its environment file, in order, and none when there is no file to read. -/
def bound (e : Environment) (d : Dialect) : Option Path → List (String × String)
  | none => []
  | some path =>
    match e.files.find path with
    | .ok file => d.writes e file
    | .error _ => []

/-- The file that a load names, if it names one, is there. -/
def Found (e : Environment) (path : Option Path) : Prop := ∀ named, path = some named → ∃ file, e.files.find named = .ok file

/-- A load that misses its file writes nothing. -/
theorem bound_of_missing {e : Environment} {d : Dialect} {named : Path} {fault : FileFault}
    (h : e.files.find named = .error fault) : e.bound d (some named) = [] := by
  unfold bound
  simp only [h]

section

variable [Config.Depths] {e : Environment} {loader : Loader} {d : Dialect} {path : Option Path}

/-- A load that names a file that cannot be found changes nothing. -/
theorem load_of_missing {named : Path} {fault : FileFault} (h : e.files.find named = .error fault) :
    e.load loader (some named) =
      (throw (if fault = .nameTooLong then .pathTooLong else .rejected (.noEnvFile named.text)), e) := by
  unfold load prepare
  by_cases hlong : fault = .nameTooLong
  · have hlook : e.files.lookUp named = .error .nameTooLong := Files.lookUp_eq_error_iff.mpr ⟨rfl, hlong ▸ h⟩
    rw [if_pos hlong]
    simp only [hlook]
    rfl
  · have hlook : e.files.lookUp named = .ok none := Files.lookUp_eq_none_iff.mpr ⟨fault, h, hlong⟩
    rw [if_neg hlong]
    simp only [hlook]
    rfl

/-- A load that finds its file, or names none, writes its values, all of which can be set, and then loads what the variables
hold. -/
theorem load_of_found (hl : loader.Follows d) (h : e.Sound d) (hf : e.Found path) :
    (∀ entry ∈ e.bound d path, refusal? entry.1 entry.2 = none) ∧
      e.load loader path = ((e.setAll (e.bound d path)).2.loadSettings, (e.setAll (e.bound d path)).2) := by
  cases path with
  | none => exact ⟨List.forall_mem_nil _, rfl⟩
  | some named =>
    obtain ⟨file, hfile⟩ := hf named rfl
    have hreadable := h.readable_of_find hfile
    have hsettable := hl.refusal?_of_writes h.clear hreadable
    have hbound : e.bound d (some named) = d.writes e file := by
      unfold bound
      simp only [hfile]
    rw [hbound]
    refine ⟨hsettable, ?_⟩
    unfold load prepare
    simp only [Files.lookUp_eq_some_iff.mpr hfile, hl.sets e file hreadable, e.setAll_eq_ok_iff.mpr hsettable, Except.mapError,
      Logged.ofExcept_bind_ok rfl]

/-- Whatever becomes of a load, it leaves the environment with its values written, all of which can be set. -/
theorem Sound.load_eq (hl : loader.Follows d) (h : e.Sound d) (path : Option Path) :
    (∀ entry ∈ e.bound d path, refusal? entry.1 entry.2 = none) ∧ (e.load loader path).2 = (e.setAll (e.bound d path)).2 := by
  by_cases hf : e.Found path
  · obtain ⟨hsettable, hload⟩ := load_of_found hl h hf
    exact ⟨hsettable, congrArg Prod.snd hload⟩
  · obtain ⟨named, rfl, hmissing⟩ : ∃ named, path = some named ∧ ∀ file, e.files.find named ≠ .ok file := by
      simpa [Found] using hf
    cases hfind : e.files.find named with
    | ok file => exact absurd hfind (hmissing file)
    | error fault =>
      rw [bound_of_missing hfind, load_of_missing hfind]
      exact ⟨List.forall_mem_nil _, rfl⟩

end

end Keepalive.Environment
