import Keepalive.Proofs.EnvFile
import Keepalive.Proofs.Environment.History

/-!
# Loading after any steps

Steps set a variable, remove one, write a file, or load a configuration. Each makes its changes (`changes`), and after any number of
them every variable has the value of the last change of it (`sound_and_tracks_run`), the first values of the environment and the files
of earlier loads included. So a load after any steps is decided by what was written last, whatever reads the files, as long as it
sets the values that they bind (`load_after_steps`).
-/

namespace Keepalive.Environment

/-! ## Steps -/

/-- A step that uses the environment. -/
inductive Step where
  | set (name value : String)
  | unset (name : String)
  /-- puts a file, or makes a directory -/
  | write (path : Path) (file : File)
  /-- loads a configuration, after an environment file if one is named -/
  | load (path : Option Path)

/-- The environment that an operation gives, or the one before it when it is refused. -/
def orKeep {ε : Type} (e : Environment) : Except ε Environment → Environment
  | .ok after => after
  | .error _ => e

/-- The environment after a step. -/
def next [Config.Depths] (loader : Loader) (e : Environment) : Step → Environment
  | .set name value => e.orKeep (e.trySet name value)
  | .unset name => e.unset name
  | .write path file => e.orKeep (e.write path file)
  | .load path => (e.load loader path).2

/-- The changes that a step makes. -/
def changes (d : Dialect) (e : Environment) : Step → List Change
  | .set name value => if refusal? name value = none then [.written (name, value)] else []
  | .unset name => [⟨name, none⟩]
  | .write _ _ => []
  | .load path => (e.bound d path).map .written

/-- The environment after steps. -/
def run [Config.Depths] (loader : Loader) (e : Environment) (steps : List Step) : Environment := steps.foldl (next loader) e

/-- The changes that steps make, in order. -/
def history [Config.Depths] (loader : Loader) (d : Dialect) (e : Environment) : List Step → List Change
  | [] => []
  | step :: rest => e.changes d step ++ (e.next loader step).history loader d rest

/-- Every file that the steps write can be read. -/
def Writes (d : Dialect) (steps : List Step) : Prop := ∀ path file, .write path file ∈ steps → d.Readable file

section

variable {e : Environment} {past : List Change}

/-- A variable that can be set is set, and no other. -/
theorem orKeep_trySet (e : Environment) (name value : String) :
    e.orKeep (e.trySet name value) = if refusal? name value = none then e.set name value else e := by
  unfold trySet
  cases refusal? name value <;> rfl

/-- Files are no variables. -/
theorem Tracks.write {path : Path} {file : File} {after : Environment} (h : e.Tracks past) (hw : e.write path file = .ok after) :
    after.Tracks past := by
  obtain ⟨files, -, rfl⟩ := Outcome.map_eq_ok.mp hw
  exact h

variable [Config.Depths] {loader : Loader} {d : Dialect} (hl : loader.Follows d)
include hl

/-- A step that writes only files that can be read keeps the environment sound. -/
theorem Sound.next {step : Step} (h : e.Sound d) (hw : Writes d [step]) : (e.next loader step).Sound d := by
  cases step with
  | set name value =>
    show (e.orKeep (e.trySet name value)).Sound d
    rw [orKeep_trySet]
    split
    · rename_i hsettable
      exact h.set hsettable
    · exact h
  | unset name => exact h.unset name
  | write path file =>
    show (e.orKeep (e.write path file)).Sound d
    cases hput : e.write path file with
    | ok after => exact h.write (hw path file List.mem_cons_self) hput
    | error fault => exact h
  | load path =>
    obtain ⟨hsettable, hload⟩ := h.load_eq hl path
    show (e.load loader path).2.Sound d
    rw [hload]
    exact h.setAll hsettable

/-- After a step every variable has the value of the last change of it, those of the step included. -/
theorem Tracks.next (hs : e.Sound d) (h : e.Tracks past) (step : Step) :
    (e.next loader step).Tracks (past ++ e.changes d step) := by
  cases step with
  | set name value =>
    show (e.orKeep (e.trySet name value)).Tracks (past ++ if refusal? name value = none then [.written (name, value)] else [])
    rw [orKeep_trySet]
    split
    · exact h.set name value
    · rwa [List.append_nil]
  | unset name => exact h.unset name
  | write path file =>
    show (e.orKeep (e.write path file)).Tracks (past ++ [])
    rw [List.append_nil]
    cases hput : e.write path file with
    | ok after => exact h.write hput
    | error fault => exact h
  | load path =>
    obtain ⟨hsettable, hload⟩ := hs.load_eq hl path
    show (e.load loader path).2.Tracks (past ++ (e.bound d path).map .written)
    rw [hload]
    exact h.setAll hsettable

/-- After any number of steps every variable has the value of the last change of it. -/
theorem sound_and_tracks_run {steps : List Step} (hs : e.Sound d) (h : e.Tracks past) (hw : Writes d steps) :
    (e.run loader steps).Sound d ∧ (e.run loader steps).Tracks (past ++ e.history loader d steps) := by
  induction steps generalizing e past with
  | nil => exact ⟨hs, by rwa [history, List.append_nil]⟩
  | cons step rest ih =>
    have hstep : Writes d [step] := fun path file hm => hw path file (List.mem_singleton.mp hm ▸ List.mem_cons_self)
    have hrest : Writes d rest := fun path file hm => hw path file (List.mem_cons_of_mem _ hm)
    rw [history, ← List.append_assoc]
    exact ih (hs.next hl hstep) (h.next hl hs step) hrest

end

/-- An environment of values that can be set is sound and tracks them. -/
theorem sound_and_tracks_ofValues {d : Dialect} {values : List (String × String)} {files : Files} {start : Environment}
    (h : ofValues values files = .ok start) (hf : ∀ entry ∈ files.entries, d.Readable entry.2) :
    start.Sound d ∧ start.Tracks (values.map .written) := by
  have hempty : Sound ⟨[], files⟩ d := ⟨fun _ _ hv => (nomatch hv), hf⟩
  have hnothing : Tracks ⟨[], files⟩ [] := fun _ => rfl
  have hset : setAll ⟨[], files⟩ values = (.ok (), start) := by
    unfold ofValues at h
    split at h
    · rename_i after hset
      rw [hset, Except.ok.inj h]
    · nomatch h
  have hsettable := (setAll_eq_ok_iff ⟨[], files⟩).mp (congrArg Prod.fst hset)
  have hstart : (setAll ⟨[], files⟩ values).2 = start := congrArg Prod.snd hset
  rw [← hstart]
  exact ⟨hempty.setAll hsettable, hnothing.setAll hsettable⟩

/-! ## A load after steps -/

/-- The settings that variables describe: those of the six that have a value. -/
def settingsOf (value? : String → Option String) : Entries :=
  settingNames.filterMap fun (setting, variableName) => (value? variableName).map fun value => (setting, .text value)

section

variable [Config.Depths]

/-- What a load gives, and how it leaves the environment, when its file binds these names and `known` are all the changes of variables
so far, its own included. -/
structure Loads (loader : Loader) (e : Environment) (path : Option Path) (names : List String) (known : List Change) : Prop where
  /-- whatever it gives, a variable has the value that was written last -/
  values : ∀ name value, (e.load loader path).2.get? name = some value ↔ LastWritten known name value
  /-- and one that the file does not bind has the value that it had -/
  unbound : ∀ name, name ∉ names → (e.load loader path).2.get? name = e.get? name
  files : (e.load loader path).2.files = e.files
  refused : (∀ entry ∈ settingNames, (e.load loader path).2.get? entry.2 = none) →
    (e.load loader path).1 = throw (.rejected .noVariables)
  loaded : (∃ entry ∈ settingNames, (e.load loader path).2.get? entry.2 ≠ none) →
    (e.load loader path).1 = Config.load (.table (settingsOf (e.load loader path).2.get?))

/-- A load that finds its file is decided by the last changes. -/
theorem loads_of_found {loader : Loader} {d : Dialect} (hl : loader.Follows d) {e : Environment} {path : Option Path}
    {past : List Change} (hs : e.Sound d) (h : e.Tracks past) (hf : e.Found path) :
    Loads loader e path ((e.bound d path).map Prod.fst) (past ++ (e.bound d path).map .written) := by
  obtain ⟨hsettable, hload⟩ := load_of_found hl hs hf
  have hafter := h.setAll hsettable
  have hnone := settings_eq_nil_iff (e.setAll (e.bound d path)).2
  refine ⟨?_, ?_, ?_, ?_, ?_⟩
  · intro name value
    rw [hload, hafter name, lastValue_eq_some_iff]
  · intro name hname
    rw [hload, hafter name, lastValue_append_of_ne, h name]
    rintro _ hm rfl
    obtain ⟨entry, hentry, rfl⟩ := List.mem_map.mp hm
    exact hname (List.mem_map_of_mem hentry)
  · rw [hload]
    exact files_setAll e
  · intro hall
    rw [hload] at hall ⊢
    rw [loadSettings_eq, if_pos (hnone.mpr hall)]
  · rintro ⟨entry, hm, hvalue⟩
    rw [hload] at hvalue ⊢
    rw [loadSettings_eq, if_neg fun hnil => hvalue (hnone.mp hnil entry hm)]
    rfl

/-- A load after any steps, from an environment of any values and files, with whatever reads the files and sets the values that they
bind. If the load names a file that is not there, it is rejected for that and changes nothing, but a name that is too long ends it
without a report. Otherwise it gives what the settings give that the variables hold, each with the value that was written last, by the
first values, by a step or by this load, and was not removed since. -/
theorem load_after_steps {loader : Loader} {d : Dialect} (hl : loader.Follows d) {values : List (String × String)} {files : Files}
    {start : Environment} {steps : List Step} (hstart : ofValues values files = .ok start)
    (hfiles : ∀ entry ∈ files.entries, d.Readable entry.2) (hsteps : Writes d steps) (path : Option Path) :
    (∀ named fault, path = some named → (start.run loader steps).files.find named = .error fault →
        (start.run loader steps).load loader path =
          (throw (if fault = .nameTooLong then .pathTooLong else .rejected (.noEnvFile named.text)), start.run loader steps)) ∧
      ((start.run loader steps).Found path →
        Loads loader (start.run loader steps) path (((start.run loader steps).bound d path).map Prod.fst)
          (values.map .written ++ start.history loader d steps ++ ((start.run loader steps).bound d path).map .written)) := by
  obtain ⟨hs, ht⟩ := sound_and_tracks_ofValues hstart hfiles
  obtain ⟨hsound, htracks⟩ := sound_and_tracks_run hl hs ht hsteps
  refine ⟨?_, loads_of_found hl hsound htracks⟩
  rintro named fault rfl hmissing
  exact load_of_missing hmissing

end

open scoped Config.Depths

/-- An environment with one variable of the six, and no files. -/
def hostOnly : Environment := ⟨[("DRCOM_HOST_IP", "10.0.0.1")], .empty⟩

/-- An environment file in the working directory. -/
def envPath : Path := ⟨.here, [".env"]⟩

/-- Steps that write an environment file, load it, and remove the variable that was there at first. -/
def portSteps : List Step :=
  [.write envPath (.content (Text.utf8 "DRCOM_PORT=80")), .load (some envPath), .unset "DRCOM_HOST_IP"]

/-- A later load without a file still has the port of the file that was loaded before, but no host. -/
theorem load_after_portSteps : EnvFile.loader.Follows EnvFile.dialect ∧
    ofValues [("DRCOM_HOST_IP", "10.0.0.1")] .empty = .ok hostOnly ∧ Writes EnvFile.dialect portSteps ∧
    ((hostOnly.run EnvFile.loader portSteps).load EnvFile.loader none).2.get? "DRCOM_PORT" = some "80" ∧
    ((hostOnly.run EnvFile.loader portSteps).load EnvFile.loader none).1 =
      Config.load (.table (settingsOf ((hostOnly.run EnvFile.loader portSteps).load EnvFile.loader none).2.get?)) := by
  have hstart : ofValues [("DRCOM_HOST_IP", "10.0.0.1")] .empty = .ok hostOnly := by decide +kernel
  have hbindings : EnvFile.bindingsOf "DRCOM_PORT=80" = [⟨some "DRCOM_PORT", some "80"⟩] := by decide +kernel
  have hreadable : EnvFile.dialect.Readable (.content (Text.utf8 "DRCOM_PORT=80")) := by
    have htext : Text.ofUtf8? (Text.utf8 "DRCOM_PORT=80") = some "DRCOM_PORT=80" := by decide +kernel
    refine EnvFile.readable_of_bindingsOf htext (by unfold NulFree; decide) ?_
    rw [hbindings]
    rintro b hb name hname
    obtain rfl := List.mem_singleton.mp hb
    obtain rfl := Option.some.inj hname
    decide +kernel
  have hsteps : Writes EnvFile.dialect portSteps := by
    intro path file hm
    simp only [portSteps, List.mem_cons, List.not_mem_nil, or_false, reduceCtorEq, Step.write.injEq] at hm
    exact hm.2 ▸ hreadable
  have hloads := (load_after_steps EnvFile.follows_loader hstart (List.forall_mem_nil _) hsteps none).2 nofun
  have hknown : [("DRCOM_HOST_IP", "10.0.0.1")].map Change.written ++ hostOnly.history EnvFile.loader EnvFile.dialect portSteps ++
      ((hostOnly.run EnvFile.loader portSteps).bound EnvFile.dialect none).map .written =
      [⟨"DRCOM_HOST_IP", some "10.0.0.1"⟩, ⟨"DRCOM_PORT", some "80"⟩, ⟨"DRCOM_HOST_IP", none⟩] := by
    decide +kernel
  rw [hknown] at hloads
  have hport : ((hostOnly.run EnvFile.loader portSteps).load EnvFile.loader none).2.get? "DRCOM_PORT" = some "80" :=
    (hloads.values "DRCOM_PORT" "80").mpr ⟨[⟨"DRCOM_HOST_IP", some "10.0.0.1"⟩], [⟨"DRCOM_HOST_IP", none⟩], rfl, by decide⟩
  have hsome : ((hostOnly.run EnvFile.loader portSteps).load EnvFile.loader none).2.get? "DRCOM_PORT" ≠ none := by
    rw [hport]
    nofun
  exact ⟨EnvFile.follows_loader, hstart, hsteps, hport, hloads.loaded ⟨("drcom_port", "DRCOM_PORT"), by decide, hsome⟩⟩

/-- Nothing is found under a name that is too long. -/
theorem find_of_longName {name : String} (files : Files) (hnul : NulFree name) (hlong : Files.nameLimit < name.utf8ByteSize) :
    files.find ⟨.here, [name]⟩ = .error .nameTooLong := by
  have htext : Path.text ⟨.here, [name]⟩ = name := rfl
  have hresolve : files.resolve ⟨.here, [name]⟩ = .error .nameTooLong := by
    unfold Files.resolve
    rw [htext, if_neg hnul]
    split
    · rfl
    · show files.follow ⟨.above 0, []⟩ [name] = _
      unfold Files.follow
      exact if_pos hlong
  unfold Files.find
  rw [hresolve]
  rfl

/-- A load that names a file by a name that is too long ends without a report. -/
theorem outcome_load_of_nameTooLong {e : Environment} (loader : Loader) {named : Path}
    (h : e.files.find named = .error .nameTooLong) : (e.load loader (some named)).1.outcome = .error .pathTooLong := by
  rw [load_of_missing h]
  rfl

/-- A name that is longer than any. -/
def longName : String := String.ofList (List.replicate 256 'a')

/-- There is no file of the name, but loading it is not rejected. -/
theorem not_rejected_of_longName : hostOnly.file? ⟨.here, [longName]⟩ = none ∧
    (hostOnly.load EnvFile.loader (some ⟨.here, [longName]⟩)).1.outcome = .error .pathTooLong ∧
    ∀ cause, (hostOnly.load EnvFile.loader (some ⟨.here, [longName]⟩)).1.outcome ≠ .error (.rejected cause) := by
  have hnul : NulFree longName :=
    EnvFile.nulFree_ofList.mpr fun hm => absurd (List.eq_of_mem_replicate hm) (by decide)
  have hmissing := find_of_longName hostOnly.files hnul (by decide +kernel)
  have hload := outcome_load_of_nameTooLong EnvFile.loader hmissing
  refine ⟨congrArg Except.toOption hmissing, hload, ?_⟩
  rw [hload]
  exact fun _ => nofun

end Keepalive.Environment
