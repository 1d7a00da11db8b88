import Keepalive.Environment
import Keepalive.Proofs.Config.Settings

/-!
# Variables and the settings they hold

A variable that is set has the value it was set to, and every other keeps its own (`get?_set`). Several are set exactly when each
of them can be (`setAll_eq_ok_iff`), and if their names are different they all have their values once they have been set one after
another (`setAll_of_settable`). A setting has the text
of its variable, and there are no settings exactly when no variable of a setting has a value (`settings_eq_nil_iff`). Without an
environment file, loading is loading the settings (`load_none`), if there are any (`loadSettings_cases`).
-/

namespace Keepalive

/-- A text without a NUL. -/
def NulFree (text : String) : Prop := '\x00' ∉ text.toList

/-- What is found under a key stands there with it. -/
theorem mem_of_lookup {α β : Type} [BEq α] [LawfulBEq α] {entries : List (α × β)} {key : α} {value : β}
    (h : entries.lookup key = some value) : (key, value) ∈ entries := by
  obtain ⟨before, behind, rfl, -⟩ := List.lookup_eq_some_iff.mp h
  exact List.mem_append_right _ List.mem_cons_self

namespace Environment

/-! ## Setting variables -/

theorem lookup_putValue (name value key : String) (values : List (String × String)) :
    (putValue name value values).lookup key = if key = name then some value else values.lookup key := by
  induction values with
  | nil =>
    rw [putValue, List.lookup_cons]
    by_cases h : key = name
    · rw [if_pos h, beq_iff_eq.mpr h]
    · rw [if_neg h, beq_eq_false_iff_ne.mpr h]
  | cons entry rest ih =>
    obtain ⟨other, old⟩ := entry
    rw [putValue]
    by_cases ho : other = name
    · rw [if_pos ho, List.lookup_cons, List.lookup_cons]
      by_cases hk : key = other
      · rw [if_pos (hk.trans ho), beq_iff_eq.mpr hk]
      · rw [if_neg fun h => hk (h.trans ho.symm), beq_eq_false_iff_ne.mpr hk]
    · rw [if_neg ho, List.lookup_cons, List.lookup_cons, ih]
      by_cases hk : key = other
      · have hn : ¬key = name := hk ▸ ho
        rw [beq_iff_eq.mpr hk, if_neg hn, if_neg hn]
      · rw [beq_eq_false_iff_ne.mpr hk]

/-- A variable that is set has its value, and every other is as it was. -/
theorem get?_set (e : Environment) (name value key : String) :
    (e.set name value).get? key = if key = name then some value else e.get? key :=
  lookup_putValue name value key e.values

/-- A variable that is removed has no value, and every other is as it was. -/
theorem get?_unset (e : Environment) (name key : String) : (e.unset name).get? key = if key = name then none else e.get? key := by
  show (e.values.filter fun entry => entry.1 != name).lookup key = if key = name then none else e.values.lookup key
  induction e.values with
  | nil => rw [List.filter_nil, List.lookup_nil, ite_self]
  | cons entry rest ih =>
    obtain ⟨other, value⟩ := entry
    by_cases ho : other = name
    · rw [List.filter_cons_of_neg (by simp [ho]), ih, List.lookup_cons]
      by_cases hk : key = name
      · rw [if_pos hk, if_pos hk]
      · rw [if_neg hk, if_neg hk, beq_eq_false_iff_ne.mpr (ho ▸ hk)]
    · rw [List.filter_cons_of_pos (by simp [ho]), List.lookup_cons, List.lookup_cons, ih]
      by_cases hk : key = other
      · have hn : ¬key = name := hk ▸ ho
        rw [beq_iff_eq.mpr hk, if_neg hn, if_neg hn]
      · rw [beq_eq_false_iff_ne.mpr hk]

/-- A variable that can be set is set, and then the others are. -/
theorem setAll_cons_of_settable {name value : String} {rest : List (String × String)} (e : Environment)
    (h : refusal? name value = none) : e.setAll ((name, value) :: rest) = (e.set name value).setAll rest := by
  rw [setAll, trySet, h]

/-- Variables are all set exactly when each can be set. -/
theorem setAll_eq_ok_iff {assignments : List (String × String)} (e : Environment) :
    (e.setAll assignments).1 = .ok () ↔ ∀ entry ∈ assignments, refusal? entry.1 entry.2 = none := by
  induction assignments generalizing e with
  | nil => exact ⟨fun _ => List.forall_mem_nil _, fun _ => rfl⟩
  | cons entry rest ih =>
    obtain ⟨name, value⟩ := entry
    rw [List.forall_mem_cons]
    cases hr : refusal? name value with
    | none => rw [setAll_cons_of_settable e hr, ih, eq_self, true_and]
    | some fault =>
      rw [setAll, trySet, hr]
      exact ⟨nofun, fun h => nomatch h.1⟩

/-- Setting variables leaves the files alone. -/
theorem files_setAll {assignments : List (String × String)} (e : Environment) :
    (e.setAll assignments).2.files = e.files := by
  induction assignments generalizing e with
  | nil => rfl
  | cons entry rest ih =>
    obtain ⟨name, value⟩ := entry
    cases hr : refusal? name value with
    | none => rw [setAll_cons_of_settable e hr, ih, set]
    | some fault => rw [setAll, trySet, hr]

/-- Variables that can be set are all set, in order; those of other names are as they were, and of different names each has
its value. -/
theorem setAll_of_settable {assignments : List (String × String)} (e : Environment)
    (hs : ∀ entry ∈ assignments, refusal? entry.1 entry.2 = none) (hd : (assignments.map Prod.fst).Nodup) :
    (e.setAll assignments).1 = .ok () ∧
      (∀ entry ∈ assignments, (e.setAll assignments).2.get? entry.1 = some entry.2) ∧
      ∀ name, name ∉ assignments.map Prod.fst → (e.setAll assignments).2.get? name = e.get? name := by
  refine ⟨e.setAll_eq_ok_iff.mpr hs, ?_⟩
  induction assignments generalizing e with
  | nil => exact ⟨List.forall_mem_nil _, fun _ _ => rfl⟩
  | cons entry rest ih =>
    obtain ⟨name, value⟩ := entry
    obtain ⟨hfirst, hrest⟩ := List.forall_mem_cons.mp hs
    rw [List.map_cons, List.nodup_cons] at hd
    obtain ⟨hvalues, hothers⟩ := ih (e.set name value) hrest hd.2
    rw [setAll_cons_of_settable e hfirst]
    refine ⟨List.forall_mem_cons.mpr ⟨?_, hvalues⟩, ?_⟩
    · rw [hothers name hd.1, get?_set, if_pos rfl]
    · intro other ho
      rw [List.map_cons, List.mem_cons, not_or] at ho
      rw [hothers other ho.2, get?_set, if_neg ho.1]

/-- A variable can be set exactly when neither its name nor its value holds a NUL, and its name is not empty and holds no equals
sign. -/
theorem refusal?_eq_none_iff {name value : String} :
    refusal? name value = none ↔ NulFree name ∧ NulFree value ∧ '=' ∉ name.toList ∧ name.isEmpty = false := by
  unfold refusal?
  split
  · rename_i h
    exact ⟨nofun, fun hn => absurd h (not_or.mpr ⟨hn.1, hn.2.1⟩)⟩
  · rename_i hnul
    obtain ⟨hname, hvalue⟩ := not_or.mp hnul
    split
    · rename_i heq
      exact ⟨nofun, fun hn => absurd heq hn.2.2.1⟩
    · rename_i heq
      split
      · rename_i hempty
        exact ⟨nofun, fun hn => nomatch hempty.symm.trans hn.2.2.2⟩
      · rename_i hempty
        exact ⟨fun _ => ⟨hname, hvalue, heq, Bool.eq_false_iff.mpr hempty⟩, fun _ => rfl⟩

/-! ## Settings -/

/-- There are no settings exactly when no variable of a setting has a value. -/
theorem settings_eq_nil_iff (e : Environment) :
    e.settings = [] ↔ ∀ entry ∈ settingNames, e.get? entry.2 = none := by
  rw [settings, List.filterMap_eq_nil_iff]
  constructor
  · intro h entry hm
    exact Option.map_eq_none_iff.mp (h entry hm)
  · intro h entry hm
    exact Option.map_eq_none_iff.mpr (h entry hm)

/-- Without settings loading is refused, and otherwise it ends as the configuration of the settings does. -/
theorem loadSettings_eq [Config.Depths] (e : Environment) :
    e.loadSettings = if e.settings = [] then throw (.rejected .noVariables) else Config.load (.table e.settings) := by
  rw [loadSettings]
  cases e.settings <;> rfl

/-- Without an environment file the variables are loaded as they are, whatever reads such files. -/
theorem load_none [Config.Depths] (e : Environment) (loader : Loader) : e.load loader none = (e.loadSettings, e) := rfl

/-- The settings of variables are texts. -/
theorem text_of_settings {e : Environment} {name : String} {value : Value} (h : e.settings.get? name = some value) :
    ∃ text, value = .text text := by
  obtain ⟨entry, -, hentry⟩ := List.mem_filterMap.mp (mem_of_lookup h)
  obtain ⟨text, -, htext⟩ := Option.map_eq_some_iff.mp hentry
  exact ⟨text, (Prod.mk.inj htext).2.symm⟩

/-- The settings of the variables are loaded, if there are any. -/
theorem loadSettings_cases [Config.Depths] (e : Environment) :
    e.loadSettings = ⟨[], .error (.rejected .noVariables)⟩ ∨ e.loadSettings = Config.load (.table e.settings) := by
  rw [e.loadSettings_eq]
  by_cases hn : e.settings = []
  · rw [if_pos hn]
    exact .inl rfl
  · rw [if_neg hn]
    exact .inr rfl

/-- Variables that are loaded, or escape the report, have settings of which the same comes. -/
theorem ofEntries_of_loadSettings [Config.Depths] {e : Environment} {outcome : Except LoadFault Config}
    (h : e.loadSettings.outcome = outcome) (hr : ∀ cause, outcome ≠ .error (.rejected cause)) : Config.ofEntries e.settings = outcome := by
  rcases e.loadSettings_cases with hl | hl
  · rw [hl] at h
    exact absurd h.symm (hr .noVariables)
  · rw [hl, Config.outcome_load] at h
    exact h

end Environment

end Keepalive
