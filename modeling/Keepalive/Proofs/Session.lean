import Keepalive.Proofs.Config.Heartbeat
import Keepalive.Proofs.Heartbeat.Admission
import Keepalive.Session

/-!
# What sessions keep

A step leaves a session the configuration or the challenge that it gives, and takes nothing away (`run_eq`). So after any steps a
session has the configuration that was given last and the challenge that was given last (`after_eq`), and a heartbeat that is made
then is one of these (`beat_of_last`). While configurations are only loaded, they are accepted ones (`Sound.after`), and a heartbeat
with the seed of a challenge fails for nothing but its hardware address (`Sound.outcome_beat`).
-/

namespace Keepalive.Session

open Outcome Heartbeat

/-! ## What steps give -/

/-- The configuration that an outcome is, if it is one. -/
def configOf : Except Fault Answer → Option Config
  | .ok (.config config) => some config
  | _ => none

/-- What is seen as something else than a configuration gives none. -/
theorem configOf_map {α : Type} {outcome : Except Fault α} {f : α → Answer} (hf : ∀ a, configOf (.ok (f a)) = none) :
    configOf (outcome.map f) = none := by
  cases outcome with
  | ok a => exact hf a
  | error fault => rfl

/-- The challenge that an outcome is, if it is one. -/
def responseOf : Except Fault Answer → Option Challenge.Response
  | .ok (.response response) => some response
  | _ => none

section

variable {α : Type} {given : Except Fault Answer → Option α}

/-- The last that results give of something, if they give any. -/
def lastOf (given : Except Fault Answer → Option α) (results : List (Logged Fault Answer)) : Option α :=
  (results.filterMap fun result => given result.outcome).getLast?

/-- What a first result gives counts when the others give nothing. -/
theorem lastOf_cons (first : Logged Fault Answer) (rest : List (Logged Fault Answer)) :
    lastOf given (first :: rest) = (lastOf given rest).or (given first.outcome) := by
  unfold lastOf
  rw [List.filterMap_cons]
  cases given first.outcome with
  | none => rw [Option.or_none]
  | some a =>
    rw [List.getLast?_cons]
    cases (rest.filterMap fun result => given result.outcome).getLast? <;> rfl

end

/-! ## Steps -/

/-- The seed of a heartbeat: the one that it is given or, without one, that of the challenge that was received last. -/
def seedFor (seed : Option Int) (response : Option Challenge.Response) : Option Int :=
  seed.or (response.map fun response => (response.seed.toNat : Int))

/-- There are fields for a heartbeat exactly when there are a configuration and a seed. -/
theorem draft?_eq_some_iff {session : Session} {sequence : Int} {flag : Flag} {seed : Option Int} {draft : Draft} :
    session.draft? sequence flag seed = some draft ↔ ∃ config number, session.config = some config ∧
      seedFor seed session.response = some number ∧ draft = Draft.ofConfig config sequence flag number := by
  have hseed : (seed <|> session.response.map fun response => (response.seed.toNat : Int)) = seedFor seed session.response :=
    Option.orElse_eq_or ..
  rw [draft?, hseed]
  simp only [Option.bind_eq_bind, Option.bind_eq_some_iff, Option.pure_def, Option.some.injEq]
  constructor
  · rintro ⟨config, hconfig, number, hnumber, rfl⟩
    exact ⟨config, number, hconfig, hnumber, rfl⟩
  · rintro ⟨config, number, hconfig, hnumber, rfl⟩
    exact ⟨config, hconfig, number, hnumber, rfl⟩

variable [Config.Depths] {session : Session}

/-- A step gives what is performed, and leaves the session with what it gives in the place of what the session had of it. A step that
fails leaves the session as it is. -/
theorem run_eq (session : Session) (step : Step) : session.run step = (session.perform step,
    ⟨(configOf (session.perform step).outcome).or session.config, (responseOf (session.perform step).outcome).or session.response⟩) := by
  unfold run
  dsimp only
  cases ho : (session.perform step).outcome with
  | error fault => rfl
  | ok answer => cases answer <;> rfl

/-- A heartbeat with fields is made when they pass the checks, and fails as the checks do. -/
theorem outcome_beat {sequence : Int} {flag : Flag} {seed : Option Int} {draft : Draft}
    (hd : session.draft? sequence flag seed = some draft) : (session.run (.beat sequence flag seed)).1.outcome =
      (draft.check.mapError Fault.field).map fun h => .heartbeat h h.packet := by
  rw [run_eq, perform]
  simp only [hd, Logged.outcome_map]
  cases hc : draft.check with
  | ok h =>
    rw [outcome_send_of_ok hc]
    rfl
  | error fault =>
    rw [outcome_send_of_error hc]
    rfl

/-- A heartbeat that is made has the fields of the configuration of the session, and the seed that is for it. -/
theorem fits_of_beat {sequence : Int} {flag : Flag} {seed : Option Int} {h : Heartbeat} {packet : Bytes}
    (hbeat : (session.run (.beat sequence flag seed)).1.outcome = .ok (.heartbeat h packet)) :
    ∃ config number, session.config = some config ∧ seedFor seed session.response = some number ∧
      (Draft.ofConfig config sequence flag number).Fits h ∧ packet = h.packet := by
  cases hd : session.draft? sequence flag seed with
  | none =>
    rw [run_eq, perform] at hbeat
    simp only [hd] at hbeat
    nomatch hbeat
  | some draft =>
    obtain ⟨config, number, hconfig, hnumber, rfl⟩ := draft?_eq_some_iff.mp hd
    rw [outcome_beat hd] at hbeat
    obtain ⟨made, hmade, hsame⟩ := map_eq_ok.mp hbeat
    obtain ⟨rfl, rfl⟩ := Answer.heartbeat.inj hsame
    exact ⟨config, number, hconfig, hnumber, check_eq_ok_iff.mp (mapError_eq_ok.mp hmade), rfl⟩

/-! ## Runs -/

/-- The session after steps. -/
def after (session : Session) (steps : List Step) : Session := steps.foldl (fun session step => (session.run step).2) session

/-- After steps a session has the configuration and the challenge that were given last. -/
theorem after_eq (session : Session) (steps : List Step) : session.after steps =
    ⟨(lastOf configOf (session.runAll steps)).or session.config, (lastOf responseOf (session.runAll steps)).or session.response⟩ := by
  induction steps generalizing session with
  | nil => rfl
  | cons step rest ih =>
    have hafter : session.after (step :: rest) = (session.run step).2.after rest := rfl
    have hall : session.runAll (step :: rest) = (session.run step).1 :: (session.run step).2.runAll rest := rfl
    rw [hafter, hall, ih, lastOf_cons, lastOf_cons, run_eq, Option.or_assoc, Option.or_assoc]

/-- Whatever has been done since the beginning of a session, a heartbeat that is made then has the fields of the configuration that was
given last, and the seed that it is given or, without one, that of the challenge that was given last. -/
theorem beat_of_last {steps : List Step} {sequence : Int} {flag : Flag} {seed : Option Int} {h : Heartbeat} {packet : Bytes}
    (hbeat : ((start.after steps).run (.beat sequence flag seed)).1.outcome = .ok (.heartbeat h packet)) :
    ∃ config number, lastOf configOf (start.runAll steps) = some config ∧
      seedFor seed (lastOf responseOf (start.runAll steps)) = some number ∧
      (Draft.ofConfig config sequence flag number).Fits h ∧ packet = h.packet := by
  have hlast : start.after steps = ⟨lastOf configOf (start.runAll steps), lastOf responseOf (start.runAll steps)⟩ := by
    rw [after_eq, start, Option.or_none, Option.or_none]
  rw [hlast] at hbeat
  exact fits_of_beat hbeat

/-! ## Sessions that only load -/

/-- The configuration of the session, if it has one, is that of accepted settings. -/
def Sound (session : Session) : Prop := ∀ config, session.config = some config → ∃ entries, Config.Accepted entries config

namespace Sound

theorem start : Sound start := fun _ h => nomatch h

/-- A configuration that a step gives is that of accepted settings, unless the step takes it as it is. -/
theorem accepted_of_perform {step : Step} {config : Config} (hstep : ∀ config, step ≠ .configure config)
    (h : configOf (session.perform step).outcome = some config) : ∃ entries, Config.Accepted entries config := by
  cases step with
  | configure given => exact absurd rfl (hstep given)
  | load settings =>
    rw [perform, Logged.outcome_map] at h
    cases ho : (Config.load (.table settings)).outcome with
    | ok made =>
      rw [Logged.mapError, ho] at h
      obtain rfl : made = config := Option.some.inj h
      exact ⟨settings, Config.load_eq_ok_iff.mp ho⟩
    | error fault =>
      rw [Logged.mapError, ho] at h
      nomatch h
  | request sequence =>
    rw [perform, Logged.outcome_map, configOf_map fun _ => rfl] at h
    nomatch h
  | receive data =>
    rw [perform, Logged.outcome_map, configOf_map fun _ => rfl] at h
    nomatch h
  | beat sequence flag seed =>
    rw [perform] at h
    cases hd : session.draft? sequence flag seed with
    | none =>
      rw [hd] at h
      nomatch h
    | some draft =>
      simp only [hd, Logged.outcome_map] at h
      rw [configOf_map fun _ => rfl] at h
      nomatch h

/-- A step that does not take a configuration as it is keeps a session sound. -/
theorem run (h : session.Sound) {step : Step} (hstep : ∀ config, step ≠ .configure config) : (session.run step).2.Sound := by
  intro config hconfig
  rw [run_eq] at hconfig
  rcases Option.or_eq_some_iff.mp hconfig with hgiven | ⟨-, hkept⟩
  · exact accepted_of_perform hstep hgiven
  · exact h config hkept

/-- While configurations are only loaded, a session stays sound. -/
theorem after {steps : List Step} (h : session.Sound) (hsteps : ∀ config, .configure config ∉ steps) : (session.after steps).Sound := by
  induction steps generalizing session with
  | nil => exact h
  | cons step rest ih =>
    refine ih (h.run fun config hstep => hsteps config (hstep ▸ List.mem_cons_self)) fun config hm => ?_
    exact hsteps config (List.mem_cons_of_mem _ hm)

/-- In a sound session with a challenge a heartbeat of any octet is made, and carries the configuration, when the hardware address has
six octets; it fails for the hardware address else. -/
theorem outcome_beat (h : session.Sound) {config : Config} {response : Challenge.Response} (hconfig : session.config = some config)
    (hresponse : session.response = some response) {sequence : Int} (hs : 0 ≤ sequence ∧ sequence ≤ 255) (flag : Flag) :
    (config.mac.length = macLength → ∃ made, (session.run (.beat sequence flag none)).1.outcome = .ok (.heartbeat made made.packet) ∧
      Config.Carries config made.packet) ∧
    (config.mac.length ≠ macLength →
      (session.run (.beat sequence flag none)).1.outcome = .error (.field (.macLength config.mac))) := by
  obtain ⟨entries, ha⟩ := h config hconfig
  have hseed : 0 ≤ (response.seed.toNat : Int) ∧ (response.seed.toNat : Int) < 2 ^ 32 := by
    have hlt := response.seed.toNat_lt
    omega
  obtain ⟨beat, hcheck⟩ := Config.check_of_accepted ha hs hseed flag
  have hd : session.draft? sequence flag none = some (Draft.ofConfig config sequence flag response.seed.toNat) :=
    draft?_eq_some_iff.mpr ⟨config, response.seed.toNat, hconfig, by rw [hresponse]; rfl, rfl⟩
  rw [Session.outcome_beat hd]
  constructor
  · intro hl
    have hmac : Heartbeat.macField config.mac = .ok ⟨config.mac, hl⟩ := macField_eq_ok_iff.mpr rfl
    rw [hmac] at hcheck
    refine ⟨beat ⟨config.mac, hl⟩, ?_, Config.carries_packet (check_eq_ok_iff.mp hcheck)⟩
    rw [hcheck]
    rfl
  · intro hl
    rw [hcheck, Heartbeat.macField, dif_neg hl]
    rfl

end Sound

end Keepalive.Session
