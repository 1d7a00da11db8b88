import Keepalive.Demo
import Keepalive.Proofs.Challenge.Decoding
import Keepalive.Proofs.Config.Heartbeat
import Keepalive.Proofs.Heartbeat.Admission

/-!
# The walk with a configuration

Once it has a configuration, the walk goes on in the same way wherever the configuration is from (`proceed`). The response that it
makes up is read back as it was made, and of everything after that only the hardware address can fail (`outcome_proceed`).
-/

namespace Keepalive.Demo

open Outcome Heartbeat

/-- What the walk does with a configuration. -/
def proceed (config : Config) : Logged Fault Unit := do
  let request ← (Challenge.send 1).mapError Fault.field
  Logged.log .info ("Challenge 请求: " ++ request.hex)
  let response ← (Challenge.Response.receive (Challenge.Response.encode ⟨seed, config.host⟩)).mapError Fault.read
  Logged.log .info ("Seed=" ++ response.seedText ++ " SourceIP=" ++ response.source.dotted)
  beats config response.seed [0, 1, 2]

/-- The walk loads a configuration and goes on with it. -/
theorem walk_eq [Config.Depths] (e : Environment) (path : Path) :
    walk e path = (loadConfig e path).mapError Fault.load >>= proceed := rfl

/-- Work with its exit code: a reported fault is recorded and gives one, any other goes through. -/
def report (work : Logged Fault Unit) : Logged Fault Nat :=
  tryCatch (do work; pure 0) fun fault =>
    if fault.isReported then do
      Logged.log .error ("运行失败: " ++ fault.message?.getD "")
      pure 1
    else throw fault

/-- The record at the beginning of the walk. -/
def greeting : Record := ⟨.info, "Drcom-Heartbeat v" ++ version ++ " 示例"⟩

/-- The walk with its exit code is a greeting and then the report of the walk. -/
theorem run_eq [Config.Depths] (e : Environment) (path : Path) :
    run e path = ⟨greeting :: (report (walk e path)).records, (report (walk e path)).outcome⟩ := rfl

/-! ## Reports -/

/-- Work that is done gives zero. -/
theorem report_of_ok {work : Logged Fault Unit} (h : work.outcome = .ok ()) : report work = ⟨work.records, .ok 0⟩ := by
  have hdone : (do work; pure 0 : Logged Fault Nat) = ⟨work.records, .ok 0⟩ := by
    rw [Logged.bind_of_ok h]
    exact congrArg (Logged.mk · _) (List.append_nil _)
  rw [report, hdone]
  rfl

/-- A fault that is not reported goes through, and leaves no record. -/
theorem report_of_unreported {work : Logged Fault Unit} {fault : Fault} (h : work.outcome = .error fault)
    (hu : fault.isReported = false) : report work = ⟨work.records, .error fault⟩ := by
  have hfailed : (do work; pure 0 : Logged Fault Nat) = ⟨work.records, .error fault⟩ := Logged.bind_of_error h _
  rw [report, hfailed, Logged.tryCatch_of_error rfl, hu]
  exact congrArg (Logged.mk · _) (List.append_nil _)

/-- A reported fault is recorded and gives one. -/
theorem report_of_reported {work : Logged Fault Unit} {fault : Fault} (h : work.outcome = .error fault)
    (hr : fault.isReported = true) :
    report work = ⟨work.records ++ [⟨.error, "运行失败: " ++ fault.message?.getD ""⟩], .ok 1⟩ := by
  have hfailed : (do work; pure 0 : Logged Fault Nat) = ⟨work.records, .error fault⟩ := Logged.bind_of_error h _
  rw [report, hfailed, Logged.tryCatch_of_error rfl, hr]
  rfl

/-- The report of work that comes after other work is the report of the later work behind the records of the earlier. -/
theorem report_bind {α : Type} {first : Logged Fault α} {a : α} (h : first.outcome = .ok a) (next : α → Logged Fault Unit) :
    report (first >>= next) = ⟨first.records ++ (report (next a)).records, (report (next a)).outcome⟩ := by
  rw [Logged.bind_of_ok h]
  cases ho : (next a).outcome with
  | ok u => rw [report_of_ok rfl, report_of_ok ho]
  | error fault =>
    cases hr : fault.isReported with
    | false => rw [report_of_unreported rfl hr, report_of_unreported ho hr]
    | true => rw [report_of_reported rfl hr, report_of_reported ho hr, List.append_assoc]

/-! ## Heartbeats -/

/-- A heartbeat whose fields are checked leaves the records of its packet, and is shown. -/
theorem beat_of_check {config : Config} {seed : UInt32} {sequence : Nat} {h : Heartbeat} {mode : Mode}
    (hc : (Draft.ofConfig config sequence (flagOf sequence) seed.toNat).check = .ok h) (hmode : h.mode = .ok mode) :
    beat config seed sequence = ⟨h.send.records ++
      [⟨.info, "心跳 #" ++ Numeral.decimal sequence ++ " (" ++ mode.name ++ "): " ++ h.packet.hex⟩], .ok ()⟩ := by
  have hsend : (h.send.mapError Fault.checksum).outcome = .ok h.packet := by
    show h.send.outcome.mapError Fault.checksum = _
    rw [outcome_send]
    rfl
  have hchecked : ((Logged.ofExcept (Except.ok h : Except FieldFault Heartbeat)).mapError Fault.field).outcome = .ok h := rfl
  have hshown : ((Logged.ofExcept h.mode).mapError Fault.checksum).outcome = .ok mode := by
    rw [hmode]
    rfl
  rw [beat, hc, Logged.bind_of_ok hchecked, Logged.bind_of_ok hshown, Logged.bind_of_ok hsend]
  rfl

/-- A heartbeat is shown once its fields are checked. -/
theorem outcome_beat (config : Config) (seed : UInt32) (sequence : Nat) :
    (beat config seed sequence).outcome =
      ((Draft.ofConfig config sequence (flagOf sequence) seed.toNat).check.mapError Fault.field).map fun _ => () := by
  cases hc : (Draft.ofConfig config sequence (flagOf sequence) seed.toNat).check with
  | error fault =>
    rw [beat, hc]
    rfl
  | ok h =>
    obtain ⟨mode, hmode⟩ := exists_mode h
    rw [beat_of_check hc hmode]
    rfl

/-- A heartbeat that is shown is followed by the others. -/
theorem beats_cons {config : Config} {seed : UInt32} {sequence : Nat} {records : List Record}
    (h : beat config seed sequence = ⟨records, .ok ()⟩) (rest : List Nat) :
    beats config seed (sequence :: rest) = ⟨records ++ (beats config seed rest).records, (beats config seed rest).outcome⟩ := by
  rw [beats, h, Logged.bind_of_ok rfl]

/-- Heartbeats are shown one after another. -/
theorem outcome_beats {config : Config} {seed : UInt32} {sequences : List Nat}
    (h : ∀ sequence ∈ sequences, (beat config seed sequence).outcome = .ok ()) :
    (beats config seed sequences).outcome = .ok () := by
  induction sequences with
  | nil => rfl
  | cons sequence rest ih =>
    obtain ⟨hfirst, hrest⟩ := List.forall_mem_cons.mp h
    rw [beats, Logged.outcome_bind, hfirst]
    exact ih hrest

/-- A heartbeat of an accepted configuration is shown, unless its hardware address has not six octets. -/
theorem outcome_beat_of_accepted [Config.Depths] {entries : Entries} {config : Config} (ha : Config.Accepted entries config)
    (seed : UInt32) {sequence : Nat} (hs : sequence ≤ 255) : (beat config seed sequence).outcome =
      if config.mac.length = macLength then .ok () else .error (.field (.macLength config.mac)) := by
  have hsequence : 0 ≤ (sequence : Int) ∧ (sequence : Int) ≤ 255 := by omega
  have hseed : 0 ≤ (seed.toNat : Int) ∧ (seed.toNat : Int) < 2 ^ 32 := by
    have hlt := seed.toNat_lt
    omega
  obtain ⟨beat, hcheck⟩ := Config.check_of_accepted ha hsequence hseed (flagOf sequence)
  rw [outcome_beat, hcheck, Heartbeat.macField]
  by_cases hl : config.mac.length = macLength
  · rw [dif_pos hl, if_pos hl]
    rfl
  · rw [dif_neg hl, if_neg hl]
    rfl

/-! ## The whole walk -/

/-- What the walk shows of its request. -/
def asked : Record := ⟨.info, "Challenge 请求: " ++ (Challenge.Request.encode ⟨1⟩).hex⟩

/-- What the walk shows of the response that it makes up. -/
def told (config : Config) : Record :=
  ⟨.info, "Seed=" ++ Challenge.Response.seedText ⟨seed, config.host⟩ ++ " SourceIP=" ++ config.host.dotted⟩

/-- The request is made, the response is read back as it was made up, both are shown behind their traces, and the heartbeats
come after them. -/
theorem proceed_eq (config : Config) : proceed config =
    ⟨(Challenge.send 1).records ++ asked :: ((Challenge.Response.receive (Challenge.Response.encode ⟨seed, config.host⟩)).records ++
      told config :: (beats config seed [0, 1, 2]).records), (beats config seed [0, 1, 2]).outcome⟩ := by
  have hrequest : ((Challenge.send 1).mapError Fault.field).outcome = .ok (Challenge.Request.encode ⟨1⟩) := rfl
  have hresponse : ((Challenge.Response.receive (Challenge.Response.encode ⟨seed, config.host⟩)).mapError Fault.read).outcome =
      .ok ⟨seed, config.host⟩ := by
    show (Challenge.Response.ofBytes _).mapError Fault.read = _
    rw [Challenge.Response.ofBytes_encode]
    rfl
  rw [proceed, Logged.bind_of_ok hrequest, Logged.log_bind, Logged.bind_of_ok hresponse, Logged.log_bind]
  rfl

/-- With an accepted configuration everything up to the heartbeats is done, and the heartbeats are as their hardware address
lets them be. -/
theorem outcome_proceed [Config.Depths] {entries : Entries} {config : Config} (ha : Config.Accepted entries config) :
    (proceed config).outcome =
      if config.mac.length = macLength then .ok () else .error (.field (.macLength config.mac)) := by
  have hbeats : (proceed config).outcome = (beats config seed [0, 1, 2]).outcome := by
    rw [proceed_eq]
  have hbeat : ∀ sequence ∈ [0, 1, 2], (beat config seed sequence).outcome =
      if config.mac.length = macLength then .ok () else .error (.field (.macLength config.mac)) := fun sequence hm =>
    outcome_beat_of_accepted ha seed ((by decide : ∀ sequence ∈ [0, 1, 2], sequence ≤ 255) sequence hm)
  rw [hbeats]
  by_cases hl : config.mac.length = macLength
  · simp only [if_pos hl] at hbeat ⊢
    exact outcome_beats hbeat
  · simp only [if_neg hl] at hbeat ⊢
    rw [beats, Logged.outcome_bind, hbeat 0 (by decide)]
    rfl

/-- With an accepted configuration the walk ends with exit code zero, unless the hardware address has not six octets: then its
fault goes through. -/
theorem outcome_report_proceed [Config.Depths] {entries : Entries} {config : Config} (ha : Config.Accepted entries config) :
    (report (proceed config)).outcome =
      if config.mac.length = macLength then .ok 0 else .error (.field (.macLength config.mac)) := by
  have hproceed := outcome_proceed ha
  by_cases hl : config.mac.length = macLength
  · rw [if_pos hl] at hproceed ⊢
    rw [report_of_ok hproceed]
  · rw [if_neg hl] at hproceed ⊢
    rw [report_of_unreported hproceed rfl]

/-! ## The records of the walk -/

/-- A record of work that is done, and of nothing that is wrong. -/
def Plain (record : Record) : Prop := record.level = .debug ∨ record.level = .info

/-- A record that is only there for tracing. -/
def Trace (record : Record) : Prop := record.level = .debug

theorem trace_debug (text : String) : Trace ⟨.debug, text⟩ := rfl

/-- Records for tracing are plain. -/
theorem Trace.plain (record : Record) (h : Trace record) : Plain record := .inl h

/-- A request is traced. -/
theorem leaves_request (sequence : Int) : (Challenge.send sequence).Leaves Trace :=
  (Logged.leaves_ofExcept _).bind fun _ => (Logged.leaves_log (trace_debug _)).bind fun _ => Logged.leaves_pure _

/-- Reading a response is traced, whatever becomes of it. -/
theorem leaves_receive (data : Bytes) : (Challenge.Response.receive data).Leaves Trace := by
  have hrecords : ∀ outcome, ∀ record ∈ Challenge.Response.records outcome, Trace record := by
    intro outcome record hr
    cases outcome with
    | ok response =>
      rw [List.mem_singleton.mp hr]
      rfl
    | error fault =>
      cases fault with
      | truncated field expected received =>
        rw [List.mem_singleton.mp hr]
        rfl
      | wrongCode expected actual =>
        rw [List.mem_singleton.mp hr]
        rfl
      | oversized => nomatch hr
      | longNumber => nomatch hr
  exact hrecords _

/-- Making a heartbeat is traced. -/
theorem leaves_send (h : Heartbeat) : h.send.Leaves Trace := by
  have hsample : ∀ mode : Mode, (mode.takeChecksum mode.retained (Bytes.little 4 h.seed.toNat)).Leaves Trace := fun _ =>
    (Logged.leaves_ofExcept _).bind fun _ => (Logged.leaves_log (trace_debug _)).bind fun _ => Logged.leaves_pure _
  refine (Logged.leaves_ofExcept _).bind fun mode => (hsample mode).bind fun _ => ?_
  exact (Logged.leaves_ofExcept _).bind fun _ => (Logged.leaves_log (trace_debug _)).bind fun _ => Logged.leaves_pure _

/-- Showing heartbeats leaves plain records. -/
theorem leaves_beats (config : Config) (seed : UInt32) (sequences : List Nat) : (beats config seed sequences).Leaves Plain := by
  induction sequences with
  | nil => exact Logged.leaves_pure ()
  | cons sequence rest ih =>
    have hbeat : (beat config seed sequence).Leaves Plain :=
      ((Logged.leaves_ofExcept _).mapError _).bind fun h => ((Logged.leaves_ofExcept _).mapError _).bind fun _ =>
        (((leaves_send h).mono Trace.plain).mapError _).bind fun _ => Logged.leaves_log (.inr rfl)
    exact hbeat.bind fun _ => ih

/-- With a configuration the walk leaves plain records. -/
theorem leaves_proceed (config : Config) : (proceed config).Leaves Plain :=
  (((leaves_request 1).mono Trace.plain).mapError _).bind fun _ => (Logged.leaves_log (.inr rfl)).bind fun _ =>
    (((leaves_receive _).mono Trace.plain).mapError _).bind fun _ => (Logged.leaves_log (.inr rfl)).bind fun _ => leaves_beats config _ _

end Keepalive.Demo
