import Keepalive.Proofs.Bench.Conservation
import Mathlib.Data.List.InsertIdx

/-!
# Streams that give their octets in pieces

The same octets are given in pieces of at most a limit on one bench and as asked for on another. Readers that stand behind the
same octets on both (`Reader.Abreast`) read alike and are abreast afterwards (`Reading.Blind`), since what is missing is called
for until it is there. So the two benches report the same, step by step. The one exception is a size that memory cannot be
asked for: in pieces it is asked for all the same, unless the pieces are that large themselves (`reports_eq_iff`).
-/

namespace Keepalive

/-! ## What is left after a pull -/

namespace Stream

/-- Octets in memory stay octets in memory. -/
theorem memory_pull (missing : Nat) (rest : Bytes) : ∃ left, (pull missing (memory rest)).2 = memory left := by
  refine pull_keeps (fun stream => ∃ left, stream = memory left) ?_ missing (memory rest) ⟨rest, rfl⟩
  rintro _ asked ⟨left, rfl⟩
  exact ⟨left.drop asked, rfl⟩

/-- A stream in pieces stays one, with pieces of the same size. -/
theorem limited_pull (limit missing : Nat) (rest : Bytes) :
    ∃ left, (pull missing (limited limit rest)).2 = limited limit left := by
  refine pull_keeps (fun stream => ∃ left, stream = limited limit left) ?_ missing (limited limit rest) ⟨rest, rfl⟩
  rintro _ asked ⟨left, rfl⟩
  exact ⟨left.drop (min asked limit), rfl⟩

end Stream

/-! ## Readers -/

/-- Two readers stand behind the same octets, the one in pieces and the other in memory, and have counted as many. -/
structure Reader.Abreast (limit : Nat) (pieces whole : Reader) : Prop where
  streams : ∃ rest, pieces.stream = .limited limit rest ∧ whole.stream = .memory rest
  consumed : pieces.consumed = whole.consumed

namespace Reader.Abreast

variable {limit : Nat} {pieces whole : Reader}

theorem remaining (h : Abreast limit pieces whole) : pieces.stream.remaining = whole.stream.remaining := by
  obtain ⟨rest, hp, hw⟩ := h.streams
  rw [hp, hw]
  rfl

/-- Readers that were abreast and are so again have taken the same octets. -/
theorem octets_eq {pieces' whole' : Reader} {octets octets' : Bytes} (h : Abreast limit pieces whole)
    (h' : Abreast limit pieces' whole') (hp : pieces.Advances pieces' octets) (hw : whole.Advances whole' octets') :
    octets = octets' := by
  have hr := h.remaining
  rw [hp.remaining, hw.remaining, h'.remaining] at hr
  exact List.append_cancel_right hr

/-- Calling for octets brings the same to both and leaves them abreast. -/
theorem pull (h : Abreast limit pieces whole) (hl : 0 < limit) (missing : Nat) :
    (pieces.pull missing).1 = (whole.pull missing).1 ∧ Abreast limit (pieces.pull missing).2 (whole.pull missing).2 := by
  have hrest := h.remaining
  obtain ⟨rest, hp, hw⟩ := h.streams
  have hps : pieces.stream.Steady := by
    rw [hp]
    exact hl
  have hws : whole.stream.Steady := by
    rw [hw]
    trivial
  have hoctets : (pieces.pull missing).1 = (whole.pull missing).1 := by
    show Exchange.octets (pieces.stream.pull missing).1 = Exchange.octets (whole.stream.pull missing).1
    rw [hps.octets_pull, hws.octets_pull, hrest]
  have hpa := pieces.advances_pull missing
  have hwa := whole.advances_pull missing
  refine ⟨hoctets, ?_, ?_⟩
  · obtain ⟨left, hleft⟩ := Stream.limited_pull limit missing rest
    obtain ⟨left', hleft'⟩ := Stream.memory_pull missing rest
    have hp' : (pieces.pull missing).2.stream = .limited limit left := by
      rw [← hleft, ← hp]
      rfl
    have hw' : (whole.pull missing).2.stream = .memory left' := by
      rw [← hleft', ← hw]
      rfl
    -- both have taken the same octets off the same rest
    have hsame := hpa.remaining.symm.trans (hrest.trans hwa.remaining)
    rw [hoctets, hp', hw'] at hsame
    have heq : left = left' := List.append_cancel_left hsame
    exact ⟨left, hp', heq ▸ hw'⟩
  · rw [hpa.consumed, hwa.consumed, h.consumed, hoctets]

end Reader.Abreast

/-! ## Readings -/

/-- A size that is asked for in pieces exactly when it is asked for in memory: one that memory can be asked for, or any when the
pieces are as large as what it cannot. -/
def Stream.AskedAlike (limit size : Nat) : Prop := size < sizeLimit ∨ sizeLimit ≤ limit

instance (limit size : Nat) : Decidable (Stream.AskedAlike limit size) :=
  inferInstanceAs (Decidable (size < Stream.sizeLimit ∨ Stream.sizeLimit ≤ limit))

namespace Reading

variable {α β : Type} {limit : Nat}

/-- A reading that gives the same to readers that are abreast, and leaves them so. -/
def Blind (limit : Nat) (reading : Reading α) : Prop :=
  ∀ pieces whole : Reader, Reader.Abreast limit pieces whole →
    (reading pieces).1 = (reading whole).1 ∧ Reader.Abreast limit (reading pieces).2 (reading whole).2

theorem blind_pure (a : α) : Blind limit (pure a) := fun _ _ h => ⟨rfl, h⟩

theorem blind_throw (fault : ReadFault) : Blind limit (throw fault : Reading α) := fun _ _ h => ⟨rfl, h⟩

theorem Blind.bind {first : Reading α} {next : α → Reading β} (h : Blind limit first) (h' : ∀ a, Blind limit (next a)) :
    Blind limit (first >>= next) := by
  intro pieces whole ha
  obtain ⟨ho, hs⟩ := h pieces whole ha
  rw [bind_apply, bind_apply]
  cases hp : first pieces with
  | mk outcome after =>
    cases hw : first whole with
    | mk outcome' after' =>
      rw [hp, hw] at ho hs
      cases (ho : outcome = outcome')
      cases outcome with
      | error fault => exact ⟨rfl, hs⟩
      | ok a => exact h' a after after' hs

theorem Blind.map {reading : Reading α} (h : Blind limit reading) (f : α → β) : Blind limit (f <$> reading) := by
  intro pieces whole ha
  obtain ⟨ho, hs⟩ := h pieces whole ha
  rw [map_apply, map_apply, ho]
  exact ⟨rfl, hs⟩

/-- What was read seen as something else is a fault exactly when what was read is. -/
theorem map_eq_error_iff {f : α → β} {reading : Reading α} {reader : Reader} {fault : ReadFault} :
    ((f <$> reading) reader).1 = .error fault ↔ (reading reader).1 = .error fault := by
  rw [map_apply]
  cases (reading reader).1 <;> simp [Except.map]

end Reading

namespace Reader

variable {limit : Nat}

/-- A field of a size that both are asked for, or neither. -/
theorem blind_take (hl : 0 < limit) {size : Int} (hs : Stream.AskedAlike limit size.toNat) (field : String) :
    Reading.Blind limit (take size field) := by
  intro pieces whole h
  have hrefuses : pieces.stream.refuses size.toNat = whole.stream.refuses size.toNat := by
    obtain ⟨rest, hp, hw⟩ := h.streams
    rw [hp, hw]
    refine decide_eq_decide.mpr ?_
    rw [Stream.AskedAlike] at hs
    omega
  cases hr : whole.stream.refuses size.toNat with
  | true =>
    rw [take_of_refuses (hrefuses.trans hr), take_of_refuses hr]
    exact ⟨rfl, h⟩
  | false =>
    obtain ⟨hoctets, hafter⟩ := h.pull hl size.toNat
    rw [take_of_not_refuses (hrefuses.trans hr), take_of_not_refuses hr, hoctets]
    exact ⟨rfl, hafter⟩

theorem blind_skip (hl : 0 < limit) {size : Int} (hs : Stream.AskedAlike limit size.toNat) (field : String) :
    Reading.Blind limit (skip size field) :=
  (blind_take hl hs field).bind fun _ => Reading.blind_pure ()

theorem blind_code (hl : 0 < limit) (expected : Int) : Reading.Blind limit (code expected) := by
  have hone : Stream.AskedAlike limit (1 : Int).toNat := Or.inl (by decide)
  refine (blind_take hl hone "code").bind fun octets => ?_
  by_cases h : (Bytes.ofLittle octets : Int) ≠ expected
  · rw [if_pos h]
    exact Reading.blind_throw _
  · rw [if_neg h]
    exact Reading.blind_pure ()

/-- A size that memory cannot be asked for, but pieces can: memory turns it down, and in pieces it is called for. -/
theorem take_of_not_asked {size : Int} (hs : ¬Stream.AskedAlike limit size.toNat) {pieces whole : Reader}
    (h : Abreast limit pieces whole) (field : String) :
    (take size field whole).1 = .error .oversized ∧ (take size field pieces).1 ≠ .error .oversized := by
  obtain ⟨rest, hp, hw⟩ := h.streams
  rw [Stream.AskedAlike] at hs
  have hpieces : pieces.stream.refuses size.toNat = false := by
    rw [hp]
    exact decide_eq_false (by omega)
  have hwhole : whole.stream.refuses size.toNat = true := by
    rw [hw]
    exact decide_eq_true (by omega)
  rw [take_of_refuses hwhole, take_of_not_refuses hpieces]
  refine ⟨rfl, ?_⟩
  by_cases hlength : ((pieces.pull size.toNat).1.length : Int) = size
  · simp only [hlength, if_true]
    nofun
  · simp only [hlength, if_false]
    exact fun he => ReadFault.short_ne_oversized (Except.error.inj he)

end Reader

/-- A response is read in sizes that memory can be asked for. -/
theorem Challenge.Response.blind_read {limit : Nat} (hl : 0 < limit) : Reading.Blind limit Challenge.Response.read := by
  have hseven : Stream.AskedAlike limit (Challenge.Response.reservedLength : Int).toNat := Or.inl (by decide)
  have hseed : Stream.AskedAlike limit (Challenge.Response.seedLength : Int).toNat := Or.inl (by decide)
  have hsource : Stream.AskedAlike limit (Challenge.Response.sourceLength : Int).toNat := Or.inl (by decide)
  refine (Reader.blind_code hl _).bind fun _ => (Reader.blind_skip hl hseven _).bind fun _ => ?_
  exact (Reader.blind_take hl hseed _).bind fun _ => (Reader.blind_take hl hsource _).bind fun _ => Reading.blind_pure _

/-- The octets that a task is told to take; none when it knows by itself. -/
def Task.size : Task → Nat
  | read size _ => size.toNat
  | skip size _ => size.toNat
  | validate _ => 0
  | parse => 0

theorem Task.blind_reading {limit : Nat} (hl : 0 < limit) (task : Task) (hs : Stream.AskedAlike limit task.size) :
    Reading.Blind limit task.reading := by
  cases task with
  | read size field => exact (Reader.blind_take hl hs field).map _
  | skip size field => exact (Reader.blind_skip hl hs field).map _
  | validate code => exact (Reader.blind_code hl _).map _
  | parse => exact (Challenge.Response.blind_read hl).map _

/-- A task in a size that memory cannot be asked for, but pieces can: memory turns it down, and in pieces it is called for. -/
theorem Task.reading_of_not_asked {limit : Nat} {task : Task} (hs : ¬Stream.AskedAlike limit task.size) {pieces whole : Reader}
    (h : Reader.Abreast limit pieces whole) :
    (task.reading whole).1 = .error .oversized ∧ (task.reading pieces).1 ≠ .error .oversized := by
  have hzero : Stream.AskedAlike limit 0 := Or.inl (by decide)
  cases task with
  | read size field =>
    obtain ⟨hw, hp⟩ := Reader.take_of_not_asked hs h field
    exact ⟨Reading.map_eq_error_iff.mpr hw, fun he => hp (Reading.map_eq_error_iff.mp he)⟩
  | skip size field =>
    obtain ⟨hw, hp⟩ := Reader.take_of_not_asked hs h field
    have hskip : Reader.skip size field = (fun _ => ()) <$> Reader.take size field := (map_eq_pure_bind _ _).symm
    rw [Task.reading, hskip, Reading.map_eq_error_iff, Reading.map_eq_error_iff, ne_eq, Reading.map_eq_error_iff,
      Reading.map_eq_error_iff]
    exact ⟨hw, hp⟩
  | validate code => exact absurd hzero hs
  | parse => exact absurd hzero hs

/-- The octets that a step is told to take; none when it knows by itself. -/
def Step.size : Step → Nat
  | .task t => t.size
  | _ => 0

namespace Bench

/-- What is reported of a task. -/
theorem report_run_task (bench : Bench) (task : Task) :
    (bench.run (.task task)).1 =
      ⟨(task.reading bench.seated).1.mapError .read, Step.records (.task task) ((task.reading bench.seated).1.mapError .read),
        drawnSince bench.seated (task.reading bench.seated).2, (task.reading bench.seated).2.consumed⟩ := rfl

/-- What is reported of parsing from the source. -/
theorem report_run_parseSource (bench : Bench) :
    (bench.run .parseSource).1 =
      ⟨((Challenge.Response.read (Reader.onStream bench.source.opened)).1.map .response).mapError .read,
        Step.parseSource.records (((Challenge.Response.read (Reader.onStream bench.source.opened)).1.map .response).mapError .read),
        (Challenge.Response.read (Reader.onStream bench.source.opened)).2.drawn, bench.current.consumed⟩ := rfl

/-- Two benches on the same octets, the one in pieces and the other in memory, whose readers have counted as many. -/
structure Abreast (limit : Nat) (pieces whole : Bench) : Prop where
  sources : ∃ rest, pieces.source = .stream (.limited limit rest) ∧ whole.source = .stream (.memory rest)
  current : pieces.current.consumed = whole.current.consumed
  past : pieces.past.map Reader.consumed = whole.past.map Reader.consumed

namespace Abreast

variable {limit : Nat} {pieces whole : Bench}

/-- The readers in use stand behind the same octets. -/
theorem seated (h : Abreast limit pieces whole) : Reader.Abreast limit pieces.seated whole.seated := by
  obtain ⟨rest, hp, hw⟩ := h.sources
  rw [seated_eq hp, seated_eq hw]
  exact ⟨⟨rest, rfl, rfl⟩, h.current⟩

/-- Readers made on both stand behind the same octets. -/
theorem opened (h : Abreast limit pieces whole) :
    Reader.Abreast limit (Reader.onStream pieces.source.opened) (Reader.onStream whole.source.opened) := by
  obtain ⟨rest, hp, hw⟩ := h.sources
  rw [hp, hw]
  exact ⟨⟨rest, rfl, rfl⟩, rfl⟩

/-- Where readers that are abreast leave the streams, the sources are the same octets again. -/
theorem leftAt (h : Abreast limit pieces whole) {a b : Reader} (hr : Reader.Abreast limit a b) :
    ∃ rest, pieces.source.leftAt a.stream = .stream (.limited limit rest) ∧
      whole.source.leftAt b.stream = .stream (.memory rest) := by
  obtain ⟨_, hp, hw⟩ := h.sources
  obtain ⟨left, ha, hb⟩ := hr.streams
  rw [hp, hw, ha, hb]
  exact ⟨left, rfl, rfl⟩

/-- A reader put aside on the one bench is put aside on the other at the same place. -/
theorem past_at (h : Abreast limit pieces whole) (place : Nat) :
    pieces.past[place]?.map Reader.consumed = whole.past[place]?.map Reader.consumed := by
  rw [← List.getElem?_map, ← List.getElem?_map, h.past]

/-- A task in a size that both are asked for, or neither, is reported alike. -/
theorem run_task (h : Abreast limit pieces whole) (hl : 0 < limit) (task : Task) (hs : Stream.AskedAlike limit task.size) :
    (pieces.run (.task task)).1 = (whole.run (.task task)).1 ∧
      Abreast limit (pieces.run (.task task)).2 (whole.run (.task task)).2 := by
  obtain ⟨houtcome, hafter⟩ := task.blind_reading hl hs _ _ h.seated
  obtain ⟨octets, hp⟩ := task.conserves_reading pieces.seated
  obtain ⟨octets', hw⟩ := task.conserves_reading whole.seated
  have hdrawn : drawnSince pieces.seated (task.reading pieces.seated).2 =
      drawnSince whole.seated (task.reading whole.seated).2 := by
    rw [drawnSince_eq hp, drawnSince_eq hw, h.seated.octets_eq hafter hp hw]
  constructor
  · rw [report_run_task, report_run_task, houtcome, hdrawn, hafter.consumed]
  · exact ⟨h.leftAt hafter, hafter.consumed, h.past⟩

/-- Parsing from the source is reported alike. -/
theorem run_parseSource (h : Abreast limit pieces whole) (hl : 0 < limit) :
    (pieces.run .parseSource).1 = (whole.run .parseSource).1 ∧
      Abreast limit (pieces.run .parseSource).2 (whole.run .parseSource).2 := by
  obtain ⟨houtcome, hafter⟩ := Challenge.Response.blind_read hl _ _ h.opened
  obtain ⟨octets, hp⟩ := Challenge.Response.conserves_read (Reader.onStream pieces.source.opened)
  obtain ⟨octets', hw⟩ := Challenge.Response.conserves_read (Reader.onStream whole.source.opened)
  have hdrawn : (Challenge.Response.read (Reader.onStream pieces.source.opened)).2.drawn =
      (Challenge.Response.read (Reader.onStream whole.source.opened)).2.drawn := by
    rw [hp.drawn, hw.drawn, h.opened.octets_eq hafter hp hw]
    rfl
  constructor
  · rw [report_run_parseSource, report_run_parseSource, houtcome, hdrawn, h.current]
  · exact ⟨h.leftAt hafter, h.current, congrArg₂ List.cons hafter.consumed h.past⟩

/-- Taking up a reader again is reported alike. -/
theorem run_resume (h : Abreast limit pieces whole) (place : Nat) :
    (pieces.run (.resume place)).1 = (whole.run (.resume place)).1 ∧
      Abreast limit (pieces.run (.resume place)).2 (whole.run (.resume place)).2 := by
  have hat := h.past_at place
  cases hp : pieces.past[place]? with
  | none =>
    cases hw : whole.past[place]? with
    | none =>
      simp only [run, hp, hw, h.current]
      exact ⟨trivial, h⟩
    | some reader =>
      rw [hp, hw] at hat
      cases hat
  | some reader =>
    cases hw : whole.past[place]? with
    | none =>
      rw [hp, hw] at hat
      cases hat
    | some reader' =>
      rw [hp, hw] at hat
      have hconsumed : reader.consumed = reader'.consumed := Option.some.inj hat
      simp only [run, hp, hw, hconsumed]
      refine ⟨trivial, h.sources, hconsumed, ?_⟩
      have herase : (pieces.past.eraseIdx place).map Reader.consumed = (whole.past.eraseIdx place).map Reader.consumed := by
        rw [← List.eraseIdx_map, ← List.eraseIdx_map, h.past]
      exact congrArg₂ List.cons h.current herase

/-- Every step in a size that both are asked for, or neither, is reported alike and leaves the benches abreast. -/
theorem run_step (h : Abreast limit pieces whole) (hl : 0 < limit) (step : Step) (hs : Stream.AskedAlike limit step.size) :
    (pieces.run step).1 = (whole.run step).1 ∧ Abreast limit (pieces.run step).2 (whole.run step).2 := by
  cases step with
  | task task => exact h.run_task hl task hs
  | parseSource => exact h.run_parseSource hl
  | newReader =>
    refine ⟨rfl, h.sources, rfl, ?_⟩
    exact congrArg₂ List.cons h.current h.past
  | resume place => exact h.run_resume place
  | change edit =>
    obtain ⟨rest, hp, hw⟩ := h.sources
    have hpieces : pieces.source.change edit = .error .fixed := by rw [hp]; rfl
    have hwhole : whole.source.change edit = .error .fixed := by rw [hw]; rfl
    simp only [run, hpieces, hwhole, h.current]
    exact ⟨trivial, h⟩

/-- A step in a size that memory cannot be asked for, but pieces can, is not reported alike: memory turns it down. -/
theorem report_ne (h : Abreast limit pieces whole) (step : Step) (hs : ¬Stream.AskedAlike limit step.size) :
    (pieces.run step).1 ≠ (whole.run step).1 := by
  have hzero : Stream.AskedAlike limit 0 := Or.inl (by decide)
  cases step with
  | task task =>
    obtain ⟨hw, hp⟩ := task.reading_of_not_asked hs h.seated
    intro he
    rw [report_run_task, report_run_task, hw] at he
    exact hp (Outcome.mapError_inj (fun _ _ => Fault.read.inj) (congrArg Report.outcome he))
  | parseSource => exact absurd hzero hs
  | newReader => exact absurd hzero hs
  | resume place => exact absurd hzero hs
  | change edit => exact absurd hzero hs

end Abreast

/-- The benches on a stream in pieces and on one in memory, with a first reader each. -/
theorem abreast_ofSource (limit : Nat) (data : Bytes) :
    Abreast limit (ofSource (.stream (.limited limit data))) (ofSource (.stream (.memory data))) :=
  ⟨⟨data, rfl, rfl⟩, rfl, rfl⟩

/-- From benches that are abreast, a run is reported alike exactly when each step is. -/
theorem Abreast.runAll_eq_iff {limit : Nat} {pieces whole : Bench} (h : Abreast limit pieces whole) (hl : 0 < limit)
    (steps : List Step) :
    (pieces.runAll steps).1 = (whole.runAll steps).1 ↔ ∀ step ∈ steps, Stream.AskedAlike limit step.size := by
  induction steps generalizing pieces whole with
  | nil => simp [runAll]
  | cons step steps ih =>
    have hcons : ∀ bench : Bench, (bench.runAll (step :: steps)).1 = (bench.run step).1 :: ((bench.run step).2.runAll steps).1 :=
      fun _ => rfl
    rw [hcons, hcons, List.cons.injEq, List.forall_mem_cons]
    by_cases hs : Stream.AskedAlike limit step.size
    · obtain ⟨hreport, hafter⟩ := h.run_step hl step hs
      rw [ih hafter]
      exact ⟨fun ⟨_, hrest⟩ => ⟨hs, hrest⟩, fun ⟨_, hrest⟩ => ⟨hreport, hrest⟩⟩
    · exact ⟨fun ⟨hreport, _⟩ => absurd hreport (h.report_ne step hs), fun ⟨hasked, _⟩ => absurd hasked hs⟩

/-- Octets given in pieces are reported step by step as the same octets in memory are, with the same outcomes, records, octets
and counters, exactly when no step is told to take so many that memory cannot be asked for them. Pieces that are as large
themselves cannot be asked for them either. -/
theorem reports_in_pieces_iff (data : Bytes) (limit : Nat) (steps : List Step) (hl : 0 < limit) :
    ((ofSource (.stream (.limited limit data))).runAll steps).1 = ((ofSource (.stream (.memory data))).runAll steps).1 ↔
      ∀ step ∈ steps, Stream.AskedAlike limit step.size :=
  (abreast_ofSource limit data).runAll_eq_iff hl steps

/-- A response with an octet before it and two behind it. -/
def surrounded : Bytes := [1, 7, 0, 0, 0, 0, 0, 0, 0, 4, 3, 2, 1, 10, 0, 0, 1, 5, 6]

/-- Steps that fail and steps that do not, the last for as many octets as memory can be asked for. -/
def surroundedSteps : List Step :=
  [.task (.validate none), .parseSource, .newReader, .task (.skip (-1) "reserved"), .task (.read 0x7FFFFFFFFFFFFFFF "data")]

/-- In pieces of three octets these steps are reported as in memory. -/
theorem reports_in_pieces_of_surrounded :
    0 < 3 ∧ ((ofSource (.stream (.limited 3 surrounded))).runAll surroundedSteps).1 =
      ((ofSource (.stream (.memory surrounded))).runAll surroundedSteps).1 :=
  ⟨by decide, (reports_in_pieces_iff surrounded 3 surroundedSteps (by decide)).mpr (by decide)⟩

/-- One octet more than memory can be asked for is called for in pieces, and found missing, but not in memory. -/
theorem reports_in_pieces_differ :
    ((ofSource (.stream (.limited 1 [7]))).run (.task (.read 0x8000000000000000 "data"))).1.outcome =
        .error (.read (.truncated "data" 0x8000000000000000 1)) ∧
      ((ofSource (.stream (.memory [7]))).run (.task (.read 0x8000000000000000 "data"))).1.outcome =
        .error (.read .oversized) := by
  constructor
  · have hs : (Stream.limited 1 [7]).Steady := Nat.zero_lt_one
    have hoctets : (Reader.pull (0x8000000000000000 : Int).toNat (Reader.onStream (.limited 1 [7]))).1 = [7] :=
      hs.octets_pull 0x8000000000000000
    have htake : (Reader.take 0x8000000000000000 "data" (Reader.onStream (.limited 1 [7]))).1 =
        .error (.truncated "data" 0x8000000000000000 1) := by
      have hshort : ReadFault.short "data" 0x8000000000000000 1 = .truncated "data" 0x8000000000000000 1 :=
        ReadFault.short_of_fits (by decide +kernel) (by decide +kernel) "data"
      have hother : ¬(([7] : Bytes).length : Int) = 0x8000000000000000 := by decide
      rw [Reader.take_of_not_refuses rfl, hoctets, if_neg hother]
      exact congrArg Except.error hshort
    exact congrArg (Except.mapError Fault.read) (Reading.map_eq_error_iff.mpr htake)
  · rfl

end Bench

end Keepalive
