import Keepalive.Proofs.Bench.Position
import Mathlib.Algebra.BigOperators.Group.List.Basic

/-!
# Every octet of a shared stream is drawn once

Readers that share a stream draw octets from it step by step, in tasks that succeed or fail, through readers that are kept,
made or taken up again. Each step draws the next octets of the stream (`Bench.Draws.remaining`) and one counter grows by
them, that of a reader that was there or of one made for the step, while all others stay (`Counted`). So the octets
drawn in any run, in the order of its steps, are what the stream has lost, and the counters add up to their number
(`drawn_once`).
-/

namespace Keepalive

/-- Some counters, and what became of them when octets were counted once: one counter grew by their number, which was there
before or began at zero, and the others stayed. -/
def Counted (before after : List Nat) (octets : Nat) : Prop :=
  ∃ counter others, after.Perm ((counter + octets) :: others) ∧
    (before.Perm (counter :: others) ∨ counter = 0 ∧ before.Perm others)

/-- What is counted once adds to the sum of the counters. -/
theorem Counted.sum {before after : List Nat} {octets : Nat} (h : Counted before after octets) :
    after.sum = before.sum + octets := by
  obtain ⟨counter, others, ha, hb⟩ := h
  have hs := ha.sum_eq
  rw [List.sum_cons] at hs
  rcases hb with hb | ⟨h0, hb⟩
  · have := hb.sum_eq
    rw [List.sum_cons] at this
    omega
  · have := hb.sum_eq
    omega

/-- A task that gives octets gives those it has read. -/
theorem Task.advances_of_bytes {task : Task} {reader : Reader} {octets : Bytes}
    (h : (task.reading reader).1 = .ok (.bytes octets)) : reader.Advances (task.reading reader).2 octets := by
  cases task with
  | read size field =>
    rw [Task.reading, Reading.map_apply] at h ⊢
    obtain ⟨taken, ht, he⟩ := Outcome.map_eq_ok.mp h
    exact Answer.bytes.inj he ▸ Reader.advances_of_take ht
  | skip size field =>
    refine absurd h (Reading.map_ne_ok (fun _ => ?_) _ _)
    intro he
    cases he
  | validate code =>
    refine absurd h (Reading.map_ne_ok (fun _ => ?_) _ _)
    intro he
    cases he
  | parse =>
    refine absurd h (Reading.map_ne_ok (fun _ => ?_) _ _)
    intro he
    cases he

namespace Bench

/-- The counters of all readers made so far, those put aside included. -/
def counters (bench : Bench) : List Nat := (bench.current :: bench.past).map Reader.consumed

/-- Is the source a stream that all readers share? -/
def Shared (bench : Bench) : Prop := ∃ stream, bench.source = .stream stream

/-- What a step on a shared stream does: it draws the octets at the front of the stream and counts them once. -/
structure Draws (before : Bench) (report : Report) (after : Bench) : Prop where
  shared : after.Shared
  remaining : before.source.content = report.drawn ++ after.source.content
  counted : Counted before.counters after.counters report.drawn.length
  /-- octets that are given out are those that were drawn -/
  given : ∀ octets, report.outcome = .ok (.bytes octets) → report.drawn = octets

/-- What a reader has drawn since is what it has moved on by. -/
theorem drawnSince_eq {before after : Reader} {octets : Bytes} (h : before.Advances after octets) :
    drawnSince before after = octets := by
  rw [drawnSince, h.drawn, List.drop_left]

/-- A step that leaves the source alone and gives no octets draws none. -/
theorem draws_nothing {before after : Bench} {report : Report} (h : before.Shared) (hs : after.source = before.source)
    (hc : Counted before.counters after.counters 0) (hd : report.drawn = [])
    (ho : ∀ octets, report.outcome ≠ .ok (.bytes octets)) : Draws before report after where
  shared := by rwa [Shared, hs]
  remaining := by rw [hd, hs, List.nil_append]
  counted := by rwa [hd]
  given := fun octets h => absurd h (ho octets)

/-- On a shared stream the current reader goes on where the stream stands. -/
theorem seated_eq {bench : Bench} {stream : Stream} (h : bench.source = .stream stream) :
    bench.seated = { bench.current with stream := stream } := by
  rw [seated, h]

/-- A task leaves the stream where the current reader has left it. -/
theorem source_run_task {bench : Bench} (h : bench.Shared) (task : Task) :
    (bench.run (.task task)).2.source = .stream (task.reading bench.seated).2.stream := by
  obtain ⟨stream, hb⟩ := h
  show bench.source.leftAt (task.reading bench.seated).2.stream = _
  rw [hb]
  rfl

/-- Parsing from the source leaves the stream where the reader made for it has left it. -/
theorem source_run_parseSource {bench : Bench} (h : bench.Shared) :
    (bench.run .parseSource).2.source =
      .stream (Challenge.Response.read (Reader.onStream bench.source.opened)).2.stream := by
  obtain ⟨stream, hb⟩ := h
  show bench.source.leftAt (Challenge.Response.read (Reader.onStream bench.source.opened)).2.stream = _
  rw [hb]
  rfl

/-- A task draws what the current reader takes for it. -/
theorem draws_task {bench : Bench} (h : bench.Shared) (task : Task) :
    Draws bench (bench.run (.task task)).1 (bench.run (.task task)).2 := by
  obtain ⟨stream, hb⟩ := h
  obtain ⟨octets, ha⟩ := task.conserves_reading bench.seated
  have hdrawn : (bench.run (.task task)).1.drawn = octets := drawnSince_eq ha
  have hsource := source_run_task ⟨stream, hb⟩ task
  have hcounters : (bench.run (.task task)).2.counters =
      (bench.current.consumed + octets.length) :: bench.past.map Reader.consumed := by
    show (task.reading bench.seated).2.consumed :: _ = _
    rw [ha.consumed, seated_eq hb]
    rfl
  refine ⟨⟨_, hsource⟩, ?_, ?_, ?_⟩
  · have hr := ha.remaining
    rw [seated_eq hb] at hr
    rw [hdrawn, hsource, hb, seated_eq hb]
    exact hr
  · rw [hdrawn, hcounters]
    exact ⟨bench.current.consumed, bench.past.map Reader.consumed, List.Perm.refl _, Or.inl (List.Perm.refl _)⟩
  · intro given ho
    have hg : (task.reading bench.seated).1 = .ok (.bytes given) := Outcome.mapError_eq_ok.mp ho
    rw [hdrawn]
    exact ha.octets_unique (Task.advances_of_bytes hg)

/-- Parsing from the source draws what the reader made for it takes. -/
theorem draws_parseSource {bench : Bench} (h : bench.Shared) :
    Draws bench (bench.run .parseSource).1 (bench.run .parseSource).2 := by
  obtain ⟨octets, ha⟩ := Challenge.Response.conserves_read (Reader.onStream bench.source.opened)
  have hdrawn : (bench.run .parseSource).1.drawn = octets := ha.drawn
  have hsource := source_run_parseSource h
  have hcounters : (bench.run .parseSource).2.counters =
      bench.current.consumed :: (0 + octets.length) :: bench.past.map Reader.consumed := by
    show bench.current.consumed :: (Challenge.Response.read (Reader.onStream bench.source.opened)).2.consumed :: _ = _
    rw [ha.consumed]
    rfl
  refine ⟨⟨_, hsource⟩, ?_, ?_, ?_⟩
  · rw [hdrawn, hsource]
    exact ha.remaining
  · -- the reader that counts them was made for the step, and is put aside with the others
    rw [hdrawn, hcounters]
    exact ⟨0, bench.counters, List.Perm.swap _ _ _, Or.inr ⟨rfl, List.Perm.refl _⟩⟩
  · intro given ho
    obtain ⟨_, _, he⟩ := Outcome.map_eq_ok.mp (Outcome.mapError_eq_ok.mp ho)
    nomatch he

/-- Taking up a reader again draws nothing. -/
theorem draws_resume {bench : Bench} (h : bench.Shared) (place : Nat) :
    Draws bench (bench.run (.resume place)).1 (bench.run (.resume place)).2 := by
  cases hp : bench.past[place]? with
  | none =>
    rw [run, hp]
    refine draws_nothing h rfl ⟨_, _, List.Perm.refl _, Or.inl (List.Perm.refl _)⟩ rfl ?_
    intro octets ho
    nomatch ho
  | some reader =>
    obtain ⟨hl, rfl⟩ := List.getElem?_eq_some_iff.mp hp
    have hperm := (List.getElem_cons_eraseIdx_perm hl).map Reader.consumed
    rw [run, hp]
    refine draws_nothing h rfl ⟨bench.current.consumed, bench.past.map Reader.consumed, ?_, Or.inl (List.Perm.refl _)⟩ rfl ?_
    · exact (List.Perm.swap _ _ _).trans (hperm.cons _)
    · intro octets ho
      nomatch ho

/-- Every step on a shared stream draws the next octets and counts them once. -/
theorem draws_run {bench : Bench} (h : bench.Shared) (step : Step) : Draws bench (bench.run step).1 (bench.run step).2 := by
  cases step with
  | task task => exact draws_task h task
  | parseSource => exact draws_parseSource h
  | newReader =>
    refine draws_nothing h rfl ⟨0, bench.counters, List.Perm.refl _, Or.inr ⟨rfl, List.Perm.refl _⟩⟩ rfl ?_
    intro octets ho
    nomatch ho
  | resume place => exact draws_resume h place
  | change edit =>
    obtain ⟨stream, hb⟩ := h
    have hc : bench.source.change edit = .error .fixed := by rw [hb]; rfl
    rw [run, hc]
    refine draws_nothing ⟨stream, hb⟩ rfl ⟨_, _, List.Perm.refl _, Or.inl (List.Perm.refl _)⟩ rfl ?_
    intro octets ho
    nomatch ho

/-- The octets that the steps of a run drew, in their order. -/
def drawnBy (reports : List Report) : Bytes := reports.flatMap Report.drawn

/-- A run on a shared stream draws octets from its front and counts each of them once. -/
theorem draws_runAll {bench : Bench} (h : bench.Shared) (steps : List Step) :
    (bench.runAll steps).2.Shared ∧
      bench.source.content = drawnBy (bench.runAll steps).1 ++ (bench.runAll steps).2.source.content ∧
      (bench.runAll steps).2.counters.sum = bench.counters.sum + (drawnBy (bench.runAll steps).1).length := by
  induction steps generalizing bench with
  | nil => exact ⟨h, rfl, rfl⟩
  | cons step steps ih =>
    have hd := draws_run h step
    obtain ⟨hs, hr, hc⟩ := ih hd.shared
    have hdrawn : drawnBy (bench.runAll (step :: steps)).1 =
        (bench.run step).1.drawn ++ drawnBy ((bench.run step).2.runAll steps).1 := List.flatMap_cons
    have hlast : (bench.runAll (step :: steps)).2 = ((bench.run step).2.runAll steps).2 := rfl
    rw [hlast, hdrawn]
    refine ⟨hs, ?_, ?_⟩
    · rw [hd.remaining, hr, List.append_assoc]
    · rw [hc, hd.counted.sum, List.length_append, Nat.add_assoc]

/-- Whatever is asked of the readers of a stream, the octets that the steps drew, in the order of the steps, are what stood at
the front of the stream, and the counters of all readers made add up to their number. The next step, whatever it is and
however it ends, draws the octets that stand at the front then, and the counter of one reader grows by them. -/
theorem drawn_once (stream : Stream) (steps : List Step) :
    let run := (ofSource (.stream stream)).runAll steps
    stream.remaining = drawnBy run.1 ++ run.2.source.content ∧ run.2.counters.sum = (drawnBy run.1).length ∧
      ∀ step, Draws run.2 (run.2.run step).1 (run.2.run step).2 := by
  have hs : (ofSource (.stream stream)).Shared := ⟨stream, rfl⟩
  obtain ⟨hlast, hr, hc⟩ := draws_runAll hs steps
  have hzero : (ofSource (.stream stream)).counters.sum = 0 := rfl
  rw [hzero, Nat.zero_add] at hc
  exact ⟨hr, hc, draws_run hlast⟩

end Bench

end Keepalive
