import Keepalive.Proofs.Bench.Conservation
import Mathlib.Data.List.Induction

/-!
# Readers of octets that change

The octets of a buffer are copied by each reader when it is made. So a reader is what has become of octets that never change, by its
own tasks alone (`Life`), and neither the changes of the buffer nor the tasks of the other readers are in it. What happens on a bench
is told by the octets that the buffer has and by the lives of its readers (`Bench.History`); a step does the same to the one as to the
other (`History.run_bench`). What a reader has drawn is then the beginning of the octets that the buffer had when it was made, in any
run (`drawn_from_snapshot`).
-/

namespace Keepalive

/-- A reader of a byte string is one still after any tasks. -/
theorem Reader.Reached.tasks {data : Bytes} {reader : Reader} (h : Reached data reader) (tasks : List Task) :
    Reached data (tasks.foldl (fun reader task => (task.reading reader).2) reader) := by
  induction tasks generalizing reader with
  | nil => exact h
  | cons task tasks ih => exact ih (h.task task)

/-- A reader as it has lived: the octets that it was made of, and the tasks that it has been given since. -/
structure Life where
  origin : Bytes
  tasks : List Task

namespace Life

/-- What has become of the reader by now. -/
def reader (life : Life) : Reader := life.tasks.foldl (fun reader task => (task.reading reader).2) (Reader.ofBytes life.origin)

/-- The life that goes on with a task. -/
def given (life : Life) (task : Task) : Life := ⟨life.origin, life.tasks ++ [task]⟩

/-- A task does to the reader what it does to any. -/
theorem reader_given (life : Life) (task : Task) : (life.given task).reader = (task.reading life.reader).2 := by
  rw [reader, given, List.foldl_append]
  rfl

/-- A reader that lives is one of the octets that it was made of. -/
theorem reached (life : Life) : Reader.Reached life.origin life.reader := Reader.Reached.made.tasks life.tasks

end Life

/-- A reader of a byte string has drawn its beginning and counted what it has drawn. -/
theorem Reader.Reached.drawn_prefix {data : Bytes} {reader : Reader} (h : Reached data reader) :
    reader.drawn <+: data ∧ reader.consumed = reader.drawn.length := by
  -- behind what has been drawn stands what is left
  have hsplit : data = reader.drawn ++ reader.stream.remaining ∧ reader.consumed = reader.drawn.length := by
    induction h with
    | made => exact ⟨rfl, rfl⟩
    | @task reader task _ ih =>
      obtain ⟨octets, ha⟩ := task.conserves_reading reader
      constructor
      · rw [ha.drawn, List.append_assoc, ← ha.remaining]
        exact ih.1
      · rw [ha.consumed, ha.drawn, List.length_append, ih.2]
  exact ⟨⟨_, hsplit.1.symm⟩, hsplit.2⟩

/-- A change of a buffer leaves a buffer. -/
theorem Source.change_buffer {content : Bytes} {edit : Edit} {changed : Source} (h : (buffer content).change edit = .ok changed) :
    changed = buffer changed.content := by
  obtain ⟨octets, -, rfl⟩ := Outcome.map_eq_ok.mp h
  rfl

namespace Bench

/-- What has happened on a bench with a buffer: the octets in it now, and the lives of the reader in use and of those put aside. -/
structure History where
  content : Bytes
  current : Life
  past : List Life

namespace History

/-- The lives of all readers made so far. -/
def lives (history : History) : List Life := history.current :: history.past

/-- Nothing has happened yet but that a first reader was made. -/
def start (content : Bytes) : History := ⟨content, ⟨content, []⟩, []⟩

/-- The bench on which this has happened. -/
def bench (history : History) : Bench := ⟨.buffer history.content, history.current.reader, history.past.map Life.reader⟩

/-- What has happened after one more step: a task goes on with the life of the reader in use, a reader that is made begins one with the
octets that the buffer has then, and a change befalls the buffer alone. -/
def after (history : History) : Step → History
  | .task task => { history with current := history.current.given task }
  | .parseSource => { history with past := ⟨history.content, [.parse]⟩ :: history.past }
  | .newReader => { history with current := ⟨history.content, []⟩, past := history.current :: history.past }
  | .resume place =>
    match history.past[place]? with
    | some life => { history with current := life, past := history.current :: history.past.eraseIdx place }
    | none => history
  | .change edit =>
    match (Source.buffer history.content).change edit with
    | .ok changed => { history with content := changed.content }
    | .error _ => history

/-- The reader that parses from the buffer has lived for one task. -/
theorem reader_parse (content : Bytes) :
    (Life.mk content [.parse]).reader = (Challenge.Response.read (Reader.onStream (Source.buffer content).opened)).2 := by
  show (Task.parse.reading (Reader.ofBytes content)).2 = _
  rw [Task.reading, Reading.map_apply]
  rfl

/-- A step does to the bench what it adds to its history. -/
theorem run_bench (history : History) (step : Step) : (history.bench.run step).2 = (history.after step).bench := by
  cases step with
  | task task =>
    show Bench.mk (.buffer history.content) (task.reading history.current.reader).2 _ = _
    rw [← Life.reader_given]
    rfl
  | parseSource =>
    show Bench.mk (.buffer history.content) history.current.reader
      ((Challenge.Response.read (Reader.onStream (Source.buffer history.content).opened)).2 :: history.past.map Life.reader) = _
    rw [← reader_parse]
    rfl
  | newReader => rfl
  | resume place =>
    have hplace : history.bench.past[place]? = history.past[place]?.map Life.reader := List.getElem?_map
    rw [run, after, hplace]
    cases history.past[place]? with
    | none => rfl
    | some life =>
      rw [bench, bench, List.map_cons, List.eraseIdx_map]
      rfl
  | change edit =>
    have hsource : history.bench.source.change edit = (Source.buffer history.content).change edit := rfl
    rw [run, after, hsource]
    cases hc : (Source.buffer history.content).change edit with
    | error fault => rfl
    | ok changed =>
      rw [Source.change_buffer hc]
      rfl

/-- A run does to the bench what its steps add to its history. -/
theorem runAll_bench (history : History) (steps : List Step) :
    (history.bench.runAll steps).2 = (steps.foldl after history).bench := by
  induction steps generalizing history with
  | nil => rfl
  | cons step steps ih =>
    rw [List.foldl_cons, ← ih, ← run_bench]
    rfl

/-- A reader that is there after a step was there before, or it is made of the octets that the buffer had then. -/
theorem origin_of_lives_after {history : History} {step : Step} {life : Life} (h : life ∈ (history.after step).lives) :
    (∃ earlier ∈ history.lives, life.origin = earlier.origin) ∨ life.origin = history.content := by
  have hold : ∀ {life : Life}, life ∈ history.lives →
      (∃ earlier ∈ history.lives, life.origin = earlier.origin) ∨ life.origin = history.content := fun h => .inl ⟨_, h, rfl⟩
  cases step with
  | task task =>
    rcases List.mem_cons.mp h with rfl | h
    · exact .inl ⟨history.current, List.mem_cons_self, rfl⟩
    · exact hold (List.mem_cons_of_mem _ h)
  | parseSource =>
    rcases List.mem_cons.mp h with rfl | h
    · exact hold List.mem_cons_self
    · rcases List.mem_cons.mp h with rfl | h
      · exact .inr rfl
      · exact hold (List.mem_cons_of_mem _ h)
  | newReader =>
    rcases List.mem_cons.mp h with rfl | h
    · exact .inr rfl
    · exact hold h
  | resume place =>
    rw [after] at h
    cases hp : history.past[place]? with
    | none =>
      rw [hp] at h
      exact hold h
    | some resumed =>
      rw [hp] at h
      rcases List.mem_cons.mp h with rfl | h
      · exact hold (List.mem_cons_of_mem _ (List.mem_of_getElem? hp))
      · rcases List.mem_cons.mp h with rfl | h
        · exact hold List.mem_cons_self
        · exact hold (List.mem_cons_of_mem _ (List.mem_of_mem_eraseIdx h))
  | change edit =>
    rw [after] at h
    cases hc : (Source.buffer history.content).change edit with
    | ok changed =>
      rw [hc] at h
      exact hold h
    | error fault =>
      rw [hc] at h
      exact hold h

/-- Every reader is made of the octets that the buffer had at some point of the run. -/
theorem origin_of_lives {content : Bytes} {steps : List Step} {life : Life} (h : life ∈ (steps.foldl after (start content)).lives) :
    ∃ earlier, earlier <+: steps ∧ life.origin = (earlier.foldl after (start content)).content := by
  induction steps using List.reverseRecOn generalizing life with
  | nil => exact ⟨[], List.prefix_refl _, by rw [List.mem_singleton.mp h]; rfl⟩
  | append_singleton steps step ih =>
    rw [List.foldl_append] at h
    rcases origin_of_lives_after h with ⟨other, hm, ho⟩ | ho
    · obtain ⟨earlier, hp, hc⟩ := ih hm
      exact ⟨earlier, hp.trans (List.prefix_append _ _), ho.trans hc⟩
    · exact ⟨steps, List.prefix_append _ _, ho⟩

end History

/-- The report of a step gives the counter of the reader in use after it. -/
theorem consumed_run (bench : Bench) (step : Step) : (bench.run step).1.consumed = (bench.run step).2.current.consumed := by
  cases step with
  | resume place =>
    rw [run]
    cases bench.past[place]? <;> rfl
  | change edit =>
    rw [run]
    cases bench.source.change edit <;> rfl
  | _ => rfl

/-- A change of the source reaches no reader. -/
theorem readers_run_change (bench : Bench) (edit : Edit) :
    (bench.run (.change edit)).2.current = bench.current ∧ (bench.run (.change edit)).2.past = bench.past := by
  rw [run]
  cases bench.source.change edit with
  | ok changed => exact ⟨rfl, rfl⟩
  | error fault => exact ⟨rfl, rfl⟩

/-- A buffer can be made to hold any octets. -/
theorem exists_change (bench : Bench) {content : Bytes} (h : bench.source = .buffer content) (octets : Bytes) :
    ∃ edit, (bench.run (.change edit)).2.source = .buffer octets := by
  refine ⟨.splice 0 content.length octets, ?_⟩
  have hchange : bench.source.change (.splice 0 content.length octets) = .ok (.buffer octets) := by
    rw [h, Source.change, Edit.apply_splice_all]
    rfl
  rw [run, hchange]

/-- What a task does for the reader in use of a buffer: the octets that it draws go behind those that were drawn before, and octets
that are given out are those. The buffer and the other readers stay as they are. -/
structure Appends (before : Bench) (report : Report) (after : Bench) : Prop where
  drawn : after.current.drawn = before.current.drawn ++ report.drawn
  given : ∀ octets, report.outcome = .ok (.bytes octets) → report.drawn = octets
  source : after.source = before.source
  past : after.past = before.past

/-- Every task of a reader of a buffer goes on with what it has drawn, however it ends. -/
theorem History.appends_task (history : History) (task : Task) :
    Appends history.bench (history.bench.run (.task task)).1 (history.bench.run (.task task)).2 := by
  obtain ⟨octets, ha⟩ := task.conserves_reading history.bench.current
  have hdrawn : (history.bench.run (.task task)).1.drawn = octets := drawnSince_eq ha
  refine ⟨?_, ?_, rfl, rfl⟩
  · rw [hdrawn]
    exact ha.drawn
  · intro given ho
    have hg : (task.reading history.bench.current).1 = .ok (.bytes given) := Outcome.mapError_eq_ok.mp ho
    rw [hdrawn]
    exact ha.octets_unique (Task.advances_of_bytes hg)

/-- Whatever has been done on a bench with a buffer, in any order: what each reader has drawn is the beginning of the octets that the
buffer had when the reader was made, which was at some point of the run, and has come about by its own tasks alone. Its counter is the
number of these octets after every step. A task of the reader in use draws octets behind those, a reader made now is one of the octets
that the buffer has now, a change of the buffer reaches no reader, whatever octets it leaves in the buffer, and parsing from the buffer
gives what parsing its octets gives and moves no reader that was there. -/
theorem drawn_from_snapshot (content : Bytes) (steps : List Step) :
    let bench := ((ofSource (.buffer content)).runAll steps).2
    let history := steps.foldl History.after (.start content)
    bench = history.bench ∧
      (∀ life ∈ history.lives, life.reader.drawn <+: life.origin ∧ life.reader.consumed = life.reader.drawn.length ∧
        ∃ earlier, earlier <+: steps ∧ life.origin = ((ofSource (.buffer content)).runAll earlier).2.source.content) ∧
      (∀ step, (bench.run step).1.consumed = (bench.run step).2.current.drawn.length) ∧
      (∀ task, Appends bench (bench.run (.task task)).1 (bench.run (.task task)).2) ∧
      (bench.run .newReader).2 = ⟨bench.source, Reader.ofBytes bench.source.content, bench.current :: bench.past⟩ ∧
      (∀ edit, (bench.run (.change edit)).2.current = bench.current ∧
        (bench.run (.change edit)).2.past = bench.past) ∧
      (∀ octets, ∃ edit, (bench.run (.change edit)).2.source = .buffer octets) ∧
      (bench.run .parseSource).1.outcome =
        ((Challenge.Response.ofBytes bench.source.content).map .response).mapError .read ∧
      ∃ reader, (bench.run .parseSource).2 = ⟨bench.source, bench.current, reader :: bench.past⟩ := by
  intro bench history
  have hruns : ∀ steps, ((ofSource (.buffer content)).runAll steps).2 = (steps.foldl History.after (.start content)).bench :=
    (History.start content).runAll_bench
  have hbench : bench = history.bench := hruns steps
  rw [hbench]
  refine ⟨rfl, ?_, ?_, history.appends_task, rfl, readers_run_change _, exists_change history.bench rfl, rfl, _, rfl⟩
  · intro life hm
    obtain ⟨hdrawn, hconsumed⟩ := life.reached.drawn_prefix
    obtain ⟨earlier, hp, ho⟩ := History.origin_of_lives hm
    refine ⟨hdrawn, hconsumed, earlier, hp, ?_⟩
    rw [hruns earlier, ho]
    rfl
  · intro step
    rw [consumed_run, history.run_bench]
    exact (history.after step).current.reached.drawn_prefix.2

/-- A reader goes on with the octet that it was made of, and a fresh one has the octet that took its place. -/
example : (((ofSource (.buffer [1, 2])).runAll [.task (.read 1 "data"), .change (.replace 1 9), .task (.read 1 "data"), .newReader,
    .task (.read 2 "data")]).1.map Report.drawn) = [[1], [], [2], [], [1, 9]] := by
  cbv

end Bench

end Keepalive
