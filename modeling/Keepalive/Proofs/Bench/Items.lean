import Keepalive.Proofs.Bench.Conservation

/-!
# Responses one after another

On one stream stand responses back to back, with octets between them that begin none, and anything behind them. Each is
parsed by itself, through the reader in use, a fresh one, one put aside earlier or none at all (`Route`). Whatever the routes
are, and in whatever pieces the stream gives its octets, each response is read as it was sent, each other octet is refused by
itself, and what stood behind them all is left (`parseAll_items`).
-/

namespace Keepalive

/-- What stands on a stream of responses: a response, whatever its octets that mean nothing are, or an octet that begins none. -/
inductive Item where
  | response (reserved : Bytes) (response : Challenge.Response)
      (length_reserved : reserved.length = Challenge.Response.reservedLength)
  | junk (octet : UInt8) (ne_code : octet ≠ 7)

namespace Item

/-- The octets of an item: of a response the code, the octets that mean nothing, the seed and the address. -/
def octets : Item → Bytes
  | response reserved r _ => 7 :: reserved ++ (Bytes.little 4 r.seed.toNat ++ r.source.bytes)
  | junk octet _ => [octet]

/-- What comes of reading an item. -/
def outcome : Item → Except ReadFault Challenge.Response
  | response _ r _ => .ok r
  | junk octet _ => .error (.wrongCode 7 octet.toNat)

open Challenge.Response in
/-- An item is read as what it is, and no more of the stream, whatever stands behind it. -/
theorem decodes (item : Item) (rest : Bytes) : Decodes (item.octets ++ rest) item.outcome item.octets.length := by
  cases item with
  | junk octet ne_code => exact .wrongCode rfl ne_code
  | response reserved r length_reserved =>
    have hlead : (7 :: reserved).length = 8 := by rw [List.length_cons, length_reserved, reservedLength]
    have hlength : (octets (.response reserved r length_reserved)).length = 16 := by
      rw [octets, List.length_append, List.length_append, hlead, Bytes.length_little, Address.length_bytes]
    have hparts : octets (.response reserved r length_reserved) ++ rest =
        (7 :: reserved) ++ (Bytes.little 4 r.seed.toNat ++ (r.source.bytes ++ rest)) := by
      rw [octets, List.append_assoc, List.append_assoc]
    have hseed : Bytes.slice 8 4 (octets (.response reserved r length_reserved) ++ rest) = Bytes.little 4 r.seed.toNat := by
      rw [hparts]
      exact (Bytes.slice_skip hlead).trans (Bytes.slice_prefix (Bytes.length_little 4 _))
    have hsource : Bytes.slice 12 4 (octets (.response reserved r length_reserved) ++ rest) = r.source.bytes := by
      rw [hparts]
      calc _ = Bytes.slice (4 + 0) 4 (Bytes.little 4 r.seed.toNat ++ (r.source.bytes ++ rest)) := Bytes.slice_skip hlead
        _ = _ := Bytes.slice_skip (Bytes.length_little 4 _)
        _ = _ := Bytes.slice_prefix r.source.length_bytes
    rw [hlength]
    refine .response rfl ?_ ?_ ?_
    · rw [List.length_append, hlength]
      exact Nat.le_add_right 16 _
    · rw [hseed, Bytes.ofLittle_little_of_lt r.seed.toNat_lt]
    · rw [hsource, Address.ofBig_bytes]

end Item

/-- How a response is parsed from a shared stream. -/
inductive Route where
  /-- through the reader in use -/
  | kept
  /-- through a reader made for it, which is the one in use from then on -/
  | fresh
  /-- through the reader put aside at a place, which is taken up again -/
  | earlier (place : Nat)
  /-- from the stream itself -/
  | direct
  deriving DecidableEq, Repr

namespace Bench

/-- The bench with the reader of a route in use. -/
def prepared (bench : Bench) : Route → Bench
  | .kept => bench
  | .fresh => (bench.run .newReader).2
  | .earlier place => (bench.run (.resume place)).2
  | .direct => bench

/-- The step that parses by a route. -/
def parseStep : Route → Step
  | .direct => .parseSource
  | _ => .task .parse

/-- Parses once by a route. -/
def parse (bench : Bench) (route : Route) : Except Fault Answer × Bench :=
  let (report, after) := (bench.prepared route).run (parseStep route)
  (report.outcome, after)

/-- Parses once by each route, in order. -/
def parseAll (bench : Bench) : List Route → List (Except Fault Answer) × Bench
  | [] => ([], bench)
  | route :: routes =>
    let (outcome, bench) := bench.parse route
    let (outcomes, bench) := bench.parseAll routes
    (outcome :: outcomes, bench)

/-- Getting a reader ready leaves the source alone. -/
theorem source_prepared (bench : Bench) (route : Route) : (bench.prepared route).source = bench.source := by
  cases route with
  | kept => rfl
  | fresh => rfl
  | direct => rfl
  | earlier place =>
    rw [prepared, run]
    cases bench.past[place]? <;> rfl

/-- The outcome of a step that has parsed. -/
def answer (outcome : Except ReadFault Challenge.Response) : Except Fault Answer := (outcome.map Answer.response).mapError .read

/-- A step has parsed from the stream: a reader that stood where the stream stood has read a response, and the stream is left
where that reader left it. -/
def Parses (stream : Stream) (result : Except Fault Answer × Bench) : Prop :=
  ∃ reader : Reader, reader.stream = stream ∧ result.1 = answer (Challenge.Response.read reader).1 ∧
    result.2.source = .stream (Challenge.Response.read reader).2.stream

/-- The reader in use parses from where the shared stream stands, wherever it was left itself. -/
theorem parses_task {bench : Bench} {stream : Stream} (hb : bench.source = .stream stream) :
    Parses stream ((bench.run (.task .parse)).1.outcome, (bench.run (.task .parse)).2) := by
  have hreading : Task.parse.reading bench.seated =
      ((Challenge.Response.read bench.seated).1.map Answer.response, (Challenge.Response.read bench.seated).2) :=
    Reading.map_apply _ _ _
  refine ⟨bench.seated, by rw [seated_eq hb], ?_, ?_⟩
  · exact congrArg (fun outcome => outcome.1.mapError Fault.read) hreading
  · rw [source_run_task ⟨stream, hb⟩, hreading]

/-- Whatever the route, a parse starts where the shared stream stands. -/
theorem parses_parse {bench : Bench} {stream : Stream} (hb : bench.source = .stream stream) (route : Route) :
    Parses stream (bench.parse route) := by
  have hp := (source_prepared bench route).trans hb
  cases route with
  | kept => exact parses_task hp
  | fresh => exact parses_task hp
  | earlier place => exact parses_task hp
  | direct =>
    exact ⟨Reader.onStream bench.source.opened, congrArg Source.opened hb, rfl, source_run_parseSource ⟨stream, hb⟩⟩

/-- An item at the front of a steady stream is read as what it is, and what is behind it is left. -/
theorem parse_item {bench : Bench} {stream : Stream} (hb : bench.source = .stream stream) (hs : stream.Steady) {item : Item}
    {rest : Bytes} (hr : stream.remaining = item.octets ++ rest) (route : Route) :
    (bench.parse route).1 = answer item.outcome ∧
      ∃ last : Stream, (bench.parse route).2.source = .stream last ∧ last.Steady ∧ last.remaining = rest := by
  obtain ⟨reader, rfl, houtcome, hsource⟩ := parses_parse hb route
  have hd := item.decodes rest
  rw [← hr] at hd
  obtain ⟨after, ha, hread⟩ := Challenge.Response.read_of_decodes hs hd
  rw [hread] at houtcome hsource
  refine ⟨houtcome, after.stream, hsource, ha.steady hs, ?_⟩
  rw [ha.remaining_eq_drop, hr, List.drop_left]

/-- Items back to back on a steady stream are read one after another, each by the route it is given: every response as it was
sent, every other octet as a wrong code, in order and each by itself. What stands behind them is what the stream has left. -/
theorem parseAll_items (bench : Bench) (stream : Stream) (course : List (Item × Route)) (tail : Bytes)
    (hb : bench.source = .stream stream) (hs : stream.Steady)
    (hr : stream.remaining = course.flatMap (fun stop => stop.1.octets) ++ tail) :
    (bench.parseAll (course.map Prod.snd)).1 = course.map (fun stop => answer stop.1.outcome) ∧
      (bench.parseAll (course.map Prod.snd)).2.source.content = tail := by
  induction course generalizing bench stream with
  | nil => exact ⟨rfl, by rw [List.map_nil, parseAll, hb]; exact hr⟩
  | cons stop course ih =>
    rw [List.flatMap_cons, List.append_assoc] at hr
    obtain ⟨hfirst, next, hnext, hsteady, hrest⟩ := parse_item hb hs hr stop.2
    obtain ⟨hothers, hlast⟩ := ih (bench.parse stop.2).2 next hnext hsteady hrest
    exact ⟨congrArg₂ List.cons hfirst hothers, hlast⟩

/-- A response, an octet that begins none and another response, parsed by the first reader, from the stream and by a fresh
reader. -/
def course : List (Item × Route) :=
  [(.response [0, 0, 0, 0, 0, 0, 0] ⟨0x01020304, ⟨0x0A000001⟩⟩ rfl, .kept),
    (.junk 8 (by decide), .direct),
    (.response [1, 2, 3, 4, 5, 6, 7] ⟨0xFFFFFFFF, ⟨0x7F000001⟩⟩ rfl, .fresh)]

/-- The items of the course with two octets behind them, on a stream that gives three octets a call at most. -/
def courseStream : Stream := .limited 3 (course.flatMap (fun stop => stop.1.octets) ++ [7, 0])

/-- Read so, the course gives both responses and the wrong code between them, and leaves the two octets. -/
theorem parseAll_course :
    courseStream.Steady ∧
      ((ofSource (.stream courseStream)).parseAll [.kept, .direct, .fresh]).1 =
        [.ok (.response ⟨0x01020304, ⟨0x0A000001⟩⟩), .error (.read (.wrongCode 7 8)),
          .ok (.response ⟨0xFFFFFFFF, ⟨0x7F000001⟩⟩)] ∧
      ((ofSource (.stream courseStream)).parseAll [.kept, .direct, .fresh]).2.source.content = [7, 0] := by
  have hs : courseStream.Steady := Nat.zero_lt_succ 2
  exact ⟨hs, parseAll_items (ofSource (.stream courseStream)) courseStream course [7, 0] rfl hs rfl⟩

end Bench

end Keepalive
