import Intercept.Proofs.Channel.Reading
import Intercept.Proofs.Channel.Turn

/-!
The rounds of a loop. An opened channel is always in one of six places, and the place says what the
next round does. All that a round writes for a packet was put into the queue in the hook's turn, as
nothing is read while there is something to write.
-/

namespace Intercept.Channel

variable {σ : Type}

inductive Place (caps : Capabilities) (c : Channel σ) : Prop where
  | stopping (q a : List Queued) :
      c.phase = .running → c.handle = .live caps true q a → Place caps c
  | writing (x : Queued) (q a : List Queued) :
      c.phase = .running → c.handle = .live caps false (x :: q) a → Place caps c
  | reading (x : Arrival) (rest : List Arrival) (a : List Queued) :
      c.phase = .running → c.handle = .live caps false [] a → c.arrived = x :: rest → Place caps c
  | waiting (a : List Queued) :
      c.phase = .running → c.handle = .live caps false [] a → c.arrived = [] → Place caps c
  | closing (r : Except Failure Unit) (q a : List Queued) :
      c.phase = .closing r → c.handle = .live caps true q a → Place caps c
  | ended (r : Except Failure Unit) (a : List Queued) :
      c.phase = .ended r →
      c.handle = { Handle.live caps true [] a with state := .closed, received := false } →
      Place caps c

variable {caps : Capabilities} {c : Channel σ} (hook : Hook σ)

theorem Place.of_live {b : Bool} {q a : List Queued} (hp : c.phase = .running)
    (hh : c.handle = .live caps b q a) : Place caps c := by
  cases b with
  | true => exact .stopping q a hp hh
  | false =>
    cases q with
    | cons x q => exact .writing x q a hp hh
    | nil =>
      cases ha : c.arrived with
      | nil => exact .waiting a hp hh ha
      | cons x rest => exact .reading x rest a hp hh ha

/-- The place is a matter of the phase and the handle. -/
theorem Place.congr {d : Channel σ} (hc : Place caps c) (hp : d.phase = c.phase)
    (hh : d.handle = c.handle) : Place caps d := by
  cases hc with
  | stopping q a hp' hh' => exact .of_live (hp.trans hp') (hh.trans hh')
  | writing x q a hp' hh' => exact .of_live (hp.trans hp') (hh.trans hh')
  | reading x rest a hp' hh' ha => exact .of_live (hp.trans hp') (hh.trans hh')
  | waiting a hp' hh' ha => exact .of_live (hp.trans hp') (hh.trans hh')
  | closing r q a hp' hh' => exact .closing r q a (hp.trans hp') (hh.trans hh')
  | ended r a hp' hh' => exact .ended r a (hp.trans hp') (hh.trans hh')

theorem place_opened (caps : Capabilities) (s : σ) : Place caps (opened caps s) :=
  .waiting [] rfl rfl rfl

/-! Writing -/

theorem writeAll_open {qs : List Queued} (hs : c.sink = none) (hq : c.handle.queue = qs) :
    writeAll qs c = (none, { c with
      handle := { c.handle with queue := [] }
      deeds := c.deeds ++ qs.map .wrote }) := by
  induction qs generalizing c with
  | nil => rw [writeAll, List.map_nil, List.append_nil, ← hq]
  | cons q qs ih =>
    simp only [writeAll, hs]
    rw [ih rfl rfl, List.map_cons, List.append_assoc, List.singleton_append]

theorem flush_open {b : Bool} {q a : List Queued} (hs : c.sink = none)
    (hh : c.handle = .live caps b q a) :
    c.flush = (none, { c with
      handle := .live caps b [] a
      deeds := c.deeds ++ q.map .wrote }) := by
  rw [flush, writeAll_open hs rfl, hh]
  rfl

theorem flush_nil (hq : c.handle.queue = []) : c.flush = (none, c) := by
  rw [flush, hq, writeAll]

/-- The first command that cannot be written is lost, and the others stay. -/
theorem flush_broken {text : String} {b : Bool} {x : Queued} {q a : List Queued}
    (hs : c.sink = some text) (hh : c.handle = .live caps b (x :: q) a) :
    c.flush = (some (.transport text), { c with handle := .live caps b q a }) := by
  simp only [flush, hh, Handle.live_queue, writeAll, hs]
  rfl

theorem finish_live {b : Bool} {q a : List Queued} (hh : c.handle = .live caps b q a)
    (r : Except Failure Unit) :
    c.finish r = { c with handle := .live caps true q a, phase := .closing r } := by
  rw [finish, hh, Handle.close_live]
  rfl

/-! Reading -/

theorem read_pass {x : Arrival} (hx : x.reading = .pass) (hq : c.handle.queue = []) :
    read hook c x = c := by
  have hf : orFinish c.flush = c := by rw [flush_nil hq, orFinish]
  cases x with
  | finished => cases hx
  | broken text => cases hx
  | frame f =>
    cases f with
    | text s =>
      have ht := Arrival.reading_text s
      rw [hx] at ht
      cases ht with
      | late status payload hd ht => simp only [read, hearFrame, hear, hd, if_pos ht, hf]
    | ping data => exact hf
    | pong data => exact hf
    | binary data => cases hx
    | close => cases hx

theorem read_halt {x : Arrival} {r : Except Failure Unit} (hx : x.reading = .halt r) :
    read hook c x = c.finish r := by
  cases x with
  | finished => cases hx; rfl
  | broken text => cases hx; rfl
  | frame f =>
    cases f with
    | text s =>
      have ht := Arrival.reading_text s
      rw [hx] at ht
      cases ht with
      | broken v hd => simp only [read, hearFrame, hear, hd]
      | failure status payload hd ht => simp only [read, hearFrame, hear, hd, if_neg ht]
    | ping data => cases hx
    | pong data => cases hx
    | binary data => cases hx; rfl
    | close => cases hx; rfl

def turned (caps : Capabilities) (p : Packet) (a : List Queued) (c : Channel σ) : Channel σ :=
  { c with
    handle := .live caps (hook.closes caps c.hook p) (hook.queued caps c.hook p)
      (a ++ hook.queued caps c.hook p)
    hook := hook.next caps c.hook p
    deeds := c.deeds ++ [.asked p] }

theorem turned_handle (caps : Capabilities) (p : Packet) (a : List Queued) (c : Channel σ) :
    (c.turned hook caps p a).handle =
      .live caps (hook.closes caps c.hook p) (hook.queued caps c.hook p)
        (a ++ hook.queued caps c.hook p) := rfl

theorem ask_live {a : List Queued} (hh : c.handle = .live caps false [] a) (p : Packet) :
    c.ask hook p = (none, c.turned hook caps p a) := by
  simp only [ask, hh, Hook.run_decide, Handle.live_caps, Handle.put_live, turned, Hook.queued,
    Hook.reply, List.nil_append]
  split
  · simp only [List.append_assoc]
    rfl
  · simp only [List.append_nil]

theorem read_packet {x : Arrival} {p : Packet} {a : List Queued} (hx : x.reading = .packet p)
    (hh : c.handle = .live caps false [] a) :
    read hook c x = orFinish (c.turned hook caps p a).flush := by
  cases x with
  | finished => cases hx
  | broken text => cases hx
  | frame f =>
    cases f with
    | text s =>
      have ht := Arrival.reading_text s
      rw [hx] at ht
      cases ht with
      | packet p hd => simp only [read, hearFrame, hear, hd, ask_live hook hh]
    | ping data => cases hx
    | pong data => cases hx
    | binary data => cases hx
    | close => cases hx

/-! One round in each place -/

theorem tick_stopping {q a : List Queued} (hp : c.phase = .running)
    (hh : c.handle = .live caps true q a) : c.tick hook = c.flush.2.finish (.ok ()) := by
  simp [tick, hp, hh]

theorem tick_writing {x : Queued} {q a : List Queued} (hp : c.phase = .running)
    (hh : c.handle = .live caps false (x :: q) a) :
    c.tick hook = orFinish (c.writeFirst x q) := by
  simp [tick, hp, hh]

theorem writeFirst_open {x : Queued} {b : Bool} {q a : List Queued} (hs : c.sink = none)
    (hh : c.handle = .live caps b (x :: q) a) :
    c.writeFirst x q =
      (none, { c with handle := .live caps b q a, deeds := c.deeds ++ [.wrote x] }) := by
  simp only [writeFirst, hs, hh]
  rfl

theorem writeFirst_broken {text : String} {x : Queued} {b : Bool} {q a : List Queued}
    (hs : c.sink = some text) (hh : c.handle = .live caps b (x :: q) a) :
    c.writeFirst x q = (some (.transport text), { c with handle := .live caps b q a }) := by
  simp only [writeFirst, hs, hh]
  rfl

theorem tick_reading {x : Arrival} {rest : List Arrival} {a : List Queued}
    (hp : c.phase = .running) (hh : c.handle = .live caps false [] a)
    (ha : c.arrived = x :: rest) : c.tick hook = read hook { c with arrived := rest } x := by
  simp [tick, hp, hh, ha]

theorem tick_pass {x : Arrival} {rest : List Arrival} {a : List Queued}
    (hp : c.phase = .running) (hh : c.handle = .live caps false [] a)
    (ha : c.arrived = x :: rest) (hx : x.reading = .pass) :
    c.tick hook = { c with arrived := rest } := by
  rw [tick_reading hook hp hh ha, read_pass hook hx (by rw [hh, Handle.live_queue])]

theorem tick_halt {x : Arrival} {rest : List Arrival} {a : List Queued} {r : Except Failure Unit}
    (hp : c.phase = .running) (hh : c.handle = .live caps false [] a)
    (ha : c.arrived = x :: rest) (hx : x.reading = .halt r) :
    c.tick hook =
      { c with arrived := rest, handle := .live caps true [] a, phase := .closing r } := by
  rw [tick_reading hook hp hh ha, read_halt hook hx,
    finish_live (c := { c with arrived := rest }) hh]

theorem tick_packet {x : Arrival} {rest : List Arrival} {a : List Queued} {p : Packet}
    (hp : c.phase = .running) (hh : c.handle = .live caps false [] a)
    (ha : c.arrived = x :: rest) (hx : x.reading = .packet p) :
    c.tick hook = orFinish (turned hook caps p a { c with arrived := rest }).flush := by
  rw [tick_reading hook hp hh ha, read_packet hook (c := { c with arrived := rest }) hx hh]

theorem tick_waiting {a : List Queued} (hp : c.phase = .running)
    (hh : c.handle = .live caps false [] a) (ha : c.arrived = []) : c.tick hook = c := by
  simp [tick, hp, hh, ha]

theorem tick_shut {r : Except Failure Unit} (hp : c.phase = .closing r) :
    c.tick hook = { c with
      handle := { c.handle with state := .closed, received := false, queue := [] }
      phase := .ended r } := by
  simp only [tick, hp]

theorem tick_closing {r : Except Failure Unit} {q a : List Queued} (hp : c.phase = .closing r)
    (hh : c.handle = .live caps true q a) :
    c.tick hook = { c with
      handle := { Handle.live caps true [] a with state := .closed, received := false }
      phase := .ended r } := by
  rw [tick_shut hook hp, hh]
  rfl

theorem tick_ended {r : Except Failure Unit} (hp : c.phase = .ended r) : c.tick hook = c := by
  simp only [tick, hp]

/-! The places a channel comes to -/

theorem place_finish {b : Bool} {q a : List Queued} (hh : c.handle = .live caps b q a)
    (r : Except Failure Unit) : Place caps (c.finish r) := by
  rw [finish_live hh]
  exact .closing r q a rfl rfl

/-- A flush takes commands from the front of the queue, and leaves the rest. -/
theorem flush_suffix {b : Bool} {q a : List Queued} (hh : c.handle = .live caps b q a) :
    ∃ f q' ds, c.flush = (f, { c with handle := .live caps b q' a, deeds := ds }) ∧ q' <:+ q := by
  rcases Option.eq_none_or_eq_some c.sink with hs | ⟨text, hs⟩
  · exact ⟨none, [], c.deeds ++ q.map .wrote, flush_open hs hh, List.nil_suffix⟩
  · cases q with
    | nil =>
      exact ⟨none, [], c.deeds, by rw [flush_nil (by rw [hh, Handle.live_queue]), ← hh],
        List.suffix_refl _⟩
    | cons x q =>
      exact ⟨some (.transport text), q, c.deeds, flush_broken hs hh, List.suffix_cons x q⟩

theorem flush_live {b : Bool} {q a : List Queued} (hh : c.handle = .live caps b q a) :
    ∃ f q' ds, c.flush = (f, { c with handle := .live caps b q' a, deeds := ds }) := by
  obtain ⟨f, q', ds, hf, -⟩ := flush_suffix hh
  exact ⟨f, q', ds, hf⟩

theorem place_orFinish {f : Option Failure} {b : Bool} {q a : List Queued}
    (hp : c.phase = .running) (hh : c.handle = .live caps b q a) :
    Place caps (orFinish (f, c)) := by
  cases f with
  | none => exact .of_live hp hh
  | some f => exact place_finish hh _

theorem place_tick (hc : Place caps c) : Place caps (c.tick hook) := by
  cases hc with
  | stopping q a hp hh =>
    obtain ⟨f, q', ds, hf⟩ := flush_live hh
    rw [tick_stopping hook hp hh, hf]
    exact place_finish rfl _
  | writing x q a hp hh =>
    rw [tick_writing hook hp hh]
    rcases Option.eq_none_or_eq_some c.sink with hs | ⟨text, hs⟩
    · rw [writeFirst_open hs hh]
      exact place_orFinish hp rfl
    · rw [writeFirst_broken hs hh]
      exact place_orFinish hp rfl
  | reading x rest a hp hh ha =>
    cases hx : x.reading with
    | pass =>
      rw [tick_pass hook hp hh ha hx]
      exact .of_live hp hh
    | halt r =>
      rw [tick_halt hook hp hh ha hx]
      exact .closing r [] a rfl rfl
    | packet p =>
      obtain ⟨f, q, ds, hf⟩ :=
        flush_live (turned_handle hook caps p a { c with arrived := rest })
      rw [tick_packet hook hp hh ha hx, hf]
      exact place_orFinish hp rfl
  | waiting a hp hh ha =>
    rw [tick_waiting hook hp hh ha]
    exact .waiting a hp hh ha
  | closing r q a hp hh =>
    rw [tick_closing hook hp hh]
    exact .ended r a rfl rfl
  | ended r a hp hh =>
    rw [tick_ended hook hp]
    exact .ended r a hp hh

end Intercept.Channel
