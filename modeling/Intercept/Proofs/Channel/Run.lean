import Intercept.Proofs.Channel.Place
import Mathlib.Data.List.Induction

/-!
Runs of a channel: uses of its handle, arrivals and rounds in any order. What has arrived is taken
up in that order, and each packet among it is put to the hook once. A result stays.
-/

namespace Intercept

def Deed.packet? : Deed → Option Packet
  | .asked p => some p
  | .wrote _ => none

def Deed.queued? : Deed → Option Queued
  | .asked _ => none
  | .wrote q => some q

namespace Channel

variable {σ : Type} {caps : Capabilities} {c : Channel σ} (hook : Hook σ)

/-! Deeds -/

theorem asked_eq (c : Channel σ) : c.asked = c.deeds.filterMap Deed.packet? := rfl

theorem written_eq (c : Channel σ) : c.written = c.deeds.filterMap Deed.queued? := rfl

theorem packets_wrote (qs : List Queued) : (qs.map Deed.wrote).filterMap Deed.packet? = [] := by
  rw [List.filterMap_map]
  exact List.filterMap_eq_nil_iff.mpr fun q _ => rfl

theorem queued_wrote (qs : List Queued) : (qs.map Deed.wrote).filterMap Deed.queued? = qs := by
  rw [List.filterMap_map]
  exact List.filterMap_some

theorem packets_turn (p : Packet) (qs : List Queued) :
    (Deed.asked p :: qs.map .wrote).filterMap Deed.packet? = [p] :=
  congrArg (p :: ·) (packets_wrote qs)

theorem queued_turn (p : Packet) (qs : List Queued) :
    (Deed.asked p :: qs.map .wrote).filterMap Deed.queued? = qs :=
  queued_wrote qs

/-! Uses of the handle between the rounds -/

theorem send_dead {h : Handle} (hd : h.isAlive = false) (s : Sending) :
    ∃ f, h.send s = .error f := by
  rw [Handle.send, hd]
  cases h.caps.has s.capability with
  | false => exact ⟨_, rfl⟩
  | true => exact ⟨_, rfl⟩

theorem act_use_error {via : Nat} {s : Sending} {f : Failure} (hs : c.handle.send s = .error f) :
    c.act hook (.use via s) = (.error f, c) := by
  simp only [act, Handle.use, hs]

theorem Place.open_or_dead (hc : Place caps c) :
    (∃ q a, c.phase = .running ∧ c.handle = .live caps false q a) ∨ c.handle.isAlive = false := by
  cases hc with
  | stopping q a hp hh => exact .inr (by rw [hh, Handle.isAlive_live]; rfl)
  | writing x q a hp hh => exact .inl ⟨x :: q, a, hp, hh⟩
  | reading x rest a hp hh ha => exact .inl ⟨[], a, hp, hh⟩
  | waiting a hp hh ha => exact .inl ⟨[], a, hp, hh⟩
  | closing r q a hp hh => exact .inr (by rw [hh, Handle.isAlive_live]; rfl)
  | ended r a hp hh => exact .inr (by rw [hh]; rfl)

/-- A send is refused and changes nothing, or it stands at the end of the queue of an open
channel. -/
theorem act_use (hc : Place caps c) (via : Nat) (s : Sending) :
    (∃ f, c.act hook (.use via s) = (.error f, c)) ∨
    ∃ q a, c.phase = .running ∧ c.handle = .live caps false q a ∧
      c.act hook (.use via s) = (.ok (), { c with
        handle := .live caps false (q ++ [⟨s.command, false⟩]) (a ++ [⟨s.command, false⟩]) }) := by
  rcases hc.open_or_dead with ⟨q, a, hp, hh⟩ | hd
  · rcases Handle.send_live_or caps false s with ⟨f, hf⟩ | hs
    · exact .inl ⟨f, act_use_error hook (by rw [hh, hf])⟩
    · exact .inr ⟨q, a, hp, hh, by simp only [act, Handle.use, hh, hs]⟩
  · obtain ⟨f, hf⟩ := send_dead hd s
    exact .inl ⟨f, act_use_error hook hf⟩

theorem act_close (via : Nat) :
    c.act hook (.close via) = (.ok (), { c with handle := c.handle.close }) := rfl

theorem place_close (hc : Place caps c) : Place caps { c with handle := c.handle.close } := by
  have live {b : Bool} {q a : List Queued} (hp : c.phase = .running)
      (hh : c.handle = .live caps b q a) : Place caps { c with handle := c.handle.close } :=
    .stopping q a hp (by rw [hh, Handle.close_live])
  cases hc with
  | stopping q a hp hh => exact live hp hh
  | writing x q a hp hh => exact live hp hh
  | reading x rest a hp hh ha => exact live hp hh
  | waiting a hp hh ha => exact live hp hh
  | closing r q a hp hh => exact .closing r q a hp (by rw [hh, Handle.close_live])
  | ended r a hp hh => exact .ended r a hp (by rw [hh]; rfl)

theorem place_act (hc : Place caps c) (x : Action) : Place caps (c.act hook x).2 := by
  cases x with
  | use via s =>
    rcases act_use hook hc via s with ⟨f, hf⟩ | ⟨q, a, hp, hh, hs⟩
    · rw [hf]
      exact hc
    · rw [hs]
      exact .of_live hp rfl
  | close via => exact place_close hc
  | arrive x => exact hc.congr rfl rfl
  | breakSink text => exact hc.congr rfl rfl
  | tick => exact place_tick hook hc

/-! Runs -/

theorem run_append (c : Channel σ) (xs ys : List Action) :
    c.run hook (xs ++ ys) = (c.run hook xs).run hook ys := List.foldl_append

theorem run_snoc (c : Channel σ) (xs : List Action) (x : Action) :
    c.run hook (xs ++ [x]) = ((c.run hook xs).act hook x).2 := run_append hook c xs [x]

theorem place_run (caps : Capabilities) (s : σ) (xs : List Action) :
    Place caps ((opened caps s).run hook xs) := by
  induction xs using List.reverseRecOn with
  | nil => exact place_opened caps s
  | append_singleton xs x ih =>
    rw [run_snoc]
    exact place_act hook ih x

theorem Place.run (hc : Place caps c) (ys : List Action) : Place caps (c.run hook ys) := by
  induction ys using List.reverseRecOn with
  | nil => exact hc
  | append_singleton ys y ih =>
    rw [run_snoc]
    exact place_act hook ih y

/-- What a run shows when each of its steps shows something. -/
def gather {α : Type} (f : Channel σ → Action → List α) : Channel σ → List Action → List α
  | _, [] => []
  | c, x :: xs => f c x ++ gather f (c.act hook x).2 xs

theorem gather_append {α : Type} (f : Channel σ → Action → List α) (c : Channel σ)
    (xs ys : List Action) :
    gather hook f c (xs ++ ys) = gather hook f c xs ++ gather hook f (c.run hook xs) ys := by
  induction xs generalizing c with
  | nil => rfl
  | cons x xs ih =>
    rw [List.cons_append, gather, ih, gather, List.append_assoc]
    rfl

theorem gather_snoc {α : Type} (f : Channel σ → Action → List α) (c : Channel σ)
    (xs : List Action) (x : Action) :
    gather hook f c (xs ++ [x]) = gather hook f c xs ++ f (c.run hook xs) x := by
  rw [gather_append, gather, gather, List.append_nil]

/-- What the next round takes up: only an open channel with nothing to write reads. -/
def takes (c : Channel σ) : Option Arrival :=
  match c.phase with
  | .running =>
    if c.handle.cancelled || !c.handle.queue.isEmpty then none else c.arrived.head?
  | _ => none

def arrivals (xs : List Action) : List Arrival :=
  xs.filterMap fun
    | .arrive x => some x
    | _ => none

theorem arrivals_append (xs ys : List Action) : arrivals (xs ++ ys) = arrivals xs ++ arrivals ys :=
  List.filterMap_append

def takenBy (c : Channel σ) : Action → List Arrival
  | .tick => c.takes.toList
  | _ => []

def taken : Channel σ → List Action → List Arrival := gather hook takenBy

theorem taken_snoc (c : Channel σ) (xs : List Action) (x : Action) :
    taken hook c (xs ++ [x]) = taken hook c xs ++ takenBy (c.run hook xs) x :=
  gather_snoc hook takenBy c xs x

theorem takes_live {b : Bool} {q a : List Queued} (hp : c.phase = .running)
    (hh : c.handle = .live caps b q a) :
    c.takes = if b || !q.isEmpty then none else c.arrived.head? := by
  simp only [takes, hp, hh, Handle.live_cancelled, Handle.live_queue]

theorem takes_reading {x : Arrival} {rest : List Arrival} {a : List Queued}
    (hp : c.phase = .running) (hh : c.handle = .live caps false [] a)
    (ha : c.arrived = x :: rest) : c.takes = some x := by
  rw [takes_live hp hh, ha]
  rfl

theorem Place.reading_of_takes (hc : Place caps c) {x : Arrival} (ht : c.takes = some x) :
    ∃ rest a, c.phase = .running ∧ c.handle = .live caps false [] a ∧ c.arrived = x :: rest := by
  cases hc with
  | stopping q a hp hh =>
    rw [takes_live hp hh] at ht
    cases ht
  | writing y q a hp hh =>
    rw [takes_live hp hh] at ht
    cases ht
  | reading y rest a hp hh ha =>
    rw [takes_reading hp hh ha] at ht
    cases ht
    exact ⟨rest, a, hp, hh, ha⟩
  | waiting a hp hh ha =>
    rw [takes_live hp hh, ha] at ht
    cases ht
  | closing r q a hp hh =>
    rw [takes, hp] at ht
    cases ht
  | ended r a hp hh =>
    rw [takes, hp] at ht
    cases ht

structure Same (c d : Channel σ) : Prop where
  arrived : d.arrived = c.arrived
  sink : d.sink = c.sink
  joined : d.joined = c.joined
  hook : d.hook = c.hook
  asked : d.asked = c.asked

theorem Same.trans {d e : Channel σ} (h : Same c d) (h' : Same d e) : Same c e :=
  ⟨h'.arrived.trans h.arrived, h'.sink.trans h.sink, h'.joined.trans h.joined,
    h'.hook.trans h.hook, h'.asked.trans h.asked⟩

theorem same_wrote (h : Handle) (q : Queued) :
    Same c { c with handle := h, deeds := c.deeds ++ [.wrote q] } :=
  ⟨rfl, rfl, rfl, rfl, by rw [asked_eq, List.filterMap_append]; exact List.append_nil _⟩

theorem same_writeAll (qs : List Queued) : Same c (writeAll qs c).2 := by
  induction qs generalizing c with
  | nil => exact ⟨rfl, rfl, rfl, rfl, rfl⟩
  | cons q qs ih =>
    simp only [writeAll]
    split
    · exact ⟨rfl, rfl, rfl, rfl, rfl⟩
    · exact (same_wrote _ q).trans ih

theorem same_writeFirst (q : Queued) (qs : List Queued) : Same c (c.writeFirst q qs).2 := by
  simp only [writeFirst]
  split
  · exact ⟨rfl, rfl, rfl, rfl, rfl⟩
  · exact same_wrote _ q

theorem same_orFinish (r : Option Failure × Channel σ) : Same r.2 (orFinish r) := by
  obtain ⟨f, c⟩ := r
  cases f <;> exact ⟨rfl, rfl, rfl, rfl, rfl⟩

/-- A round reads what it takes up and leaves the rest. A packet is put to the hook, and nothing
else is. -/
structure Reads (caps : Capabilities) (c d : Channel σ) : Prop where
  arrived : c.arrived = c.takes.toList ++ d.arrived
  sink : d.sink = c.sink
  joined : d.joined = c.joined
  hook : d.hook = hook.after caps c.hook (c.takes.toList.filterMap Arrival.packet?)
  asked : d.asked = c.asked ++ c.takes.toList.filterMap Arrival.packet?

theorem reads_nothing {d : Channel σ} (ht : c.takes = none) (h : Same c d) :
    Reads hook caps c d := by
  refine ⟨?_, h.sink, h.joined, ?_, ?_⟩
  · rw [ht, h.arrived]
    rfl
  · rw [ht, h.hook]
    rfl
  · rw [ht, h.asked]
    exact (List.append_nil _).symm

theorem reads_other {d : Channel σ} {x : Arrival} {rest : List Arrival} (ht : c.takes = some x)
    (ha : c.arrived = x :: rest) (hx : x.packet? = none) (h : Same { c with arrived := rest } d) :
    Reads hook caps c d := by
  have hn : [x].filterMap Arrival.packet? = [] := List.filterMap_cons_none hx
  refine ⟨?_, h.sink, h.joined, ?_, ?_⟩
  · rw [ht, h.arrived]
    exact ha
  · rw [ht, h.hook, Option.toList_some, hn]
    rfl
  · rw [ht, h.asked, Option.toList_some, hn, List.append_nil]
    rfl

theorem reads_packet {d : Channel σ} {x : Arrival} {rest : List Arrival} {p : Packet}
    {a : List Queued} (ht : c.takes = some x) (ha : c.arrived = x :: rest)
    (hx : x.packet? = some p) (h : Same (turned hook caps p a { c with arrived := rest }) d) :
    Reads hook caps c d := by
  have hn : [x].filterMap Arrival.packet? = [p] := List.filterMap_cons_some hx
  refine ⟨?_, h.sink, h.joined, ?_, ?_⟩
  · rw [ht, h.arrived]
    exact ha
  · rw [ht, h.hook, Option.toList_some, hn]
    rfl
  · rw [ht, h.asked, Option.toList_some, hn, asked_eq, turned, List.filterMap_append]
    rfl

theorem reads_tick (hc : Place caps c) : Reads hook caps c (c.tick hook) := by
  cases hc with
  | stopping q a hp hh =>
    rw [tick_stopping hook hp hh]
    refine reads_nothing hook (by rw [takes_live hp hh]; rfl) ?_
    exact (same_writeAll _).trans ⟨rfl, rfl, rfl, rfl, rfl⟩
  | writing x q a hp hh =>
    rw [tick_writing hook hp hh]
    refine reads_nothing hook (by rw [takes_live hp hh]; rfl) ?_
    exact (same_writeFirst x q).trans (same_orFinish _)
  | reading x rest a hp hh ha =>
    have ht := takes_reading hp hh ha
    cases hx : x.reading with
    | pass =>
      rw [tick_pass hook hp hh ha hx]
      exact reads_other hook ht ha (Arrival.packet?_pass hx) ⟨rfl, rfl, rfl, rfl, rfl⟩
    | halt r =>
      rw [tick_halt hook hp hh ha hx]
      exact reads_other hook ht ha (Arrival.packet?_halt hx) ⟨rfl, rfl, rfl, rfl, rfl⟩
    | packet p =>
      rw [tick_packet hook hp hh ha hx]
      exact reads_packet hook ht ha (Arrival.packet?_packet hx)
        ((same_writeAll _).trans (same_orFinish _))
  | waiting a hp hh ha =>
    rw [tick_waiting hook hp hh ha]
    exact reads_nothing hook (by rw [takes_live hp hh, ha]; rfl) ⟨rfl, rfl, rfl, rfl, rfl⟩
  | closing r q a hp hh =>
    rw [tick_closing hook hp hh]
    exact reads_nothing hook (by rw [takes, hp]) ⟨rfl, rfl, rfl, rfl, rfl⟩
  | ended r a hp hh =>
    rw [tick_ended hook hp]
    exact reads_nothing hook (by rw [takes, hp]) ⟨rfl, rfl, rfl, rfl, rfl⟩

/-- What has arrived was taken up, in this order, or was not read yet. -/
theorem arrivals_eq (caps : Capabilities) (s : σ) (xs : List Action) :
    arrivals xs = taken hook (opened caps s) xs ++ ((opened caps s).run hook xs).arrived := by
  induction xs using List.reverseRecOn with
  | nil => rfl
  | append_singleton xs x ih =>
    have hc := place_run hook caps s xs
    rw [arrivals_append, ih, taken_snoc, run_snoc, List.append_assoc, List.append_assoc]
    congr 1
    cases x with
    | tick =>
      have hn : arrivals [.tick] = [] := rfl
      rw [hn, List.append_nil]
      exact (reads_tick hook hc).arrived
    | arrive x => rfl
    | _ => exact List.append_nil _

/-- The hook was asked about each packet that was taken up, once and in this order, and nothing else
has changed its state. -/
theorem asked_run (caps : Capabilities) (s : σ) (xs : List Action) :
    ((opened caps s).run hook xs).asked =
        (taken hook (opened caps s) xs).filterMap Arrival.packet? ∧
      ((opened caps s).run hook xs).hook =
        hook.after caps s ((taken hook (opened caps s) xs).filterMap Arrival.packet?) := by
  induction xs using List.reverseRecOn with
  | nil => exact ⟨rfl, rfl⟩
  | append_singleton xs x ih =>
    rw [run_snoc, taken_snoc, List.filterMap_append, Hook.after_append, ← ih.2, ← ih.1]
    cases x with
    | tick =>
      have h := reads_tick hook (place_run hook caps s xs)
      exact ⟨h.asked, h.hook⟩
    | _ => exact ⟨(List.append_nil _).symm, rfl⟩

def Over (r : Except Failure Unit) (c : Channel σ) : Prop :=
  c.phase = .closing r ∨ c.phase = .ended r

theorem not_running_of_over {r : Except Failure Unit} (ho : Over r c) : c.phase ≠ .running := by
  rcases ho with h | h <;> rw [h] <;> exact nofun

theorem takes_over {r : Except Failure Unit} (ho : Over r c) : c.takes = none := by
  rcases ho with h | h <;> rw [takes, h]

theorem over_tick {r : Except Failure Unit} (ho : Over r c) :
    Over r (c.tick hook) ∧ (c.tick hook).deeds = c.deeds ∧ (c.tick hook).hook = c.hook := by
  rcases ho with h | h
  · rw [tick_shut hook h]
    exact ⟨.inr rfl, rfl, rfl⟩
  · rw [tick_ended hook h]
    exact ⟨.inr h, rfl, rfl⟩

/-- A result stays, and with it everything that others have seen. -/
theorem over_act {r : Except Failure Unit} (ho : Over r c) (x : Action) :
    Over r (c.act hook x).2 ∧ (c.act hook x).2.deeds = c.deeds := by
  cases x with
  | use via s => exact ⟨ho, rfl⟩
  | close via => exact ⟨ho, rfl⟩
  | arrive x => exact ⟨ho, rfl⟩
  | breakSink text => exact ⟨ho, rfl⟩
  | tick =>
    obtain ⟨ho', hd, -⟩ := over_tick hook ho
    exact ⟨ho', hd⟩

theorem over_run {r : Except Failure Unit} (ho : Over r c) (ys : List Action) :
    Over r (c.run hook ys) ∧ (c.run hook ys).deeds = c.deeds := by
  induction ys using List.reverseRecOn with
  | nil => exact ⟨ho, rfl⟩
  | append_singleton ys y ih =>
    rw [run_snoc]
    obtain ⟨ho', hd⟩ := over_act hook ih.1 y
    exact ⟨ho', hd.trans ih.2⟩

end Channel

end Intercept
