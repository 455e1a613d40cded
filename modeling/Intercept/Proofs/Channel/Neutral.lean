import Intercept.Proofs.Channel.Settle

/-!
Frames that say nothing: pings, pongs, and failures under the status of a timeout. A round that
takes up such a frame changes nothing but that the frame is gone. So a run with such frames in it is
the run without them, with some rounds more, and where a channel is left to settle nobody can tell
the two apart.
-/

namespace Intercept

def Arrival.neutral : Arrival → Bool
  | .frame (.ping _) => true
  | .frame (.pong _) => true
  | .frame (.text s) =>
    match Notice.decode s with
    | .ok (.failure status _) => status == Notice.timeout
    | _ => false
  | _ => false

/-- These are the arrivals that a loop passes over. -/
theorem Arrival.neutral_iff (x : Arrival) : x.neutral = true ↔ x.reading = .pass := by
  cases x with
  | finished => simp [neutral, reading]
  | broken text => simp [neutral, reading]
  | frame f =>
    cases f with
    | text s =>
      have ht := Arrival.reading_text s
      simp only [neutral]
      generalize (Arrival.frame (.text s)).reading = r at ht ⊢
      cases ht with
      | broken v hd => simp [hd]
      | late status payload hd hs => simp [hd, hs]
      | failure status payload hd hs => simp [hd, hs]
      | packet p hd => simp [hd]
    | binary data => simp [neutral, reading]
    | ping data => simp [neutral, reading]
    | pong data => simp [neutral, reading]
    | close => simp [neutral, reading]

namespace Channel

variable {σ : Type} {caps : Capabilities} {c : Channel σ} (hook : Hook σ)

/-- The channel without the neutral frames that are still to be read. -/
def cleared (c : Channel σ) : Channel σ :=
  { c with arrived := c.arrived.filter (!·.neutral) }

def Action.neutral : Action → Bool
  | .arrive x => x.neutral
  | _ => false

/-- One list of actions comes of the other by putting in neutral frames, at any places. -/
inductive Strewn : List Action → List Action → Prop where
  | nil : Strewn [] []
  | keep {xs ys : List Action} (x : Action) : Strewn xs ys → Strewn (x :: xs) (x :: ys)
  | insert {xs ys : List Action} {x : Arrival} :
      x.neutral = true → Strewn xs ys → Strewn xs (.arrive x :: ys)

theorem Strewn.filter_eq {xs ys : List Action} (h : Strewn xs ys) :
    ys.filter (!·.neutral) = xs.filter (!·.neutral) := by
  induction h with
  | nil => rfl
  | keep x h ih => rw [List.filter_cons, List.filter_cons, ih]
  | insert hx h ih =>
    rw [List.filter_cons_of_neg (by simpa [Action.neutral] using hx), ih]

/-! Rounds do not look at what is still to be read -/

theorem place_cleared (hc : Place caps c) : Place caps c.cleared := hc.congr rfl rfl

theorem writeAll_cleared (qs : List Queued) (c : Channel σ) :
    writeAll qs c.cleared = ((writeAll qs c).1, (writeAll qs c).2.cleared) := by
  induction qs generalizing c with
  | nil => rfl
  | cons q qs ih =>
    have hs : c.cleared.sink = c.sink := rfl
    simp only [writeAll, hs]
    split
    · rfl
    · exact ih { c with handle := { c.handle with queue := qs }, deeds := c.deeds ++ [.wrote q] }

theorem flush_cleared (c : Channel σ) : c.cleared.flush = (c.flush.1, c.flush.2.cleared) :=
  writeAll_cleared c.handle.queue c

theorem writeFirst_cleared (q : Queued) (qs : List Queued) (c : Channel σ) :
    c.cleared.writeFirst q qs = ((c.writeFirst q qs).1, (c.writeFirst q qs).2.cleared) := by
  have hs : c.cleared.sink = c.sink := rfl
  simp only [writeFirst, hs]
  split <;> rfl

theorem orFinish_cleared (r : Option Failure × Channel σ) :
    orFinish (r.1, r.2.cleared) = (orFinish r).cleared := by
  obtain ⟨f, c⟩ := r
  cases f <;> rfl

/-- A round that takes up a neutral frame clears it away. -/
theorem tick_neutral (hc : Place caps c) (ht : c.takes.any Arrival.neutral = true) :
    (c.tick hook).cleared = c.cleared := by
  rw [Option.any_eq_true] at ht
  obtain ⟨x, hx, hn⟩ := ht
  obtain ⟨rest, a, hp, hh, ha⟩ := hc.reading_of_takes hx
  rw [tick_pass hook hp hh ha (x.neutral_iff.mp hn), cleared, cleared, ha,
    List.filter_cons_of_neg (by simpa using hn)]

/-- Any other round is the same without the neutral frames. -/
theorem tick_cleared (hc : Place caps c) (ht : c.takes.any Arrival.neutral = false) :
    (c.tick hook).cleared = c.cleared.tick hook := by
  have hphase {p : Phase} (hp : c.phase = p) : c.cleared.phase = p := hp
  have hhandle {h : Handle} (hh : c.handle = h) : c.cleared.handle = h := hh
  cases hc with
  | stopping q a hp hh =>
    rw [tick_stopping hook hp hh, tick_stopping hook (hphase hp) (hhandle hh), flush_cleared]
    rfl
  | writing x q a hp hh =>
    rw [tick_writing hook hp hh, tick_writing hook (hphase hp) (hhandle hh), writeFirst_cleared,
      orFinish_cleared]
  | reading x rest a hp hh ha =>
    rw [takes_reading hp hh ha, Option.any_some] at ht
    have hclear : c.cleared.arrived = x :: rest.filter (!·.neutral) := by
      rw [cleared, ha, List.filter_cons_of_pos (by simpa using ht)]
    cases hx : x.reading with
    | pass =>
      rw [x.neutral_iff.mpr hx] at ht
      cases ht
    | halt r =>
      rw [tick_halt hook hp hh ha hx, tick_halt hook (hphase hp) (hhandle hh) hclear hx]
      rfl
    | packet p =>
      rw [tick_packet hook hp hh ha hx, tick_packet hook (hphase hp) (hhandle hh) hclear hx,
        ← orFinish_cleared, ← flush_cleared]
      rfl
  | waiting a hp hh ha =>
    have hclear : c.cleared.arrived = [] := by rw [cleared, ha, List.filter_nil]
    rw [tick_waiting hook hp hh ha, tick_waiting hook (hphase hp) (hhandle hh) hclear]
  | closing r q a hp hh =>
    rw [tick_closing hook hp hh, tick_closing hook (hphase hp) (hhandle hh)]
    rfl
  | ended r a hp hh =>
    rw [tick_ended hook hp, tick_ended hook (hphase hp)]

/-! Runs -/

/-- Whether a step is due to a neutral frame alone: it brings one, or takes one up. -/
def spent (c : Channel σ) : Action → Bool
  | .arrive x => x.neutral
  | .tick => c.takes.any Arrival.neutral
  | _ => false

theorem act_spent (hc : Place caps c) {x : Action} (hx : spent c x = true) :
    (c.act hook x).2.cleared = c.cleared := by
  cases x with
  | arrive x =>
    have hx' : x.neutral = true := hx
    simp only [act, cleared, List.filter_append]
    rw [List.filter_cons_of_neg (by simpa using hx'), List.filter_nil, List.append_nil]
  | tick => exact tick_neutral hook hc hx
  | use via s => cases hx
  | close via => cases hx
  | breakSink text => cases hx

theorem act_cleared (hc : Place caps c) {x : Action} (hx : spent c x = false) :
    (c.act hook x).2.cleared = (c.cleared.act hook x).2 := by
  cases x with
  | arrive x =>
    have hx' : x.neutral = false := hx
    simp only [act, cleared, List.filter_append]
    rw [List.filter_cons_of_pos (by simpa using hx'), List.filter_nil]
  | tick => exact tick_cleared hook hc hx
  | use via s => rfl
  | close via => rfl
  | breakSink text => rfl

def purge : Channel σ → List Action → List Action :=
  gather hook fun c x => if spent c x then [] else [x]

theorem purge_cons_spent {x : Action} (hx : spent c x = true) (xs : List Action) :
    purge hook c (x :: xs) = purge hook (c.act hook x).2 xs := by
  rw [purge, gather, if_pos hx, List.nil_append]

theorem purge_cons_kept {x : Action} (hx : spent c x = false) (xs : List Action) :
    purge hook c (x :: xs) = x :: purge hook (c.act hook x).2 xs := by
  rw [purge, gather, if_neg (by simp [hx]), List.singleton_append]

/-- A run without its neutral frames, and without the rounds that are spent on them, comes to the
same. -/
theorem run_cleared (hc : Place caps c) (xs : List Action) :
    (c.run hook xs).cleared = c.cleared.run hook (purge hook c xs) := by
  induction xs generalizing c with
  | nil => rfl
  | cons x xs ih =>
    have hnext := ih (place_act hook hc x)
    cases hx : spent c x with
    | true =>
      rw [purge_cons_spent hook hx, ← act_spent hook hc hx]
      exact hnext
    | false =>
      rw [act_cleared hook hc hx] at hnext
      rw [purge_cons_kept hook hx]
      exact hnext

def Action.outer : Action → Bool
  | .tick => false
  | _ => true

theorem spent_outer {x : Action} (hx : x.outer = true) : spent c x = x.neutral := by
  cases x with
  | tick => cases hx
  | _ => rfl

theorem purge_outer (c : Channel σ) (xs : List Action) :
    (purge hook c xs).filter (·.outer) = (xs.filter (·.outer)).filter (!·.neutral) := by
  induction xs generalizing c with
  | nil => rfl
  | cons x xs ih =>
    have hnext := ih (c.act hook x).2
    cases ho : x.outer with
    | true =>
      have hspent := spent_outer (c := c) ho
      rw [List.filter_cons_of_pos (by simpa using ho)]
      cases hn : x.neutral with
      | true =>
        rw [purge_cons_spent hook (hspent.trans hn), hnext, List.filter_cons_of_neg (by simp [hn])]
      | false =>
        rw [purge_cons_kept hook (hspent.trans hn), List.filter_cons_of_pos (by simpa using ho),
          hnext, List.filter_cons_of_pos (by simp [hn])]
    | false =>
      rw [List.filter_cons_of_neg (by simp [ho])]
      cases hs : spent c x with
      | true => rw [purge_cons_spent hook hs, hnext]
      | false =>
        rw [purge_cons_kept hook hs, List.filter_cons_of_neg (by simp [ho]), hnext]

/-! Settling -/

theorem rounds_add (m n : Nat) (c : Channel σ) :
    rounds hook (m + n) c = rounds hook n (rounds hook m c) := by
  rw [rounds, ← List.replicate_append_replicate, run_append]
  rfl

theorem purge_rounds (n : Nat) (c : Channel σ) :
    ∃ m, purge hook c (List.replicate n .tick) = List.replicate m .tick := by
  induction n generalizing c with
  | zero => exact ⟨0, rfl⟩
  | succ n ih =>
    obtain ⟨m, hm⟩ := ih (c.tick hook)
    rw [List.replicate_succ]
    cases hs : spent c .tick with
    | true => exact ⟨m, by rw [purge_cons_spent hook hs]; exact hm⟩
    | false =>
      refine ⟨m + 1, ?_⟩
      rw [purge_cons_kept hook hs, List.replicate_succ]
      exact congrArg (Action.tick :: ·) hm

theorem Place.settle (hc : Place caps c) : Place caps (c.settle hook) := by
  rw [settle_eq]
  exact hc.run hook _

theorem takes_idle (hi : Idle c) : c.takes = none := by
  cases hi with
  | waiting hp hb hq ha => simp [takes, hp, hb, hq, ha]
  | ended r hp => simp [takes, hp]

/-- However many rounds it takes to get there, there is one state in which nothing is left to do. -/
theorem settle_cleared (hc : Place caps c) : (c.settle hook).cleared = c.cleared.settle hook := by
  obtain ⟨hidle, hrest⟩ := settle_idle hook hc
  obtain ⟨-, hrest'⟩ := settle_idle hook (place_cleared hc)
  obtain ⟨m, hm⟩ := purge_rounds hook (c.handle.queue.length + c.arrived.length + 3) c
  have hleft : (c.settle hook).cleared = rounds hook m c.cleared := by
    rw [settle_eq, rounds, run_cleared hook hc, hm]
    rfl
  have hfixed : (c.settle hook).cleared.tick hook = (c.settle hook).cleared := by
    have hnone : (c.settle hook).takes.any Arrival.neutral = false := by rw [takes_idle hidle]; rfl
    rw [← tick_cleared hook (hc.settle hook) hnone, hrest]
  obtain ⟨k, hk⟩ : ∃ k, c.cleared.settle hook = rounds hook k c.cleared := ⟨_, settle_eq hook _⟩
  calc (c.settle hook).cleared
      = rounds hook k (c.settle hook).cleared := (rounds_idle hook hfixed k).symm
    _ = rounds hook m (c.cleared.settle hook) := by
      rw [hleft, hk, ← rounds_add, ← rounds_add, Nat.add_comm]
    _ = c.cleared.settle hook := rounds_idle hook hrest' m

/-- A run in which a round stands for all the rounds in which there is something to do. -/
def runSettled (c : Channel σ) (xs : List Action) : Channel σ :=
  xs.foldl (fun c x =>
    match x with
    | .tick => c.settle hook
    | x => (c.act hook x).2) c

theorem runSettled_cleared (hc : Place caps c) (xs : List Action) :
    (c.runSettled hook xs).cleared = c.cleared.runSettled hook (xs.filter (!·.neutral)) := by
  induction xs generalizing c with
  | nil => rfl
  | cons x xs ih =>
    cases hn : x.neutral with
    | true =>
      rw [List.filter_cons_of_neg (by simp [hn])]
      cases x with
      | arrive a =>
        have hsame : (c.act hook (.arrive a)).2.cleared = c.cleared := act_spent hook hc hn
        have hnext := ih (place_act hook hc (.arrive a))
        rw [hsame] at hnext
        exact hnext
      | _ => cases hn
    | false =>
      rw [List.filter_cons_of_pos (by simp [hn])]
      cases x with
      | tick =>
        have hnext := ih (hc.settle hook)
        rw [settle_cleared hook hc] at hnext
        exact hnext
      | arrive a =>
        have hsame : (c.act hook (.arrive a)).2.cleared = (c.cleared.act hook (.arrive a)).2 :=
          act_cleared hook hc hn
        have hnext := ih (place_act hook hc (.arrive a))
        rw [hsame] at hnext
        exact hnext
      | use via u => exact ih (place_act hook hc (.use via u))
      | close via => exact ih (place_act hook hc (.close via))
      | breakSink text => exact ih (place_act hook hc (.breakSink text))

/-! Any schedule with neutral frames has one without them, and the other way round -/

/-- Some rounds, and nothing neutral is in the way any more. -/
theorem clear_way (hc : Place caps c) :
    ∃ n, purge hook c (List.replicate n .tick) = [] ∧ spent (rounds hook n c) .tick = false := by
  induction hk : c.arrived.length generalizing c with
  | zero =>
    refine ⟨0, rfl, ?_⟩
    have hread := (reads_tick hook hc).arrived
    rw [List.length_eq_zero_iff.mp hk] at hread
    have hnone : c.takes = none := by
      cases ht : c.takes with
      | none => rfl
      | some x =>
        rw [ht] at hread
        cases hread
    have hspent : spent c .tick = c.takes.any Arrival.neutral := rfl
    exact hspent.trans (by rw [hnone]; rfl)
  | succ k ih =>
    cases hs : spent c .tick with
    | false => exact ⟨0, rfl, hs⟩
    | true =>
      obtain ⟨x, ht⟩ : ∃ x, c.takes = some x := by
        have hany : c.takes.any Arrival.neutral = true := hs
        cases ht : c.takes with
        | none =>
          rw [ht] at hany
          cases hany
        | some x => exact ⟨x, rfl⟩
      have hread := congrArg List.length (reads_tick hook hc).arrived
      rw [ht, hk, Option.toList_some, List.singleton_append, List.length_cons] at hread
      obtain ⟨n, hpurge, hway⟩ := ih (place_tick hook hc) (Nat.succ.inj hread).symm
      refine ⟨n + 1, ?_, hway⟩
      rw [List.replicate_succ, purge_cons_spent hook hs]
      exact hpurge

theorem purge_append (c : Channel σ) (xs ys : List Action) :
    purge hook c (xs ++ ys) = purge hook c xs ++ purge hook (c.run hook xs) ys :=
  gather_append hook _ c xs ys

theorem purge_neutral {xs : List Action} (hx : ∀ x ∈ xs, x.neutral = true) (c : Channel σ) :
    purge hook c xs = [] := by
  induction xs generalizing c with
  | nil => rfl
  | cons x xs ih =>
    obtain ⟨hhead, htail⟩ := List.forall_mem_cons.mp hx
    have hs : spent c x = true := by
      cases x with
      | arrive a => exact hhead
      | _ => cases hhead
    rw [purge_cons_spent hook hs]
    exact ih htail _

/-- Steps that are due to neutral frames alone may come before one that is not. -/
theorem purge_led {lead : List Action} (hlead : purge hook c lead = []) {x : Action}
    (hx : spent (c.run hook lead) x = false) (xs : List Action) :
    purge hook c (lead ++ x :: xs) = x :: purge hook ((c.run hook lead).act hook x).2 xs := by
  rw [purge_append, hlead, List.nil_append, purge_cons_kept hook hx]

/-- Neutral frames can be put into a run wherever the list of what comes from outside has them, if
the loop is given the rounds to pass over them. -/
theorem exists_purge (hc : Place caps c) (us : List Action) {es : List Action}
    (he : ∀ e ∈ es, e.outer = true) (hu : us.filter (·.outer) = es.filter (!·.neutral)) :
    ∃ xs, xs.filter (·.outer) = es ∧ purge hook c xs = us := by
  induction us generalizing c es with
  | nil =>
    refine ⟨es, List.filter_eq_self.mpr he, purge_neutral hook ?_ c⟩
    intro e hin
    have hnil := List.filter_eq_nil_iff.mp hu.symm e hin
    simpa using hnil
  | cons u us ih =>
    cases ho : u.outer with
    | false =>
      have hu' : u = .tick := by
        cases u with
        | tick => rfl
        | _ => cases ho
      subst hu'
      obtain ⟨n, hpurge, hway⟩ := clear_way hook hc
      have hd : Place caps (rounds hook n c) := hc.run hook _
      obtain ⟨xs, hxs, hpure⟩ := ih (place_act hook hd .tick) he hu
      refine ⟨List.replicate n .tick ++ .tick :: xs, ?_, ?_⟩
      · rw [List.filter_append, List.filter_cons_of_neg (by simp [ho]), hxs]
        simp [Action.outer]
      · exact (purge_led hook hpurge hway xs).trans (congrArg (Action.tick :: ·) hpure)
    | true =>
      rw [List.filter_cons_of_pos (by simpa using ho)] at hu
      obtain ⟨ns, es', rfl, hns, hn, hrest⟩ := List.filter_eq_cons_iff.mp hu.symm
      have hneutral : ∀ x ∈ ns, x.neutral = true := by
        intro x hx
        simpa using hns x hx
      have hd : Place caps (c.run hook ns) := hc.run hook ns
      have he' : ∀ e ∈ es', e.outer = true := by
        intro e hin
        exact he e (by simp [hin])
      obtain ⟨xs, hxs, hpure⟩ := ih (place_act hook hd u) he' hrest.symm
      refine ⟨ns ++ u :: xs, ?_, ?_⟩
      · have hns' : ns.filter (·.outer) = ns := by
          rw [List.filter_eq_self]
          intro e hin
          exact he e (by simp [hin])
        rw [List.filter_append, List.filter_cons_of_pos (by simpa using ho), hxs, hns']
      · have hs : spent (c.run hook ns) u = false := by
          rw [spent_outer ho]
          simpa using hn
        rw [purge_led hook (purge_neutral hook hneutral c) hs, hpure]

/-- Two channels of which nobody can tell one from the other. -/
structure Agree (c d : Channel σ) : Prop where
  asked : d.asked = c.asked
  written : d.written = c.written
  deeds : d.deeds = c.deeds
  handle : d.handle = c.handle
  hook : d.hook = c.hook
  phase : d.phase = c.phase
  join : d.join.1 = c.join.1

theorem join_cleared (c : Channel σ) : c.cleared.join.1 = c.join.1 := by
  have hp : c.cleared.phase = c.phase := rfl
  simp only [join, hp]
  split <;> rfl

theorem agree_of_cleared {d : Channel σ} (h : d.cleared = c.cleared) : Agree c d := by
  have hasked := congrArg Channel.asked h
  have hwritten := congrArg Channel.written h
  have hdeeds := congrArg Channel.deeds h
  have hhandle := congrArg Channel.handle h
  have hhook := congrArg Channel.hook h
  have hphase := congrArg Channel.phase h
  have hjoin : d.join.1 = c.join.1 := by rw [← join_cleared d, h, join_cleared]
  exact ⟨hasked, hwritten, hdeeds, hhandle, hhook, hphase, hjoin⟩

theorem agree_settle {d : Channel σ} (hc : Place caps c) (hd : Place caps d)
    (h : d.cleared = c.cleared) : Agree (c.settle hook) (d.settle hook) := by
  apply agree_of_cleared
  rw [settle_cleared hook hc, settle_cleared hook hd, h]

/-- What comes from outside is the same but for neutral frames. So to each schedule of the one there
is a schedule of the other that comes to the same. -/
theorem exists_schedule (caps : Capabilities) (s : σ) {xs ys : List Action}
    (h : ys.filter (!·.neutral) = xs.filter (!·.neutral)) {vs : List Action}
    (hv : vs.filter (·.outer) = ys.filter (·.outer)) :
    ∃ us, us.filter (·.outer) = xs.filter (·.outer) ∧
      ((opened caps s).run hook vs).cleared = ((opened caps s).run hook us).cleared := by
  have hplace := place_opened caps s
  have hpure : (purge hook (opened caps s) vs).filter (·.outer) =
      (xs.filter (·.outer)).filter (!·.neutral) := by
    have hcomm (zs : List Action) : (zs.filter (·.outer)).filter (!·.neutral) =
        (zs.filter (!·.neutral)).filter (·.outer) := by
      rw [List.filter_filter, List.filter_filter]
      simp only [Bool.and_comm]
    rw [purge_outer, hv, hcomm, h, ← hcomm]
  have houter : ∀ e ∈ xs.filter (·.outer), e.outer = true := by
    intro e he
    exact (List.mem_filter.mp he).2
  obtain ⟨us, hus, hpurge⟩ := exists_purge hook hplace _ houter hpure
  refine ⟨us, hus, ?_⟩
  rw [run_cleared hook hplace, run_cleared hook hplace, hpurge]

/-- Neutral frames, wherever they are put in, make no difference. Where the channel is left to
settle now and then, at any points, the two runs agree. Where the rounds fall in any other way, each
way it can go with the neutral frames is one it can go without them, and the other way round, and
the two still agree after the channel was left to settle. -/
theorem neutral_unnoticed (caps : Capabilities) (s : σ) {xs ys : List Action} (h : Strewn xs ys) :
    let c := opened caps s
    Agree (c.runSettled hook xs) (c.runSettled hook ys) ∧
    (∀ vs, vs.filter (·.outer) = ys.filter (·.outer) →
      ∃ us, us.filter (·.outer) = xs.filter (·.outer) ∧
        Agree (c.run hook us) (c.run hook vs) ∧
        Agree ((c.run hook us).settle hook) ((c.run hook vs).settle hook)) ∧
    (∀ us, us.filter (·.outer) = xs.filter (·.outer) →
      ∃ vs, vs.filter (·.outer) = ys.filter (·.outer) ∧
        Agree (c.run hook us) (c.run hook vs) ∧
        Agree ((c.run hook us).settle hook) ((c.run hook vs).settle hook)) := by
  intro c
  have hplace : Place caps c := place_opened caps s
  have hrun (zs : List Action) : Place caps (c.run hook zs) := hplace.run hook zs
  refine ⟨?_, ?_, ?_⟩
  · apply agree_of_cleared
    rw [runSettled_cleared hook hplace, runSettled_cleared hook hplace, h.filter_eq]
  · intro vs hv
    obtain ⟨us, hus, hsame⟩ := exists_schedule hook caps s h.filter_eq hv
    exact ⟨us, hus, agree_of_cleared hsame, agree_settle hook (hrun us) (hrun vs) hsame⟩
  · intro us hu
    obtain ⟨vs, hvs, hsame⟩ := exists_schedule hook caps s h.filter_eq.symm hu
    exact ⟨vs, hvs, agree_of_cleared hsame.symm, agree_settle hook (hrun us) (hrun vs) hsame.symm⟩

/-- Around the packet over which the hook closes the channel: a ping in front of it, a late answer
while the verdict is written, and a pong after the end. -/
theorem neutral_unnoticed_around :
    let hook : Hook Unit := ⟨fun s _ => .close (.done (some true, s))⟩
    let text (n : Notice) : Arrival := .frame (.text (n.encode?.getD ""))
    let late : Arrival := text (.failure Notice.timeout (.str "late"))
    let packet : Arrival := text (.packet ⟨5, "tcp", "", 1, "", [], ⟨0⟩⟩)
    let xs : List Action := [.use 0 (.filter 4 false), .arrive packet, .tick]
    let ys : List Action := [.arrive (.frame (.ping [1])), .use 0 (.filter 4 false),
      .arrive packet, .arrive late, .tick, .arrive (.frame (.pong []))]
    Strewn xs ys ∧
      ((opened { filter := true } ()).runSettled hook xs).written =
        [⟨Command.filter 4 false, false⟩, ⟨Command.filter 5 true, true⟩] ∧
      ((opened { filter := true } ()).runSettled hook ys).written =
        [⟨Command.filter 4 false, false⟩, ⟨Command.filter 5 true, true⟩] := by
  intro hook text late packet xs ys
  have hlate : late.neutral = true := by decide +kernel
  have h : Strewn xs ys :=
    .insert rfl (.keep _ (.keep _ (.insert hlate (.keep _ (.insert rfl .nil)))))
  have hwritten : ((opened { filter := true } ()).runSettled hook xs).written =
      [⟨Command.filter 4 false, false⟩, ⟨Command.filter 5 true, true⟩] := by
    decide +kernel
  obtain ⟨hagree, -⟩ := neutral_unnoticed hook { filter := true } () h
  exact ⟨h, hwritten, hagree.written.trans hwritten⟩

end Channel

end Intercept
