import Intercept.Proofs.Channel.Cells

/-!
The life of a channel, as the holders of its handle see it at every moment of a run: between the
steps, and in a hook's turn between the calls of the hook. It only goes forward, and a channel whose
life is over gets nothing more to send.
-/

namespace Intercept

namespace Channel

open Handle

variable {σ : Type} {caps : Capabilities} {c : Channel σ} (hook : Hook σ)

/-! One step -/

theorem finish_writes (c : Channel σ) (r : Except Failure Unit) :
    (c.finish r).handle = c.handle.close.write .closing := rfl

def Phase.isEnded : Phase → Bool
  | .ended _ => true
  | _ => false

/-- Between two steps of a run no close is halfway done, and the state tells whether the loop has
ended. -/
theorem Place.whole (hc : Place caps c) :
    c.handle.Whole ∧ (c.handle.state = .closed ↔ Phase.isEnded c.phase = true) := by
  have live {b : Bool} {q a : List Queued} (hh : c.handle = .live caps b q a)
      (hp : Phase.isEnded c.phase = false) :
      c.handle.Whole ∧ (c.handle.state = .closed ↔ Phase.isEnded c.phase = true) := by
    rw [hh, hp]
    refine ⟨whole_live caps b q a, ?_⟩
    cases b <;> simp [Handle.live]
  cases hc with
  | stopping q a hp hh => exact live hh (by rw [hp]; rfl)
  | writing x q a hp hh => exact live hh (by rw [hp]; rfl)
  | reading x rest a hp hh ha => exact live hh (by rw [hp]; rfl)
  | waiting a hp hh ha => exact live hh (by rw [hp]; rfl)
  | closing r q a hp hh => exact live hh (by rw [hp]; rfl)
  | ended r a hp hh =>
    rw [hh, hp]
    exact ⟨⟨by simp, by simp [Handle.live]⟩, by simp [Phase.isEnded]⟩

theorem later_finish {b : Bool} {q a : List Queued} (hh : c.handle = .live caps b q a)
    (r : Except Failure Unit) : Later c.handle (c.finish r).handle := by
  have hs : c.handle.close.state ≠ .closed := by
    rw [hh, close_live]
    exact nofun
  rw [finish_writes]
  exact (later_close c.handle).trans (later_closing hs)

theorem later_orFinish (f : Option Failure) {b : Bool} {q a : List Queued}
    (hh : c.handle = .live caps b q a) (q' a' : List Queued) :
    Later (.live caps b q' a') (orFinish (f, c)).handle := by
  have hsame : Later (.live caps b q' a') c.handle := by
    rw [hh]
    exact later_live id
  cases f with
  | none => exact hsame
  | some f => exact hsame.trans (later_finish hh _)

theorem later_flush {b : Bool} {q a : List Queued} (hh : c.handle = .live caps b q a) :
    Later c.handle (orFinish c.flush).handle ∧ (orFinish c.flush).handle.accepted = a := by
  obtain ⟨f, q', ds, hf⟩ := flush_live hh
  rw [hf, hh]
  refine ⟨later_orFinish f rfl q a, ?_⟩
  cases f <;> rfl

/-- In the round of a packet the hook's turn comes first. What the channel has accepted after the
round is what it had accepted after the turn, and its own verdict. -/
theorem turn_tick (hc : Place caps c) {p : Packet} (hp : c.takes.bind Arrival.packet? = some p) :
    Later ((hook.decide c.hook p).run c.handle).2 (c.tick hook).handle ∧
      (c.tick hook).handle.accepted =
        ((hook.decide c.hook p).run c.handle).2.accepted ++ hook.reply caps c.hook p := by
  obtain ⟨x, ht, hx⟩ := Option.bind_eq_some_iff.mp hp
  obtain ⟨rest, a, hrun, hh, ha⟩ := hc.reading_of_takes ht
  have hread : x.reading = .packet p := by
    unfold Arrival.packet? at hx
    split at hx
    · next hr => rw [hr, Option.some.inj hx]
    · cases hx
  obtain ⟨hlater, haccepted⟩ :=
    later_flush (turned_handle hook caps p a { c with arrived := rest })
  have hturn := hook.run_decide caps c.hook p [] a
  rw [← hh] at hturn
  rw [tick_packet hook hrun hh ha hread, hturn]
  refine ⟨(later_live id).trans hlater, ?_⟩
  rw [haccepted, Hook.queued, ← List.append_assoc]
  rfl

theorem later_tick (hc : Place caps c) : Later c.handle (c.tick hook).handle := by
  cases hc with
  | stopping q a hp hh =>
    obtain ⟨f, q', ds, hf⟩ := flush_live hh
    rw [tick_stopping hook hp hh, hf, finish_live rfl, hh]
    exact later_live id
  | writing x q a hp hh =>
    rw [tick_writing hook hp hh]
    rcases Option.eq_none_or_eq_some c.sink with hs | ⟨text, hs⟩
    · rw [writeFirst_open hs hh, hh]
      exact later_live id
    · rw [writeFirst_broken hs hh, hh]
      exact later_orFinish _ rfl _ _
  | reading x rest a hp hh ha =>
    cases hx : x.reading with
    | pass =>
      rw [tick_pass hook hp hh ha hx]
      exact Later.refl _
    | halt r =>
      rw [tick_halt hook hp hh ha hx, hh]
      exact later_live fun _ => rfl
    | packet p =>
      have hbind : c.takes.bind Arrival.packet? = some p := by
        rw [takes_reading hp hh ha]
        exact Arrival.packet?_packet hx
      have hturn := (turn_tick hook (.reading x rest a hp hh ha) hbind).1
      refine Later.trans ?_ hturn
      obtain ⟨l, hl⟩ := Script.handles_last (hook.decide c.hook p) c.handle
      exact Script.later_handles (hook.decide c.hook p) c.handle _ (by rw [hl]; simp)
  | waiting a hp hh ha =>
    rw [tick_waiting hook hp hh ha]
    exact Later.refl _
  | closing r q a hp hh =>
    rw [tick_shut hook hp]
    exact ⟨(later_closed c.handle).state, id⟩
  | ended r a hp hh =>
    rw [tick_ended hook hp]
    exact Later.refl _

theorem later_act (hc : Place caps c) (x : Action) : Later c.handle (c.act hook x).2.handle := by
  cases x with
  | use via s =>
    rcases act_use hook hc via s with ⟨f, hf⟩ | ⟨q, a, -, hh, hs⟩
    · rw [hf]
      exact Later.refl _
    · rw [hs, hh]
      exact later_live id
  | close via => exact later_close c.handle
  | arrive x => exact Later.refl _
  | breakSink text => exact Later.refl _
  | tick => exact later_tick hook hc

/-! A channel that is not alive -/

theorem dead_use (hd : c.handle.isAlive = false) (via : Nat) (s : Sending) :
    (c.act hook (.use via s)).2 = c := by
  obtain ⟨f, hf⟩ := send_dead hd s
  rw [act_use_error hook hf]

theorem dead_close (hc : Place caps c) (hd : c.handle.isAlive = false) (via : Nat) :
    (c.act hook (.close via)).2 = c := by
  rw [act_close, hc.whole.1.close_dead hd]

theorem dead_tick (hc : Place caps c) (hd : c.handle.isAlive = false) :
    (c.tick hook).handle.accepted = c.handle.accepted ∧
      (c.tick hook).handle.queue <:+ c.handle.queue := by
  have alive {q a : List Queued} (hh : c.handle = .live caps false q a) : False := by
    rw [hh, isAlive_live] at hd
    cases hd
  cases hc with
  | stopping q a hp hh =>
    obtain ⟨f, q', ds, hf, hsuffix⟩ := flush_suffix hh
    rw [tick_stopping hook hp hh, hf, finish_live rfl, hh]
    exact ⟨rfl, hsuffix⟩
  | writing x q a hp hh => exact (alive hh).elim
  | reading x rest a hp hh ha => exact (alive hh).elim
  | waiting a hp hh ha => exact (alive hh).elim
  | closing r q a hp hh =>
    rw [tick_closing hook hp hh, hh]
    exact ⟨rfl, List.nil_suffix⟩
  | ended r a hp hh =>
    rw [tick_ended hook hp]
    exact ⟨rfl, List.suffix_refl _⟩

theorem dead_act (hc : Place caps c) (hd : c.handle.isAlive = false) (x : Action) :
    (c.act hook x).2.handle.accepted = c.handle.accepted ∧
      (c.act hook x).2.handle.queue <:+ c.handle.queue := by
  cases x with
  | use via s =>
    rw [dead_use hook hd]
    exact ⟨rfl, List.suffix_refl _⟩
  | close via =>
    rw [dead_close hook hc hd]
    exact ⟨rfl, List.suffix_refl _⟩
  | arrive x => exact ⟨rfl, List.suffix_refl _⟩
  | breakSink text => exact ⟨rfl, List.suffix_refl _⟩
  | tick => exact dead_tick hook hc hd

/-- Nothing is put into the queue any more. -/
theorem dead_run (hc : Place caps c) (hd : c.handle.isAlive = false) (ys : List Action) :
    (c.run hook ys).handle.isAlive = false ∧
      (c.run hook ys).handle.accepted = c.handle.accepted ∧
      (c.run hook ys).handle.queue <:+ c.handle.queue := by
  induction ys using List.reverseRecOn with
  | nil => exact ⟨hd, rfl, List.suffix_refl _⟩
  | append_singleton ys y ih =>
    obtain ⟨hdead, haccepted, hqueue⟩ := ih
    have hplace := hc.run hook ys
    obtain ⟨haccepted', hqueue'⟩ := dead_act hook hplace hdead y
    rw [run_snoc]
    exact ⟨(later_act hook hplace y).dead hdead, haccepted'.trans haccepted, hqueue'.trans hqueue⟩

/-! What is seen in a run -/

/-- What a holder of a handle can see at some moment, and whether the loop has ended by then. -/
structure Moment where
  handle : Handle
  ended : Bool

def moment (c : Channel σ) : Moment := ⟨c.handle, Phase.isEnded c.phase⟩

/-- The moments of a hook's turn, in which the hook has the handle. -/
def inTurn (c : Channel σ) : Action → List Moment
  | .tick =>
    match c.takes.bind Arrival.packet? with
    | some p => ((hook.decide c.hook p).handles c.handle).map fun g => { c.moment with handle := g }
    | none => []
  | _ => []

/-- The moments of a run: its beginning, and for each step those of a hook's turn in it and its
end. -/
def moments (c : Channel σ) (xs : List Action) : List Moment :=
  c.moment :: gather hook (fun c x => inTurn hook c x ++ [(c.act hook x).2.moment]) c xs

theorem moments_snoc (c : Channel σ) (xs : List Action) (x : Action) :
    moments hook c (xs ++ [x]) = moments hook c xs ++
      (inTurn hook (c.run hook xs) x ++ [((c.run hook xs).act hook x).2.moment]) := by
  rw [moments, gather_snoc]
  rfl

def Moment.Forward (m n : Moment) : Prop := Later m.handle n.handle

structure Moment.Sound (m : Moment) : Prop where
  whole : m.handle.Whole
  closed : m.handle.state = .closed ↔ m.ended = true

theorem sound_moment (hc : Place caps c) : c.moment.Sound := ⟨hc.whole.1, hc.whole.2⟩

/-- In a turn the loop has not ended, and the hook does not change that. -/
theorem sound_handles (x : Script (Option Bool × σ)) {h : Handle} (hw : h.Whole)
    (hs : h.state ≠ .closed) : ∀ g ∈ x.handles h, g.Whole ∧ g.state ≠ .closed := by
  refine Script.handles_keep ?_ ?_ x ⟨hw, hs⟩
  · intro k s g hk hsend
    rw [send_eq_ok hsend]
    exact ⟨⟨hk.1.begun, hk.1.cancelled⟩, hk.2⟩
  · intro k hk
    refine ⟨hk.1.close, ?_⟩
    have hne := hk.2
    unfold Handle.close
    cases hstate : k.state <;> simp_all

theorem inTurn_eq (c : Channel σ) (x : Action) :
    inTurn hook c x = [] ∨ ∃ p, x = .tick ∧ c.takes.bind Arrival.packet? = some p ∧
      inTurn hook c x =
        ((hook.decide c.hook p).handles c.handle).map fun g => { c.moment with handle := g } := by
  cases x with
  | tick =>
    cases hp : c.takes.bind Arrival.packet? with
    | none => exact .inl (by simp only [inTurn, hp])
    | some p => exact .inr ⟨p, rfl, rfl, by simp only [inTurn, hp]⟩
  | _ => exact .inl rfl

/-- The turn of a hook falls between the beginning of the round and its end. -/
theorem inTurn_between (hc : Place caps c) (x : Action) :
    (inTurn hook c x).Pairwise Moment.Forward ∧
      ∀ m ∈ inTurn hook c x, m.Sound ∧ Later c.handle m.handle ∧
        Later m.handle (c.act hook x).2.handle := by
  rcases inTurn_eq hook c x with hnone | ⟨p, rfl, hp, hturn⟩
  · rw [hnone]
    exact ⟨List.Pairwise.nil, List.forall_mem_nil _⟩
  · obtain ⟨y, ht, -⟩ := Option.bind_eq_some_iff.mp hp
    obtain ⟨rest, a, hrun, hh, -⟩ := hc.reading_of_takes ht
    have hnot : c.handle.state ≠ .closed := by
      rw [hh]
      exact nofun
    have hgoing : c.moment.ended = false := by
      rw [moment, hrun]
      rfl
    rw [hturn]
    refine ⟨?_, ?_⟩
    · rw [List.pairwise_map]
      exact Script.handles_forward _ _
    · intro m hm
      obtain ⟨g, hg, rfl⟩ := List.mem_map.mp hm
      obtain ⟨hwhole, hopen⟩ := sound_handles (hook.decide c.hook p) hc.whole.1 hnot g hg
      refine ⟨⟨hwhole, by simp [hopen, hgoing]⟩, Script.later_handles _ _ g hg, ?_⟩
      exact (Script.later_run _ _ g hg).trans (turn_tick hook hc hp).1

theorem moments_run (caps : Capabilities) (s : σ) (xs : List Action) :
    (moments hook (opened caps s) xs).Pairwise Moment.Forward ∧
      ∀ m ∈ moments hook (opened caps s) xs,
        m.Sound ∧ Later m.handle ((opened caps s).run hook xs).handle := by
  induction xs using List.reverseRecOn with
  | nil =>
    refine ⟨List.pairwise_singleton _ _, ?_⟩
    intro m hm
    rw [List.mem_singleton.mp hm]
    exact ⟨sound_moment (place_opened caps s), Later.refl _⟩
  | append_singleton xs x ih =>
    obtain ⟨hforward, hall⟩ := ih
    have hc := place_run hook caps s xs
    obtain ⟨hturn, hbetween⟩ := inTurn_between hook hc x
    have hstep := later_act hook hc x
    have hnew : ∀ m ∈ inTurn hook ((opened caps s).run hook xs) x ++
        [(((opened caps s).run hook xs).act hook x).2.moment],
        m.Sound ∧ Later ((opened caps s).run hook xs).handle m.handle ∧
          Later m.handle (((opened caps s).run hook xs).act hook x).2.handle := by
      intro m hm
      rcases List.mem_append.mp hm with hm | hm
      · exact hbetween m hm
      · rw [List.mem_singleton.mp hm]
        exact ⟨sound_moment (place_act hook hc x), hstep, Later.refl _⟩
    rw [moments_snoc, run_snoc]
    refine ⟨?_, ?_⟩
    · rw [List.pairwise_append, List.pairwise_append]
      refine ⟨hforward, ⟨hturn, List.pairwise_singleton _ _, ?_⟩, ?_⟩
      · intro m hm n hn
        rw [List.mem_singleton.mp hn]
        exact (hbetween m hm).2.2
      · intro m hm n hn
        exact (hall m hm).2.trans (hnew n hn).2.1
    · intro m hm
      rcases List.mem_append.mp hm with hm | hm
      · exact ⟨(hall m hm).1, (hall m hm).2.trans hstep⟩
      · exact ⟨(hnew m hm).1, (hnew m hm).2.2⟩

/-- At every moment of every run the state only moves forward, the channel is alive exactly while
the state is open, and never again once it was not; the state is closed exactly when the loop has
ended. Closing ends life. Whatever code runs with a handle that is not alive leaves it as it is, so
a second close changes nothing and no send is accepted. From then on the loop only takes out of the
queue; what it still puts there is its own verdict, in the round in which the hook has closed the
channel.

The moments of a run lie between its steps and between the calls that a hook makes in its turn.
Inside one close there is another: it cancels first, and between its two writes the state is open
though the channel is not alive. The last part is about all orders in which the single writes of
closes and of the loop can come: the state only moves forward, it is open as long as closes have
made no more than their first writes, and the channel is cancelled from the first of these on. -/
theorem life_forward (caps : Capabilities) (s : σ) (xs : List Action) :
    let c := (opened caps s).run hook xs
    (moments hook (opened caps s) xs).Pairwise (fun m n =>
      m.handle.state.rank ≤ n.handle.state.rank ∧
        (m.handle.isAlive = false → n.handle.isAlive = false)) ∧
    (∀ m ∈ moments hook (opened caps s) xs,
      m.handle.state ≠ .connecting ∧ (m.handle.isAlive = true ↔ m.handle.state = .opened) ∧
      (m.handle.state = .closed ↔ m.ended = true) ∧ m.handle.close.isAlive = false ∧
      (m.handle.isAlive = false →
        m.handle.close = m.handle ∧ (∀ u, ∃ f, m.handle.send u = .error f) ∧
          ∀ (α : Type) (x : Script α), (x.run m.handle).2 = m.handle)) ∧
    (c.handle.isAlive = false →
      (∀ via u, (c.act hook (.use via u)).2 = c) ∧ (∀ via, (c.act hook (.close via)).2 = c) ∧
      ∀ ys, (c.run hook ys).handle.accepted = c.handle.accepted ∧
        (c.run hook ys).handle.queue <:+ c.handle.queue) ∧
    (∀ p, c.takes.bind Arrival.packet? = some p →
      (c.tick hook).handle.accepted =
        ((hook.decide c.hook p).run c.handle).2.accepted ++ hook.reply caps c.hook p) ∧
    ∀ ws : List Write, ¬ [Write.closed, .closing].Sublist ws →
      let h := ws.foldl write (detached caps)
      ((detached caps).trail ws).Pairwise (fun g k =>
        g.state.rank ≤ k.state.rank ∧ (g.isAlive = false → k.isAlive = false)) ∧
      h.state ≠ .connecting ∧ (h.state = .opened ↔ ∀ w ∈ ws, w = .cancel) ∧
      (h.state = .closed ↔ .closed ∈ ws) ∧ (h.cancelled = true ↔ .cancel ∈ ws) := by
  intro c
  have hc : Place caps c := place_run hook caps s xs
  obtain ⟨hforward, hall⟩ := moments_run hook caps s xs
  refine ⟨?_, ?_, ?_, ?_, ?_⟩
  · apply hforward.imp
    intro m n hmn
    exact ⟨hmn.state, hmn.dead⟩
  · intro m hm
    obtain ⟨⟨hwhole, hclosed⟩, -⟩ := hall m hm
    refine ⟨hwhole.begun, hwhole.alive_iff, hclosed, isAlive_close m.handle, ?_⟩
    intro hd
    refine ⟨hwhole.close_dead hd, send_dead hd, ?_⟩
    intro α x
    exact x.run_dead hwhole hd
  · intro hd
    refine ⟨dead_use hook hd, dead_close hook hc hd, ?_⟩
    intro ys
    exact (dead_run hook hc hd ys).2
  · intro p hp
    exact (turn_tick hook hc hp).2
  · intro ws hws h
    refine ⟨?_, foldl_write caps hws⟩
    have htrail := trail_forward (h := detached caps) hws nofun
    apply htrail.imp
    intro g k hgk
    exact ⟨hgk.state, hgk.dead⟩

end Channel

end Intercept
