import Intercept.Proofs.Channel.Steady

/-!
Verdicts. The deeds of a loop fall into turns. A packet is asked about, what the hook has sent for
it is written and after that the verdict, and then what others have queued. Only after all this the
next packet is asked about, whatever the hook has done in its turn.
-/

namespace Intercept

namespace Hook

variable {σ : Type} (hook : Hook σ) (caps : Capabilities)

def replies : σ → List Packet → List Queued
  | _, [] => []
  | s, p :: ps => hook.reply caps s p ++ replies (hook.next caps s p) ps

theorem replies_snoc (s : σ) (ps : List Packet) (p : Packet) :
    hook.replies caps s (ps ++ [p]) =
      hook.replies caps s ps ++ hook.reply caps (hook.after caps s ps) p := by
  induction ps generalizing s with
  | nil => exact List.append_nil _
  | cons x ps ih =>
    rw [List.cons_append, replies, ih, replies, List.append_assoc]
    rfl

theorem own_reply {s : σ} {p : Packet} {q : Queued} (hq : q ∈ hook.reply caps s p) :
    q.own = true := by
  rw [reply] at hq
  split at hq
  · rw [List.mem_singleton.mp hq]
  · cases hq

/-- In a turn it is the reply alone that the channel says itself. -/
theorem own_queued (s : σ) (p : Packet) :
    (hook.queued caps s p).filter (·.own) = hook.reply caps s p := by
  have hsent : (hook.sent caps s p).filter (·.own) = [] :=
    List.filter_eq_nil_iff.mpr fun q hq => by rw [Script.not_own hq]; exact Bool.false_ne_true
  have hreply : (hook.reply caps s p).filter (·.own) = hook.reply caps s p :=
    List.filter_eq_self.mpr fun q hq => hook.own_reply caps hq
  rw [queued, List.filter_append, hsent, hreply, List.nil_append]

end Hook

namespace Channel

variable {σ : Type} {caps : Capabilities} {c : Channel σ} {s : σ} (hook : Hook σ)

/-- Deeds in turns, from a first state of the hook on. Others come in only between the turns. -/
inductive Turns (caps : Capabilities) (s : σ) : List Deed → Prop where
  | start : Turns caps s []
  | other {ds : List Deed} (q : Queued) :
      Turns caps s ds → q.own = false → Turns caps s (ds ++ [.wrote q])
  | turn {ds : List Deed} (p : Packet) :
      Turns caps s ds →
      Turns caps s (ds ++ .asked p ::
        (hook.queued caps (hook.after caps s (ds.filterMap Deed.packet?)) p).map .wrote)

theorem turns_others {ds : List Deed} (ht : Turns hook caps s ds) {qs : List Queued}
    (hq : ∀ q ∈ qs, q.own = false) : Turns hook caps s (ds ++ qs.map .wrote) := by
  induction qs generalizing ds with
  | nil => rwa [List.map_nil, List.append_nil]
  | cons q qs ih =>
    have h := ih (ht.other q (hq q List.mem_cons_self)) fun x hx => hq x (List.mem_cons_of_mem q hx)
    rwa [List.append_assoc] at h

/-- The channel itself says nothing but its replies, in the order of the packets. -/
theorem own_turns {ds : List Deed} (ht : Turns hook caps s ds) :
    (ds.filterMap Deed.queued?).filter (·.own) =
      hook.replies caps s (ds.filterMap Deed.packet?) := by
  induction ht with
  | start => rfl
  | other q _ hq ih =>
    have hp : [Deed.wrote q].filterMap Deed.packet? = [] := rfl
    have hown : ([Deed.wrote q].filterMap Deed.queued?).filter (·.own) = [] :=
      List.filter_cons_of_neg (by rw [hq]; exact Bool.false_ne_true)
    rw [List.filterMap_append, List.filter_append, ih, hown, List.filterMap_append, hp,
      List.append_nil, List.append_nil]
  | turn p _ ih =>
    rw [List.filterMap_append, List.filter_append, ih, List.filterMap_append, queued_turn,
      packets_turn, Hook.own_queued, Hook.replies_snoc]

/-- After a question stands all that its turn has to say, then what others say, then the next
question. -/
def Answers (caps : Capabilities) (t : σ) (p : Packet) (after : List Deed) : Prop :=
  ∃ others rest, (∀ q ∈ others, q.own = false) ∧ (∀ d ∈ rest.head?, ∃ p', d = .asked p') ∧
    after = (hook.sent caps t p ++ hook.reply caps t p ++ others).map .wrote ++ rest

theorem answers_other {t : σ} {p : Packet} {after : List Deed} {q : Queued}
    (h : Answers hook caps t p after) (hq : q.own = false) :
    Answers hook caps t p (after ++ [.wrote q]) := by
  obtain ⟨others, rest, ho, hr, rfl⟩ := h
  cases rest with
  | nil =>
    refine ⟨others ++ [q], [], ?_, nofun, ?_⟩
    · intro x hx
      rcases List.mem_append.mp hx with hx | hx
      · exact ho x hx
      · rw [List.mem_singleton.mp hx, hq]
    · simp only [List.map_append, List.append_nil, List.append_assoc, List.map_cons, List.map_nil]
  | cons d rest => exact ⟨others, d :: (rest ++ [.wrote q]), ho, hr, by simp⟩

theorem answers_asked {t : σ} {p x : Packet} {after ws : List Deed}
    (h : Answers hook caps t p after) : Answers hook caps t p (after ++ .asked x :: ws) := by
  obtain ⟨others, rest, ho, hr, rfl⟩ := h
  refine ⟨others, rest ++ .asked x :: ws, ho, ?_, List.append_assoc _ _ _⟩
  cases rest with
  | nil => exact fun d hd => ⟨x, (Option.mem_some.mp hd).symm⟩
  | cons d rest => exact hr

theorem asked_not_wrote {before after : List Deed} {p : Packet} {qs : List Queued} :
    qs.map Deed.wrote ≠ before ++ .asked p :: after := by
  intro h
  have hm : Deed.asked p ∈ qs.map Deed.wrote := h ▸ List.mem_append_right _ List.mem_cons_self
  obtain ⟨q, -, hq⟩ := List.mem_map.mp hm
  cases hq

/-- A question before the last command stands before it in what was there without it. -/
theorem asked_before_wrote {ds before after : List Deed} {p : Packet} {q : Queued}
    (h : ds ++ [.wrote q] = before ++ .asked p :: after) :
    ∃ early, ds = before ++ .asked p :: early ∧ after = early ++ [.wrote q] := by
  rcases List.eq_nil_or_concat after with rfl | ⟨early, d, rfl⟩
  · have hlast := (List.append_inj' h rfl).2
    cases hlast
  · rw [List.concat_eq_append, ← List.cons_append, ← List.append_assoc] at h
    obtain ⟨hds, hlast⟩ := List.append_inj' h rfl
    cases hlast
    exact ⟨early, hds, List.concat_eq_append⟩

/-- A question is that of the last turn, or stands before it. -/
theorem asked_in_turn {ds before after : List Deed} {p x : Packet} {qs : List Queued}
    (h : ds ++ .asked x :: qs.map .wrote = before ++ .asked p :: after) :
    (ds = before ∧ x = p ∧ after = qs.map .wrote) ∨
      ∃ early, ds = before ++ .asked p :: early ∧ after = early ++ .asked x :: qs.map .wrote := by
  rcases List.append_eq_append_iff.mp h with ⟨mid, hb, hm⟩ | ⟨mid, hd, hm⟩
  · cases mid with
    | nil =>
      obtain ⟨hx, ha⟩ := List.cons.inj hm
      cases hx
      exact .inl ⟨by rw [hb, List.append_nil], rfl, ha.symm⟩
    | cons d mid => exact absurd (List.cons.inj hm).2 asked_not_wrote
  · cases mid with
    | nil =>
      obtain ⟨hx, ha⟩ := List.cons.inj hm
      cases hx
      exact .inl ⟨by rw [hd, List.append_nil], rfl, ha⟩
    | cons d mid =>
      obtain ⟨hx, ha⟩ := List.cons.inj hm
      exact .inr ⟨mid, hx ▸ hd, ha⟩

/-- Every question is answered before the next one. -/
theorem answers_turns {ds : List Deed} (ht : Turns hook caps s ds) {before after : List Deed}
    {p : Packet} (hd : ds = before ++ .asked p :: after) :
    Answers hook caps (hook.after caps s (before.filterMap Deed.packet?)) p after := by
  induction ht generalizing after with
  | start => exact absurd hd (by simp)
  | other q _ hq ih =>
    obtain ⟨early, hds, rfl⟩ := asked_before_wrote hd
    exact answers_other hook (ih hds) hq
  | turn x _ ih =>
    rcases asked_in_turn hd with ⟨rfl, rfl, rfl⟩ | ⟨early, hds, rfl⟩
    · exact ⟨[], [], nofun, nofun, by rw [List.append_nil, List.append_nil]; rfl⟩
    · exact answers_asked hook (ih hds)

/-- Between two rounds everything that was asked is answered, and only others stand in the
queue. -/
structure Answered (caps : Capabilities) (s : σ) (c : Channel σ) : Prop where
  turns : Turns hook caps s c.deeds
  state : c.hook = hook.after caps s c.asked
  others : ∀ q ∈ c.handle.queue, q.own = false

theorem answered_opened (caps : Capabilities) (s : σ) :
    Answered hook caps s (opened caps s) :=
  ⟨.start, rfl, nofun⟩

theorem answered_tick (hc : Steady caps c) (ha : Answered hook caps s c) :
    Answered hook caps s (c.tick hook) := by
  have hr := reads_tick hook hc.place
  have state : (c.tick hook).hook = hook.after caps s (c.tick hook).asked := by
    rw [hr.hook, hr.asked, ha.state, Hook.after_append]
  cases (round_tick hook hc).1 with
  | turn p a ht hh hd hq =>
    refine ⟨?_, state, by rw [hq]; exact nofun⟩
    rw [hd, ha.state]
    exact ha.turns.turn p
  | write qs ht hd hq =>
    have hown : ∀ q ∈ qs ++ (c.tick hook).handle.queue, q.own = false := hq ▸ ha.others
    refine ⟨?_, state, fun q h => hown q (List.mem_append_right qs h)⟩
    rw [hd]
    exact turns_others hook ha.turns fun q h => hown q (List.mem_append_left _ h)

theorem answered_act (hc : Steady caps c) (ha : Answered hook caps s c) (x : Action) :
    Answered hook caps s (c.act hook x).2 := by
  cases x with
  | use via y =>
    rcases act_use hook hc.place via y with ⟨f, hf⟩ | ⟨q, a, -, hh, hq⟩
    · rw [hf]
      exact ha
    · rw [hq]
      refine ⟨ha.turns, ha.state, ?_⟩
      intro x hx
      have hin : x ∈ q ∨ x = ⟨y.command, false⟩ := by simpa using hx
      rcases hin with hin | rfl
      · exact ha.others x (by rw [hh]; exact hin)
      · rfl
  | tick => exact answered_tick hook hc ha
  | _ => exact ⟨ha.turns, ha.state, ha.others⟩

theorem answered_run (caps : Capabilities) (s : σ) {xs : List Action}
    (hw : ∀ text, Action.breakSink text ∉ xs) :
    Answered hook caps s ((opened caps s).run hook xs) :=
  run_induction hook (P := fun _ d => Answered hook caps s d) (answered_opened hook caps s)
    (fun hc ha => answered_act hook hc ha _) (steady_opened caps s) hw

/-- Each packet that was taken up was asked about once and in order, and nothing else has changed
the hook. Behind the question stands what the hook sent for the packet, then the verdict if the
service waits for one, and up to the next question only what others have sent, whether or not the
hook fell apart or closed the channel. The channel itself says nothing else. -/
theorem asked_and_answered (caps : Capabilities) (s : σ) (xs : List Action)
    (hw : ∀ text, Action.breakSink text ∉ xs) :
    let c := (opened caps s).run hook xs
    arrivals xs = taken hook (opened caps s) xs ++ c.arrived ∧
    c.asked = (taken hook (opened caps s) xs).filterMap Arrival.packet? ∧
    c.hook = hook.after caps s c.asked ∧
    (∀ before p after, c.deeds = before ++ .asked p :: after →
      Answers hook caps (hook.after caps s (before.filterMap Deed.packet?)) p after) ∧
    c.written.filter (·.own) = hook.replies caps s c.asked := by
  intro c
  have ha := answered_run hook caps s hw
  refine ⟨arrivals_eq hook caps s xs, (asked_run hook caps s xs).1, ha.state, ?_, ?_⟩
  · intro before p after hd
    exact answers_turns hook ha.turns hd
  · rw [written_eq, own_turns hook ha.turns, ← asked_eq]

/-- A hook that sends, closes the channel and falls apart: the packet is dropped all the same. -/
theorem dropped_though_closed :
    let hook : Hook Unit := ⟨fun s p =>
      .send (.inject p.proxy [] .toServer) fun _ => .close (.done (none, s))⟩
    let caps : Capabilities := { filter := true, inject := true }
    let p : Packet := ⟨3, "tcp", "a", 5, "b", [], ⟨0⟩⟩
    let text := (Notice.packet p).encode?.getD ""
    let xs := [.arrive (.frame (.text text)), .use 0 (.filter 7 true), .tick, .tick]
    let c := (opened caps ()).run hook xs
    (∀ text, Action.breakSink text ∉ xs) ∧ c.asked = [p] ∧
      c.written.filter (·.own) = [⟨.filter 3 false, true⟩] := by
  intro hook caps p text xs c
  have hw : ∀ text, Action.breakSink text ∉ xs := by simp [xs]
  have hasked : c.asked = [p] := by decide +kernel
  refine ⟨hw, hasked, ?_⟩
  rw [(asked_and_answered hook caps () xs hw).2.2.2.2, hasked]
  decide +kernel

end Channel

end Intercept
