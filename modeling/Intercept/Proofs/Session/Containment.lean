import Intercept.Proofs.Session.Isolation

/-!
What becomes of a session that fails while a packet is handed to it. Whatever fails, nothing of
other proxies changes. A session that is dead, refuses the packet or falls apart over it is out of
the table and closed once, and the hub falls back on its own verdict. This rests on two parts of
session code that nothing contains: if the question whether a session is alive falls apart, the
session stays in the table, and neither there nor where closing falls apart is there any result.
-/

namespace Intercept

inductive Visit where
  | unmade
  | unsure
  | dead
  | failed
  | answered (verdict : Bool)

namespace Visit

def made (a : ProxyId) (there : Bool) : List SessionEvent := if there then [] else [.made 0 a]

/-- What session code was asked for, if the session was there before or not. -/
def story (a : ProxyId) (there : Bool) : Visit → List SessionEvent
  | .unmade => [.notMade a]
  | .unsure => made a there ++ [.probed 0 a none]
  | .dead => made a there ++ [.probed 0 a (some false), .closed 0 a]
  | .failed => made a there ++ [.probed 0 a (some true), .handled 0 a, .closed 0 a]
  | .answered _ => made a there ++ [.probed 0 a (some true), .handled 0 a]

/-- Whether there is a session afterwards. -/
def leaves : Visit → Bool
  | .unsure | .answered _ => true
  | .unmade | .dead | .failed => false

/-- What the table answers, if closing the session would go well or not. -/
def answer (fine : Bool) : Visit → Option (Option Bool)
  | .unmade => some none
  | .unsure => none
  | .dead | .failed => if fine then some none else none
  | .answered verdict => some (some verdict)

/-- How the code of a session brings a visit about: the session is asked whether it is alive, handed
the packet if it is, and closed if it is dead or fails, each time as the call before has left it.
With the visit goes whether closing went well, if it came to that. -/
inductive Due {ω σ : Type} (code : SessionCode ω σ) (p : Packet) (w : ω) (s : σ) (h : Handle) :
    Visit → Bool → Prop where
  | unsure : (code.isAlive w s).1 = none → Due code p w s h .unsure true
  | dead {s₁ : σ} {w₁ : ω} :
      code.isAlive w s = (some false, s₁, w₁) → Due code p w s h .dead (code.close w₁ s₁).1
  | failed {s₁ s₂ : σ} {w₁ w₂ : ω} {outcome : Outcome Bool} :
      code.isAlive w s = (some true, s₁, w₁) →
      ((code.handle w₁ s₁ p).run h).1 = (outcome, s₂, w₂) → (∀ verdict, outcome ≠ .ok verdict) →
      Due code p w s h .failed (code.close w₂ s₂).1
  | answered {s₁ s₂ : σ} {w₁ w₂ : ω} {verdict : Bool} :
      code.isAlive w s = (some true, s₁, w₁) →
      ((code.handle w₁ s₁ p).run h).1 = (.ok verdict, s₂, w₂) →
      Due code p w s h (.answered verdict) true

end Visit

open Script

namespace Table

variable {ω σ : Type} {code : SessionCode ω σ} {p : Packet}

/-- The session that a packet comes to, with what all sessions share and the channel at that time.
It is the one of its proxy, or else the one that is made for it. -/
inductive Meets (code : SessionCode ω σ) (t : Table ω σ) (p : Packet) (h : Handle) :
    ω → σ → Handle → Prop where
  | found {s : σ} : t.session p.proxy = some s → Meets code t p h t.world s h
  | made {w : ω} {s : σ} {g : Handle} : t.session p.proxy = none →
      (code.create t.world p).run h = ((.ok s, w), g) → Meets code t p h w s g

/-- What a visit did to the share of its proxy, and what was answered. `before` is the story until
then, and `there` says whether there was a session. -/
structure Visited (p : Packet) (there : Bool) (before : List SessionEvent)
    (r : Option (Option Bool) × Table ω σ) (v : Visit) (fine : Bool) : Prop where
  story : r.2.story p.proxy = before ++ v.story p.proxy there
  session : (r.2.session p.proxy).isSome = v.leaves
  answer : r.1 = v.answer fine

/-- A session that was asked for something has a new state, and its story goes on. -/
theorem share_called {t : Table ω σ} {a : ProxyId} {s : σ} {story : List SessionEvent}
    (ht : t.share a = ⟨some s, story⟩) (s' : σ) (w : ω) (e : SessionEvent) (he : e.proxy = a) :
    ({ (t.keep a s').note e with world := w } : Table ω σ).share a =
      ⟨some s', story ++ [e.unnumbered]⟩ := by
  refine (share_note_own (t.keep a s') he).trans ?_
  rw [share_keep_own, ht]
  rfl

theorem visited_of_share {there : Bool} {before story : List SessionEvent}
    {answer : Option (Option Bool)} {t : Table ω σ} {x : Option σ} {v : Visit}
    (hshare : t.share p.proxy = ⟨x, story⟩) (hstory : story = before ++ v.story p.proxy there)
    (hx : x.isSome = v.leaves) (hanswer : answer = v.answer true) :
    Visited p there before (answer, t) v true where
  story := (congrArg Share.story hshare).trans hstory
  session := (congrArg (fun y : Share σ => y.session.isSome) hshare).trans hx
  answer := hanswer

/-- A session that is given up is closed and gone, whether or not closing it goes well. -/
theorem visited_giveUp {there : Bool} {before story : List SessionEvent} {t : Table ω σ}
    {n : Nat} {s : σ} {x : Option σ} {v : Visit} (hshare : t.share p.proxy = ⟨x, story⟩)
    (hstory : story ++ [.closed 0 p.proxy] = before ++ v.story p.proxy there)
    (hv : v = .dead ∨ v = .failed) :
    Visited p there before (t.giveUp code ⟨n, p.proxy, s⟩) v (code.close t.world s).1 := by
  have hgone : (t.giveUp code ⟨n, p.proxy, s⟩).2.share p.proxy =
      ⟨none, t.story p.proxy ++ [.closed 0 p.proxy]⟩ := share_evict_own _ rfl
  have ht : t.story p.proxy = story := congrArg Share.story hshare
  refine ⟨?_, ?_, ?_⟩
  · exact (congrArg Share.story hgone).trans (by rw [ht, hstory])
  · refine (congrArg (fun y : Share σ => y.session.isSome) hgone).trans ?_
    rcases hv with rfl | rfl <;> rfl
  · rcases hv with rfl | rfl <;> rfl

/-- A packet is handed to the session of its proxy, which was just made unless it was there. -/
theorem serve_visited {t : Table ω σ} {n : Nat} {s : σ} {there : Bool}
    {before : List SessionEvent}
    (ht : t.share p.proxy = ⟨some s, before ++ Visit.made p.proxy there⟩) (h : Handle) :
    ∃ v fine, Visit.Due code p t.world s h v fine ∧
      Visited p there before ((t.serve code ⟨n, p.proxy, s⟩ p).run h).1 v fine := by
  rcases hq : code.isAlive t.world s with ⟨alive, s₁, w⟩
  have hprobed := share_called ht s₁ w (.probed n p.proxy alive) rfl
  simp only [serve, hq]
  cases alive with
  | none =>
    refine ⟨.unsure, true, .unsure (by rw [hq]), visited_of_share hprobed ?_ rfl rfl⟩
    rw [List.append_assoc]
    rfl
  | some b =>
    cases b with
    | false =>
      refine ⟨.dead, _, .dead hq, visited_giveUp hprobed ?_ (.inl rfl)⟩
      simp [Visit.story, SessionEvent.unnumbered]
    | true =>
      rw [run_bind]
      rcases hr : (Script.run (code.handle w s₁ p) h).1 with ⟨outcome, s₂, w₂⟩
      have hhandled := share_called hprobed s₂ w₂ (.handled n p.proxy) rfl
      cases outcome with
      | ok verdict =>
        refine ⟨.answered verdict, true, .answered hq hr, visited_of_share hhandled ?_ rfl rfl⟩
        simp [Visit.story, SessionEvent.unnumbered]
      | failed | collapsed =>
        refine ⟨.failed, _, .failed hq hr (by simp), visited_giveUp hhandled ?_ (.inr rfl)⟩
        simp [Visit.story, SessionEvent.unnumbered]

/-- Every packet comes to a session as far as one of the visits says, if there is one or one can be
made. -/
theorem dispatch_visited (code : SessionCode ω σ) (t : Table ω σ) (p : Packet) (h : Handle) :
    let visited := Visited p (t.session p.proxy).isSome (t.story p.proxy)
      ((t.dispatch code p).run h).1
    ((t.session p.proxy).isSome = false ∧ (∀ s, ((code.create t.world p).run h).1.1 ≠ .ok s) ∧
        visited .unmade true) ∨
      ∃ w s g v fine, Meets code t p h w s g ∧ Visit.Due code p w s g v fine ∧ visited v fine := by
  intro visited
  simp only [visited, dispatch]
  rcases find?_session t p.proxy with ⟨hf, hs⟩ | ⟨n, s, hf, hs⟩
  · simp only [hf, hs, run_bind, Option.isSome_none]
    rcases hr : Script.run (code.create t.world p) h with ⟨⟨outcome, w⟩, g⟩
    have hnot : ({ t with world := w }.note (.notMade p.proxy)).share p.proxy =
        ⟨none, t.story p.proxy ++ [.notMade p.proxy]⟩ := by
      have hproxy : (SessionEvent.notMade p.proxy).proxy = p.proxy := rfl
      refine (share_note_own _ hproxy).trans ?_
      rw [share, ← hs]
      rfl
    cases outcome with
    | ok s =>
      have hshare : (({ t with world := w } : Table ω σ).add p.proxy s).share p.proxy =
          ⟨some s, t.story p.proxy ++ Visit.made p.proxy false⟩ := share_add_own hs
      obtain ⟨v, fine, hdue, hvisited⟩ := serve_visited hshare g
      exact .inr ⟨w, s, g, v, fine, .made hs hr, hdue, hvisited⟩
    | failed | collapsed =>
      exact .inl ⟨trivial, by simp, visited_of_share hnot rfl rfl rfl⟩
  · simp only [hf, hs, Option.isSome_some]
    have hshare : t.share p.proxy = ⟨some s, t.story p.proxy ++ Visit.made p.proxy true⟩ := by
      rw [share, hs, Visit.made, if_pos rfl, List.append_nil]
    obtain ⟨v, fine, hdue, hvisited⟩ := serve_visited hshare h
    exact .inr ⟨t.world, s, h, v, fine, .found hs, hdue, hvisited⟩

end Table

/-- A hub without a verdict from the table answers with its own. -/
theorem Hub.decide_fallback {ω σ : Type} {code : SessionCode ω σ} (hub : Hub) {t : Table ω σ}
    {p : Packet} {h : Handle} (hnone : ((t.dispatch code p).run h).1.1 = some none) :
    ((hub.decide code t p).run h).1.1 = some hub.fallback := by
  unfold Hub.decide
  split
  · rw [run_bind]
    change Option.map _ ((t.dispatch code p).run h).1.1 = _
    rw [hnone]
    rfl
  · rfl

namespace Visit

variable {a : ProxyId} {there : Bool} {v : Visit}

theorem made_closed : (made a there).count (.closed 0 a) = 0 := by
  cases there <;> simp [made]

/-- A visit closes the session if there is one and none is left. -/
theorem closed_story (hv : v ≠ .unmade) :
    (v.story a there).count (.closed 0 a) = if v.leaves then 0 else 1 := by
  cases v with
  | unmade => exact absurd rfl hv
  | _ => simp [story, leaves, made_closed]

theorem held_story (hv : v ≠ .unmade) : there = true ∨ .made 0 a ∈ v.story a there := by
  cases there with
  | true => exact .inl rfl
  | false => cases v <;> simp [story, made] at hv ⊢

end Visit

namespace Table

variable {ω σ : Type}

/-- Whatever session code does with a packet, other proxies do not notice. Where there is a verdict,
it is the one of the session that the packet came to, which stays. Where there is none, that session
was dead or failed, is gone and was closed once, unless none could be made; and the hub falls back.
There is no result only if the question whether that session is alive fell apart, and then it stays
without being closed, or if closing it did. -/
theorem contained_unless (hub : Hub) (code : SessionCode ω σ) (t : Table ω σ) (p : Packet)
    (h : Handle) :
    let r := ((t.dispatch code p).run h).1
    (∀ a, a ≠ p.proxy → r.2.share a = t.share a) ∧
    ∃ new, r.2.story p.proxy = t.story p.proxy ++ new ∧
      let held := (t.session p.proxy).isSome = true ∨ .made 0 p.proxy ∈ new
      let closed := new.count (.closed 0 p.proxy)
      match r.1 with
      | some (some verdict) =>
        (∃ w s g, Meets code t p h w s g ∧ Visit.Due code p w s g (.answered verdict) true) ∧
          (r.2.session p.proxy).isSome = true ∧ closed = 0
      | some none =>
        r.2.session p.proxy = none ∧
          (held → closed = 1 ∧ ∃ w s g v, Meets code t p h w s g ∧
            Visit.Due code p w s g v true ∧ (v = .dead ∨ v = .failed)) ∧
          (¬ held → closed = 0 ∧ ∀ s, ((code.create t.world p).run h).1.1 ≠ .ok s) ∧
          ((hub.decide code t p).run h).1.1 = some hub.fallback
      | none =>
        ((r.2.session p.proxy).isSome = true ∧ closed = 0 ∧
          ∃ w s g, Meets code t p h w s g ∧ (code.isAlive w s).1 = none) ∨
        (r.2.session p.proxy = none ∧ closed = 1 ∧
          ∃ w s g v, Meets code t p h w s g ∧ Visit.Due code p w s g v false) := by
  intro r
  refine ⟨fun a ha => share_dispatch_other t (Ne.symm ha) h, ?_⟩
  have hr : r = ((t.dispatch code p).run h).1 := rfl
  rcases dispatch_visited code t p h with ⟨hnone, hnot, hv⟩ | ⟨w, s, g, v, fine, hmeets, hdue, hv⟩
  · have hanswer := hv.answer
    have hsession := hv.session
    rw [← hr] at hanswer hsession
    refine ⟨_, hv.story, ?_⟩
    rw [hanswer]
    refine ⟨Option.not_isSome_iff_eq_none.mp (by simp [hsession, Visit.leaves]), fun hheld => ?_,
      fun _ => ⟨rfl, hnot⟩, hub.decide_fallback hanswer⟩
    simp [hnone, Visit.story] at hheld
  · have hanswer := hv.answer
    have hsession := hv.session
    rw [← hr] at hanswer hsession
    refine ⟨_, hv.story, ?_⟩
    have hne : v ≠ .unmade := by
      rintro rfl
      cases hdue
    have hgone (hleaves : v.leaves = false) : r.2.session p.proxy = none :=
      Option.not_isSome_iff_eq_none.mp (by simp [hsession, hleaves])
    have hclosed : (v.story p.proxy (t.session p.proxy).isSome).count (.closed 0 p.proxy) =
        if v.leaves then 0 else 1 := Visit.closed_story hne
    have hheld : (t.session p.proxy).isSome = true ∨
        .made 0 p.proxy ∈ v.story p.proxy (t.session p.proxy).isSome := Visit.held_story hne
    cases v with
    | unmade => exact absurd rfl hne
    | unsure =>
      rw [hanswer]
      cases hdue with
      | unsure hprobe => exact .inl ⟨hsession, hclosed, w, s, g, hmeets, hprobe⟩
    | answered verdict =>
      rw [hanswer]
      cases hdue with
      | answered halive hhandle =>
        exact ⟨⟨w, s, g, hmeets, .answered halive hhandle⟩, hsession, hclosed⟩
    | _ =>
      -- the session was dead or failed, and everything hangs on whether closing it went well
      cases fine with
      | true =>
        rw [hanswer]
        exact ⟨hgone rfl, fun _ => ⟨hclosed, w, s, g, _, hmeets, hdue, by simp⟩,
          fun hnot => absurd hheld hnot, hub.decide_fallback hanswer⟩
      | false =>
        rw [hanswer]
        exact .inr ⟨hgone rfl, hclosed, w, s, g, _, hmeets, hdue⟩

/-- Sessions of which nothing is to be expected: they fall apart when asked whether they are alive,
or say that they are dead and fall apart while they are closed. -/
def fragile (asked : Bool) : SessionCode Unit Unit where
  create _ _ := .done (.ok (), ())
  isAlive _ _ := (if asked then none else some false, (), ())
  handle _ _ _ := .done (.ok true, (), ())
  close _ _ := (asked, ())

/-- A session that falls apart when asked whether it is alive stays in the table, is not closed, and
leaves the hub without a verdict; one that falls apart while it is closed is out of the table, but
leaves the hub without a verdict as well. -/
theorem not_contained :
    let p : Packet := ⟨0, "tcp", "", 1, "", [], ⟨0⟩⟩
    let t : Table Unit Unit := { world := () }
    let asked := (t.dispatch (fragile true) p).run (.detached {})
    let closed := (t.dispatch (fragile false) p).run (.detached {})
    (asked.1.1 = none ∧ asked.1.2.ids = [1] ∧ asked.1.2.closedIds = [] ∧
      ((({} : Hub).decide (fragile true) t p).run (.detached {})).1.1 = none) ∧
    (closed.1.1 = none ∧ closed.1.2.ids = [] ∧ closed.1.2.closedIds = [1] ∧
      ((({} : Hub).decide (fragile false) t p).run (.detached {})).1.1 = none) := by
  decide

end Table

end Intercept
