import Intercept.Proofs.Channel.Agree
import Intercept.Proofs.Session.Share
import Intercept.Session.Hub

/-!
Sessions of different proxies do not meet. As long as the channel stays open, closing does not fall
apart and sessions share nothing that shows, all that there is to see of one proxy is what there
would be to see if no packet of any other proxy had come.
-/

namespace Intercept

open Script

/-- Session code that goes by its own state, the packet and the channel alone: what all sessions
share does not show. Closing a session does not fall apart. -/
structure SessionCode.Apart {ω σ : Type} (code : SessionCode ω σ) (caps : Capabilities) : Prop where
  create : ∀ w w' p, Agree caps (fun r r' => r.1 = r'.1) (code.create w p) (code.create w' p)
  isAlive : ∀ w w' s,
    (code.isAlive w s).1 = (code.isAlive w' s).1 ∧ (code.isAlive w s).2.1 = (code.isAlive w' s).2.1
  handle : ∀ w w' s p, Agree caps (fun r r' => r.1 = r'.1 ∧ r.2.1 = r'.2.1)
    (code.handle w s p) (code.handle w' s p)
  close : ∀ w s, (code.close w s).1 = true

/-- Sessions with nothing to share are apart. -/
theorem SessionCode.apart_of_unit {σ : Type} {code : SessionCode Unit σ}
    (hclose : ∀ s, (code.close () s).1 = true) (caps : Capabilities) : code.Apart caps where
  create _ _ p := agree_mono (agree_refl (code.create () p)) fun _ _ h => congrArg Prod.fst h
  isAlive _ _ _ := ⟨rfl, rfl⟩
  handle _ _ s p := agree_mono (agree_refl (code.handle () s p)) fun _ _ h =>
    ⟨congrArg Prod.fst h, congrArg (·.2.1) h⟩
  close _ s := hclose s

namespace Table

variable {ω σ α : Type} {code : SessionCode ω σ} {caps : Capabilities} {t t' : Table ω σ}
  {a : ProxyId}

/-! The proxy itself -/

def Same (a : ProxyId) (r r' : α × Table ω σ) : Prop := r.1 = r'.1 ∧ r.2.share a = r'.2.share a

theorem same_giveUp (ha : code.Apart caps) (h : t.share a = t'.share a) {e e' : Tracked σ}
    (he : e.proxy = a) (he' : e'.proxy = a) : Same a (t.giveUp code e) (t'.giveUp code e') := by
  have hfine : (t.evict code e).1 = true := ha.close t.world e.session
  have hfine' : (t'.evict code e').1 = true := ha.close t'.world e'.session
  have hstory : t.story a = t'.story a := congrArg Share.story h
  refine ⟨?_, ?_⟩
  · simp only [giveUp, hfine, hfine']
  · change (t.evict code e).2.share a = (t'.evict code e').2.share a
    rw [share_evict_own e he, share_evict_own e' he', hstory]

/-- A session that was asked for something has a new state, and its story goes on. -/
theorem share_asked (h : t.share a = t'.share a) (s : σ) (e e' : SessionEvent)
    (he : e.proxy = a) (he' : e'.proxy = a) (hu : e.unnumbered = e'.unnumbered) :
    ((t.keep a s).note e).share a = ((t'.keep a s).note e').share a := by
  rw [share_note_own _ he, share_note_own _ he', share_keep_own, share_keep_own, h, hu]

theorem agree_serve (ha : code.Apart caps) (h : t.share a = t'.share a) {n n' : Nat} {s : σ}
    (p : Packet) :
    Agree caps (Same a) (t.serve code ⟨n, a, s⟩ p) (t'.serve code ⟨n', a, s⟩ p) := by
  obtain ⟨hl, hs⟩ := ha.isAlive t.world t'.world s
  rcases hq : code.isAlive t.world s with ⟨alive, s₁, w⟩
  rcases hq' : code.isAlive t'.world s with ⟨alive', s₁', w'⟩
  rw [hq, hq'] at hl hs
  obtain rfl : alive = alive' := hl
  obtain rfl : s₁ = s₁' := hs
  have hprobed : ({ (t.keep a s₁).note (.probed n a alive) with world := w } : Table ω σ).share a =
      ({ (t'.keep a s₁).note (.probed n' a alive) with world := w' } : Table ω σ).share a :=
    share_asked h s₁ (.probed n a alive) (.probed n' a alive) rfl rfl rfl
  simp only [serve, hq, hq']
  cases alive with
  | none => exact agree_done ⟨rfl, hprobed⟩
  | some b =>
    cases b with
    | false => exact agree_done (same_giveUp ha hprobed rfl rfl)
    | true =>
      refine agree_bind (ha.handle w w' s₁ p) ?_
      rintro ⟨outcome, s₂, w₂⟩ ⟨outcome', s₂', w₂'⟩ ⟨ho, hs₂⟩
      obtain rfl : outcome = outcome' := ho
      obtain rfl : s₂ = s₂' := hs₂
      have hhandled := share_asked hprobed s₂ (.handled n a) (.handled n' a) rfl rfl rfl
      cases outcome with
      | ok verdict => exact agree_done ⟨rfl, hhandled⟩
      | failed | collapsed =>
        refine agree_done (same_giveUp ha ?_ rfl rfl)
        exact hhandled

theorem find?_session (t : Table ω σ) (a : ProxyId) :
    (t.find? a = none ∧ t.session a = none) ∨
      ∃ n s, t.find? a = some ⟨n, a, s⟩ ∧ t.session a = some s := by
  cases hf : t.find? a with
  | none => exact .inl ⟨rfl, by rw [session, hf]; rfl⟩
  | some e =>
    obtain rfl : e.proxy = a := find?_proxy hf
    exact .inr ⟨e.serial, e.session, rfl, by rw [session, hf]; rfl⟩

/-- A packet is answered by what its own proxy shows. -/
theorem agree_dispatch (ha : code.Apart caps) {p : Packet}
    (h : t.share p.proxy = t'.share p.proxy) :
    Agree caps (Same p.proxy) (t.dispatch code p) (t'.dispatch code p) := by
  have hsession : t.session p.proxy = t'.session p.proxy := congrArg Share.session h
  rcases find?_session t p.proxy with ⟨hf, hs⟩ | ⟨n, s, hf, hs⟩
  · rcases find?_session t' p.proxy with ⟨hf', hs'⟩ | ⟨n', s', hf', hs'⟩
    · rw [dispatch, hf, dispatch, hf']
      refine agree_bind (ha.create t.world t'.world p) ?_
      rintro ⟨outcome, w⟩ ⟨outcome', w'⟩ ho
      obtain rfl : outcome = outcome' := ho
      have hstory : t.story p.proxy = t'.story p.proxy := congrArg Share.story h
      have hproxy : (SessionEvent.notMade p.proxy).proxy = p.proxy := rfl
      have hnotMade : (t.note (.notMade p.proxy)).share p.proxy =
          (t'.note (.notMade p.proxy)).share p.proxy := by
        rw [share_note_own t hproxy, share_note_own t' hproxy, h]
      cases outcome with
      | ok s =>
        refine agree_serve ha ?_ p
        have hadd : (t.add p.proxy s).share p.proxy = (t'.add p.proxy s).share p.proxy := by
          rw [share_add_own hs, share_add_own hs', hstory]
        exact hadd
      | failed | collapsed => exact agree_done ⟨rfl, hnotMade⟩
    · rw [hs, hs'] at hsession
      cases hsession
  · rcases find?_session t' p.proxy with ⟨hf', hs'⟩ | ⟨n', s', hf', hs'⟩
    · rw [hs, hs'] at hsession
      cases hsession
    · obtain rfl : s = s' := by
        rw [hs, hs'] at hsession
        exact Option.some.inj hsession
      rw [dispatch, hf, dispatch, hf']
      exact agree_serve ha h p

/-! The others -/

theorem share_serve_other (t : Table ω σ) {e : Tracked σ} (he : e.proxy ≠ a) (p : Packet)
    (h : Handle) : ((t.serve code e p).run h).1.2.share a = t.share a := by
  have hasked (t : Table ω σ) (s : σ) {v : SessionEvent} (hv : v.proxy = e.proxy) :
      ((t.keep e.proxy s).note v).share a = t.share a := by
    rw [share_note_other _ (hv ▸ he), share_keep_other t s he]
  rcases hq : code.isAlive t.world e.session with ⟨alive, s, w⟩
  have hprobed := hasked t s (v := .probed e.serial e.proxy alive) rfl
  simp only [serve, hq]
  cases alive with
  | none => exact hprobed
  | some b =>
    cases b with
    | false => exact (share_evict_other { e with session := s } he).trans hprobed
    | true =>
      rw [run_bind]
      generalize (Script.run (code.handle w s p) h).1 = r
      obtain ⟨outcome, s', w'⟩ := r
      have hhandled := hasked { (t.keep e.proxy s).note (.probed e.serial e.proxy (some true)) with
        world := w } s' (v := .handled e.serial e.proxy) rfl
      cases outcome with
      | ok verdict => exact hhandled.trans hprobed
      | failed | collapsed =>
        exact (share_evict_other { e with session := s' } he).trans (hhandled.trans hprobed)

theorem share_dispatch_other (t : Table ω σ) {p : Packet} (hp : p.proxy ≠ a) (h : Handle) :
    ((t.dispatch code p).run h).1.2.share a = t.share a := by
  unfold dispatch
  rcases find?_session t p.proxy with ⟨hf, -⟩ | ⟨n, s, hf, -⟩
  · simp only [hf, run_bind]
    generalize (Script.run (code.create t.world p) h).1 = r
    obtain ⟨outcome, w⟩ := r
    have hnotMade := share_note_other (a := a) t (e := .notMade p.proxy) hp
    cases outcome with
    | ok s =>
      refine (share_serve_other _ hp p _).trans ?_
      exact share_add_other t s hp
    | failed | collapsed => exact hnotMade
  · rw [hf]
    exact share_serve_other t hp p h

end Table

end Intercept
