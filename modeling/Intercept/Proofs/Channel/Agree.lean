import Intercept.Proofs.Channel.Turn

/-!
Pieces of code that an open channel does not tell apart. Whatever was queued before, they queue the
same commands and come to results that belong together, unless both of them close the channel.
-/

namespace Intercept

theorem Handle.cancelled_send {h g : Handle} {s : Sending} (e : h.send s = .ok g) :
    g.cancelled = h.cancelled := by
  rw [send_eq_ok e]

namespace Script

variable {α β γ δ : Type} {caps : Capabilities}

/-- What is closed stays closed. -/
theorem cancelled_run (x : Script α) {h : Handle} (hc : h.cancelled = true) :
    (x.run h).2.cancelled = true := by
  induction x generalizing h with
  | done r => exact hc
  | send s next ih =>
    rw [run]
    split
    · rename_i g hg
      exact ih _ (Handle.cancelled_send hg ▸ hc)
    · exact ih _ hc
  | close next ih => exact ih rfl
  | look next ih => exact ih _ hc

/-- `R` says which results belong together. -/
def Agree (caps : Capabilities) (R : α → β → Prop) (x : Script α) (y : Script β) : Prop :=
  ∀ q a q' a' : List Queued,
    ((x.run (.live caps false q a)).2.cancelled = true ∧
      (y.run (.live caps false q' a')).2.cancelled = true) ∨
    ∃ m u v, R u v ∧
      x.run (.live caps false q a) = (u, .live caps false (q ++ m) (a ++ m)) ∧
      y.run (.live caps false q' a') = (v, .live caps false (q' ++ m) (a' ++ m))

theorem agree_done {R : α → β → Prop} {u : α} {v : β} (h : R u v) :
    Agree caps R (.done u) (.done v) := by
  intro q a q' a'
  refine .inr ⟨[], u, v, h, ?_, ?_⟩ <;>
    rw [List.append_nil, List.append_nil, run]

theorem agree_mono {R S : α → β → Prop} {x : Script α} {y : Script β} (h : Agree caps R x y)
    (hRS : ∀ u v, R u v → S u v) : Agree caps S x y := by
  intro q a q' a'
  rcases h q a q' a' with hclosed | ⟨m, u, v, huv, hx, hy⟩
  · exact .inl hclosed
  · exact .inr ⟨m, u, v, hRS u v huv, hx, hy⟩

/-- What is queued makes no difference to any code. -/
theorem agree_refl (x : Script α) : Agree caps Eq x x := by
  intro q a q' a'
  obtain ⟨hr, hc⟩ := run_live_congr x caps false q a q' a'
  have hs := sends_live_congr x caps false q a q' a'
  have hx := run_live x caps false q a
  have hy := run_live x caps false q' a'
  cases hb : (x.run (.live caps false q' a')).2.cancelled with
  | true => exact .inl ⟨hc.trans hb, rfl⟩
  | false =>
    rw [hc, hb, sent, hs] at hx
    rw [hb] at hy
    exact .inr ⟨_, _, _, hr, Prod.ext rfl hx, Prod.ext rfl hy⟩

theorem agree_bind {R : α → β → Prop} {S : γ → δ → Prop} {x : Script α} {y : Script β}
    {f : α → Script γ} {g : β → Script δ} (h : Agree caps R x y)
    (hfg : ∀ u v, R u v → Agree caps S (f u) (g v)) : Agree caps S (x >>= f) (y >>= g) := by
  intro q a q' a'
  rw [run_bind, run_bind]
  rcases h q a q' a' with ⟨hx, hy⟩ | ⟨m, u, v, huv, hx, hy⟩
  · exact .inl ⟨cancelled_run _ hx, cancelled_run _ hy⟩
  · rw [hx, hy]
    rcases hfg u v huv (q ++ m) (a ++ m) (q' ++ m) (a' ++ m) with
      hclosed | ⟨n, r, s, hrs, hf, hg⟩
    · exact .inl hclosed
    · rw [List.append_assoc, List.append_assoc] at hf hg
      exact .inr ⟨m ++ n, r, s, hrs, hf, hg⟩

end Script

end Intercept
