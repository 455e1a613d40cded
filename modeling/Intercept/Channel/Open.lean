import Intercept.Channel.Loop

/-!
Opening a channel. The address is made first; only then is a connection tried.
-/

namespace Intercept

/-- What came of trying to connect. -/
inductive Handshake where
  | accepted
  | refused (text : String)

/-- An open channel with the address of its socket. -/
structure Opening (σ : Type) where
  uri : Url
  channel : Channel σ

def Channel.connect {σ : Type} (base key : String) (caps : Capabilities) (hook : σ)
    (shake : Url → Handshake) : Except Failure (Opening σ) := do
  let uri ← socketUri base key caps
  match shake uri with
  | .accepted => .ok ⟨uri, Channel.opened caps hook⟩
  | .refused text => .error (.connect s!"{uri.text}: {text}")

end Intercept
