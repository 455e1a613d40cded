import Intercept.Channel.Loop
import Intercept.Proofs.Notice

/-!
What an arrival is to a loop: something to pass over, the end with a result, or a packet. Only a
failure that leaves the channel unusable can be such a result.
-/

namespace Intercept

inductive Reading where
  | pass
  | halt (result : Except Failure Unit)
  | packet (p : Packet)

def Arrival.reading : Arrival → Reading
  | .finished => .halt (.ok ())
  | .broken text => .halt (.error (.transport text))
  | .frame .close => .halt (.ok ())
  | .frame (.binary _) => .halt (.error (.protocol .binary))
  | .frame (.ping _) => .pass
  | .frame (.pong _) => .pass
  | .frame (.text s) =>
    match Notice.decode s with
    | .error v => .halt (.error (.protocol v))
    | .ok (.failure status payload) =>
      if status = Notice.timeout then .pass
      else .halt (.error (.remote status payload.plain))
    | .ok (.packet p) => .packet p

/-- What a text is to the loop, by what it decodes to. -/
inductive Arrival.TextIs (s : String) : Reading → Prop where
  | broken (v : Violation) : Notice.decode s = .error v → TextIs s (.halt (.error (.protocol v)))
  | late (status : Int64) (payload : Json.Value) :
      Notice.decode s = .ok (.failure status payload) → status = Notice.timeout → TextIs s .pass
  | failure (status : Int64) (payload : Json.Value) :
      Notice.decode s = .ok (.failure status payload) → status ≠ Notice.timeout →
      TextIs s (.halt (.error (.remote status payload.plain)))
  | packet (p : Packet) : Notice.decode s = .ok (.packet p) → TextIs s (.packet p)

theorem Arrival.reading_text (s : String) : TextIs s (Arrival.frame (.text s)).reading := by
  cases hd : Notice.decode s with
  | error v =>
    simp only [reading, hd]
    exact .broken v hd
  | ok n =>
    cases n with
    | packet p =>
      simp only [reading, hd]
      exact .packet p hd
    | failure status payload =>
      by_cases ht : status = Notice.timeout
      · simp only [reading, hd, if_pos ht]
        exact .late status payload hd ht
      · simp only [reading, hd, if_neg ht]
        exact .failure status payload hd ht

def Arrival.packet? (a : Arrival) : Option Packet :=
  match a.reading with
  | .packet p => some p
  | _ => none

theorem Arrival.packet?_pass {x : Arrival} (hx : x.reading = .pass) : x.packet? = none := by
  rw [Arrival.packet?, hx]

theorem Arrival.packet?_halt {x : Arrival} {r : Except Failure Unit} (hx : x.reading = .halt r) :
    x.packet? = none := by
  rw [Arrival.packet?, hx]

theorem Arrival.packet?_packet {x : Arrival} {p : Packet} (hx : x.reading = .packet p) :
    x.packet? = some p := by
  rw [Arrival.packet?, hx]

end Intercept
