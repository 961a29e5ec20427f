import Srv6Traffic.Proofs.Buffer.Pieces
import Srv6Traffic.Proofs.Packet.Frame

/-! Decoders only move forward. Whether it succeeds or fails, a decoder has split pieces off the front of
the slice that it was given, and leaves the slice of the same buffer that stayed. -/
namespace Srv6Traffic

namespace Decoder
variable {α β : Type}

def Advances (d : Decoder α) : Prop :=
  ∀ s, ∃ n, (left (d s)).data = s.data.drop n ∧ (left (d s)).buffer = s.buffer

def TakesPieces (d : Decoder α) : Prop := ∀ s : Slice, ∃ pieces, s.Pops pieces (left (d s))

theorem TakesPieces.advances {d : Decoder α} (takes : d.TakesPieces) : d.Advances := by
  intro s
  obtain ⟨pieces, pops⟩ := takes s
  exact ⟨_, pops.drop_eq, pops.buffer_eq⟩

theorem takesPieces_of_stays {d : Decoder α} (stays : ∀ s, left (d s) = s) : d.TakesPieces := by
  intro s
  rw [stays]
  exact ⟨[], .nil s⟩

theorem takesPieces_pure (a : α) : (pure a : Decoder α).TakesPieces := takesPieces_of_stays fun _ => rfl

theorem takesPieces_throw (field : Field) : (throw field : Decoder α).TakesPieces :=
  takesPieces_of_stays fun _ => rfl

theorem takesPieces_get : (get : Decoder Slice).TakesPieces := takesPieces_of_stays fun _ => rfl

theorem TakesPieces.bind {d : Decoder α} {next : α → Decoder β} (first : d.TakesPieces)
    (second : ∀ a, (next a).TakesPieces) : (d >>= next).TakesPieces := by
  intro s
  obtain ⟨pieces, pops⟩ := first s
  cases happens : d s with
  | error field mid =>
    rw [happens] at pops
    rw [bind_of_error happens]
    exact ⟨pieces, pops⟩
  | ok a mid =>
    rw [happens] at pops
    rw [bind_of_ok happens]
    obtain ⟨others, pops'⟩ := second a mid
    exact ⟨pieces ++ others, pops.append pops'⟩

theorem takesPieces_pop (field : Field) (read : FieldReader α) : (pop field read).TakesPieces := by
  intro s
  unfold pop
  cases read s.data with
  | error cause => exact ⟨[], .nil s⟩
  | ok r =>
    dsimp only
    cases popped : s.popFront? (s.data.length - r.2.length) with
    | none => exact ⟨[], .nil s⟩
    | some pair => exact ⟨[pair.1], .single popped⟩

theorem takesPieces_remainder : remainder.TakesPieces := by
  intro s
  unfold remainder
  cases popped : s.popFront? s.length with
  | none => exact ⟨[], .nil s⟩
  | some pair => exact ⟨[pair.1], .single popped⟩

theorem takesPieces_routing : routing.TakesPieces := takesPieces_pop _ _

end Decoder

namespace Packet

theorem decode_takesPieces : decode.TakesPieces := by
  unfold decode
  refine (Decoder.takesPieces_pop _ _).bind fun ethernet => ?_
  refine (Decoder.takesPieces_pop _ _).bind fun ipv6 => ?_
  refine Decoder.takesPieces_get.bind fun s => ?_
  split
  · exact Decoder.takesPieces_throw _
  · refine Decoder.takesPieces_routing.bind fun routing => ?_
    refine (Decoder.takesPieces_pop _ _).bind fun ipv4 => ?_
    refine (Decoder.takesPieces_pop _ _).bind fun udp => ?_
    refine Decoder.takesPieces_remainder.bind fun payload => ?_
    split
    · exact Decoder.takesPieces_pure _
    · exact Decoder.takesPieces_throw _

theorem decode_advances : decode.Advances := decode_takesPieces.advances

end Packet
end Srv6Traffic
