import Srv6Traffic.Proofs.Packet.RoundTrip
import Srv6Traffic.Proofs.Packet.Stages

/-! Lengths of packets. The length fields are checked against each other layer by layer, and what comes of
it is that each covers just the octets behind its header. So a frame that is cut short or goes on too long
contradicts the outermost of them, and it never gets past that. -/
namespace Srv6Traffic.Packet
open Header

theorem frameLength_eq (p : Packet) :
    p.frameLength = 14 + 40 + p.headers.routing.size + p.headers.ipv4.size + 8 + p.payload.data.length := by
  rw [frameLength, headerLength, p.headers.size_eq, p.payload.length_data]

/-- Every length field of a packet covers exactly the octets that belong to it. -/
structure LengthsCover (p : Packet) : Prop where
  payloadLength : p.headers.ipv6.payloadLength.toNat + 54 = p.frameLength
  totalLength : p.headers.ipv4.totalLength.toNat + 54 + p.headers.routing.size = p.frameLength
  udpLength : p.headers.udp.length.toNat = 8 + p.payload.length
  innerLength : p.headers.udp.length.toNat + p.headers.ipv4.size = p.headers.ipv4.totalLength.toNat
  extLength : 8 * p.headers.routing.extLength.toNat + 8 = p.headers.routing.size
  headers : p.headerLength + p.payload.length = p.frameLength
  least : 106 ≤ p.frameLength
  greatest : p.frameLength ≤ 65589
  destination : p.headers.routing.segments[p.headers.routing.segmentsLeft.toNat]? =
    some p.headers.ipv6.destination

theorem lengthsCover (p : Packet) : p.LengthsCover := by
  have agree := p.agree
  have outer := agree.payloadLength
  have inner := agree.totalLength
  have last : p.headers.udp.length.toNat = 8 + p.payload.data.length := agree.length
  have frame := p.frameLength_eq
  have payload := p.payload.length_data
  have word := p.headers.ipv6.payloadLength.toNat_lt
  have segment := p.headers.routing.left_lt
  have ext := p.headers.routing.toNat_extLength
  have routing : p.headers.routing.size = 8 + 16 * p.headers.routing.segments.length := rfl
  have ipv4 : p.headers.ipv4.size = 20 + p.headers.ipv4.options.val.length := rfl
  refine ⟨by omega, by omega, by omega, by omega, by omega, rfl, by omega, by omega, ?_⟩
  rw [agree.destination, List.getElem?_eq_getElem segment]
  rfl

/-- The length fields of a packet cover its encoding, octet by octet. -/
theorem lengths_cover_frame (p : Packet) : p.LengthsCover ∧ ∃ w, p.encode? = some w ∧
    w.data.length = p.frameLength ∧
    p.headers.ipv6.payloadLength.toNat = (w.data.drop 54).length ∧
    p.headers.ipv4.totalLength.toNat = (w.data.drop (54 + p.headers.routing.size)).length ∧
    p.headers.udp.length.toNat =
      (w.data.drop (54 + p.headers.routing.size + p.headers.ipv4.size)).length := by
  have cover := p.lengthsCover
  have outer := cover.payloadLength
  have total := cover.totalLength
  have inner := cover.innerLength
  obtain ⟨w, encoded, _⟩ := p.encode?_eq_some
  have length : w.data.length = p.frameLength := by rw [data_of_encode encoded, length_frames]
  refine ⟨cover, w, encoded, length, ?_, ?_, ?_⟩
  · rw [List.length_drop]
    omega
  · rw [List.length_drop]
    omega
  · rw [List.length_drop]
    omega

section
variable {s : Slice}

theorem decode_of_short (short : s.data.length < 14) : decode s = .error .ethernet s := by
  obtain ⟨_, failed⟩ | ⟨e, _, happens, _⟩ := Decoder.header_cases Ethernet.takes s
  · rw [decode_eq, bind_of_error failed]
  · have fits : 14 ≤ s.data.length := (Ethernet.takes _ _ _ (FieldReader.need_eq_ok_iff.2 happens)).1
    omega

theorem decode_of_short_ipv6 (long : 14 ≤ s.data.length) (short : s.data.length < 54) :
    ∃ rest, decode s = .error .ipv6 rest ∧ rest.data = s.data.drop 14 := by
  obtain ⟨e, there⟩ := Ethernet.exists_at (i := 0) (by omega : 0 + 14 ≤ s.data.length)
  obtain ⟨s₁, done₁, data₁, _⟩ := Decoder.header_of_append .ethernet there (e.read_encode _)
  obtain ⟨_, failed⟩ | ⟨o, _, happens, _⟩ := Decoder.header_cases Ipv6.takes s₁
  · exact ⟨s₁, by rw [decode_eq, bind_of_ok done₁, bind_of_error failed], data₁⟩
  · have fits : 40 ≤ s₁.data.length := (Ipv6.takes _ _ _ (FieldReader.need_eq_ok_iff.2 happens)).1
    rw [data₁, List.length_drop] at fits
    omega

/-- Octets that begin with the two outer headers of a packet, but are not as many as its frame has, are
refused for the payload length. -/
theorem decode_of_resized {p : Packet}
    (outer : s.data.take 54 = p.headers.ethernet.encode ++ p.headers.ipv6.encode)
    (resized : s.data.length ≠ p.frameLength) :
    ∃ rest, decode s = .error .payloadLength rest ∧ rest.data = s.data.drop 54 := by
  have covered := p.lengthsCover.payloadLength
  have there : s.data =
      p.headers.ethernet.encode ++ (p.headers.ipv6.encode ++ s.data.drop 54) := by
    rw [← List.append_assoc, ← outer, List.take_append_drop]
  obtain ⟨rest, done, left, _⟩ := decode_of_misfit there (by omega)
  exact ⟨rest, done, left⟩

theorem take_of_encode {p : Packet} {w : Writer} (encoded : p.encode? = some w) :
    w.data.take 54 = p.headers.ethernet.encode ++ p.headers.ipv6.encode := by
  have length : (p.headers.ethernet.encode ++ p.headers.ipv6.encode).length = 54 := by
    rw [List.length_append, Ethernet.length_encode, Ipv6.length_encode]
    rfl
  rw [data_of_encode encoded, Headers.encode, Headers.encodeFlagged, ← List.append_assoc,
    List.append_assoc, List.take_left' length]

end

/-- A frame that is cut off is refused wherever the cut is, and one that goes on behind its end is refused
too. How much of it has been read by then is known as well. -/
theorem resized_frames_refused (p : Packet) : ∃ w, p.encode? = some w ∧
    (∀ (s : Slice) (k : Nat), k < w.data.length → s.data = w.data.take k →
      ∃ rest, decode s =
          .error (if k < 14 then .ethernet else if k < 54 then .ipv6 else .payloadLength) rest ∧
        rest.data = s.data.drop (if k < 14 then 0 else if k < 54 then 14 else 54)) ∧
    ∀ (s : Slice) (extra : Bytes), extra ≠ [] → s.data = w.data ++ extra →
      ∃ rest, decode s = .error .payloadLength rest ∧ rest.data = s.data.drop 54 := by
  obtain ⟨w, encoded, _⟩ := p.encode?_eq_some
  have frame : w.data.length = p.frameLength := by rw [data_of_encode encoded, length_frames]
  have least := p.lengthsCover.least
  refine ⟨w, encoded, ?_, ?_⟩
  · intro s k short cut
    have length : s.data.length = k := by rw [cut, List.length_take_of_le (Nat.le_of_lt short)]
    by_cases ethernet : k < 14
    · rw [if_pos ethernet, if_pos ethernet]
      exact ⟨s, decode_of_short (by omega), rfl⟩
    · rw [if_neg ethernet, if_neg ethernet]
      by_cases ipv6 : k < 54
      · rw [if_pos ipv6, if_pos ipv6]
        exact decode_of_short_ipv6 (by omega) (by omega)
      · rw [if_neg ipv6, if_neg ipv6]
        refine decode_of_resized (p := p) ?_ (by omega)
        rw [cut, List.take_take, Nat.min_eq_left (by omega), take_of_encode encoded]
  · intro s extra more longer
    have pos := List.length_pos_iff.2 more
    have length : s.data.length = w.data.length + extra.length := by rw [longer, List.length_append]
    refine decode_of_resized (p := p) ?_ (by omega)
    rw [longer, List.take_append_of_le_length (by omega), take_of_encode encoded]

/-- The sample is cut off inside its payload, or has an octet behind its end. -/
theorem resized_sample : ∃ (p : Packet) (w : Writer) (cut longer : Slice), p.headers = Headers.sample ∧
    p.encode? = some w ∧
    decode (Slice.ofBytes 1 (w.data.take 130)) = .error .payloadLength cut ∧ cut.data.length = 76 ∧
    decode (Slice.ofBytes 1 (w.data ++ [0])) = .error .payloadLength longer := by
  obtain ⟨p, _, _, headers, payload, _⟩ := decode_sample
  obtain ⟨w, encoded, shorter, longer⟩ := resized_frames_refused p
  have length : w.data.length = 131 := by
    rw [data_of_encode encoded, headers, payload]
    rfl
  obtain ⟨rest, done, left⟩ := shorter (Slice.ofBytes 1 (w.data.take 130)) 130 (by omega)
    (Slice.data_ofBytes 1 _)
  obtain ⟨rest', done', _⟩ := longer (Slice.ofBytes 1 (w.data ++ [0])) [0] (List.cons_ne_nil _ _)
    (Slice.data_ofBytes 1 _)
  refine ⟨p, w, rest, rest', headers, encoded, done, ?_, done'⟩
  rw [left, Slice.data_ofBytes, List.length_drop, List.length_take, length]
  rfl

end Srv6Traffic.Packet
