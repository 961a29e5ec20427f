import Srv6Traffic.Proofs.Packet.RoundTrip

/-! Two ways to a packet: header values are checked against each other, or octets are decoded. Put on
the wire as they are, right or wrong, headers are decoded to a packet just if they build one. Both ways
end in the same ten checks. The decoder comes to them only if the outer payload length is right. -/
namespace Srv6Traffic.Packet
variable {h : Headers} {payload s : Slice}

/-- The octets of any headers and payload: every field as it is, stale checksums included. -/
theorem encode_append_eq (h : Headers) (payload : Bytes) : h.encode ++ payload =
    h.ethernet.encode ++ (h.ipv6.encode ++ (h.routing.encode ++
      (h.ipv4.encode ++ (h.udp.encode ++ payload)))) := by
  simp [Headers.encode, Headers.encodeFlagged, Header.Ipv4.encodeFlagged_flagsWord]

theorem decode_of_built {p : Packet} (built : build h payload = .ok p)
    (shown : s.data = h.encode ++ payload.data) :
    ∃ q rest w, decode s = .ok q rest ∧ q.headers = h ∧ q.payload.data = payload.data ∧
      (q == p) = true ∧ p.encode? = some w ∧ w.data = s.data := by
  obtain ⟨rfl, rfl⟩ := build_eq_ok built
  have frames : p.headers.Frames p.payload.data s.data := by
    rw [shown]
    exact Headers.frames_encode _ _
  obtain ⟨q, rest, done, headers, data, _⟩ := decode_of_agree p.agree frames
  obtain ⟨w, encoded, same, _⟩ := p.encode?_eq_some
  exact ⟨q, rest, w, done, headers, data, beq_of_eq headers data, encoded, same.trans shown.symm⟩

/-- Refused headers are refused on the wire, for the same field if the decoder gets as far as that. -/
theorem decode_of_refused {field : Field} (refused : build h payload = .error field)
    (shown : s.data = h.encode ++ payload.data) :
    ∃ rest, decode s = .error
      (if h.ipv6.payloadLength.toNat = s.data.length - 54 then field else .payloadLength) rest := by
  have frames : h.Frames payload.data s.data := by
    rw [shown]
    exact Headers.frames_encode _ _
  have long : s.data.length = h.size + payload.data.length := frames.length
  have size := h.size_eq
  by_cases fit : h.ipv6.payloadLength.toNat = s.data.length - 54
  · obtain ⟨front, rest, same, _, done⟩ := decode_of_frames frames (by omega)
    have again : build h front = .error field := by
      rw [build_eq_error_iff, same, ← build_eq_error_iff, refused]
    exact ⟨rest, by rw [done, again, if_pos fit]⟩
  · rw [encode_append_eq] at shown
    obtain ⟨rest, done, _⟩ := decode_of_misfit shown (by omega)
    exact ⟨rest, by rw [done, if_neg fit]⟩

/-- Building from headers and payload and decoding their octets succeed together and give the same
packet, which is encoded to those octets. If they fail, they name the same field; but a payload length
that is not that of the frame is named by the decoder whatever else may be wrong. -/
theorem build_agrees_with_decode (h : Headers) (payload s : Slice)
    (shown : s.data = h.ethernet.encode ++ (h.ipv6.encode ++ (h.routing.encode ++
      (h.ipv4.encode ++ (h.udp.encode ++ payload.data))))) :
    ((∃ p, build h payload = .ok p) ↔ ∃ q rest, decode s = .ok q rest) ∧
      (∀ p q rest, build h payload = .ok p → decode s = .ok q rest →
        q.headers = p.headers ∧ q.payload.data = p.payload.data ∧ (q == p) = true ∧
          ∃ w, p.encode? = some w ∧ w.data = s.data) ∧
      ∀ field, build h payload = .error field → ∃ rest, decode s = .error
        (if h.ipv6.payloadLength.toNat = s.data.length - 54 then field else .payloadLength) rest := by
  rw [← encode_append_eq] at shown
  refine ⟨⟨?_, ?_⟩, ?_, ?_⟩
  · intro ⟨p, built⟩
    obtain ⟨q, rest, _, done, _⟩ := decode_of_built built shown
    exact ⟨q, rest, done⟩
  · intro ⟨q, rest, done⟩
    cases built : build h payload with
    | ok p => exact ⟨p, rfl⟩
    | error field =>
      obtain ⟨_, failed⟩ := decode_of_refused built shown
      rw [done] at failed
      cases failed
  · intro p q rest built done
    obtain ⟨headers, slice⟩ := build_eq_ok built
    obtain ⟨q', rest', w, again, same, data, equal, encoded, written⟩ := decode_of_built built shown
    rw [done] at again
    cases again
    rw [headers, slice]
    exact ⟨same, data, equal, w, encoded, written⟩
  · intro field refused
    exact decode_of_refused refused shown

/-- The sample is taken both ways. With a wrong type and a payload length that is one too much, it is
refused both ways, for different fields. -/
theorem build_agrees_sample :
    (∃ p q rest, build Headers.sample (Slice.ofBytes 0 Headers.samplePayload) = .ok p ∧
      decode (Slice.ofBytes 1 (Headers.sample.encode ++ Headers.samplePayload)) = .ok q rest ∧
      (q == p) = true) ∧
    ∃ h rest, build h (Slice.ofBytes 0 Headers.samplePayload) = .error .etherType ∧
      decode (Slice.ofBytes 1 (h.encode ++ Headers.samplePayload)) = .error .payloadLength rest := by
  have shown (h : Headers) : (Slice.ofBytes 1 (h.encode ++ Headers.samplePayload)).data = _ :=
    (Slice.data_ofBytes 1 _).trans (encode_append_eq h _)
  have payload : (Slice.ofBytes 0 Headers.samplePayload).data = Headers.samplePayload :=
    Slice.data_ofBytes 0 _
  constructor
  · have agree := Headers.agree_sample
    rw [← payload] at agree
    obtain ⟨p, built, _⟩ := build_of_agree agree
    obtain ⟨both, equal, _⟩ := build_agrees_with_decode Headers.sample (Slice.ofBytes 0 _)
      (Slice.ofBytes 1 _) (by rw [shown, payload])
    obtain ⟨q, rest, done⟩ := both.1 ⟨p, built⟩
    exact ⟨p, q, rest, built, done, (equal p q rest built done).2.2.1⟩
  · let wrong : Headers := { Headers.sample with
      ethernet := ⟨.broadcast, .zero, 0x0800⟩
      ipv6 := { Headers.sample.ipv6 with payloadLength := 78 } }
    have refused : build wrong (Slice.ofBytes 0 Headers.samplePayload) = .error .etherType :=
      build_eq_error_iff.2 rfl
    obtain ⟨_, _, error⟩ := build_agrees_with_decode wrong (Slice.ofBytes 0 Headers.samplePayload)
      (Slice.ofBytes 1 _) (by rw [shown, payload])
    obtain ⟨rest, done⟩ := error .etherType refused
    refine ⟨wrong, rest, refused, ?_⟩
    rw [done, Slice.data_ofBytes]
    rfl

end Srv6Traffic.Packet
