import Srv6Traffic.Proofs.Packet.Layout

/-! Encoding and decoding undo each other. Nothing of a packet is lost on the wire; of a frame that
is decoded and encoded again, one bit can be lost, the reserved flag of the IPv4 header. -/
namespace Srv6Traffic.Packet
open Header.Ipv4

theorem beq_of_eq {p q : Packet} (headers : q.headers = p.headers)
    (payload : q.payload.data = p.payload.data) : (q == p) = true := by
  change (q.headers == p.headers && q.payload.data == p.payload.data) = true
  rw [headers, payload, beq_self_eq_true, beq_self_eq_true, Bool.and_self]

theorem length_frames (p : Packet) : (p.headers.encode ++ p.payload.data).length = p.frameLength := by
  rw [List.length_append, Headers.encode, Headers.length_encodeFlagged, p.payload.length_data]
  rfl

theorem dataLength_of_encode {p : Packet} {w : Writer} (encoded : p.encode? = some w) :
    w.dataLength = p.frameLength := by
  rw [← w.length_data, data_of_encode encoded, length_frames]

/-- A packet is what headers and payload make that agree, wherever they come from. Its encoding never
fails, is as long as announced, and decodes to an equal packet from any slice that shows it. -/
theorem encode_then_decode (p : Packet) :
    ∃ w, p.encode? = some w ∧ w.dataLength = p.frameLength ∧ w.data.length = p.frameLength ∧
      ∀ s : Slice, s.data = w.data → ∃ q rest, decode s = .ok q rest ∧ q.headers = p.headers ∧
        q.payload.data = p.payload.data ∧ (q == p) = true ∧ rest.data = [] := by
  obtain ⟨w, encoded, same, _, _⟩ := p.encode?_eq_some
  have length : w.data.length = p.frameLength := by rw [same, length_frames]
  refine ⟨w, encoded, by rw [← w.length_data, length], length, ?_⟩
  intro s shown
  have frames : p.headers.Frames p.payload.data s.data := by
    rw [shown, same]
    exact Headers.frames_encode _ _
  obtain ⟨q, rest, done, headers, payload, nothing⟩ := decode_of_agree p.agree frames
  exact ⟨q, rest, done, headers, payload, beq_of_eq headers payload, nothing⟩

theorem sample_returns : ∃ (p q : Packet) (rest : Slice) (w : Writer), p.headers = Headers.sample ∧
    p.encode? = some w ∧ decode (Slice.ofBytes 1 w.data) = .ok q rest ∧ (q == p) = true := by
  obtain ⟨p, _, _, headers, _⟩ := decode_sample
  obtain ⟨w, encoded, _, _, decodes⟩ := encode_then_decode p
  obtain ⟨q, rest, done, _, _, same, _⟩ := decodes _ (Slice.data_ofBytes 1 w.data)
  exact ⟨p, q, rest, w, headers, encoded, done, same⟩

theorem octetAt_modify (bytes : Bytes) (i : Nat) :
    octetAt (bytes.modify i clearReserved) i = octetAt bytes i % 128 := by
  simp only [octetAt, List.getD_eq_getElem?_getD, List.getElem?_modify_eq]
  cases bytes[i]? with
  | none => rfl
  | some b => exact toNat_clearReserved b

theorem clearReserved_of_lt {b : UInt8} (clear : b.toNat < 128) : clearReserved b = b := by
  apply UInt8.toNat_inj.1
  rw [toNat_clearReserved, Nat.mod_eq_of_lt clear]

/-- Clearing a bit that is clear changes nothing, and clearing one that is set changes something. -/
theorem modify_eq_self_iff (bytes : Bytes) (i : Nat) :
    bytes.modify i clearReserved = bytes ↔ octetAt bytes i < 128 := by
  constructor
  · intro same
    have cleared := octetAt_modify bytes i
    rw [same] at cleared
    omega
  · intro clear
    apply List.ext_getElem?
    intro k
    by_cases here : i = k
    · subst k
      rw [List.getElem?_modify_eq]
      rw [octetAt, List.getD_eq_getElem?_getD] at clear
      cases found : bytes[i]? with
      | none => rfl
      | some b =>
        rw [found] at clear
        exact congrArg some (clearReserved_of_lt clear)
    · rw [List.getElem?_modify_ne _ _ here]

/-- A decoded frame is encoded to what it was, up to the reserved bit of the IPv4 flags. -/
theorem decode_then_encode {s rest : Slice} {p : Packet} (done : decode s = .ok p rest) :
    ∃ w, p.encode? = some w ∧ w.data.length = s.data.length ∧
      (∀ i, i ≠ 54 + p.headers.routing.size + 6 → w.data[i]? = s.data[i]?) ∧
      octetAt w.data (54 + p.headers.routing.size + 6) =
        octetAt s.data (54 + p.headers.routing.size + 6) % 128 ∧
      (w.data = s.data ↔ octetAt s.data (54 + p.headers.routing.size + 6) < 128) := by
  obtain ⟨frames, _⟩ := frames_of_decode done
  obtain ⟨w, encoded, same, _, _⟩ := p.encode?_eq_some
  rw [← frames.modify_reserved] at same
  refine ⟨w, encoded, ?_, ?_, ?_, ?_⟩
  · rw [same, List.length_modify]
  · intro i elsewhere
    rw [same, List.getElem?_modify_ne _ _ elsewhere.symm]
  · rw [same, octetAt_modify]
  · rw [same, modify_eq_self_iff]

/-- The sample is received with the bit set, and sent without it. -/
theorem sample_sent_cleared : ∃ (s rest : Slice) (p : Packet) (w : Writer),
    decode s = .ok p rest ∧ p.encode? = some w ∧ w.data.length = s.data.length ∧
      w.data ≠ s.data := by
  obtain ⟨p, rest, done, headers, _⟩ := decode_sample
  obtain ⟨w, encoded, length, _, _, same⟩ := decode_then_encode done
  refine ⟨_, rest, p, w, done, encoded, length, ?_⟩
  rw [ne_eq, same, headers, Slice.data_ofBytes]
  decide +kernel

end Srv6Traffic.Packet
