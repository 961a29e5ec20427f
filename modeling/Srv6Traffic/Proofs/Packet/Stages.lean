import Srv6Traffic.Proofs.Header.Extent
import Srv6Traffic.Proofs.Packet.Frame

/-! The stages of the decoder. Each takes a whole header off the front of the slice or leaves the slice as
it is. So where decoding ends, how much is gone and which field is named are read off the stage that it
could not get through. -/
namespace Srv6Traffic

namespace Headers

theorem ite_some_mem {c : Prop} [Decidable c] {named field : Field} {fields : List Field}
    {next : Option Field} (listed : named ∈ fields) (later : next = some field → field ∈ fields)
    (found : (if c then some named else next) = some field) : field ∈ fields := by
  by_cases h : c
  · rw [if_pos h] at found
    cases found
    exact listed
  · rw [if_neg h] at found
    exact later found

theorem conflict?_mem {h : Headers} {payload : Bytes} {field : Field}
    (conflict : h.conflict? payload = some field) :
    field ∈ [.etherType, .nextHeader, .destination, .payloadLength, .protocol, .headerChecksum,
      .totalLength, .length, .checksum] := by
  refine ite_some_mem (by decide) ?_ conflict
  iterate 8 refine ite_some_mem (by decide) ?_
  exact ite_some_mem (by decide) nofun

end Headers

namespace Decoder
variable {α β : Type} {s s' : Slice} {size : α → Nat}

/-- A header is taken off whole, or the slice stays as it is. -/
theorem pop_cases {read : FieldReader α} (takes : read.Takes size) (field : Field) (s : Slice) :
    (∃ cause, read s.data = .error cause ∧ pop field read s = .error cause s) ∨
      ∃ a s', read s.data = .ok (a, s.data.drop (size a)) ∧ pop field read s = .ok a s' ∧
        s'.data = s.data.drop (size a) := by
  cases happens : read s.data with
  | error cause =>
    refine .inl ⟨cause, rfl, ?_⟩
    simp only [pop, happens]
  | ok pair =>
    obtain ⟨a, rest⟩ := pair
    obtain ⟨_, rfl⟩ := takes _ _ _ happens
    have taken : ∃ s', pop field read s = .ok a s' ∧ s'.data = s.data.drop (size a) ∧ _ :=
      pop_of_ok happens (List.take_append_drop _ _).symm
    obtain ⟨s', done, data, _⟩ := taken
    exact .inr ⟨a, s', rfl, done, data⟩

theorem header_cases {read : Reader α} {field : Field} (takes : (FieldReader.need field read).Takes size)
    (s : Slice) : (read s.data = none ∧ header field read s = .error field s) ∨
      ∃ a s', read s.data = some (a, s.data.drop (size a)) ∧ header field read s = .ok a s' ∧
        s'.data = s.data.drop (size a) := by
  obtain ⟨cause, unread, failed⟩ | ⟨a, s', happens, done, data⟩ := pop_cases takes field s
  · obtain ⟨short, rfl⟩ := FieldReader.need_eq_error_iff.1 unread
    exact .inl ⟨short, failed⟩
  · exact .inr ⟨a, s', FieldReader.need_eq_ok_iff.1 happens, done, data⟩

end Decoder

namespace Packet
open Header

section
variable (bytes : Bytes) (e : Ethernet) (o : Ipv6) (r : SegmentRouting) (v : Ipv4)

/-- The two outermost headers can be read, each from where it stands. -/
structure OuterRead : Prop where
  ethernet : Ethernet.read bytes = some (e, bytes.drop 14)
  ipv6 : Ipv6.read (bytes.drop 14) = some (o, bytes.drop 54)

/-- So can the routing header, behind an outer header with the right payload length. -/
structure RoutedRead : Prop extends OuterRead bytes e o where
  fit : o.payloadLength.toNat = bytes.length - 54
  routing : SegmentRouting.read (bytes.drop 54) = .ok (r, bytes.drop (54 + r.size))

structure InnerRead : Prop extends RoutedRead bytes e o r where
  ipv4 : Ipv4.read (bytes.drop (54 + r.size)) = some (v, bytes.drop (54 + r.size + v.size))

structure AllRead (h : Headers) : Prop extends InnerRead bytes h.ethernet h.ipv6 h.routing h.ipv4 where
  udp : Udp.read (bytes.drop (54 + h.routing.size + h.ipv4.size)) = some (h.udp, bytes.drop h.size)

end

/-- The ways in which decoding some octets can end. Each says what could be read, what could not, and
what is left then. -/
inductive Ends (bytes : Bytes) : EStateM.Result Field Slice Packet → Prop
  | ethernet {rest : Slice} : Ethernet.read bytes = none → rest.data = bytes →
      Ends bytes (.error .ethernet rest)
  | ipv6 {e : Ethernet} {rest : Slice} : Ethernet.read bytes = some (e, bytes.drop 14) →
      Ipv6.read (bytes.drop 14) = none → rest.data = bytes.drop 14 → Ends bytes (.error .ipv6 rest)
  | payloadLength {e : Ethernet} {o : Ipv6} {rest : Slice} : OuterRead bytes e o →
      o.payloadLength.toNat ≠ bytes.length - 54 → rest.data = bytes.drop 54 →
      Ends bytes (.error .payloadLength rest)
  | routing {e : Ethernet} {o : Ipv6} {field : Field} {rest : Slice} : OuterRead bytes e o →
      o.payloadLength.toNat = bytes.length - 54 →
      SegmentRouting.read (bytes.drop 54) = .error field → rest.data = bytes.drop 54 →
      Ends bytes (.error field rest)
  | ipv4 {e : Ethernet} {o : Ipv6} {r : SegmentRouting} {rest : Slice} : RoutedRead bytes e o r →
      Ipv4.read (bytes.drop (54 + r.size)) = none → rest.data = bytes.drop (54 + r.size) →
      Ends bytes (.error .ipv4 rest)
  | udp {e : Ethernet} {o : Ipv6} {r : SegmentRouting} {v : Ipv4} {rest : Slice} :
      InnerRead bytes e o r v → Udp.read (bytes.drop (54 + r.size + v.size)) = none →
      rest.data = bytes.drop (54 + r.size + v.size) → Ends bytes (.error .udp rest)
  | conflict {h : Headers} {field : Field} {rest : Slice} : AllRead bytes h →
      h.conflict? (bytes.drop h.size) = some field → rest.data = [] → Ends bytes (.error field rest)
  | packet {p : Packet} {rest : Slice} : AllRead bytes p.headers →
      p.payload.data = bytes.drop p.headers.size → rest.data = [] → Ends bytes (.ok p rest)

theorem Ends.suffix {bytes : Bytes} {result : EStateM.Result Field Slice Packet}
    (ends : Ends bytes result) : (Decoder.left result).data <:+ bytes := by
  cases ends with
  | ethernet _ left => exact left ▸ List.suffix_refl _
  | ipv6 _ _ left => exact left ▸ List.drop_suffix ..
  | payloadLength _ _ left => exact left ▸ List.drop_suffix ..
  | routing _ _ _ left => exact left ▸ List.drop_suffix ..
  | ipv4 _ _ left => exact left ▸ List.drop_suffix ..
  | udp _ _ left => exact left ▸ List.drop_suffix ..
  | conflict _ _ left => exact left ▸ List.nil_suffix
  | packet _ _ left => exact left ▸ List.nil_suffix

/-- The decoder from the routing header on. -/
def decodeRouted (e : Ethernet) (o : Ipv6) : Decoder Packet := do
  let r ← Decoder.routing
  let v ← Decoder.header .ipv4 Ipv4.read
  let u ← Decoder.header .udp Udp.read
  let payload ← Decoder.remainder
  match build ⟨e, o, r, v, u⟩ payload with
  | .ok packet => return packet
  | .error field => throw field

theorem decode_eq : decode = (do
    let e ← Decoder.header .ethernet Ethernet.read
    let o ← Decoder.header .ipv6 Ipv6.read
    let s ← get
    if o.payloadLength.toNat ≠ s.length then throw .payloadLength else decodeRouted e o) := rfl

theorem decodeRouted_ends {bytes : Bytes} {e : Ethernet} {o : Ipv6} {s : Slice}
    (outer : OuterRead bytes e o) (fit : o.payloadLength.toNat = bytes.length - 54)
    (shown : s.data = bytes.drop 54) : Ends bytes (decodeRouted e o s) := by
  unfold decodeRouted
  obtain ⟨field, unread, failed⟩ | ⟨r, s₃, read₃, done₃, left₃⟩ :=
    Decoder.pop_cases SegmentRouting.takes .segments s
  · rw [Decoder.routing, bind_of_error failed]
    exact .routing outer fit (shown ▸ unread) shown
  rw [shown, List.drop_drop] at read₃ left₃
  have routed : RoutedRead bytes e o r := ⟨outer, fit, read₃⟩
  rw [Decoder.routing, bind_of_ok done₃]
  obtain ⟨unread, failed⟩ | ⟨v, s₄, read₄, done₄, left₄⟩ := Decoder.header_cases Ipv4.takes s₃
  · rw [bind_of_error failed]
    exact .ipv4 routed (left₃ ▸ unread) left₃
  rw [left₃, List.drop_drop] at read₄ left₄
  have inner : InnerRead bytes e o r v := ⟨routed, read₄⟩
  rw [bind_of_ok done₄]
  obtain ⟨unread, failed⟩ | ⟨u, s₅, read₅, done₅, left₅⟩ := Decoder.header_cases Udp.takes s₄
  · rw [bind_of_error failed]
    exact .udp inner (left₄ ▸ unread) left₄
  rw [left₄, List.drop_drop] at read₅ left₅
  have all : AllRead bytes ⟨e, o, r, v, u⟩ := ⟨inner, read₅⟩
  obtain ⟨payload, rest, done₆, same, nothing, _⟩ := Decoder.remainder_eq s₅
  rw [bind_of_ok done₅, bind_of_ok done₆]
  replace same : payload.data = bytes.drop (Headers.size ⟨e, o, r, v, u⟩) := same.trans left₅
  cases built : build ⟨e, o, r, v, u⟩ payload with
  | error field => exact .conflict all (same ▸ build_eq_error_iff.1 built) nothing
  | ok p =>
    obtain ⟨headers, slice⟩ := build_eq_ok built
    rw [← headers] at all same
    exact .packet all (slice ▸ same) nothing

/-- However decoding ends, it is in one of these ways. -/
theorem decode_ends (s : Slice) : Ends s.data (decode s) := by
  rw [decode_eq]
  obtain ⟨unread, failed⟩ | ⟨e, s₁, read₁, done₁, left₁⟩ := Decoder.header_cases Ethernet.takes s
  · rw [bind_of_error failed]
    exact .ethernet unread rfl
  rw [bind_of_ok done₁]
  obtain ⟨unread, failed⟩ | ⟨o, s₂, read₂, done₂, left₂⟩ := Decoder.header_cases Ipv6.takes s₁
  · rw [bind_of_error failed]
    exact .ipv6 read₁ (left₁ ▸ unread) left₁
  rw [left₁, List.drop_drop] at read₂ left₂
  have outer : OuterRead s.data e o := ⟨read₁, read₂⟩
  have got : (get : Decoder Slice) s₂ = .ok s₂ s₂ := rfl
  have behind : s₂.length = s.data.length - 54 := by rw [← s₂.length_data, left₂, List.length_drop]
  rw [bind_of_ok done₂, bind_of_ok got, behind]
  by_cases fit : o.payloadLength.toNat = s.data.length - 54
  · rw [if_neg (not_not_intro fit)]
    exact decodeRouted_ends outer fit left₂
  · rw [if_pos fit]
    exact .payloadLength outer fit left₂

/-- Taking off the payload cannot fail, and no other error names it. -/
theorem decode_ne_payload (s rest : Slice) : decode s ≠ .error .payload rest := by
  intro done
  have ends := decode_ends s
  rw [done] at ends
  cases ends with
  | routing _ _ unread _ => exact absurd (SegmentRouting.names _ _ unread) (by decide)
  | conflict _ found _ => exact absurd (Headers.conflict?_mem found) (by decide)

end Packet
end Srv6Traffic
