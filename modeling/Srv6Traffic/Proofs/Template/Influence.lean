import Srv6Traffic.Proofs.Header.Windows
import Srv6Traffic.Proofs.Template.Construction

/-! What the parts of a template have an influence on. Two frames are compared header by header: a header that
is told by the same parts is the same one, and of the others only some fields differ, which are windows in the
octets of the frame. -/
namespace Srv6Traffic

/-- No two fresh headers tell the same. -/
theorem Header.SegmentRouting.Fresh.unique {h h' : Header.SegmentRouting} {p : Header.NextHeader}
    {flags : UInt8} {tag : UInt16} {segments : List Ipv6Address} (fresh : h.Fresh p flags tag segments)
    (fresh' : h'.Fresh p flags tag segments) : h = h' := by
  have left : h.segmentsLeft = h'.segmentsLeft := by
    rw [fresh.segmentsLeft, fresh'.segmentsLeft, lastEntry, lastEntry, fresh.segments, fresh'.segments]
  have next := fresh.nextHeader.trans fresh'.nextHeader.symm
  have flags := fresh.flags.trans fresh'.flags.symm
  have tag := fresh.tag.trans fresh'.tag.symm
  have segments := fresh.segments.trans fresh'.segments.symm
  cases h
  cases h'
  cases next
  cases left
  cases flags
  cases tag
  cases segments
  rfl

namespace Template

/-- Templates that tell the same of the inner datagram. -/
structure SameInner (t t' : Template) : Prop where
  source : t.innerSource = t'.innerSource
  destination : t.innerDestination = t'.innerDestination
  timeToLive : t.timeToLive = t'.timeToLive
  sourcePort : t.sourcePort = t'.sourcePort
  destinationPort : t.destinationPort = t'.destinationPort
  filler : t.filler = t'.filler

theorem SameInner.refl (t : Template) : t.SameInner t := ⟨rfl, rfl, rfl, rfl, rfl, rfl⟩

namespace Configured
variable {t t' : Template} {padding padding' : Nat} {h h' : Headers}

theorem ethernet_eq (c : t.Configured padding h) :
    h.ethernet = ⟨t.destinationMac, t.sourceMac, 0x86dd⟩ := by
  rw [← c.destinationMac, ← c.sourceMac, ← c.etherType]

theorem ipv6_eq (c : t.Configured padding h) : h.ipv6 =
    ⟨0, 0, h.ipv6.payloadLength, 43, t.hopLimit, t.outerSource, h.routing.activeSegment⟩ := by
  rw [← c.trafficClass, ← c.flowLabel, ← c.nextHeader, ← c.hopLimit, ← c.outerSource, ← c.outerDestination]

theorem ipv4_eq (c : t.Configured padding h) : h.ipv4 =
    ⟨0, 0, h.ipv4.totalLength, 1, false, false, 0, t.timeToLive, 17, h.ipv4.checksum, t.innerSource,
      t.innerDestination, .none⟩ := by
  obtain ⟨dontFragment, moreFragments, fragmentOffset⟩ := c.unfragmented
  have options : h.ipv4.options = .none := Subtype.ext c.options
  exact (Header.Ipv4.mk.injEq ..).mpr ⟨c.service.1, c.service.2, rfl, c.identification, dontFragment,
    moreFragments, fragmentOffset, c.timeToLive, c.protocol, rfl, c.innerSource, c.innerDestination, options⟩

theorem udp_eq (c : t.Configured padding h) :
    h.udp = ⟨t.sourcePort, t.destinationPort, h.udp.length, h.udp.checksum⟩ := by
  rw [← c.sourcePort, ← c.destinationPort]

theorem routing_congr (c : t.Configured padding h) (c' : t'.Configured padding' h')
    (segments : t.segments = t'.segments) : h.routing = h'.routing := by
  have routing := c.routing
  rw [segments] at routing
  exact routing.unique c'.routing

theorem totalLength_congr (c : t.Configured padding h) (c' : t'.Configured padding h') :
    h.ipv4.totalLength = h'.ipv4.totalLength :=
  UInt16.toNat_inj.1 (c.totalLength.trans c'.totalLength.symm)

/-- The checksum of the inner header covers the header alone. -/
theorem ipv4_congr (c : t.Configured padding h) (c' : t'.Configured padding h') (inner : t.SameInner t') :
    h.ipv4 = h'.ipv4 := by
  have blank : { h.ipv4 with checksum := 0 } = { h'.ipv4 with checksum := 0 } := by
    rw [c.ipv4_eq, c'.ipv4_eq, c.totalLength_congr c', inner.timeToLive, inner.source, inner.destination]
  have checksum : h.ipv4.checksum = h'.ipv4.checksum := by
    rw [c.headerChecksum, c'.headerChecksum, Header.Ipv4.headerChecksum, Header.Ipv4.headerChecksum, blank]
  rw [c.ipv4_eq, c'.ipv4_eq, c.totalLength_congr c', checksum, inner.timeToLive, inner.source,
    inner.destination]

theorem udp_congr (c : t.Configured padding h) (c' : t'.Configured padding h') (inner : t.SameInner t') :
    h.udp = h'.udp := by
  have length : h.udp.length = h'.udp.length :=
    UInt16.toNat_inj.1 (c.udpLength.trans c'.udpLength.symm)
  have blank : { h.udp with checksum := 0 } = { h'.udp with checksum := 0 } := by
    rw [c.udp_eq, c'.udp_eq, length, inner.sourcePort, inner.destinationPort]
  have checksum : h.udp.checksum = h'.udp.checksum := by
    rw [c.checksum, c'.checksum, Header.Udp.checksumFor, Header.Udp.checksumFor, blank,
      Header.Udp.pseudoHeader, Header.Udp.pseudoHeader, length, inner.source, inner.destination, inner.filler]
  rw [c.udp_eq, c'.udp_eq, length, checksum, inner.sourcePort, inner.destinationPort]

theorem payloadLength_congr (c : t.Configured padding h) (c' : t'.Configured padding h')
    (segments : t.segments = t'.segments) : h.ipv6.payloadLength = h'.ipv6.payloadLength := by
  apply UInt16.toNat_inj.1
  rw [c.payloadLength, c'.payloadLength, segments]

theorem unique (c : t.Configured padding h) (c' : t.Configured padding h') : h = h' := by
  have ethernet := c.ethernet_eq.trans c'.ethernet_eq.symm
  have routing := c.routing_congr c' rfl
  have ipv6 : h.ipv6 = h'.ipv6 := by rw [c.ipv6_eq, c'.ipv6_eq, c.payloadLength_congr c' rfl, routing]
  have ipv4 := c.ipv4_congr c' (.refl t)
  have udp := c.udp_congr c' (.refl t)
  exact (Headers.mk.injEq ..).mpr ⟨ethernet, ipv6, routing, ipv4, udp⟩

/-- Of one template, with more padding or less, the headers differ in lengths and checksums only. -/
theorem agreeOutside_lengths (c : t.Configured padding h) (c' : t.Configured padding' h') {o : Nat}
    (place : o = 62 + 16 * t.segments.length) :
    AgreeOutside 0 [⟨18, 2⟩, ⟨o + 2, 2⟩, ⟨o + 10, 2⟩, ⟨o + 24, 2⟩, ⟨o + 26, 2⟩] h.encode h'.encode := by
  have routing := c.routing_congr c' rfl
  have start : o = 0 + 14 + 40 + h.routing.size := by
    rw [place, c.routing.size]
    omega
  have ipv6 : h'.ipv6 = { h.ipv6 with payloadLength := h'.ipv6.payloadLength } := by
    rw [c.ipv6_eq, c'.ipv6_eq, routing]
  have ipv4 : h'.ipv4 = { h.ipv4 with totalLength := h'.ipv4.totalLength, checksum := h'.ipv4.checksum } := by
    rw [c.ipv4_eq, c'.ipv4_eq]
  have udp : h'.udp = { h.udp with length := h'.udp.length, checksum := h'.udp.checksum } := by
    rw [c.udp_eq, c'.udp_eq]
  rw [start, ← List.append_nil h.encode, ← List.append_nil h'.encode]
  simp only [Headers.encode, Headers.encodeFlagged, Header.Ipv4.encodeFlagged_flagsWord, List.append_assoc]
  rw [c.ethernet_eq, c'.ethernet_eq, ← routing]
  refine .same _ (Header.Ethernet.length_encode _) <| Header.Ipv6.agreeOutside_payloadLength ipv6 <|
    .same _ h.routing.length_encode <| Header.Ipv4.agreeOutside ipv4 ?_
  rw [c.ipv4Size]
  exact Header.Udp.agreeOutside udp (.rest [])

/-- Of templates that differ in the link layer and in the outer source, the headers differ there only. -/
theorem agreeOutside_outer (c : t.Configured padding h) (c' : t'.Configured padding h')
    (inner : t.SameInner t') (segments : t.segments = t'.segments) (rest : Bytes) :
    AgreeOutside 0 [⟨0, 6⟩, ⟨6, 6⟩, ⟨21, 1⟩, ⟨22, 16⟩] (h.encode ++ rest) (h'.encode ++ rest) := by
  have routing := c.routing_congr c' segments
  have ipv6 : h'.ipv6 = { h.ipv6 with hopLimit := h'.ipv6.hopLimit, source := h'.ipv6.source } := by
    rw [c.ipv6_eq, c'.ipv6_eq, c.payloadLength_congr c' segments, routing]
  simp only [Headers.encode, Headers.encodeFlagged, List.append_assoc]
  rw [c.ipv4_congr c' inner, c.udp_congr c' inner, routing]
  exact Header.Ethernet.agreeOutside (c.etherType.trans c'.etherType.symm) <|
    Header.Ipv6.agreeOutside_outer ipv6 (.rest _)

end Configured
end Template

namespace Frame.Carries
variable {f g : Frame} {t t' : Template} {p q : Packet}

theorem padded (c : f.Carries t p) : f.data.drop t.unpaddedLength = .replicate f.padding t.filler := by
  have size : p.headers.encode.length = t.unpaddedLength := by
    rw [Headers.encode, Headers.length_encodeFlagged, c.configured.size, t.unpaddedLength_eq]
  rw [c.data_eq, c.filled, ← size, List.drop_left]

theorem getElem?_headers (c : f.Carries t p) {i : Nat} (inside : i < t.unpaddedLength) :
    f.data[i]? = p.headers.encode[i]? := by
  rw [t.unpaddedLength_eq, ← c.configured.size, ← Headers.length_encodeFlagged] at inside
  rw [c.data_eq]
  exact List.getElem?_append_left inside

theorem inner_eq (c : f.Carries t p) : f.data.drop (62 + 16 * t.segments.length) =
    p.headers.ipv4.encode ++ (p.headers.udp.encode ++ .replicate f.padding t.filler) := by
  have placed := c.placed
  rw [← c.ipv4Start_eq, placed.ipv4, placed.udp, placed.payload, c.filled]
  rfl

theorem inner_congr (c : f.Carries t p) (d : g.Carries t' q) (inner : t.SameInner t')
    (padding : f.padding = g.padding) :
    f.data.drop (62 + 16 * t.segments.length) = g.data.drop (62 + 16 * t'.segments.length) := by
  have configured := c.configured
  rw [padding] at configured
  rw [c.inner_eq, d.inner_eq, configured.ipv4_congr d.configured inner,
    configured.udp_congr d.configured inner, padding, inner.filler]

theorem data_congr (c : f.Carries t p) (d : g.Carries t q) (padding : f.padding = g.padding) :
    f.data = g.data := by
  have configured := c.configured
  rw [padding] at configured
  rw [c.data_eq, d.data_eq, c.filled, d.filled, padding, configured.unique d.configured]

/-- Below the padding, the octets of the fields that tell the lengths or the checksums may differ. -/
theorem getElem?_lengths (c : f.Carries t p) (d : g.Carries t q) {o i : Nat}
    (place : o = 62 + 16 * t.segments.length) (inside : i < t.unpaddedLength)
    (elsewhere : i ∉ [18, 19, o + 2, o + 3, o + 10, o + 11, o + 24, o + 25, o + 26, o + 27]) :
    f.data[i]? = g.data[i]? := by
  rw [c.getElem?_headers inside, d.getElem?_headers inside]
  apply (c.configured.agreeOutside_lengths d.configured place).getElem?_eq
  simp only [List.mem_cons, List.not_mem_nil, or_false, not_or] at elsewhere
  simp only [List.forall_mem_cons, Window.Covers]
  refine ⟨?_, ?_, ?_, ?_, ?_, nofun⟩ <;> omega

theorem getElem?_outer (c : f.Carries t p) (d : g.Carries t' q) (inner : t.SameInner t')
    (segments : t.segments = t'.segments) (padding : f.padding = g.padding) {i : Nat} (behind : 12 ≤ i)
    (hops : i ≠ 21) (source : ¬(22 ≤ i ∧ i ≤ 37)) : f.data[i]? = g.data[i]? := by
  have configured := c.configured
  rw [padding] at configured
  rw [c.data_eq, d.data_eq, c.filled, d.filled, padding, inner.filler]
  apply (configured.agreeOutside_outer d.configured inner segments _).getElem?_eq
  simp only [List.forall_mem_cons, Window.Covers]
  refine ⟨?_, ?_, ?_, ?_, nofun⟩ <;> omega

end Frame.Carries

namespace Template
variable {t t' : Template} {serial serial' : Nat} {length length' : Int64} {f g : Frame}

theorem missing_congr (segments : t.segments = t'.segments) (length : Int64) :
    t.missing length = t'.missing length := by
  rw [missing, missing, t.unpaddedLength_eq, t'.unpaddedLength_eq, segments]

theorem frame_beq_iff : (f == g) = true ↔ f.data = g.data ∧ f.padding = g.padding := by
  change (f.data == g.data && f.padding == g.padding) = true ↔ _
  rw [Bool.and_eq_true, beq_iff_eq, beq_iff_eq]

theorem beq_of_padding (built : (t.build serial length).value = .ok f)
    (built' : (t.build serial' length').value = .ok g) (padding : f.padding = g.padding) :
    (f == g) = true := by
  obtain ⟨_, p, c⟩ := carries_of_build built
  obtain ⟨_, q, d⟩ := carries_of_build built'
  exact frame_beq_iff.2 ⟨c.data_congr d padding, padding⟩

/-- The serial number has no part in the octets. -/
theorem frames_beq (made : (t.build serial length).value = .ok f)
    (made' : (t.build serial' length).value = .ok g) : (f == g) = true :=
  beq_of_padding made made' ((carries_of_build made).1.trans (carries_of_build made').1.symm)

/-- The length of a frame asks for the same frame again. -/
theorem build_length_again (built : (t.build serial length).value = .ok f) (serial' : Nat) :
    ∃ g, (t.build serial' (.ofNat f.length)).value = .ok g ∧ (f == g) = true := by
  have builds := t.builds serial length
  rw [built] at builds
  cases builds with
  | frame nonempty few short _ padded p carries =>
    have size := carries.length_eq
    rw [padded, missing, t.unpaddedLength_eq] at size
    have value : (Int64.ofNat f.length).toInt = f.length := Int64.toInt_ofNat_of_lt (by omega)
    obtain ⟨g, again⟩ := t.exists_frame serial' (.ofNat f.length) nonempty few (by omega)
    refine ⟨g, again, beq_of_padding built again ?_⟩
    rw [padded, (carries_of_build again).1, missing, missing, value, t.unpaddedLength_eq]
    omega

/-- Two frames of one template differ in the lengths and the checksums, and in how often the filler comes at
their ends. With the same padding they are the same. -/
theorem padding_reaches_lengths (built : (t.build serial length).value = .ok f)
    (built' : (t.build serial' length').value = .ok g) :
    (∀ o, o = 62 + 16 * t.segments.length → t.unpaddedLength = o + 28 ∧ ∀ i < t.unpaddedLength,
      i ∉ [18, 19, o + 2, o + 3, o + 10, o + 11, o + 24, o + 25, o + 26, o + 27] →
        f.data[i]? = g.data[i]?) ∧
    (f.data.drop t.unpaddedLength = .replicate f.padding t.filler ∧
      g.data.drop t.unpaddedLength = .replicate g.padding t.filler) ∧
    (f.padding = g.padding → (f == g) = true) ∧
    (length.toInt ≤ t.unpaddedLength → length'.toInt ≤ t.unpaddedLength → (f == g) = true) ∧
    ∃ again, (t.build serial' (.ofNat f.length)).value = .ok again ∧ (f == again) = true := by
  obtain ⟨padded, p, c⟩ := carries_of_build built
  obtain ⟨padded', q, d⟩ := carries_of_build built'
  refine ⟨?_, ⟨c.padded, d.padded⟩, beq_of_padding built built', ?_, build_length_again built serial'⟩
  · intro o place
    refine ⟨?_, fun i inside elsewhere => c.getElem?_lengths d place inside elsewhere⟩
    rw [t.unpaddedLength_eq]
    omega
  · intro short short'
    apply beq_of_padding built built'
    rw [padded, padded', missing, missing]
    omega

/-- Two segments, and lengths that leave an even and an odd number of octets to fill. -/
theorem padding_reaches_sample : ∃ f g : Frame,
    (build { segments := [.ofGroups 0xfc00 9 0 0 0 0 0 9, .ofGroups 0xfc00 8 0 0 0 0 0 8] }
      0 130).value = .ok f ∧
    (build { segments := [.ofGroups 0xfc00 9 0 0 0 0 0 9, .ofGroups 0xfc00 8 0 0 0 0 0 8] }
      5 333).value = .ok g ∧
    f.data[93]? = g.data[93]? ∧ f.data.drop 122 = .replicate 8 0x78 ∧
    g.data.drop 122 = .replicate 211 0x78 := by
  let t : Template := { segments := [.ofGroups 0xfc00 9 0 0 0 0 0 9, .ofGroups 0xfc00 8 0 0 0 0 0 8] }
  obtain ⟨f, built⟩ := t.exists_frame 0 130 (by decide) (by decide) (by decide)
  obtain ⟨g, built'⟩ := t.exists_frame 5 333 (by decide) (by decide) (by decide)
  obtain ⟨headers, ⟨filled, filled'⟩, _⟩ := padding_reaches_lengths built built'
  have padding : f.padding = 8 := (carries_of_build built).1.trans (by decide)
  have padding' : g.padding = 211 := (carries_of_build built').1.trans (by decide)
  rw [padding] at filled
  rw [padding'] at filled'
  exact ⟨f, g, built, built', (headers 94 rfl).2 93 (by decide) (by decide), filled, filled'⟩

/-- The inner datagram is told by the inner parts of a template and the padding, wherever it stands in its
frame. The other parts, if the segments are the same, do not reach beyond the places of their own fields. -/
theorem layers_independent :
    (∀ (t t' : Template) (serial serial' : Nat) (length length' : Int64) (f g : Frame), t.SameInner t' →
      (t.build serial length).value = .ok f → (t'.build serial' length').value = .ok g →
      f.padding = g.padding →
        f.data.drop (62 + 16 * t.segments.length) = g.data.drop (62 + 16 * t'.segments.length)) ∧
    ∀ (t t' : Template) (serial serial' : Nat) (length : Int64),
      t' = { t with
        destinationMac := t'.destinationMac
        sourceMac := t'.sourceMac
        outerSource := t'.outerSource
        hopLimit := t'.hopLimit } →
      (∃ e, (t.build serial length).value = .error e ∧ (t'.build serial' length).value = .error e) ∨
      ∃ f g, (t.build serial length).value = .ok f ∧ (t'.build serial' length).value = .ok g ∧
        f.length = g.length ∧
        ∀ i, 12 ≤ i → i ≠ 21 → ¬(22 ≤ i ∧ i ≤ 37) → f.data[i]? = g.data[i]? := by
  constructor
  · intro t t' serial serial' length length' f g inner built built' padding
    obtain ⟨_, p, c⟩ := carries_of_build built
    obtain ⟨_, q, d⟩ := carries_of_build built'
    exact c.inner_congr d inner padding
  · intro t t' serial serial' length others
    have segments : t.segments = t'.segments := by rw [others]
    have inner : t.SameInner t' := by
      rw [others]
      exact ⟨rfl, rfl, rfl, rfl, rfl, rfl⟩
    rcases build_alike segments serial serial' length with refused | ⟨f, g, built, built'⟩
    · exact .inl refused
    · obtain ⟨padded, p, c⟩ := carries_of_build built
      obtain ⟨padded', q, d⟩ := carries_of_build built'
      have padding : f.padding = g.padding := by rw [padded, padded', missing_congr segments]
      refine .inr ⟨f, g, built, built', ?_, ?_⟩
      · rw [c.length_eq, d.length_eq, padding, t.unpaddedLength_eq, t'.unpaddedLength_eq, segments]
      · intro i behind hops source
        exact c.getElem?_outer d inner segments padding behind hops source

/-- One segment and two, with the same padding behind them. The last of the inner checksums and the inner
source are beyond the reach of the addresses of the link layer and of the hops. -/
theorem layers_independent_sample : ∃ f g k : Frame,
    (build {} 0 113).value = .ok f ∧
    (build { segments := [.ofGroups 0xfc00 9 0 0 0 0 0 9, .ofGroups 0xfc00 8 0 0 0 0 0 8], hopLimit := 9 }
      4 129).value = .ok g ∧
    (build { sourceMac := .broadcast, hopLimit := 3 } 2 113).value = .ok k ∧
    f.data.drop 78 = g.data.drop 94 ∧ f.data[105]? = k.data[105]? ∧ f.data[20]? = k.data[20]? := by
  let two : Template := {
    segments := [.ofGroups 0xfc00 9 0 0 0 0 0 9, .ofGroups 0xfc00 8 0 0 0 0 0 8], hopLimit := 9 }
  let near : Template := { sourceMac := .broadcast, hopLimit := 3 }
  obtain ⟨inner, outer⟩ := layers_independent
  obtain ⟨g, built'⟩ := two.exists_frame 4 129 (by decide) (by decide) (by decide)
  rcases outer {} near 0 2 113 rfl with ⟨e, failed, _⟩ | ⟨f, k, built, near, _, agree⟩
  · obtain ⟨f, built⟩ := exists_frame {} 0 113 (by decide) (by decide) (by decide)
    cases built.symm.trans failed
  · have padding : f.padding = 7 := (carries_of_build built).1.trans (by decide)
    have padding' : g.padding = 7 := (carries_of_build built').1.trans (by decide)
    have same : SameInner {} two := ⟨rfl, rfl, rfl, rfl, rfl, rfl⟩
    have moved := inner {} two 0 4 113 129 f g same built built' (padding.trans padding'.symm)
    have starts : 62 + 16 * ({} : Template).segments.length = 78 := by decide
    have starts' : 62 + 16 * two.segments.length = 94 := by decide
    rw [starts, starts'] at moved
    exact ⟨f, g, k, built, built', near, moved, agree 105 (by decide) (by decide) (by decide),
      agree 20 (by decide) (by decide) (by decide)⟩

end Template
end Srv6Traffic
