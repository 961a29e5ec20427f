import Srv6Traffic.Template
import Srv6Traffic.Proofs.Packet.RoundTrip

/-! What building a template comes to. Every way it can end is one case of `Builds`, and the packet of
the one that succeeds is told field by field. No later proof opens the builder again. Of the lengths
that have to fit into a field, the outer payload length is the one that decides. -/
namespace Srv6Traffic

namespace Template
variable {t : Template} {padding : Nat} {h : Headers}

theorem unpaddedLength_eq (t : Template) : t.unpaddedLength = 90 + 16 * t.segments.length := by
  simp only [unpaddedLength, Header.Ethernet.size, Header.Ipv6.size, Header.SegmentRouting.fixedSize,
    Header.SegmentRouting.segmentSize, Header.Ipv4.minSize, Header.Udp.size]
  omega

/-- The headers of a frame of this template with so much padding, field by field. -/
structure Configured (t : Template) (padding : Nat) (h : Headers) : Prop where
  destinationMac : h.ethernet.destination = t.destinationMac
  sourceMac : h.ethernet.source = t.sourceMac
  etherType : h.ethernet.etherType = 0x86dd
  trafficClass : h.ipv6.trafficClass = 0
  flowLabel : h.ipv6.flowLabel = 0
  payloadLength : h.ipv6.payloadLength.toNat = 36 + 16 * t.segments.length + padding
  nextHeader : h.ipv6.nextHeader = 43
  hopLimit : h.ipv6.hopLimit = t.hopLimit
  outerSource : h.ipv6.source = t.outerSource
  outerDestination : h.ipv6.destination = h.routing.activeSegment
  routing : h.routing.Fresh .ipInIp 0 0 t.segments
  service : h.ipv4.dscp = 0 ∧ h.ipv4.ecn = 0
  totalLength : h.ipv4.totalLength.toNat = 28 + padding
  identification : h.ipv4.identification = 1
  unfragmented : h.ipv4.dontFragment = false ∧ h.ipv4.moreFragments = false ∧
    h.ipv4.fragmentOffset = 0
  timeToLive : h.ipv4.timeToLive = t.timeToLive
  protocol : h.ipv4.protocol = 17
  headerChecksum : h.ipv4.checksum = h.ipv4.headerChecksum
  innerSource : h.ipv4.source = t.innerSource
  innerDestination : h.ipv4.destination = t.innerDestination
  options : h.ipv4.options.val = []
  sourcePort : h.udp.sourcePort = t.sourcePort
  destinationPort : h.udp.destinationPort = t.destinationPort
  udpLength : h.udp.length.toNat = 8 + padding
  checksum : h.udp.checksum =
    h.udp.checksumFor t.innerSource t.innerDestination (.replicate padding t.filler)

namespace Configured

theorem ipv4Size (c : t.Configured padding h) : h.ipv4.size = 20 := by
  rw [Header.Ipv4.size, c.options]
  rfl

theorem size (c : t.Configured padding h) : h.size = 90 + 16 * t.segments.length := by
  rw [h.size_eq, c.routing.size, c.ipv4Size]
  omega

theorem agree (c : t.Configured padding h) : h.Agree (.replicate padding t.filler) where
  etherType := c.etherType
  routed := c.nextHeader
  destination := c.outerDestination
  payloadLength := by
    rw [c.payloadLength, c.totalLength, c.routing.size]
    omega
  tunnelled := c.routing.nextHeader
  protocol := c.protocol
  headerChecksum := c.headerChecksum
  totalLength := by
    rw [c.totalLength, c.udpLength, c.ipv4Size]
    omega
  length := by rw [c.udpLength, List.length_replicate, Header.Udp.size]
  checksum := by
    rw [c.innerSource, c.innerDestination]
    exact .inr c.checksum

end Configured

theorem lengthWord_of_lt {n : Nat} (fits : n < 65536) :
    ∃ w, Header.lengthWord n = .ok w ∧ w.toNat = n := by
  refine ⟨.ofNat n, if_pos fits, ?_⟩
  rw [UInt16.toNat_ofNat']
  exact Nat.mod_eq_of_lt fits

theorem lengthWord_of_le {n : Nat} (large : 65536 ≤ n) :
    Header.lengthWord n = .error .payloadTooLarge :=
  if_neg (Nat.not_lt_of_le large)

theorem innerLength : Header.Ipv4.minSize + Header.Udp.size + padding = 28 + padding := rfl

/-- The limit of the UDP payload never decides. The inner length has fitted before it is looked at, and that counts
more. -/
theorem udp_of_inner (t : Template) (inner : 28 + padding < 65536) (source destination : Ipv4Address) :
    Header.Udp.build t.sourcePort t.destinationPort source destination (.replicate padding t.filler) =
      .ok (Header.Udp.withChecksum ⟨t.sourcePort, t.destinationPort, .ofNat (8 + padding), 0⟩
        source destination (.replicate padding t.filler)) := by
  have short : ¬65535 - Header.Udp.size < (List.replicate padding t.filler).length := by
    rw [List.length_replicate, Header.Udp.size]
    omega
  rw [Header.Udp.build, if_neg short, List.length_replicate, Header.Udp.size]

theorem headers_of_nil (empty : t.segments = []) : t.headers padding = .error .noSegments := by
  rw [headers, empty]
  rfl

theorem headers_of_many (many : 127 < t.segments.length) :
    t.headers padding = .error .tooManySegments := by
  rw [headers, Header.SegmentRouting.build_of_many many]
  rfl

/-- The outer length counts more than the inner one, so it is the one that decides what fits. -/
theorem headers_of_long (nonempty : t.segments ≠ []) (few : t.segments.length ≤ 127)
    (long : 65536 ≤ 36 + 16 * t.segments.length + padding) :
    t.headers padding = .error .payloadTooLarge := by
  obtain ⟨routing, built, fresh⟩ :=
    @Header.SegmentRouting.build_of_few .ipInIp 0 0 t.segments nonempty few
  by_cases inner : 28 + padding < 65536
  · obtain ⟨total, word, value⟩ := lengthWord_of_lt inner
    have outer : 65536 ≤ routing.size + total.toNat := by
      rw [fresh.size, value]
      omega
    simp only [headers, built, innerLength, word, t.udp_of_inner inner, lengthWord_of_le outer, bind, Except.bind]
  · have large : 65536 ≤ 28 + padding := Nat.le_of_not_lt inner
    simp only [headers, built, innerLength, lengthWord_of_le large, bind, Except.bind]

theorem headers_of_fits (nonempty : t.segments ≠ []) (few : t.segments.length ≤ 127)
    (fits : 36 + 16 * t.segments.length + padding < 65536) :
    ∃ h, t.headers padding = .ok h ∧ t.Configured padding h := by
  obtain ⟨routing, built, fresh⟩ :=
    @Header.SegmentRouting.build_of_few .ipInIp 0 0 t.segments nonempty few
  have room : 28 + padding < 65536 := by omega
  obtain ⟨total, inner, totalLength⟩ := lengthWord_of_lt room
  obtain ⟨payload, outer, payloadLength⟩ :=
    lengthWord_of_lt (by rw [fresh.size]; omega : routing.size + total.toNat < 65536)
  rw [fresh.size] at payloadLength
  simp only [headers, built, innerLength, inner, t.udp_of_inner room, outer, bind, Except.bind]
  refine ⟨_, rfl, ?_⟩
  exact {
    destinationMac := rfl
    sourceMac := rfl
    etherType := rfl
    trafficClass := rfl
    flowLabel := rfl
    payloadLength := by
      change payload.toNat = _
      omega
    nextHeader := rfl
    hopLimit := rfl
    outerSource := rfl
    outerDestination := rfl
    routing := fresh
    service := ⟨rfl, rfl⟩
    totalLength := totalLength
    identification := rfl
    unfragmented := ⟨rfl, rfl, rfl⟩
    timeToLive := rfl
    protocol := rfl
    headerChecksum := rfl
    innerSource := rfl
    innerDestination := rfl
    options := rfl
    sourcePort := rfl
    destinationPort := rfl
    udpLength := by
      change (UInt16.ofNat (8 + padding)).toNat = _
      rw [UInt16.toNat_ofNat']
      omega
    checksum := rfl }

end Template

/-- A frame of a template is the whole encoding of a packet, which has been filled up to its length. -/
structure Frame.Carries (f : Frame) (t : Template) (p : Packet) : Prop where
  configured : t.Configured f.padding p.headers
  filled : p.payload.data = .replicate f.padding t.filler
  written : p.encode? = some f.bytes.buffer.writer
  whole : f.bytes = .whole f.bytes.buffer

namespace Frame.Carries
open Layout
variable {f : Frame} {t : Template} {p : Packet}

theorem data_writer (c : f.Carries t p) : f.data = f.bytes.buffer.writer.data :=
  (congrArg Slice.data c.whole).trans (Slice.data_whole _)

theorem data_eq (c : f.Carries t p) : f.data = p.headers.encode ++ p.payload.data := by
  rw [c.data_writer, Packet.data_of_encode c.written]

theorem frames (c : f.Carries t p) : p.headers.Frames p.payload.data f.data := by
  rw [c.data_eq]
  exact Headers.frames_encode _ _

theorem length_eq (c : f.Carries t p) : f.length = t.unpaddedLength + f.padding := by
  have octets : f.bytes.data.length = p.headers.size + p.payload.data.length := c.frames.length
  rw [Frame.length, ← Slice.length_data, octets, c.configured.size, c.filled, t.unpaddedLength_eq,
    List.length_replicate]

theorem placed (c : f.Carries t p) :
    p.headers.Placed p.headers.ipv4.flagsWord p.payload.data f.data := by
  rw [c.data_writer]
  exact Packet.placed_of_encode c.written

theorem ipv4Start_eq (c : f.Carries t p) : ipv4Start f.data = 62 + 16 * t.segments.length := by
  rw [Headers.ipv4Start_eq c.placed.routing, c.configured.routing.size]
  omega

theorem udpStart_eq (c : f.Carries t p) : udpStart f.data = 82 + 16 * t.segments.length := by
  rw [udpStart, c.placed.ipv4Length_eq, c.configured.ipv4Size, c.ipv4Start_eq]
  omega

end Frame.Carries

namespace Template
variable {t : Template} {serial : Nat} {length : Int64} {f : Frame}

/-- The difference to the requested length, if there is one to fill up. -/
def missing (t : Template) (length : Int64) : Nat := (length.toInt - t.unpaddedLength).toNat

/-- The conversion to a natural number cannot fail. -/
theorem paddingFor_eq_ok (t : Template) (length : Int64) :
    t.paddingFor length = .ok (Signed.saturatingSub length (.ofNat t.unpaddedLength)).toInt.toNat := by
  unfold paddingFor
  rw [Signed.unsigned?_max_zero]

/-- No bound of the arithmetic is met but by more segments than a header has room for. -/
theorem paddingFor_of_few (few : t.segments.length ≤ 127) : t.paddingFor length = .ok (t.missing length) := by
  have size := t.unpaddedLength_eq
  have unpadded : (Int64.ofNat t.unpaddedLength).toInt = t.unpaddedLength := Int64.toInt_ofNat_of_lt (by omega)
  have least := length.le_toInt
  have greatest := length.toInt_lt
  rw [paddingFor_eq_ok, Signed.toInt_saturatingSub, Int64.toInt_minValue, Int64.toInt_maxValue, unpadded, missing]
  exact congrArg Except.ok (by omega)

/-- The ways in which building can end, each with its condition. -/
inductive Builds (t : Template) (length : Int64) : Except BuildError Frame → Prop where
  | noSegments (empty : t.segments = []) : t.Builds length (.error .noSegments)
  | tooManySegments (many : 127 < t.segments.length) : t.Builds length (.error .tooManySegments)
  | packetTooLarge (nonempty : t.segments ≠ []) (few : t.segments.length ≤ 127)
      (long : 65589 < length.toInt) : t.Builds length (.error .packetTooLarge)
  | frame (nonempty : t.segments ≠ []) (few : t.segments.length ≤ 127)
      (short : length.toInt ≤ 65589) (f : Frame) (padded : f.padding = t.missing length)
      (p : Packet) (carries : f.Carries t p) : t.Builds length (.ok f)

theorem mapError_ok {ε ε' α : Type} (f : ε → ε') (a : α) :
    (Except.ok a : Except ε α).mapError f = .ok a := rfl

theorem frame_of_headers {h : Headers} {padding : Nat} (padded : t.paddingFor length = .ok padding)
    (made : t.headers padding = .ok h) (configured : t.Configured padding h) :
    ∃ (f : Frame) (p : Packet), t.frame serial length = .ok f ∧ f.padding = padding ∧ p.headers = h ∧
      f.Carries t p := by
  have agree := configured.agree
  rw [← Slice.data_ofBytes serial (.replicate padding t.filler)] at agree
  obtain ⟨p, built, headers, payload⟩ := Packet.build_of_agree agree
  obtain ⟨w, written, _⟩ := p.encode?_eq_some
  refine ⟨⟨.whole ⟨serial + 1, w⟩, padding⟩, p, ?_, rfl, headers, ?_, ?_, written, rfl⟩
  · simp only [frame, padded, made, built, written, mapError_ok, bind, Except.bind]
    rfl
  · rw [headers]
    exact configured
  · rw [payload, Slice.data_ofBytes]

theorem value_build (t : Template) (serial : Nat) (length : Int64) :
    (t.build serial length).value = t.frame serial length := by
  unfold build
  cases t.frame serial length <;> rfl

theorem frame_of_refused {padding : Nat} {e : Header.BuildError} (padded : t.paddingFor length = .ok padding)
    (refused : t.headers padding = .error e) : t.frame serial length = .error (.ofHeader e) := by
  simp only [frame, padded, bind, Except.bind, refused]
  rfl

theorem build_of_nil (empty : t.segments = []) : (t.build serial length).value = .error .noSegments := by
  rw [value_build, frame_of_refused (t.paddingFor_eq_ok length) (headers_of_nil empty)]
  rfl

theorem build_of_many (many : 127 < t.segments.length) :
    (t.build serial length).value = .error .tooManySegments := by
  rw [value_build, frame_of_refused (t.paddingFor_eq_ok length) (headers_of_many many)]
  rfl

theorem build_of_long (nonempty : t.segments ≠ []) (few : t.segments.length ≤ 127)
    (long : 65589 < length.toInt) : (t.build serial length).value = .error .packetTooLarge := by
  have unpadded := t.unpaddedLength_eq
  have large : 65536 ≤ 36 + 16 * t.segments.length + t.missing length := by
    rw [missing]
    omega
  rw [value_build, frame_of_refused (paddingFor_of_few few) (headers_of_long nonempty few large)]
  rfl

theorem fits_of_short (t : Template) (few : t.segments.length ≤ 127) (short : length.toInt ≤ 65589) :
    36 + 16 * t.segments.length + t.missing length < 65536 := by
  have unpadded := t.unpaddedLength_eq
  rw [missing]
  omega

theorem builds (t : Template) (serial : Nat) (length : Int64) :
    t.Builds length (t.build serial length).value := by
  by_cases empty : t.segments = []
  · rw [build_of_nil empty]
    exact .noSegments empty
  by_cases few : t.segments.length ≤ 127
  · by_cases short : length.toInt ≤ 65589
    · obtain ⟨h, made, configured⟩ := headers_of_fits empty few (t.fits_of_short few short)
      obtain ⟨f, p, done, padded, _, carries⟩ := frame_of_headers (paddingFor_of_few few) made configured
      rw [value_build, done]
      exact .frame empty few short f padded p carries
    · have long := Int.lt_of_not_ge short
      rw [build_of_long empty few long]
      exact .packetTooLarge empty few long
  · have many := Nat.lt_of_not_le few
    rw [build_of_many many]
    exact .tooManySegments many

theorem exists_frame (t : Template) (serial : Nat) (length : Int64) (nonempty : t.segments ≠ [])
    (few : t.segments.length ≤ 127) (short : length.toInt ≤ 65589) :
    ∃ f, (t.build serial length).value = .ok f := by
  have builds := t.builds serial length
  generalize (t.build serial length).value = outcome at builds
  cases builds with
  | noSegments empty => exact absurd empty nonempty
  | tooManySegments many => exact absurd few (Nat.not_le_of_gt many)
  | packetTooLarge _ _ long => exact absurd short (Int.not_le_of_gt long)
  | frame _ _ _ f => exact ⟨f, rfl⟩

/-- Whether a frame can be built, and the reason why not, is decided by the segments and the length. -/
theorem build_alike {t' : Template} (segments : t.segments = t'.segments) (serial serial' : Nat)
    (length : Int64) :
    (∃ e, (t.build serial length).value = .error e ∧ (t'.build serial' length).value = .error e) ∨
      ∃ f g, (t.build serial length).value = .ok f ∧ (t'.build serial' length).value = .ok g := by
  by_cases empty : t.segments = []
  · exact .inl ⟨_, build_of_nil empty, build_of_nil (segments ▸ empty)⟩
  by_cases few : t.segments.length ≤ 127
  · by_cases short : length.toInt ≤ 65589
    · obtain ⟨f, made⟩ := t.exists_frame serial length empty few short
      obtain ⟨g, made'⟩ := t'.exists_frame serial' length (segments ▸ empty) (segments ▸ few) short
      exact .inr ⟨f, g, made, made'⟩
    · have long := Int.lt_of_not_ge short
      exact .inl ⟨_, build_of_long empty few long, build_of_long (segments ▸ empty) (segments ▸ few) long⟩
  · have many := Nat.lt_of_not_le few
    exact .inl ⟨_, build_of_many many, build_of_many (segments ▸ many)⟩

theorem carries_of_build (built : (t.build serial length).value = .ok f) :
    f.padding = t.missing length ∧ ∃ p, f.Carries t p := by
  have builds := t.builds serial length
  rw [built] at builds
  cases builds with
  | frame _ _ _ _ padded p carries => exact ⟨padded, p, carries⟩

/-- The headers of a frame are those that were made for its padding. -/
theorem headers_of_build (built : (t.build serial length).value = .ok f) :
    ∃ p, t.headers f.padding = .ok p.headers ∧ f.Carries t p := by
  have builds := t.builds serial length
  rw [built] at builds
  cases builds with
  | frame nonempty few short =>
    obtain ⟨h, made, configured⟩ := headers_of_fits nonempty few (t.fits_of_short few short)
    obtain ⟨g, p, done, padded, same, carries⟩ := frame_of_headers (paddingFor_of_few few) made configured
    rw [value_build, done] at built
    cases built
    exact ⟨p, by rw [padded, same, made], carries⟩

/-- The lengths that a frame tells of itself, in fields of one or two octets, are its true lengths. -/
structure Untruncated (t : Template) (f : Frame) : Prop where
  payloadLength : wordAt f.data 18 = f.length - 54
  extLength : octetAt f.data 55 = 2 * t.segments.length
  segmentsLeft : octetAt f.data 57 = t.segments.length - 1
  lastEntry : octetAt f.data 58 = t.segments.length - 1
  totalLength : wordAt f.data (64 + 16 * t.segments.length) = 28 + f.padding
  udpLength : wordAt f.data (86 + 16 * t.segments.length) = 8 + f.padding

theorem untruncated_of_carries {t : Template} {f : Frame} {p : Packet} (carries : f.Carries t p) :
    t.Untruncated f := by
  have c := carries.configured
  have stand := carries.placed.standIn
  have last := p.headers.routing.toNat_lastEntry
  have ext := p.headers.routing.toNat_extLength
  have payload : wordAt f.data 18 = p.headers.ipv6.payloadLength.toNat := stand.ipv6.payloadLength
  have ext' : octetAt f.data 55 = p.headers.routing.extLength.toNat := stand.routing.extLength
  have left : octetAt f.data 57 = p.headers.routing.segmentsLeft.toNat := stand.routing.segmentsLeft
  have last' : octetAt f.data 58 = p.headers.routing.lastEntry.toNat := stand.routing.lastEntry
  have total := stand.ipv4.totalLength
  have length := stand.udp.length
  have size := carries.length_eq
  rw [c.routing.segments] at last ext
  rw [carries.ipv4Start_eq, c.totalLength] at total
  rw [carries.udpStart_eq, c.udpLength] at length
  rw [c.payloadLength] at payload
  rw [c.routing.segmentsLeft] at left
  rw [t.unpaddedLength_eq] at size
  refine ⟨?_, ?_, ?_, ?_, ?_, ?_⟩
  · omega
  · omega
  · omega
  · omega
  · rw [← total]
    congr 1
    omega
  · rw [← length]
    congr 1
    omega

/-- Building fails for no segments, for more than 127, and for a length over 65589 octets, and for
nothing else. It gives the length asked for, or that of the headers if that is more. -/
theorem build_domain (t : Template) (serial : Nat) (length : Int64) :
    t.unpaddedLength = 90 + 16 * t.segments.length ∧
    ((t.build serial length).value = .error .noSegments ↔ t.segments.length = 0) ∧
    ((t.build serial length).value = .error .tooManySegments ↔ 127 < t.segments.length) ∧
    ((t.build serial length).value = .error .packetTooLarge ↔
      1 ≤ t.segments.length ∧ t.segments.length ≤ 127 ∧ 65589 < length.toInt) ∧
    (∀ field, (t.build serial length).value ≠ .error (.inconsistent field)) ∧
    (t.build serial length).value ≠ .error .notEnoughSpace ∧
    (1 ≤ t.segments.length → t.segments.length ≤ 127 → length.toInt ≤ 65589 →
      ∃ (f : Frame) (p : Packet), (t.build serial length).value = .ok f ∧
        (f.length : Int) = max length.toInt t.unpaddedLength ∧
        f.length = t.unpaddedLength + f.padding ∧
        t.Untruncated f ∧
        p.encode? = some f.bytes.buffer.writer ∧ f.bytes.buffer.writer.dataLength = p.frameLength ∧
        f.bytes = .whole f.bytes.buffer) := by
  have builds := t.builds serial length
  refine ⟨t.unpaddedLength_eq, ?_⟩
  generalize (t.build serial length).value = outcome at builds
  cases builds with
  | noSegments empty => simp [empty]
  | tooManySegments many =>
    have some : t.segments ≠ [] := List.ne_nil_of_length_pos (by omega)
    have beyond : ¬ t.segments.length ≤ 127 := by omega
    simp [many, some, beyond]
  | packetTooLarge nonempty few long =>
    have some : 1 ≤ t.segments.length := List.length_pos_iff.2 nonempty
    have beyond : ¬ length.toInt ≤ 65589 := by omega
    simp [nonempty, some, few, long, beyond]
  | frame nonempty few short f padded p carries =>
    have within : ¬ 127 < t.segments.length := by omega
    have fits : ¬ 65589 < length.toInt := by omega
    refine ⟨by simp [nonempty], by simp [within], by simp [fits], by simp, by simp, ?_⟩
    intro _ _ _
    have size := carries.length_eq
    rw [padded, missing] at size
    exact ⟨f, p, rfl, by omega, carries.length_eq, untruncated_of_carries carries, carries.written,
      Packet.dataLength_of_encode carries.written, carries.whole⟩

/-- The greatest length there is, and one more. -/
theorem build_domain_greatest :
    (∃ f, (build {} 0 65589).value = .ok f ∧ f.length = 65589) ∧
      (build {} 0 65590).value = .error .packetTooLarge := by
  obtain ⟨_, _, _, _, _, _, made⟩ := build_domain {} 0 65589
  obtain ⟨f, _, done, length, _⟩ := made (by decide) (by decide) (by decide)
  obtain ⟨_, _, _, tooLarge, _⟩ := build_domain {} 0 65590
  refine ⟨⟨f, done, ?_⟩, tooLarge.2 (by decide)⟩
  exact Int.ofNat_inj.1 (length.trans (by decide))

end Template
end Srv6Traffic
