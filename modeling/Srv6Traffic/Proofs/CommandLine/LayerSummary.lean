import Srv6Traffic.CommandLine.LayerSummary
import Srv6Traffic.Proofs.Address.Ip

/-! What the summary of the layers says. Each line stands here as it is printed, with a text for each value that is
told by the value alone. A packet has one summary, of six lines. -/
namespace Srv6Traffic

namespace Mac
variable {mac : Mac} {text : String}

/-- Six numbers of two digits, with colons between them. -/
inductive Written (mac : Mac) : String → Prop
  | intro {groups : List (List Char)}
    (paired : List.Forall₂ (fun group b => Hex.Padded 2 group b.toNat) groups mac.octets.val) :
    Written mac (.ofList ([':'].intercalate groups))

theorem written_iff : mac.Written text ↔ mac.render = text := by
  have digits (b : UInt8) (group : List Char) : Hex.Padded 2 group b.toNat ↔ Hex.octet b = group :=
    Hex.padded_octet_iff
  constructor
  · rintro ⟨paired⟩
    rw [render, Mac.text, (forall₂_iff_map_eq digits).1 paired]
  · rintro rfl
    exact .intro ((forall₂_iff_map_eq digits).2 rfl)

end Mac

namespace LayerSummary
variable {p : Packet} {text : String} {summary : List String}

/-- A word as four digits behind a mark. -/
inductive WordText (w : UInt16) : String → Prop
  | intro {digits : List Char} (padded : Hex.Padded 4 digits w.toNat) : WordText w ("0x" ++ .ofList digits)

inductive EthernetLine (h : Header.Ethernet) : String → Prop
  | intro {source destination type : String} (sender : h.source.Written source)
    (receiver : h.destination.Written destination) (kind : WordText h.etherType type) :
    EthernetLine h s!"Ether  {source} > {destination} type={type}"

inductive Ipv6Line (h : Header.Ipv6) : String → Prop
  | intro {source destination : String} (sender : h.source.Written source)
    (receiver : h.destination.Written destination) :
    Ipv6Line h s!"IPv6   {source} > {destination} hlim={h.hopLimit.toNat} plen={h.payloadLength.toNat}"

inductive RoutingLine (h : Header.SegmentRouting) : String → Prop
  | intro {texts : List String} {segments : String}
    (written : List.Forall₂ (fun text segment => Ipv6Address.Written segment text) texts h.segments)
    (joined : ", ".intercalate texts = segments) :
    RoutingLine h (s!"SRH    len={h.extLength.toNat} segleft={h.segmentsLeft.toNat} lastentry={h.lastEntry.toNat} " ++
      s!"segments=[{segments}]")

inductive Ipv4Line (h : Header.Ipv4) : String → Prop
  | intro {source destination checksum : String} (sender : Dotted h.source.octets.val source)
    (receiver : Dotted h.destination.octets.val destination) (sum : WordText h.checksum checksum) :
    Ipv4Line h (s!"IPv4   {source} > {destination} ttl={h.timeToLive.toNat} " ++
      s!"len={h.totalLength.toNat} chksum={checksum}")

inductive UdpLine (h : Header.Udp) : String → Prop
  | intro {checksum : String} (sum : WordText h.checksum checksum) :
    UdpLine h
      s!"UDP    {h.sourcePort.toNat} > {h.destinationPort.toNat} len={h.length.toNat} chksum={checksum}"

/-- The lines that tell of a packet: one for each layer, from the outside in. -/
inductive Describes (p : Packet) : List String → Prop
  | intro {ethernet ipv6 routing ipv4 udp : String} (first : EthernetLine p.headers.ethernet ethernet)
    (second : Ipv6Line p.headers.ipv6 ipv6) (third : RoutingLine p.headers.routing routing)
    (fourth : Ipv4Line p.headers.ipv4 ipv4) (fifth : UdpLine p.headers.udp udp) :
    Describes p [ethernet, ipv6, routing, ipv4, udp, s!"Raw    {p.payload.length} bytes"]

theorem wordText_iff {w : UInt16} : WordText w text ↔ hexWord w = text := by
  constructor
  · rintro ⟨padded⟩
    rw [hexWord, (Hex.padded_iff (by decide)).1 padded]
  · rintro rfl
    exact .intro (Hex.padded_padded (by decide) _)

theorem ethernetLine_iff {h : Header.Ethernet} : EthernetLine h text ↔ ethernet h = text := by
  constructor
  · rintro ⟨sender, receiver, kind⟩
    obtain rfl := Mac.written_iff.1 sender
    obtain rfl := Mac.written_iff.1 receiver
    obtain rfl := wordText_iff.1 kind
    rfl
  · rintro rfl
    exact .intro (Mac.written_iff.2 rfl) (Mac.written_iff.2 rfl) (wordText_iff.2 rfl)

theorem ipv6Line_iff {h : Header.Ipv6} : Ipv6Line h text ↔ ipv6 h = text := by
  constructor
  · rintro ⟨sender, receiver⟩
    obtain rfl := Ipv6Address.written_iff.1 sender
    obtain rfl := Ipv6Address.written_iff.1 receiver
    rfl
  · rintro rfl
    exact .intro (Ipv6Address.written_iff.2 rfl) (Ipv6Address.written_iff.2 rfl)

theorem routingLine_iff {h : Header.SegmentRouting} : RoutingLine h text ↔ routing h = text := by
  have segment_iff (segment : Ipv6Address) (text : String) : segment.Written text ↔ segment.render = text :=
    Ipv6Address.written_iff
  constructor
  · rintro ⟨written, joined⟩
    obtain rfl := (forall₂_iff_map_eq segment_iff).1 written
    obtain rfl := joined
    rfl
  · rintro rfl
    exact .intro ((forall₂_iff_map_eq segment_iff).2 rfl) rfl

theorem ipv4Line_iff {h : Header.Ipv4} : Ipv4Line h text ↔ ipv4 h = text := by
  constructor
  · rintro ⟨sender, receiver, sum⟩
    obtain rfl := sender.eq
    obtain rfl := receiver.eq
    obtain rfl := wordText_iff.1 sum
    rfl
  · rintro rfl
    exact .intro (dotted_of_four _) (dotted_of_four _) (wordText_iff.2 rfl)

theorem udpLine_iff {h : Header.Udp} : UdpLine h text ↔ udp h = text := by
  constructor
  · rintro ⟨sum⟩
    obtain rfl := wordText_iff.1 sum
    rfl
  · rintro rfl
    exact .intro (wordText_iff.2 rfl)

theorem describes_iff : Describes p summary ↔ lines p = summary := by
  constructor
  · rintro ⟨first, second, third, fourth, fifth⟩
    rw [lines, ethernetLine_iff.1 first, ipv6Line_iff.1 second, routingLine_iff.1 third, ipv4Line_iff.1 fourth,
      udpLine_iff.1 fifth]
  · rintro rfl
    exact .intro (ethernetLine_iff.2 rfl) (ipv6Line_iff.2 rfl) (routingLine_iff.2 rfl) (ipv4Line_iff.2 rfl)
      (udpLine_iff.2 rfl)

end LayerSummary
end Srv6Traffic
