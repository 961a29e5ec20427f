import Srv6Traffic.Packet.Basic

/-! A line for each layer of a packet, from the outside in. -/
namespace Srv6Traffic.LayerSummary

def hexWord (w : UInt16) : String := "0x" ++ .ofList (Hex.padded 4 w.toNat)

def ethernet (h : Header.Ethernet) : String :=
  s!"Ether  {h.source.render} > {h.destination.render} type={hexWord h.etherType}"

def ipv6 (h : Header.Ipv6) : String :=
  s!"IPv6   {h.source.render} > {h.destination.render} hlim={h.hopLimit} plen={h.payloadLength}"

def routing (h : Header.SegmentRouting) : String :=
  let segments := ", ".intercalate (h.segments.map Ipv6Address.render)
  s!"SRH    len={h.extLength} segleft={h.segmentsLeft} lastentry={h.lastEntry} " ++
    s!"segments=[{segments}]"

def ipv4 (h : Header.Ipv4) : String :=
  s!"IPv4   {h.source.render} > {h.destination.render} ttl={h.timeToLive} " ++
    s!"len={h.totalLength} chksum={hexWord h.checksum}"

def udp (h : Header.Udp) : String :=
  s!"UDP    {h.sourcePort} > {h.destinationPort} len={h.length} chksum={hexWord h.checksum}"

def lines (p : Packet) : List String :=
  let h := p.headers
  [ethernet h.ethernet, ipv6 h.ipv6, routing h.routing, ipv4 h.ipv4, udp h.udp,
    s!"Raw    {p.payload.length} bytes"]

end Srv6Traffic.LayerSummary
