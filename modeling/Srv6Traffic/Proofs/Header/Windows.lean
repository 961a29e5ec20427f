import Srv6Traffic.Proofs.Header.Ipv4
import Srv6Traffic.Proofs.Wire.Windows
import Srv6Traffic.Header.Ethernet
import Srv6Traffic.Header.Ipv6
import Srv6Traffic.Header.Udp

/-! Fields of headers as windows. Two headers of one kind that differ in some fields alone are written to
octets that agree outside of the windows of these fields. -/
namespace Srv6Traffic.Header
variable {n : Nat} {windows : List Window} {a b : Bytes}

theorem Ethernet.agreeOutside {h h' : Ethernet} (etherType : h.etherType = h'.etherType)
    (behind : AgreeOutside (n + 14) windows a b) :
    AgreeOutside n (⟨n, 6⟩ :: ⟨n + 6, 6⟩ :: windows) (h.encode ++ a) (h'.encode ++ b) := by
  simp only [encode, List.append_assoc, etherType]
  exact .window h.destination.octets.property h'.destination.octets.property <|
    .window h.source.octets.property h'.source.octets.property <|
    .same _ (Word.length_encode _) behind

theorem Ipv6.agreeOutside_payloadLength {h h' : Ipv6}
    (others : h' = { h with payloadLength := h'.payloadLength })
    (behind : AgreeOutside (n + 40) windows a b) :
    AgreeOutside n (⟨n + 4, 2⟩ :: windows) (h.encode ++ a) (h'.encode ++ b) := by
  rw [others]
  simp only [encode, List.cons_append, List.append_assoc]
  exact .same [_, _] rfl <| .same _ (Word.length_encode _) <|
    .window (Word.length_encode _) (Word.length_encode _) <| .same [_, _] rfl <|
    .same _ h.source.octets.property <| .same _ h.destination.octets.property behind

theorem Ipv6.agreeOutside_outer {h h' : Ipv6}
    (others : h' = { h with hopLimit := h'.hopLimit, source := h'.source })
    (behind : AgreeOutside (n + 40) windows a b) :
    AgreeOutside n (⟨n + 7, 1⟩ :: ⟨n + 8, 16⟩ :: windows) (h.encode ++ a) (h'.encode ++ b) := by
  rw [others]
  simp only [encode, List.cons_append, List.append_assoc]
  exact .same [_, _] rfl <| .same _ (Word.length_encode _) <| .same _ (Word.length_encode _) <|
    .same [_] rfl <| .window (x := [_]) (y := [_]) rfl rfl <|
    .window h.source.octets.property h'.source.octets.property <|
    .same _ h.destination.octets.property behind

theorem Ipv4.agreeOutside {h h' : Ipv4}
    (others : h' = { h with totalLength := h'.totalLength, checksum := h'.checksum })
    (behind : AgreeOutside (n + h.size) windows a b) :
    AgreeOutside n (⟨n + 2, 2⟩ :: ⟨n + 10, 2⟩ :: windows) (h.encode ++ a) (h'.encode ++ b) := by
  rw [others]
  simp only [encode, List.cons_append, List.append_assoc]
  refine .same [_, _] rfl <| .window (Word.length_encode _) (Word.length_encode _) <|
    .same _ (Word.length_encode _) <| .same _ (Word.length_encode _) <| .same [_, _] rfl <|
    .window (Word.length_encode _) (Word.length_encode _) <| .same _ h.source.octets.property <|
    .same _ h.destination.octets.property <| .same h.options.val rfl ?_
  rw [size, minSize, ← Nat.add_assoc] at behind
  exact behind

theorem Udp.agreeOutside {h h' : Udp}
    (others : h' = { h with length := h'.length, checksum := h'.checksum })
    (behind : AgreeOutside (n + 8) windows a b) :
    AgreeOutside n (⟨n + 4, 2⟩ :: ⟨n + 6, 2⟩ :: windows) (h.encode ++ a) (h'.encode ++ b) := by
  rw [others]
  simp only [encode, List.append_assoc]
  exact .same _ (Word.length_encode _) <| .same _ (Word.length_encode _) <|
    .window (Word.length_encode _) (Word.length_encode _) <|
    .window (Word.length_encode _) (Word.length_encode _) behind

end Srv6Traffic.Header
