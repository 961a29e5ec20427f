import Srv6Traffic.Proofs.Header.Fixed
import Srv6Traffic.Proofs.Header.Ipv4
import Srv6Traffic.Proofs.Header.SegmentRouting

/-! How far readers reach. A header that can be read takes as many octets as it is long; one that cannot
is reported under a field of its own. -/
namespace Srv6Traffic

namespace FieldReader
variable {α β : Type} {fields : List Field}

/-- What is read is the front of what is given, and it is as long as `size` says. -/
def Takes (read : FieldReader α) (size : α → Nat) : Prop :=
  ∀ bytes a rest, read bytes = .ok (a, rest) → size a ≤ bytes.length ∧ rest = bytes.drop (size a)

theorem takes_of_front {read : FieldReader α} {size : α → Nat}
    (fronts : ∀ bytes a rest, read bytes = .ok (a, rest) →
      ∃ front, bytes = front ++ rest ∧ front.length = size a) : read.Takes size := by
  intro bytes a rest done
  obtain ⟨front, split, length⟩ := fronts bytes a rest done
  rw [split, List.length_append, length, List.drop_left' length]
  exact ⟨Nat.le_add_right _ _, rfl⟩

theorem takes_need {read : Reader α} {size : α → Nat} (field : Field)
    (fronts : ∀ bytes a rest, read bytes = some (a, rest) →
      ∃ front, bytes = front ++ rest ∧ front.length = size a) : (need field read).Takes size :=
  takes_of_front fun bytes a rest done => fronts bytes a rest (need_eq_ok_iff.1 done)

theorem need_eq_error_iff {read : Reader α} {bytes : Bytes} {field cause : Field} :
    need field read bytes = .error cause ↔ read bytes = none ∧ field = cause := by
  unfold need
  cases read bytes <;> simp

/-- The fields that errors of a reader name are among these. -/
def Names (read : FieldReader α) (fields : List Field) : Prop :=
  ∀ bytes cause, read bytes = .error cause → cause ∈ fields

theorem names_need {field : Field} (read : Reader α) (listed : field ∈ fields) :
    (need field read).Names fields := by
  intro bytes cause failed
  obtain ⟨_, rfl⟩ := need_eq_error_iff.1 failed
  exact listed

theorem Names.bind {read : FieldReader α} {next : α → FieldReader β} (first : read.Names fields)
    (second : ∀ a, (next a).Names fields) : (read >>= next).Names fields := by
  intro bytes cause failed
  rw [bind_eq] at failed
  cases happens : read bytes with
  | error field =>
    rw [happens] at failed
    cases failed
    exact first bytes cause happens
  | ok r =>
    rw [happens] at failed
    exact second r.1 r.2 cause failed

end FieldReader

namespace Header
open FieldReader

theorem Ethernet.takes : (need .ethernet Ethernet.read).Takes fun _ => 14 :=
  takes_need _ fun _ h _ done => ⟨h.encode, read_eq_some_iff.1 done, h.length_encode⟩

theorem Ipv6.takes : (need .ipv6 Ipv6.read).Takes fun _ => 40 :=
  takes_need _ fun _ h _ done => ⟨h.encode, read_eq_some_iff.1 done, h.length_encode⟩

theorem SegmentRouting.takes : SegmentRouting.read.Takes SegmentRouting.size :=
  takes_of_front fun _ h _ done => ⟨h.encode, read_eq_ok_iff.1 done, h.length_encode⟩

theorem SegmentRouting.names : SegmentRouting.read.Names
    [.nextHeader, .hdrExtLen, .routingType, .segmentsLeft, .lastEntry, .flags, .tag, .segments] := by
  refine (names_need _ (by decide)).bind fun nextHeader => ?_
  refine (names_need _ (by decide)).bind fun extLength => ?_
  refine (names_need _ (by decide)).bind fun kind => ?_
  refine (names_need _ (by decide)).bind fun _ => ?_
  refine (names_need _ (by decide)).bind fun segmentsLeft => ?_
  refine (names_need _ (by decide)).bind fun lastEntry => ?_
  refine (names_need _ (by decide)).bind fun _ => ?_
  refine (names_need _ (by decide)).bind fun _ => ?_
  refine (names_need _ (by decide)).bind fun flags => ?_
  refine (names_need _ (by decide)).bind fun tag => ?_
  refine (names_need _ (by decide)).bind fun segments => ?_
  exact names_need _ (by decide)

theorem Ipv4.takes : (need .ipv4 Ipv4.read).Takes Ipv4.size := by
  apply takes_need
  intro bytes h rest done
  obtain ⟨flags, _, there⟩ := read_eq_some_iff.1 done
  exact ⟨h.encodeFlagged flags, there, h.length_encodeFlagged flags⟩

theorem Udp.takes : (need .udp Udp.read).Takes fun _ => 8 :=
  takes_need _ fun _ h _ done => ⟨h.encode, read_eq_some_iff.1 done, h.length_encode⟩

end Header

end Srv6Traffic
