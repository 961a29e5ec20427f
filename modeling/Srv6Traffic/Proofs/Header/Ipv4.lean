import Srv6Traffic.Header.Ipv4
import Srv6Traffic.Proofs.Wire.Place
import Srv6Traffic.Proofs.Wire.Reading

/-! The IPv4 header on the wire. Every bit of it but one is read and written back: the reserved flag
bit is dropped, so a header can be received in two forms and is sent in one of them. -/
namespace Srv6Traffic.Header
variable {bytes rest : Bytes} {i : Nat}

theorem Ipv4Options.read_eq_some_iff {words : Nat} {options : Ipv4Options} :
    read words bytes = some (options, rest) ↔
      options.val.length = 4 * words ∧ bytes = options.val ++ rest := by
  constructor
  · intro done
    unfold read at done
    split at done
    next fits =>
      cases done
      exact ⟨List.length_take_of_le fits.2, (List.take_append_drop _ _).symm⟩
    next => cases done
  · intro ⟨length, same⟩
    have words_eq : options.val.length / 4 = words := by omega
    rw [same, ← words_eq]
    exact read_append options rest

namespace Ipv4

/-- The octets of a header that comes with `flags` in its flags word. -/
def encodeFlagged (h : Ipv4) (flags : UInt16) : Bytes :=
  .ofNat (64 + h.size / 4) :: .ofNat (4 * h.dscp.toNat + h.ecn.toNat) ::
    (Word.encode h.totalLength ++ (Word.encode h.identification ++ (Word.encode flags ++
      h.timeToLive :: h.protocol :: (Word.encode h.checksum ++
        (h.source.octets.val ++ (h.destination.octets.val ++ h.options.val))))))

/-- A flags word that tells the header's own flags; its top bit may be set or not. -/
def Flagged (h : Ipv4) (flags : UInt16) : Prop := flags.toNat % 32768 = h.flagsWord.toNat

theorem encodeFlagged_flagsWord (h : Ipv4) : h.encodeFlagged h.flagsWord = h.encode := rfl

theorem flagged_flagsWord (h : Ipv4) : h.Flagged h.flagsWord := by
  have := h.fragmentOffset.isLt
  have := h.dontFragment.toNat_le
  have := h.moreFragments.toNat_le
  unfold Flagged
  rw [toNat_flagsWord]
  omega

@[simp] theorem length_encodeFlagged (h : Ipv4) (flags : UInt16) :
    (h.encodeFlagged flags).length = h.size :=
  h.length_encode

/-- The octet of the flags with its top bit, the reserved one, made zero. -/
def clearReserved (b : UInt8) : UInt8 := b &&& 0x7f

theorem toNat_clearReserved (b : UInt8) : (clearReserved b).toNat = b.toNat % 128 := by
  rw [clearReserved, UInt8.toNat_and]
  exact Nat.and_two_pow_sub_one_eq_mod b.toNat 7

theorem encode_flagsWord {h : Ipv4} {flags : UInt16} (flagged : h.Flagged flags) :
    Word.encode h.flagsWord = [clearReserved (Word.high flags), Word.low flags] := by
  have := flags.toNat_lt
  unfold Flagged at flagged
  have high : Word.high h.flagsWord = clearReserved (Word.high flags) := by
    apply UInt8.toNat_inj.1
    simp only [toNat_clearReserved, Word.high, UInt8.toNat_ofNat']
    omega
  have low : Word.low h.flagsWord = Word.low flags := by
    apply UInt8.toNat_inj.1
    simp only [Word.low, UInt8.toNat_ofNat']
    omega
  rw [Word.encode, high, low]

/-- The reserved bit is all that a header as received can have over the header as sent. -/
theorem modify_encodeFlagged {h : Ipv4} {flags : UInt16} (flagged : h.Flagged flags)
    (rest : Bytes) : (h.encodeFlagged flags ++ rest).modify 6 clearReserved = h.encode ++ rest := by
  rw [← encodeFlagged_flagsWord, encodeFlagged, encodeFlagged, encode_flagsWord flagged]
  rfl

/-- With the checksum made zero as well, these are the octets that the checksum is taken over. -/
theorem blank_encodeFlagged {h : Ipv4} {flags : UInt16} (flagged : h.Flagged flags) :
    (((h.encodeFlagged flags).modify 6 clearReserved).set 10 0).set 11 0 =
      { h with checksum := 0 }.encode := by
  have cleared := modify_encodeFlagged flagged []
  rw [List.append_nil, List.append_nil] at cleared
  rw [cleared, encode, encode, Word.encode_zero]
  rfl

/-- What is read of the flags word is below its top bit. -/
theorem read_encodeFlagged {h : Ipv4} {flags : UInt16} (flagged : h.Flagged flags) (rest : Bytes) :
    read (h.encodeFlagged flags ++ rest) = some (h, rest) := by
  unfold Flagged at flagged
  have dontFragment : flags.toNat / 16384 % 2 = h.flagsWord.toNat / 16384 % 2 := by omega
  have moreFragments : flags.toNat / 8192 % 2 = h.flagsWord.toNat / 8192 % 2 := by omega
  have fragmentOffset : BitVec.ofNat 13 flags.toNat = BitVec.ofNat 13 h.flagsWord.toNat := by
    apply BitVec.eq_of_toNat_eq
    rw [BitVec.toNat_ofNat, BitVec.toNat_ofNat]
    omega
  have nibbles : (69 + h.options.val.length / 4) / 16 = 4 ∧
      (69 + h.options.val.length / 4) % 16 = 5 + h.options.val.length / 4 := by
    have := h.options.property
    omega
  simp only [encodeFlagged, size, List.cons_append, List.append_assoc]
  -- The fields are read one by one; opened all at once, the nested binds grow without measure.
  rw [read, Reader.bind_of_eq_some (Reader.octet_cons _ _),
    Reader.bind_of_eq_some (Reader.octet_cons _ _), Reader.bind_of_eq_some (Reader.word_append _ _),
    Reader.bind_of_eq_some (Reader.word_append _ _), Reader.bind_of_eq_some (Reader.word_append _ _),
    Reader.bind_of_eq_some (Reader.octet_cons _ _), Reader.bind_of_eq_some (Reader.octet_cons _ _),
    Reader.bind_of_eq_some (Reader.word_append _ _),
    Reader.bind_of_eq_some (Reader.octets_append _ _),
    Reader.bind_of_eq_some (Reader.octets_append _ _), toNat_first, nibbles.1, nibbles.2,
    Nat.add_sub_cancel_left, decide_eq_true ⟨rfl, Nat.le_add_right _ _⟩,
    Reader.bind_of_eq_some (Reader.check_true _),
    Reader.bind_of_eq_some (Ipv4Options.read_append _ _), Reader.pure_eq, dscp_service, ecn_service,
    dontFragment, moreFragments, fragmentOffset, dontFragment_flagsWord, moreFragments_flagsWord,
    fragmentOffset_flagsWord]

theorem read_encode (h : Ipv4) (rest : Bytes) : read (h.encode ++ rest) = some (h, rest) :=
  read_encodeFlagged h.flagged_flagsWord rest

theorem toNat_bit (n : Nat) : (decide (n % 2 = 1)).toNat = n % 2 := by
  cases Nat.mod_two_eq_zero_or_one n with
  | inl h => simp [h]
  | inr h => simp [h]

/-- Unpacking the packed fields of a header loses its reserved bit only. -/
theorem encodeFlagged_unpacked {first : UInt8} (version : first.toNat / 16 = 4)
    (least : 5 ≤ first.toNat % 16) (options : Ipv4Options)
    (size : options.val.length = 4 * (first.toNat % 16 - 5)) (service timeToLive protocol : UInt8)
    (totalLength identification flags checksum : UInt16) (source destination : Ipv4Address) :
    let h : Ipv4 := {
      dscp := .ofNat 6 (service.toNat / 4)
      ecn := .ofNat 2 service.toNat
      totalLength, identification
      dontFragment := flags.toNat / 16384 % 2 = 1
      moreFragments := flags.toNat / 8192 % 2 = 1
      fragmentOffset := .ofNat 13 flags.toNat
      timeToLive, protocol, checksum, source, destination, options }
    h.Flagged flags ∧ h.encodeFlagged flags = first :: service :: (Word.encode totalLength ++
      (Word.encode identification ++ (Word.encode flags ++ timeToLive :: protocol ::
        (Word.encode checksum ++
          (source.octets.val ++ (destination.octets.val ++ options.val)))))) := by
  intro h
  have := first.toNat_lt
  have := service.toNat_lt
  have := flags.toNat_lt
  constructor
  · unfold Flagged
    rw [toNat_flagsWord]
    simp only [h, BitVec.toNat_ofNat, toNat_bit]
    omega
  · have octet₁ : UInt8.ofNat (64 + h.size / 4) = first := by
      apply UInt8.toNat_inj.1
      rw [UInt8.toNat_ofNat', Ipv4.size, minSize, size]
      omega
    have octet₂ : UInt8.ofNat (4 * h.dscp.toNat + h.ecn.toNat) = service := by
      apply UInt8.toNat_inj.1
      simp only [h, UInt8.toNat_ofNat', BitVec.toNat_ofNat]
      omega
    rw [encodeFlagged, octet₁, octet₂]

theorem read_eq_some_iff {h : Ipv4} :
    read bytes = some (h, rest) ↔
      ∃ flags, h.Flagged flags ∧ bytes = h.encodeFlagged flags ++ rest := by
  constructor
  · intro done
    obtain ⟨first, _, read₁, done⟩ := Reader.bind_eq_some_iff.1 done
    obtain ⟨service, _, read₂, done⟩ := Reader.bind_eq_some_iff.1 done
    obtain ⟨totalLength, _, read₃, done⟩ := Reader.bind_eq_some_iff.1 done
    obtain ⟨identification, _, read₄, done⟩ := Reader.bind_eq_some_iff.1 done
    obtain ⟨flags, _, read₅, done⟩ := Reader.bind_eq_some_iff.1 done
    obtain ⟨timeToLive, _, read₆, done⟩ := Reader.bind_eq_some_iff.1 done
    obtain ⟨protocol, _, read₇, done⟩ := Reader.bind_eq_some_iff.1 done
    obtain ⟨checksum, _, read₈, done⟩ := Reader.bind_eq_some_iff.1 done
    obtain ⟨source, _, read₉, done⟩ := Reader.bind_eq_some_iff.1 done
    obtain ⟨destination, _, read₁₀, done⟩ := Reader.bind_eq_some_iff.1 done
    obtain ⟨_, _, checked, done⟩ := Reader.bind_eq_some_iff.1 done
    obtain ⟨options, _, read₁₁, built⟩ := Reader.bind_eq_some_iff.1 done
    obtain ⟨sizes, rfl⟩ := Reader.check_eq_some_iff.1 checked
    obtain ⟨rfl, rfl⟩ := Reader.pure_eq_some_iff.1 built
    obtain ⟨version, least⟩ := of_decide_eq_true sizes
    obtain ⟨size, there⟩ := Ipv4Options.read_eq_some_iff.1 read₁₁
    obtain ⟨flagged, encoded⟩ := encodeFlagged_unpacked version least options size service timeToLive
      protocol totalLength identification flags checksum ⟨source⟩ ⟨destination⟩
    refine ⟨flags, flagged, ?_⟩
    rw [encoded, Reader.octet_eq_some_iff.1 read₁, Reader.octet_eq_some_iff.1 read₂,
      Reader.word_eq_some_iff.1 read₃, Reader.word_eq_some_iff.1 read₄,
      Reader.word_eq_some_iff.1 read₅, Reader.octet_eq_some_iff.1 read₆,
      Reader.octet_eq_some_iff.1 read₇, Reader.word_eq_some_iff.1 read₈,
      Reader.octets_eq_some_iff.1 read₉, Reader.octets_eq_some_iff.1 read₁₀, there]
    simp only [List.cons_append, List.append_assoc]
  · intro ⟨flags, flagged, same⟩
    rw [same]
    exact read_encodeFlagged flagged rest

theorem wordAt_flags {h : Ipv4} {flags : UInt16}
    (found : bytes.drop i = h.encodeFlagged flags ++ rest) : wordAt bytes (i + 6) = flags.toNat := by
  simp only [encodeFlagged, List.append_assoc, List.cons_append] at found
  obtain ⟨_, found⟩ := octetAt_of_drop found
  obtain ⟨_, found⟩ := octetAt_of_drop found
  obtain ⟨_, found⟩ := wordAt_of_drop found
  obtain ⟨_, found⟩ := wordAt_of_drop found
  exact (wordAt_of_drop found).1

/-- The fields stand in their places in the octets from `i` on, behind version and length. -/
structure StandsAt (h : Ipv4) (bytes : Bytes) (i : Nat) : Prop where
  version : octetAt bytes i / 16 = 4
  size : 4 * (octetAt bytes i % 16) = h.size
  dscp : octetAt bytes (i + 1) / 4 = h.dscp.toNat
  ecn : octetAt bytes (i + 1) % 4 = h.ecn.toNat
  totalLength : wordAt bytes (i + 2) = h.totalLength.toNat
  identification : wordAt bytes (i + 4) = h.identification.toNat
  dontFragment : octetAt bytes (i + 6) / 64 % 2 = h.dontFragment.toNat
  moreFragments : octetAt bytes (i + 6) / 32 % 2 = h.moreFragments.toNat
  fragmentOffset : wordAt bytes (i + 6) % 8192 = h.fragmentOffset.toNat
  timeToLive : octetAt bytes (i + 8) = h.timeToLive.toNat
  protocol : octetAt bytes (i + 9) = h.protocol.toNat
  checksum : wordAt bytes (i + 10) = h.checksum.toNat
  source : cut bytes (i + 12) 4 = h.source.octets.val
  destination : cut bytes (i + 16) 4 = h.destination.octets.val
  options : cut bytes (i + 20) (h.size - 20) = h.options.val

theorem standsAt {h : Ipv4} {flags : UInt16} (flagged : h.Flagged flags)
    (found : bytes.drop i = h.encodeFlagged flags ++ rest) : h.StandsAt bytes i := by
  have := h.dscp.isLt
  have := h.ecn.isLt
  have := h.fragmentOffset.isLt
  have := h.dontFragment.toNat_le
  have := h.moreFragments.toNat_le
  obtain ⟨aligned, few⟩ := h.options.property
  have first : (UInt8.ofNat (64 + h.size / 4)).toNat = 69 + h.options.val.length / 4 :=
    toNat_first h.options
  have size : h.size = 20 + h.options.val.length := rfl
  have word := wordAt_flags found
  simp only [encodeFlagged, List.append_assoc, List.cons_append] at found
  obtain ⟨octet₁, found⟩ := octetAt_of_drop found
  obtain ⟨octet₂, found⟩ := octetAt_of_drop found
  obtain ⟨totalLength, found⟩ := wordAt_of_drop found
  obtain ⟨identification, found⟩ := wordAt_of_drop found
  obtain ⟨_, found⟩ := wordAt_of_drop found
  obtain ⟨timeToLive, found⟩ := octetAt_of_drop found
  obtain ⟨protocol, found⟩ := octetAt_of_drop found
  obtain ⟨checksum, found⟩ := wordAt_of_drop found
  obtain ⟨source, found⟩ := cut_of_drop found h.source.octets.property
  obtain ⟨destination, found⟩ := cut_of_drop found h.destination.octets.property
  obtain ⟨options, _⟩ := cut_of_drop found (by omega : h.options.val.length = h.size - 20)
  rw [first] at octet₁
  rw [UInt8.toNat_ofNat'] at octet₂
  have flagsOctet : wordAt bytes (i + 6) = 256 * octetAt bytes (i + 6) + octetAt bytes (i + 7) := rfl
  have := octetAt_lt bytes (i + 7)
  unfold Flagged at flagged
  rw [toNat_flagsWord] at flagged
  refine ⟨by omega, by omega, by omega, by omega, totalLength, identification, by omega, by omega,
    by omega, timeToLive, protocol, checksum, source, destination, options⟩

theorem exists_at (version : octetAt bytes i / 16 = 4) (least : 5 ≤ octetAt bytes i % 16)
    (long : i + 4 * (octetAt bytes i % 16) ≤ bytes.length) :
    ∃ (h : Ipv4) (flags : UInt16), h.Flagged flags ∧
      bytes.drop i = h.encodeFlagged flags ++ bytes.drop (i + 4 * (octetAt bytes i % 16)) := by
  obtain ⟨first, at₁⟩ := exists_octet (by omega : i + 1 ≤ bytes.length)
  obtain ⟨service, at₂⟩ := exists_octet (by omega : i + 1 + 1 ≤ bytes.length)
  obtain ⟨totalLength, at₃⟩ := exists_word (by omega : i + 2 + 2 ≤ bytes.length)
  obtain ⟨identification, at₄⟩ := exists_word (by omega : i + 4 + 2 ≤ bytes.length)
  obtain ⟨flags, at₅⟩ := exists_word (by omega : i + 6 + 2 ≤ bytes.length)
  obtain ⟨timeToLive, at₆⟩ := exists_octet (by omega : i + 8 + 1 ≤ bytes.length)
  obtain ⟨protocol, at₇⟩ := exists_octet (by omega : i + 9 + 1 ≤ bytes.length)
  obtain ⟨checksum, at₈⟩ := exists_word (by omega : i + 10 + 2 ≤ bytes.length)
  obtain ⟨source, at₉⟩ := exists_octets 4 (by omega : i + 12 + 4 ≤ bytes.length)
  obtain ⟨destination, at₁₀⟩ := exists_octets 4 (by omega : i + 16 + 4 ≤ bytes.length)
  obtain ⟨⟨options, size⟩, at₁₁⟩ := exists_octets (4 * (octetAt bytes i % 16 - 5))
    (by omega : i + 20 + 4 * (octetAt bytes i % 16 - 5) ≤ bytes.length)
  have place : i + 20 + 4 * (octetAt bytes i % 16 - 5) = i + 4 * (octetAt bytes i % 16) := by omega
  rw [place] at at₁₁
  rw [(octetAt_of_drop at₁).1] at version least size
  obtain ⟨flagged, encoded⟩ := encodeFlagged_unpacked version least ⟨options, by omega⟩ size
    service timeToLive protocol totalLength identification flags checksum ⟨source⟩ ⟨destination⟩
  refine ⟨_, flags, flagged, Eq.trans ?_ (congrArg (· ++ _) encoded.symm)⟩
  rw [at₁, at₂, at₃, at₄, at₅, at₆, at₇, at₈, at₉, at₁₀, at₁₁]
  simp only [List.cons_append, List.append_assoc]

end Ipv4
end Srv6Traffic.Header
