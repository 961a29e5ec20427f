import Srv6Traffic.CommandLine.Run
import Srv6Traffic.Proofs.Address.Mac
import Srv6Traffic.Proofs.Template.Construction
import Srv6Traffic.Proofs.Text.Numeral

/-! Hex dumps as texts that are read again. The lines of octets are the only ones laid out as a dump of them, and
what they show is the octets, so that nothing is lost on the way to the screen. -/
namespace Srv6Traffic.HexDump
variable {bytes octets : Bytes} {parts : List Bytes} {text : List Char} {dump : List String} {offset : Nat}

/-- A line that shows octets: four digits or more for their offset, two blanks, and two digits for each octet with
one blank between neighbours. -/
inductive Shows : List Char → Nat → Bytes → Prop
  | intro {mark : List Char} {pairs : List (List Char)} {offset : Nat} {octets : Bytes}
    (marked : Hex.Padded 4 mark offset)
    (paired : List.Forall₂ (fun pair b => Hex.Padded 2 pair b.toNat) pairs octets) :
    Shows (mark ++ ' ' :: ' ' :: [' '].intercalate pairs) offset octets

/-- Parts of sixteen octets, except that the last of them may have fewer, but not none. -/
inductive Filled : List Bytes → Prop
  | nil : Filled []
  | last {part : Bytes} (nonempty : 1 ≤ part.length) (few : part.length ≤ 16) : Filled [part]
  | cons {part next : Bytes} {rest : List Bytes} (full : part.length = 16) (filled : Filled (next :: rest)) :
    Filled (part :: next :: rest)

/-- Lines that show octets part by part. -/
structure Dump (dump : List String) (parts : List Bytes) (bytes : Bytes) : Prop where
  count : dump.length = (bytes.length + 15) / 16
  parted : parts.length = dump.length
  filled : Filled parts
  joined : parts.flatten = bytes
  shown : ∀ i line part, dump[i]? = some line → parts[i]? = some part → Shows line.toList (16 * i) part

theorem shows_iff : Shows text offset octets ↔ line offset octets = text := by
  constructor
  · intro shows
    cases shows with
    | @intro mark pairs _ _ marked paired =>
      have written : octets.map Hex.octet = pairs := by
        rw [← List.forall₂_eq_eq_eq, List.forall₂_map_left_iff]
        exact paired.flip.imp fun b pair padded => Hex.padded_octet_iff.1 padded
      rw [line, (Hex.padded_iff (by decide)).1 marked, written]
  · rintro rfl
    refine .intro (Hex.padded_padded (by decide) offset) (List.forall₂_map_left_iff.2 (List.forall₂_same.2 ?_))
    exact fun b _ => Hex.padded_octet_iff.2 rfl

theorem chunks_nil : chunks [] = [] := by rw [chunks]

theorem chunks_of_ne_nil (nonempty : bytes ≠ []) :
    chunks bytes = bytes.take 16 :: chunks (bytes.drop 16) := by
  cases bytes with
  | nil => contradiction
  | cons b rest => rw [chunks, lineLength]

theorem length_chunks (bytes : Bytes) : (chunks bytes).length = (bytes.length + 15) / 16 := by
  fun_induction chunks bytes with
  | case1 => rfl
  | case2 b rest ih =>
    rw [List.length_cons, ih, List.length_drop, List.length_cons, lineLength]
    omega

theorem filled_chunks (bytes : Bytes) : Filled (chunks bytes) := by
  fun_induction chunks bytes with
  | case1 => exact .nil
  | case2 b rest ih =>
    have length : ((b :: rest).take lineLength).length = min 16 (rest.length + 1) := List.length_take
    by_cases more : (b :: rest).drop lineLength = []
    · rw [more, chunks_nil]
      exact .last (by omega) (by omega)
    · have long := List.length_pos_of_ne_nil more
      rw [List.length_drop, List.length_cons, lineLength] at long
      rw [chunks_of_ne_nil more] at ih ⊢
      exact .cons (by omega) ih

/-- There is one way to part octets. -/
theorem Filled.chunks_flatten (filled : Filled parts) : chunks parts.flatten = parts := by
  induction filled with
  | nil => exact chunks_nil
  | last nonempty few =>
    rw [List.flatten_singleton, chunks_of_ne_nil (List.ne_nil_of_length_pos nonempty), List.take_of_length_le few,
      List.drop_of_length_le few, chunks_nil]
  | @cons part next rest full filled ih =>
    have nonempty : (part :: next :: rest).flatten ≠ [] := by
      refine List.ne_nil_of_length_pos ?_
      rw [List.flatten_cons, List.length_append]
      omega
    rw [chunks_of_ne_nil nonempty, List.flatten_cons, List.take_left' full, List.drop_left' full, ih]

theorem Filled.ne_nil (filled : Filled parts) : ∀ part ∈ parts, part ≠ [] := by
  induction filled with
  | nil => exact fun _ there => absurd there List.not_mem_nil
  | last nonempty _ => exact List.forall_mem_singleton.2 (List.ne_nil_of_length_pos nonempty)
  | cons full _ ih => exact List.forall_mem_cons.2 ⟨List.ne_nil_of_length_pos (by omega), ih⟩

theorem dump_lines (bytes : Bytes) : Dump (lines bytes) (chunks bytes) bytes where
  count := by rw [lines, List.length_mapIdx, length_chunks]
  parted := by rw [lines, List.length_mapIdx]
  filled := filled_chunks bytes
  joined := flatten_chunks bytes
  shown := by
    intro i text part there stands
    rw [lines, List.getElem?_mapIdx, stands] at there
    obtain rfl := Option.some.inj there
    rw [shows_iff, String.toList_ofList, lineLength, Nat.mul_comm]

namespace Dump

theorem chunks_eq (laid : Dump dump parts bytes) : chunks bytes = parts := by
  rw [← laid.joined]
  exact laid.filled.chunks_flatten

theorem unique (laid : Dump dump parts bytes) : dump = lines bytes := by
  have parted := laid.parted
  refine List.ext_getElem ?_ fun i inside inside' => ?_
  · rw [lines, List.length_mapIdx, laid.chunks_eq, parted]
  · have there : i < parts.length := by omega
    have shown := laid.shown i _ _ (List.getElem?_eq_getElem inside) (List.getElem?_eq_getElem there)
    have same := shows_iff.1 shown
    simp only [lines, List.getElem_mapIdx, laid.chunks_eq, lineLength]
    rw [Nat.mul_comm, same, String.ofList_toList]

end Dump

/-- The octets in a line of a dump, where the offset is passed over. -/
def readLine? (text : List Char) : Option Bytes := do
  let (_, behind) ← Text.cut? ' ' text
  let (_, pairs) ← Text.cut? ' ' behind
  (Text.pieces ' ' pairs).mapM Hex.octet?

/-- The lines as they are printed. -/
def printed (dump : List String) : String := ({ lines := dump } : CommandLine.Plan).stdout

/-- The octets of a printed dump, line by line. -/
def read? (screen : String) : Option Bytes :=
  ((Text.pieces '\n' screen.toList).dropLast.mapM readLine?).map List.flatten

theorem mem_lowerDigits {pairs : List (List Char)}
    (paired : List.Forall₂ (fun pair b => Hex.Padded 2 pair b.toNat) pairs octets) :
    ∀ pair ∈ pairs, ∀ c ∈ pair, c ∈ Hex.lowerDigits :=
  ((List.forall₂_and_left _ _).1 (paired.imp fun _ _ padded => ⟨padded.spells.lower, padded⟩)).1

theorem readLine?_of_shows (shows : Shows text offset octets) (nonempty : octets ≠ []) :
    readLine? text = some octets := by
  cases shows with
  | @intro mark pairs _ _ marked paired =>
    have first : Text.cut? ' ' (mark ++ ' ' :: ' ' :: [' '].intercalate pairs) =
        some (mark, ' ' :: [' '].intercalate pairs) :=
      Text.cut?_eq_some_iff.2 ⟨rfl, marked.notMem (by decide)⟩
    have second : Text.cut? ' ' (' ' :: [' '].intercalate pairs) = some ([], [' '].intercalate pairs) :=
      Text.cut?_eq_some_iff.2 ⟨rfl, List.not_mem_nil⟩
    have filled : pairs ≠ [] := by
      rintro rfl
      cases paired
      exact nonempty rfl
    have free : ∀ pair ∈ pairs, ' ' ∉ pair :=
      fun pair there blank => absurd (mem_lowerDigits paired pair there _ blank) (by decide)
    have parted : Text.pieces ' ' ([' '].intercalate pairs) = pairs := Text.separates_iff.1 ⟨filled, free, rfl⟩
    have read : pairs.mapM Hex.octet? = some octets := mapM_eq_some_iff.2 (paired.imp fun pair b padded => by
      rw [← Hex.padded_octet_iff.1 padded]
      exact Hex.octet?_octet b)
    simp only [readLine?, first, second, Option.bind_eq_bind, Option.bind_some, parted, read]

theorem newline_notMem (shows : Shows text offset octets) : '\n' ∉ text := by
  cases shows with
  | @intro mark pairs _ _ marked paired =>
    have front : '\n' ∉ mark := marked.notMem (by decide)
    have back : '\n' ∉ [' '].intercalate pairs := by
      rw [Text.mem_intercalate_iff (by decide)]
      rintro ⟨pair, there, newline⟩
      exact absurd (mem_lowerDigits paired pair there _ newline) (by decide)
    simp [front, back]

theorem pieces_printed (free : ∀ line ∈ dump, '\n' ∉ line.toList) :
    Text.pieces '\n' (printed dump).toList = dump.map String.toList ++ [[]] := by
  rw [printed, CommandLine.Plan.stdout, String.toList_join]
  induction dump with
  | nil => rfl
  | cons line dump ih =>
    obtain ⟨own, others⟩ := List.forall_mem_cons.1 free
    rw [List.map_cons, List.flatMap_cons, String.toList_append]
    have text : line.toList ++ "\n".toList ++ (dump.map (· ++ "\n")).flatMap String.toList =
        line.toList ++ '\n' :: (dump.map (· ++ "\n")).flatMap String.toList := by simp
    rw [text, Text.pieces_append_cons own, ih others]
    rfl

namespace Dump

theorem reads (laid : Dump dump parts bytes) :
    List.Forall₂ (fun line part => '\n' ∉ line.toList ∧ readLine? line.toList = some part) dump parts := by
  refine List.forall₂_iff_get.2 ⟨laid.parted.symm, fun i inside inside' => ?_⟩
  have shows := laid.shown i _ _ (List.getElem?_eq_getElem inside) (List.getElem?_eq_getElem inside')
  exact ⟨newline_notMem shows, readLine?_of_shows shows (laid.filled.ne_nil _ (List.getElem_mem inside'))⟩

theorem read?_printed (laid : Dump dump parts bytes) : read? (printed dump) = some bytes := by
  obtain ⟨free, reads⟩ := (List.forall₂_and_left _ _).1 laid.reads
  have lines : (dump.map String.toList).mapM readLine? = some parts := by
    rw [mapM_eq_some_iff, List.forall₂_map_left_iff]
    exact reads
  rw [read?, pieces_printed free, List.dropLast_concat, lines, Option.map_some, laid.joined]

end Dump

/-- The lines of octets are those of a dump of them, which has one form. Reading what is printed gives the octets
again, so that other octets have another dump. -/
theorem dump_read_again (bytes : Bytes) :
    (∀ dump, dump = lines bytes ↔ ∃ parts, Dump dump parts bytes) ∧
      read? (printed (lines bytes)) = some bytes ∧
      ∀ other, other ≠ bytes → lines other ≠ lines bytes ∧ printed (lines other) ≠ printed (lines bytes) := by
  have differs : ∀ other, other ≠ bytes → printed (lines other) ≠ printed (lines bytes) := by
    intro other apart same
    have read := (dump_lines other).read?_printed
    rw [same, (dump_lines bytes).read?_printed] at read
    exact apart (Option.some.inj read).symm
  refine ⟨fun dump => ⟨?_, ?_⟩, (dump_lines bytes).read?_printed, fun other apart => ⟨?_, differs other apart⟩⟩
  · rintro rfl
    exact ⟨_, dump_lines bytes⟩
  · rintro ⟨parts, laid⟩
    exact laid.unique
  · exact fun same => differs other apart (congrArg printed same)

/-- The last offset in the dump of the longest frame has five digits. -/
theorem longest_frame_dump : ∃ f : Frame, (Template.build {} 0 65589).value = .ok f ∧ f.data.length = 65589 ∧
    (lines f.data).length = 4100 ∧
    (∃ last, (lines f.data)[4099]? = some last ∧ "10030  ".toList <+: last.toList) ∧
    read? (printed (lines f.data)) = some f.data ∧
    f.data.dropLast ≠ f.data ∧ printed (lines f.data.dropLast) ≠ printed (lines f.data) := by
  obtain ⟨f, built⟩ := Template.exists_frame {} 0 65589 (by decide) (by decide) (by decide)
  obtain ⟨padded, p, carries⟩ := Template.carries_of_build built
  have long : f.data.length = 65589 := by
    have length := carries.length_eq
    rw [padded] at length
    exact (Slice.length_data _).trans (length.trans (by decide))
  have shorter : f.data.dropLast ≠ f.data := fun same => by
    have length := congrArg List.length same
    rw [List.length_dropLast, long] at length
    omega
  obtain ⟨laid, read, apart⟩ := dump_read_again f.data
  obtain ⟨parts, dump⟩ := (laid _).1 rfl
  have count : (lines f.data).length = 4100 := by rw [dump.count, long]
  have inside : 4099 < (lines f.data).length := by omega
  have inside' : 4099 < parts.length := dump.parted.symm ▸ inside
  have shown := dump.shown 4099 _ _ (List.getElem?_eq_getElem inside) (List.getElem?_eq_getElem inside')
  have mark : Hex.padded 4 (16 * 4099) = "10030".toList := by decide +kernel
  refine ⟨f, built, long, count, ⟨_, List.getElem?_eq_getElem inside, ?_⟩, read, shorter, (apart _ shorter).2⟩
  rw [← shows_iff.1 shown, line, mark]
  exact ⟨_, rfl⟩

end Srv6Traffic.HexDump
