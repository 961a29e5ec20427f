import Srv6Traffic.Proofs.Buffer.Faults

/-! The two ends of a writer. Octets that are put at one end take nothing from the room at the other, so what
becomes of a call is told from the calls at its own end alone. Calls at different ends can be put in any order
among each other, and nothing changes, neither what becomes of each of them nor the writer that is left. -/
namespace Srv6Traffic
open Writer (Edit EditError)

inductive Side where
  | front
  | back
  deriving DecidableEq

/-- A piece to be put at one end of the data. -/
structure Call where
  side : Side
  bytes : Bytes
  deriving DecidableEq

namespace Call

def edit : Call → Edit
  | ⟨.front, bytes⟩ => .prepend bytes
  | ⟨.back, bytes⟩ => .append bytes

theorem refusal_edit (c : Call) : c.edit.refusal = .notEnoughSpace := by
  obtain ⟨side, bytes⟩ := c
  cases side <;> rfl

end Call

/-- The pieces for one end, in the order of the calls. -/
def pieces (side : Side) (calls : List Call) : List Bytes :=
  (calls.filter fun c => c.side = side).map Call.bytes

theorem pieces_cons (side : Side) (c : Call) (calls : List Call) : pieces side (c :: calls) =
    if c.side = side then c.bytes :: pieces side calls else pieces side calls := by
  by_cases own : c.side = side <;> simp [pieces, own]

/-- Calls with what became of each: the reason why it was refused, if it was. -/
abbrev Log := List (Call × Option EditError)

namespace Log

/-- What a log tells about one end. -/
def outcomes (side : Side) (log : Log) : List (Bytes × Option EditError) :=
  (log.filter fun entry => entry.1.side = side).map fun entry => (entry.1.bytes, entry.2)

/-- The pieces that were put at one end. -/
def put (side : Side) (log : Log) : List Bytes :=
  ((outcomes side log).filter fun entry => entry.2 = none).map Prod.fst

@[simp] theorem put_nil (side : Side) : put side [] = [] := rfl

theorem outcomes_cons (side : Side) (c : Call) (result : Option EditError) (log : Log) :
    outcomes side ((c, result) :: log) =
      if c.side = side then (c.bytes, result) :: outcomes side log else outcomes side log := by
  by_cases own : c.side = side <;> simp [outcomes, own]

theorem put_cons_none (side : Side) (c : Call) (log : Log) :
    put side ((c, none) :: log) = if c.side = side then c.bytes :: put side log else put side log := by
  by_cases own : c.side = side <;> simp [put, outcomes_cons, own]

theorem put_cons_some (side : Side) (c : Call) (refusal : EditError) (log : Log) :
    put side ((c, some refusal) :: log) = put side log := by
  by_cases own : c.side = side <;> simp [put, outcomes_cons, own]

end Log

/-- What becomes of the pieces for one end, with so much room and no other calls. -/
def fillEnd (room : Nat) : List Bytes → List (Bytes × Option EditError)
  | [] => []
  | bytes :: others =>
    if bytes.length ≤ room then (bytes, none) :: fillEnd (room - bytes.length) others
    else (bytes, some .notEnoughSpace) :: fillEnd room others

namespace Parts
variable {p : Parts} {c : Call}

def free (p : Parts) : Side → Nat
  | .front => p.front.length
  | .back => p.back.length

/-- The log of calls that are made one after the other. -/
def log (p : Parts) (calls : List Call) : Log := calls.zip (p.run (calls.map Call.edit)).1

/-- Parts with some pieces more at each end of the data, the first ones innermost. -/
def between (p : Parts) (before behind : List Bytes) : Parts where
  front := p.front.take (p.front.length - before.flatten.length)
  data := before.reverse.flatten ++ p.data ++ behind.flatten
  back := p.back.drop behind.flatten.length

theorem edit?_call (p : Parts) (c : Call) :
    p.edit? c.edit = if c.bytes.length ≤ p.free c.side then some (p.make c.edit) else none := by
  obtain ⟨side, bytes⟩ := c
  cases side <;> rfl

/-- A call takes from the room at its own end, and from no other. -/
theorem free_make (p : Parts) (c : Call) (side : Side) :
    (p.make c.edit).free side = if c.side = side then p.free side - c.bytes.length else p.free side := by
  obtain ⟨own, bytes⟩ := c
  cases own <;> cases side <;> simp [Call.edit, make, free]

theorem between_make (p : Parts) (c : Call) (before behind : List Bytes) :
    (p.make c.edit).between before behind =
      p.between (if c.side = .front then c.bytes :: before else before)
        (if c.side = .back then c.bytes :: behind else behind) := by
  obtain ⟨side, bytes⟩ := c
  cases side with
  | front =>
    simp [Call.edit, make, between, List.take_take]
    omega
  | back => simp [Call.edit, make, between]

theorem log_cons_of_fits (fits : c.bytes.length ≤ p.free c.side) (calls : List Call) :
    p.log (c :: calls) = (c, none) :: (p.make c.edit).log calls := by
  simp [log, run, edit?_call, fits]

theorem log_cons_of_short (short : ¬c.bytes.length ≤ p.free c.side) (calls : List Call) :
    p.log (c :: calls) = (c, some .notEnoughSpace) :: p.log calls := by
  simp [log, run, edit?_call, short, c.refusal_edit]

/-- The calls at the other end might as well not be there. -/
theorem outcomes_log (p : Parts) (calls : List Call) (side : Side) :
    (p.log calls).outcomes side = fillEnd (p.free side) (pieces side calls) := by
  induction calls generalizing p with
  | nil => rfl
  | cons c calls ih =>
    by_cases fits : c.bytes.length ≤ p.free c.side
    · rw [log_cons_of_fits fits, Log.outcomes_cons, ih, free_make, pieces_cons]
      by_cases own : c.side = side
      · subst own
        simp [fillEnd, fits]
      · simp [own]
    · rw [log_cons_of_short fits, Log.outcomes_cons, ih, pieces_cons]
      by_cases own : c.side = side
      · subst own
        simp [fillEnd, fits]
      · simp [own]

/-- A call is made just when its piece, with all that was put at its end before, fits into the room at first. -/
theorem eq_none_iff_fits {calls : List Call} {before after : Log} {result : Option EditError}
    (split : p.log calls = before ++ (c, result) :: after) :
    result = none ↔ (before.put c.side).flatten.length + c.bytes.length ≤ p.free c.side := by
  induction calls generalizing p before with
  | nil => simp [log] at split
  | cons first calls ih =>
    by_cases fits : first.bytes.length ≤ p.free first.side
    · rw [log_cons_of_fits fits] at split
      cases before with
      | nil =>
        cases split
        simpa using fits
      | cons entry before =>
        obtain ⟨rfl, others⟩ := List.cons.inj split
        rw [ih others, free_make, Log.put_cons_none]
        by_cases own : first.side = c.side
        · rw [own] at fits
          simp [own]
          omega
        · simp [own]
    · rw [log_cons_of_short fits] at split
      cases before with
      | nil =>
        cases split
        simpa using fits
      | cons entry before =>
        obtain ⟨rfl, others⟩ := List.cons.inj split
        rw [ih others, Log.put_cons_some]

theorem run_eq_between (p : Parts) (calls : List Call) :
    (p.run (calls.map Call.edit)).2 = p.between ((p.log calls).put .front) ((p.log calls).put .back) := by
  induction calls generalizing p with
  | nil => simp [run, between, log]
  | cons c calls ih =>
    by_cases fits : c.bytes.length ≤ p.free c.side
    · rw [log_cons_of_fits fits, Log.put_cons_none, Log.put_cons_none, ← between_make, ← ih]
      simp [run, edit?_call, fits]
    · rw [log_cons_of_short fits, Log.put_cons_some, Log.put_cons_some, ← ih]
      simp [run, edit?_call, fits]

/-- What comes of calls is told from the pieces for each end. -/
theorem run_congr (p : Parts) {calls calls' : List Call}
    (same : ∀ side, pieces side calls = pieces side calls') :
    (p.run (calls.map Call.edit)).2 = (p.run (calls'.map Call.edit)).2 ∧
      ∀ side, (p.log calls).outcomes side = (p.log calls').outcomes side := by
  have outcomes (side : Side) : (p.log calls).outcomes side = (p.log calls').outcomes side := by
    rw [outcomes_log, outcomes_log, same]
  have put (side : Side) : (p.log calls).put side = (p.log calls').put side := by
    rw [Log.put, Log.put, outcomes]
  exact ⟨by rw [run_eq_between, run_eq_between, put, put], outcomes⟩

theorem length_run_fst (p : Parts) (edits : List Edit) : (p.run edits).1.length = edits.length := by
  induction edits generalizing p with
  | nil => rfl
  | cons e edits ih => cases made : p.edit? e <;> simp [run, made, ih]

/-- Nothing has to be known before a piece is put at an end. -/
theorem admitsAll_calls (p : Parts) (calls : List Call) : p.AdmitsAll (calls.map Call.edit) := by
  induction calls generalizing p with
  | nil => trivial
  | cons c calls ih =>
    refine ⟨?_, ih _⟩
    obtain ⟨side, bytes⟩ := c
    cases side <;> trivial

end Parts

theorem Writer.eq_of_parts {w w' : Writer} (same : w.parts = w'.parts) : w = w' := by
  have whole := w.buffer_eq
  have start := w.length_front
  have stop := w.stop_eq
  rw [Writer.parts, Writer.parts, Parts.mk.injEq] at same
  obtain ⟨front, data, back⟩ := same
  rw [front, data, back, ← w'.buffer_eq] at whole
  rw [front, w'.length_front] at start
  rw [front, data, ← w'.stop_eq] at stop
  obtain ⟨buffer, first, last, _, _⟩ := w
  obtain ⟨buffer', first', last', _, _⟩ := w'
  cases whole
  cases start
  cases stop
  rfl

/-- The room at the ends of a new writer. -/
def roomOfNew (length headroom : Nat) : Side → Nat
  | .front => headroom
  | .back => length - headroom

/-- Pieces are put at the ends of a new writer in any order. Each of them is put there just when it fits, together
with those that have been put at the same end before, into the room at that end. The data is made of the pieces
of each end in their order. Another order of the calls that keeps those at each end in theirs leaves the same
writer, and in both of them the same becomes of every call. -/
theorem ends_independent {length headroom : Nat} (inside : headroom ≤ length) (small : length < wordRange) :
    ∃ w : Writer, Writer.new? length headroom = some w ∧ BareWriter.new length headroom = .ok w.bare ∧
      ∀ calls : List Call, ∃ (results : List (Option EditError)) (w' : Writer),
        w.bare.run (calls.map Call.edit) = .ok (results, w'.bare) ∧ w' = w.run (calls.map Call.edit) ∧
          results.length = calls.length ∧
          (∀ (before after : Log) (c : Call) (result : Option EditError),
            calls.zip results = before ++ (c, result) :: after →
              (result = none ↔
                (before.put c.side).flatten.length + c.bytes.length ≤ roomOfNew length headroom c.side)) ∧
          w'.data = (Log.put .front (calls.zip results)).reverse.flatten ++
            (Log.put .back (calls.zip results)).flatten ∧
          ∀ calls' : List Call, (∀ side, pieces side calls' = pieces side calls) →
            ∃ results', w.bare.run (calls'.map Call.edit) = .ok (results', w'.bare) ∧
              ∀ side, Log.outcomes side (calls'.zip results') = Log.outcomes side (calls.zip results) := by
  obtain ⟨w, made, bare, parts, size, _⟩ := Origin.exists_writer (o := .new length headroom) ⟨inside, small⟩
  have runs (calls : List Call) := w.run_bare (size ▸ small) (w.parts.admitsAll_calls calls)
  have room (side : Side) : w.parts.free side = roomOfNew length headroom side := by
    rw [parts]
    cases side <;> simp [Origin.parts, Parts.free, roomOfNew]
  refine ⟨w, made, bare, fun calls => ⟨_, _, runs calls, rfl, ?_, ?_, ?_, ?_⟩⟩
  · rw [Parts.length_run_fst, List.length_map]
  · intro before after c result split
    rw [← room]
    exact Parts.eq_none_iff_fits split
  · have ended : (w.run (calls.map Call.edit)).parts = w.parts.between _ _ :=
      (w.parts_run _).trans (Parts.run_eq_between _ calls)
    have empty : w.parts.data = [] := congrArg Parts.data parts
    calc (w.run (calls.map Call.edit)).data
        = (w.parts.between (Log.put .front (w.parts.log calls)) (Log.put .back (w.parts.log calls))).data :=
          congrArg Parts.data ended
      _ = (Log.put .front (w.parts.log calls)).reverse.flatten ++
          (Log.put .back (w.parts.log calls)).flatten := by
        rw [Parts.between, empty, List.append_nil]
  · intro calls' same
    obtain ⟨ended, outcomes⟩ := w.parts.run_congr same
    rw [← w.parts_run, ← w.parts_run] at ended
    exact ⟨_, Writer.eq_of_parts ended ▸ runs calls', outcomes⟩

/-- A piece that is too long, and shorter ones after it that are not, with some of the calls exchanged. -/
def sampleCalls : List Call :=
  [⟨.front, [1, 2, 3, 4]⟩, ⟨.back, [8, 9]⟩, ⟨.front, [7]⟩, ⟨.back, [5, 5]⟩, ⟨.back, [3]⟩, ⟨.front, [6]⟩]

def sampleExchanged : List Call :=
  [⟨.back, [8, 9]⟩, ⟨.back, [5, 5]⟩, ⟨.front, [1, 2, 3, 4]⟩, ⟨.front, [7]⟩, ⟨.front, [6]⟩, ⟨.back, [3]⟩]

theorem ends_sample : ∃ w w' : Writer, Writer.new? 6 3 = some w ∧ w'.data = [6, 7, 8, 9, 3] ∧
    w.bare.run (sampleCalls.map Call.edit) =
      .ok ([some .notEnoughSpace, none, none, some .notEnoughSpace, none, none], w'.bare) ∧
    ∃ results, w.bare.run (sampleExchanged.map Call.edit) = .ok (results, w'.bare) := by
  obtain ⟨w, made, _, runs⟩ := @ends_independent 6 3 (by decide) (by decide)
  obtain ⟨results, w', first, _, _, _, data, exchanged⟩ := runs sampleCalls
  obtain ⟨results', second, _⟩ := exchanged sampleExchanged fun side => by cases side <;> rfl
  cases made
  have computed : (Writer.zeroed 3 3).bare.run (sampleCalls.map Call.edit) =
      .ok ([some .notEnoughSpace, none, none, some .notEnoughSpace, none, none],
        ⟨[0, 6, 7, 8, 9, 3], 1, 6⟩) := rfl
  obtain ⟨rfl, _⟩ := Prod.mk.inj (Except.ok.inj (first.symm.trans computed))
  exact ⟨_, w', rfl, data, first, results', second⟩

end Srv6Traffic
