import Assay.Session

/-!
# What a printed text leaves in a sink

A text is printed in pieces, and a limit may fall inside any of them. Where the pieces are cut does
not matter: printing is one write of the whole text and one flush (`print_of_fits`), and a text that
does not fit leaves as much of itself as there is room for and no flush (`print_of_not_fits`).

* `text pieces` — the bytes of a text that is given in pieces.
* `accepted s bs` — the beginning of `bs` that the sink `s` has room for; `Fits s bs` says that this
  is all of `bs`.
* `verdictText`, `outcomeText` — the texts of the two kinds of report, each written out in full.
-/

namespace Assay

namespace Sink

/-- The bytes of a text that is given in pieces. -/
def text (pieces : List String) : Bytes :=
  pieces.flatMap fun piece => Text.Utf8.encode piece.toList

/-- The beginning of some bytes that a sink has room for. -/
def accepted (s : Sink) (bs : Bytes) : Bytes :=
  match s.limit with
  | none => bs
  | some limit => bs.take (limit - s.written.length)

/-- The sink has room for some bytes. -/
def Fits (s : Sink) (bs : Bytes) : Prop :=
  ∀ limit, s.limit = some limit → bs.length ≤ limit - s.written.length

/-- Whether there is room can be decided, since there is one limit at most. -/
instance (s : Sink) (bs : Bytes) : Decidable (s.Fits bs) :=
  inferInstanceAs (Decidable (∀ limit ∈ s.limit, bs.length ≤ limit - s.written.length))

/-- The sink takes a text: it has room for it and does not refuse the flush that follows. -/
def Takes (s : Sink) (bs : Bytes) : Prop :=
  s.Fits bs ∧ s.refusedFlush ≠ some (s.flushes + 1)

/-- Whether a text is taken can be decided. -/
instance (s : Sink) (bs : Bytes) : Decidable (s.Takes bs) :=
  inferInstanceAs (Decidable (_ ∧ _))

/-- The error with which a text that is not taken is refused. -/
def refusal (s : Sink) (bs : Bytes) : IoError := if s.Fits bs then refused else full

/-- The sink with more bytes in it. -/
def holding (s : Sink) (bs : Bytes) : Sink := { s with written := s.written ++ bs }

/-- The sink after a text was written in full and flushed. -/
def taking (s : Sink) (bs : Bytes) : Sink :=
  { s with written := s.written ++ bs, flushes := s.flushes + 1 }

/-- The sink never refuses a byte or a flush. -/
structure Unfailing (s : Sink) : Prop where
  limit : s.limit = none
  refusedFlush : s.refusedFlush = none

/-- The sink without a limit never fails. -/
theorem unlimited_unfailing : unlimited.Unfailing := ⟨rfl, rfl⟩

/-- No pieces make no bytes. -/
@[simp] theorem text_nil : text [] = [] := rfl

/-- The first piece of a text stands in front of the others. -/
@[simp] theorem text_cons (piece : String) (pieces : List String) :
    text (piece :: pieces) = Text.Utf8.encode piece.toList ++ text pieces := rfl

/-- A sink with no more bytes in it is as it was. -/
@[simp] theorem holding_nil (s : Sink) : s.holding [] = s := by
  simp [holding]

/-- Bytes that are added in two goes are added in one. -/
@[simp] theorem holding_holding (s : Sink) (bs cs : Bytes) :
    (s.holding bs).holding cs = s.holding (bs ++ cs) := by
  simp [holding]

/-! ### Room -/

/-- There is always room for nothing. -/
theorem fits_nil (s : Sink) : s.Fits [] := fun _ _ => Nat.zero_le _

/-- A sink that never fails has room for anything. -/
theorem Unfailing.fits {s : Sink} (h : s.Unfailing) (bs : Bytes) : s.Fits bs := by
  intro limit hlimit
  rw [h.limit] at hlimit
  cases hlimit

/-- There is no room for some bytes iff there is a limit that leaves less than they need. -/
theorem not_fits_iff {s : Sink} {bs : Bytes} :
    ¬ s.Fits bs ↔ ∃ limit, s.limit = some limit ∧ limit - s.written.length < bs.length := by
  unfold Fits
  constructor
  · intro h
    rcases hlimit : s.limit with _ | limit
    · exact absurd (fun limit h' => by rw [hlimit] at h'; cases h') h
    · refine ⟨limit, rfl, Nat.lt_of_not_le fun hle => h fun limit' h' => ?_⟩
      rw [hlimit] at h'
      cases h'
      exact hle
  · rintro ⟨limit, hlimit, hlt⟩ h
    have := h limit hlimit
    omega

/-- Two texts fit together iff the first fits and the second fits after it. -/
theorem fits_append_iff {s : Sink} {bs cs : Bytes} :
    s.Fits (bs ++ cs) ↔ s.Fits bs ∧ (s.holding bs).Fits cs := by
  unfold Fits holding
  simp only [List.length_append]
  constructor
  · intro h
    refine ⟨fun limit hlimit => ?_, fun limit hlimit => ?_⟩
    · have := h limit hlimit
      omega
    · have := h limit hlimit
      omega
  · rintro ⟨hb, hc⟩ limit hlimit
    have := hb limit hlimit
    have := hc limit hlimit
    omega

/-- A sink that never fails goes on never failing. -/
theorem Unfailing.taking {s : Sink} (h : s.Unfailing) (bs : Bytes) : (s.taking bs).Unfailing :=
  ⟨h.limit, h.refusedFlush⟩

/-- Bytes that fit are accepted in full. -/
theorem accepted_of_fits {s : Sink} {bs : Bytes} (h : s.Fits bs) : s.accepted bs = bs := by
  unfold accepted
  rcases hlimit : s.limit with _ | limit
  · rfl
  · exact List.take_of_length_le (h limit hlimit)

/-- What is accepted of two texts, the first of which fits. -/
theorem accepted_append {s : Sink} {bs : Bytes} (h : s.Fits bs) (cs : Bytes) :
    s.accepted (bs ++ cs) = bs ++ (s.holding bs).accepted cs := by
  unfold accepted holding
  rcases hlimit : s.limit with _ | limit
  · rfl
  · have hle := h limit hlimit
    simp only [List.length_append, Nat.sub_add_eq]
    rw [List.take_append, List.take_of_length_le hle]

/-! ### Writing and printing -/

/-- Bytes that fit are written. -/
theorem write_of_fits {s : Sink} {bs : Bytes} (h : s.Fits bs) :
    s.write bs = (.ok (), s.holding bs) := by
  unfold write holding
  rcases hlimit : s.limit with _ | limit
  · rfl
  · simp only
    rw [if_pos (h limit hlimit)]

/-- Of bytes that do not fit, what there is room for is written, and the write fails. -/
theorem write_of_not_fits {s : Sink} {bs : Bytes} (h : ¬ s.Fits bs) :
    s.write bs = (.error full, s.holding (s.accepted bs)) := by
  obtain ⟨limit, hlimit, hlt⟩ := not_fits_iff.mp h
  unfold write holding accepted
  simp only [hlimit]
  rw [if_neg (by omega)]

/-- A text that fits is written as a whole, and then the sink is flushed once. -/
theorem print_of_fits {s : Sink} {pieces : List String} (h : s.Fits (text pieces)) :
    s.print pieces = (s.holding (text pieces)).flush := by
  induction pieces generalizing s with
  | nil => simp [print]
  | cons piece pieces ih =>
      rw [text_cons] at h
      obtain ⟨hpiece, hrest⟩ := fits_append_iff.mp h
      unfold print
      rw [write_of_fits hpiece]
      simp only
      rw [ih hrest, text_cons, holding_holding]

/-- Of a text that does not fit, the beginning that does is written, and the sink is not flushed. -/
theorem print_of_not_fits {s : Sink} {pieces : List String} (h : ¬ s.Fits (text pieces)) :
    s.print pieces = (.error full, s.holding (s.accepted (text pieces))) := by
  induction pieces generalizing s with
  | nil => exact absurd (fits_nil s) h
  | cons piece pieces ih =>
      unfold print
      rw [text_cons] at h ⊢
      by_cases hpiece : s.Fits (Text.Utf8.encode piece.toList)
      · -- the limit falls behind this piece
        have hrest : ¬ (s.holding (Text.Utf8.encode piece.toList)).Fits (text pieces) :=
          fun hrest => h (fits_append_iff.mpr ⟨hpiece, hrest⟩)
        rw [write_of_fits hpiece, accepted_append hpiece]
        simp only
        rw [ih hrest, holding_holding]
      · -- the limit falls inside this piece, so nothing of the later ones is accepted
        obtain ⟨limit, hlimit, hlt⟩ := not_fits_iff.mp hpiece
        rw [write_of_not_fits hpiece]
        simp only [accepted, hlimit]
        rw [List.take_append_of_le_length (Nat.le_of_lt hlt)]

/-- A text that is taken is in the sink and has been flushed. -/
theorem print_of_takes {s : Sink} {pieces : List String} (h : s.Takes (text pieces)) :
    s.print pieces = (.ok (), s.taking (text pieces)) := by
  rw [print_of_fits h.1]
  unfold flush holding taking
  simp only
  rw [if_neg h.2]

/-- A text that is not taken is in the sink as far as there is room, also where it is its flush that
is refused. -/
theorem print_of_not_takes {s : Sink} {pieces : List String} (h : ¬ s.Takes (text pieces)) :
    ∃ s' : Sink, s.print pieces = (.error (s.refusal (text pieces)), s') ∧
      s'.written = s.written ++ s.accepted (text pieces) := by
  by_cases hfits : s.Fits (text pieces)
  · have hflush : s.refusedFlush = some (s.flushes + 1) :=
      Decidable.of_not_not fun hflush => h ⟨hfits, hflush⟩
    refine ⟨s.taking (text pieces), ?_, ?_⟩
    · rw [print_of_fits hfits]
      unfold flush holding taking refusal
      simp only
      rw [if_pos hflush, if_pos hfits]
    · rw [accepted_of_fits hfits]
      rfl
  · refine ⟨s.holding (s.accepted (text pieces)), ?_, rfl⟩
    rw [print_of_not_fits hfits]
    unfold refusal
    rw [if_neg hfits]

/-- A sink that never fails takes every text. -/
theorem Unfailing.takes {s : Sink} (h : s.Unfailing) (bs : Bytes) : s.Takes bs := by
  refine ⟨h.fits bs, ?_⟩
  rw [h.refusedFlush]
  exact (Option.some_ne_none _).symm

end Sink

/-! ### The texts of reports -/

/-- The bytes of a text. -/
def bytesOf (text : String) : Bytes := Text.Utf8.encode text.toList

/-- The report line of a golden test. -/
def verdictText (test : Test) : Verdict → Bytes
  | .pass => bytesOf ("OK: " ++ test.id ++ "\n")
  | .fail => bytesOf ("FAIL: " ++ test.id ++ "\n")

/-- The report of a smoke test. A newline at the end of its output is kept and followed by
another. -/
def outcomeText : Outcome → Bytes
  | .completed code stdout =>
    bytesOf ("code: " ++ Text.integer code ++ "\n" ++ "stdout: " ++ stdout ++ "\n")
  | .launchFailure detail => bytesOf ("Error running test: " ++ detail ++ "\n")
  | .notFound => bytesOf "Executable for test not found.\n"

/-- The encoding of texts in a row is that of each, in a row. -/
theorem bytesOf_append (s t : String) : bytesOf (s ++ t) = bytesOf s ++ bytesOf t := by
  unfold bytesOf Text.Utf8.encode
  rw [String.toList_append, List.flatMap_append]

/-- A verdict is printed as its line. -/
theorem text_verdict_pieces (test : Test) (v : Verdict) :
    Sink.text (v.pieces test) = verdictText test v := by
  have hpass : bytesOf "OK: " = bytesOf "OK:" ++ bytesOf " " := by rw [← bytesOf_append]; rfl
  have hfail : bytesOf "FAIL: " = bytesOf "FAIL:" ++ bytesOf " " := by rw [← bytesOf_append]; rfl
  cases v <;>
    simp only [Verdict.pieces, Verdict.label, Sink.text_cons, Sink.text_nil, List.append_nil,
      verdictText, bytesOf_append, hpass, hfail, List.append_assoc] <;>
    rfl

/-- An outcome is printed as its report. -/
theorem text_outcome_pieces (o : Outcome) : Sink.text o.pieces = outcomeText o := by
  cases o <;>
    simp only [Outcome.pieces, Sink.text_cons, Sink.text_nil, List.append_nil, outcomeText,
      bytesOf_append, List.append_assoc] <;>
    rfl

end Assay
