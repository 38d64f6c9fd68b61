import Mathlib.Algebra.Order.Ring.Nat
import Assay.Text.Utf8

/-!
# Reading what was encoded

The reader of UTF-8 takes one byte at a time, so the encoding of a character is followed through the
states that it passes. Its first byte leaves a character pending, `p.Awaits n` says that the pending
character may still become the code point `n`, and then the *followers* of `n` settle it.

* `scan_encode_append` — an encoded text is read as its characters, whatever follows it.
* `exists_utf8EncodeChar` — and where a character is read, its encoding stands.
* `decode?_eq_some_iff` — so the strict reader accepts exactly the encodings of texts.
-/

namespace Assay.Text.Utf8

/-! ### The bytes of one character -/

/-- The last bytes of a code point's encoding, `k + 1` of them, six bits each. -/
def followers (n : Nat) : (k : Nat) → Bytes
  | 0 => [UInt8.ofNat (n % 0x40 + 0x80)]
  | k + 1 => UInt8.ofNat (n / 0x40 ^ (k + 1) % 0x40 + 0x80) :: followers n k

/-- The leading byte `b` of a code point from 128 on, and how many bytes come after the second
one. -/
inductive Leads (n b : Nat) : Nat → Prop
  | two (low : 0x80 ≤ n) (high : n < 0x800) (lead : b = n / 0x40 + 0xC0) : Leads n b 0
  | three (low : 0x800 ≤ n) (high : n < 0x10000) (lead : b = n / 0x1000 + 0xE0) : Leads n b 1
  | four (low : 0x10000 ≤ n) (high : n < 0x110000) (lead : b = n / 0x40000 + 0xF0) : Leads n b 2

/-- A pending character may become a code point: the bits so far are its first ones, and the next
byte of its encoding may follow. -/
structure Pending.Awaits (p : Pending) (n : Nat) : Prop where
  bits : n / 0x40 ^ (p.after + 1) = p.bits
  low : p.low.toNat ≤ n / 0x40 ^ p.after % 0x40 + 0x80
  high : n / 0x40 ^ p.after % 0x40 + 0x80 ≤ p.high.toNat

/-- A number that fits in a byte is kept by it. -/
theorem toNat_ofNat_of_lt {n : Nat} (h : n < 256) : (UInt8.ofNat n).toNat = n := by
  simpa using h

/-- A number that is a code point is kept by its character. -/
theorem toNat_ofNat_of_valid {n : Nat} (h : n.isValidChar) : (Char.ofNat n).toNat = n := by
  rw [Char.ofNat, dif_pos h]
  rfl

/-- A character below 128 is encoded as one byte. -/
theorem utf8EncodeChar_ascii {c : Char} (h : c.toNat < 0x80) :
    String.utf8EncodeChar c = [UInt8.ofNat c.toNat] := by
  have hle : c.val.toNat ≤ 0x7F := Nat.le_of_lt_succ h
  unfold String.utf8EncodeChar
  exact if_pos hle

/-- Every code point from 128 on has a leading byte. -/
theorem exists_leads {n : Nat} (hn : n.isValidChar) (h : 0x80 ≤ n) :
    ∃ (b : UInt8) (k : Nat), 0x80 ≤ b.toNat ∧ Leads n b.toNat k := by
  by_cases h2 : n < 0x800
  · have hb := toNat_ofNat_of_lt (n := n / 0x40 + 0xC0) (by omega)
    exact ⟨_, _, by omega, .two h h2 hb⟩
  · by_cases h3 : n < 0x10000
    · have hb := toNat_ofNat_of_lt (n := n / 0x1000 + 0xE0) (by omega)
      exact ⟨_, _, by omega, .three (by omega) h3 hb⟩
    · have hb := toNat_ofNat_of_lt (n := n / 0x40000 + 0xF0) (by omega)
      exact ⟨_, _, by omega, .four (by omega) (by omega) hb⟩

/-- A character from 128 on is encoded as its leading byte and what follows it. -/
theorem Leads.utf8EncodeChar {c : Char} {b : UInt8} {k : Nat} (h : Leads c.toNat b.toNat k) :
    String.utf8EncodeChar c = b :: followers c.toNat k := by
  generalize hn : c.toNat = n at h
  have hval : c.val.toNat = n := hn
  unfold String.utf8EncodeChar
  simp only [hval]
  rw [← UInt8.ofNat_toNat (x := b)]
  cases h with
  | two low high lead =>
    rw [if_neg (by omega), if_pos (by omega), Nat.mod_eq_of_lt (by omega), lead]
    rfl
  | three low high lead =>
    rw [if_neg (by omega), if_neg (by omega), if_pos (by omega),
      Nat.mod_eq_of_lt (b := 0x10) (by omega), lead]
    rfl
  | four low high lead =>
    rw [if_neg (by omega), if_neg (by omega), if_neg (by omega),
      Nat.mod_eq_of_lt (b := 0x08) (by omega), lead]
    rfl

/-! ### Leading bytes -/

/-- The leading byte of a code point leaves a character pending that awaits it. -/
theorem Leads.ofLead? {n k : Nat} {b : UInt8} (hn : n.isValidChar) (h : Leads n b.toNat k) :
    ∃ p, Pending.ofLead? b = some p ∧ p.after = k ∧ p.Awaits n := by
  rcases hp : Pending.ofLead? b with _ | p
  · -- a byte that is refused lies outside the three ranges
    revert hp
    fun_cases Pending.ofLead? b
    all_goals
      intro hp
      cases hp
    cases h <;> omega
  · refine ⟨p, rfl, ?_⟩
    revert hp
    fun_cases Pending.ofLead? b
    all_goals
      intro hp
      cases hp
    -- each row of the table goes with one number of bytes
    all_goals cases h
    all_goals try omega
    all_goals
      refine ⟨rfl, ⟨?_, ?_, ?_⟩⟩
      all_goals
        simp only [Nat.reduceAdd, Nat.reducePow, Nat.pow_zero, Nat.div_one, UInt8.reduceToNat]
        omega

/-- A code point that a leading byte's character may become is one that this byte leads. -/
theorem leads_of_ofLead? {b : UInt8} {p : Pending} (h : Pending.ofLead? b = some p) {n : Nat}
    (hn : p.Awaits n) : n.isValidChar ∧ Leads n b.toNat p.after := by
  obtain ⟨hbits, hlow, hhigh⟩ := hn
  revert h
  fun_cases Pending.ofLead? b
  all_goals
    intro h
    cases h
  all_goals
    simp only [Nat.reduceAdd, Nat.reducePow, Nat.pow_zero, Nat.div_one, UInt8.reduceToNat]
      at hbits hlow hhigh
  case case1.refl => exact ⟨by omega, .two (by omega) (by omega) (by omega)⟩
  case case2.refl | case3.refl | case4.refl =>
    exact ⟨by omega, .three (by omega) (by omega) (by omega)⟩
  case case5.refl | case6.refl | case7.refl =>
    exact ⟨by omega, .four (by omega) (by omega) (by omega)⟩

/-- Behind a leading byte, only a byte that may follow is accepted. -/
theorem low_high_of_ofLead? {b : UInt8} {p : Pending} (h : Pending.ofLead? b = some p) :
    0x80 ≤ p.low.toNat ∧ p.high.toNat ≤ 0xBF := by
  revert h
  fun_cases Pending.ofLead? b
  all_goals
    intro h
    cases h
  all_goals simp only [UInt8.reduceToNat, Nat.reduceLeDiff, and_self]

/-! ### Reading the bytes that follow -/

namespace Pending

/-- A byte is accepted iff it lies in the range that is waited for. -/
theorem accepts_iff {p : Pending} {b : UInt8} :
    p.accepts b = true ↔ p.low.toNat ≤ b.toNat ∧ b.toNat ≤ p.high.toNat := by
  simp [accepts, UInt8.le_iff_toNat_le]

/-- The follower of a code point that is awaited is accepted, and adds its six bits. -/
theorem Awaits.next {p : Pending} {n : Nat} (h : p.Awaits n) {b : UInt8}
    (hb : b = UInt8.ofNat (n / 0x40 ^ p.after % 0x40 + 0x80)) :
    p.accepts b = true ∧ p.extended b = n / 0x40 ^ p.after := by
  have hbyte : b.toNat = n / 0x40 ^ p.after % 0x40 + 0x80 := by
    rw [hb]
    exact toNat_ofNat_of_lt (by omega)
  refine ⟨?_, ?_⟩
  · rw [accepts_iff, hbyte]
    exact ⟨h.low, h.high⟩
  · have hbits := h.bits
    rw [Nat.pow_succ, ← Nat.div_div_eq_div_mul] at hbits
    rw [extended, hbyte, ← hbits]
    omega

/-- A byte that is accepted is the follower of every code point that begins with the bits so far. -/
theorem awaits_of_extended {p : Pending} (hlow : 0x80 ≤ p.low.toNat) (hhigh : p.high.toNat ≤ 0xBF)
    {b : UInt8} (hb : p.accepts b = true) {n : Nat} (hn : n / 0x40 ^ p.after = p.extended b) :
    p.Awaits n ∧ UInt8.ofNat (n / 0x40 ^ p.after % 0x40 + 0x80) = b := by
  obtain ⟨hge, hle⟩ := accepts_iff.mp hb
  have hext : p.extended b = p.bits * 0x40 + b.toNat % 0x40 := rfl
  rw [hext] at hn
  have hbyte : n / 0x40 ^ p.after % 0x40 + 0x80 = b.toNat := by omega
  refine ⟨⟨?_, ?_, ?_⟩, ?_⟩
  · rw [Nat.pow_succ, ← Nat.div_div_eq_div_mul, hn]
    omega
  · rw [hbyte]
    exact hge
  · rw [hbyte]
    exact hle
  · rw [hbyte, UInt8.ofNat_toNat]

end Pending

/-- The followers of a code point that is awaited settle it. -/
theorem scanFrom_followers {p : Pending} {n : Nat} (h : p.Awaits n) (rest : Bytes) :
    scanFrom (some p) (followers n p.after ++ rest) = some (Char.ofNat n) :: scan rest := by
  obtain ⟨bits, after, low, high⟩ := p
  induction after generalizing bits low high with
  | zero =>
    obtain ⟨haccepts, hextended⟩ := h.next rfl
    simp only [Nat.pow_zero, Nat.div_one] at haccepts hextended
    simp only [followers, List.cons_append, List.nil_append, scanFrom, step, haccepts, hextended]
    rfl
  | succ k ih =>
    obtain ⟨haccepts, hextended⟩ := h.next rfl
    simp only at haccepts hextended
    have hnext : Pending.Awaits ⟨n / 0x40 ^ (k + 1), k, 0x80, 0xBF⟩ n := by
      refine ⟨rfl, ?_, ?_⟩
      all_goals
        simp only [UInt8.reduceToNat]
        omega
    simp only [followers, List.cons_append, scanFrom, step, haccepts, hextended, if_true]
    exact ih _ _ _ hnext

/-- Where a pending character is settled, the next byte may follow. -/
theorem exists_accepts {p : Pending} {bs : Bytes} {c : Char} {l : List (Option Char)}
    (h : scanFrom (some p) bs = some c :: l) : ∃ b rest, bs = b :: rest ∧ p.accepts b = true := by
  rcases bs with _ | ⟨b, rest⟩
  · cases h
  · refine ⟨b, rest, rfl, ?_⟩
    rcases hb : p.accepts b with _ | _
    · -- a byte that cannot follow closes a gap
      simp only [scanFrom, step, hb] at h
      cases h
    · rfl

/-- Where a pending character is settled, it is by the followers of a code point it awaits. -/
theorem exists_awaits {p : Pending} (hlow : 0x80 ≤ p.low.toNat) (hhigh : p.high.toNat ≤ 0xBF)
    {bs : Bytes} {c : Char} {l : List (Option Char)} (h : scanFrom (some p) bs = some c :: l) :
    ∃ n rest, p.Awaits n ∧ bs = followers n p.after ++ rest ∧ c = Char.ofNat n ∧
      scan rest = l := by
  obtain ⟨bits, after, low, high⟩ := p
  induction after generalizing bits low high bs with
  | zero =>
    obtain ⟨b, bs, rfl, hb⟩ := exists_accepts h
    simp only [scanFrom, step, hb] at h
    cases h
    obtain ⟨hawaits, hbyte⟩ := Pending.awaits_of_extended hlow hhigh hb (Nat.div_one _)
    simp only [Nat.pow_zero, Nat.div_one] at hbyte
    refine ⟨_, bs, hawaits, ?_, rfl, rfl⟩
    rw [followers, hbyte]
    rfl
  | succ k ih =>
    obtain ⟨b, bs, rfl, hb⟩ := exists_accepts h
    simp only [scanFrom, step, hb] at h
    have hrange : 0x80 ≤ (0x80 : UInt8).toNat ∧ (0xBF : UInt8).toNat ≤ 0xBF := by decide
    obtain ⟨n, rest, hnext, rfl, rfl, hrest⟩ := ih _ _ _ hrange.1 hrange.2 h
    obtain ⟨hawaits, hbyte⟩ := Pending.awaits_of_extended hlow hhigh hb hnext.bits
    refine ⟨n, rest, hawaits, ?_, rfl, hrest⟩
    rw [followers, hbyte]
    rfl

/-- What is pending is read as something, if only as a gap. -/
theorem scanFrom_pending_ne_nil (p : Pending) (bs : Bytes) : scanFrom (some p) bs ≠ [] := by
  induction bs generalizing p with
  | nil => exact List.cons_ne_nil _ _
  | cons b bs ih =>
    obtain ⟨bits, after, low, high⟩ := p
    rcases hb : Pending.accepts ⟨bits, after, low, high⟩ b with _ | _
    · simp [scanFrom, step, hb]
    · rcases after with _ | k
      · simp [scanFrom, step, hb]
      · simp only [scanFrom, step, hb]
        exact ih _

/-! ### Reading from the beginning of a character -/

/-- A byte below 128 is read as its character. -/
theorem scan_ascii {b : UInt8} (h : b.toNat < 0x80) (rest : Bytes) :
    scan (b :: rest) = some (Char.ofNat b.toNat) :: scan rest := by
  have hlt : b < 0x80 := UInt8.lt_iff_toNat_lt.mpr h
  simp only [scan, scanFrom, step, start, if_pos hlt]
  rfl

/-- What a byte from 128 on begins: a pending character, or a gap of its own. -/
theorem scan_of_not_ascii {b : UInt8} (h : ¬ b.toNat < 0x80) (rest : Bytes) :
    scan (b :: rest) =
      match Pending.ofLead? b with
      | some p => scanFrom (some p) rest
      | none => none :: scan rest := by
  have hlt : ¬ b < 0x80 := fun hlt => h (UInt8.lt_iff_toNat_lt.mp hlt)
  simp only [scan, scanFrom, step, start, if_neg hlt]
  rcases Pending.ofLead? b with _ | p <;> rfl

/-- The encoding of a character is read as that character, whatever follows it. -/
theorem scan_utf8EncodeChar_append (c : Char) (rest : Bytes) :
    scan (String.utf8EncodeChar c ++ rest) = some c :: scan rest := by
  have hvalid : c.toNat.isValidChar := c.valid
  by_cases hascii : c.toNat < 0x80
  · have hb : (UInt8.ofNat c.toNat).toNat = c.toNat := toNat_ofNat_of_lt (by omega)
    rw [utf8EncodeChar_ascii hascii, List.singleton_append, scan_ascii (by omega), hb,
      Char.ofNat_toNat]
  · obtain ⟨b, k, hb, hleads⟩ := exists_leads hvalid (Nat.le_of_not_lt hascii)
    obtain ⟨p, hp, rfl, hawaits⟩ := hleads.ofLead? hvalid
    rw [hleads.utf8EncodeChar, List.cons_append, scan_of_not_ascii (Nat.not_lt.mpr hb), hp]
    simp only
    rw [scanFrom_followers hawaits, Char.ofNat_toNat]

/-- Where a character is read, its encoding stands. -/
theorem exists_utf8EncodeChar {bs : Bytes} {c : Char} {l : List (Option Char)}
    (h : scan bs = some c :: l) : ∃ rest, bs = String.utf8EncodeChar c ++ rest ∧ scan rest = l := by
  rcases bs with _ | ⟨b, bs⟩
  · cases h
  · by_cases hascii : b.toNat < 0x80
    · rw [scan_ascii hascii] at h
      cases h
      have hc : (Char.ofNat b.toNat).toNat = b.toNat :=
        toNat_ofNat_of_valid (Or.inl (Nat.lt_trans hascii (by decide)))
      refine ⟨bs, ?_, rfl⟩
      rw [utf8EncodeChar_ascii (by omega), hc, UInt8.ofNat_toNat, List.singleton_append]
    · rw [scan_of_not_ascii hascii] at h
      rcases hp : Pending.ofLead? b with _ | p
      · rw [hp] at h
        cases h
      · rw [hp] at h
        obtain ⟨hlow, hhigh⟩ := low_high_of_ofLead? hp
        obtain ⟨n, rest, hawaits, rfl, rfl, hrest⟩ := exists_awaits hlow hhigh h
        obtain ⟨hvalid, hleads⟩ := leads_of_ofLead? hp hawaits
        have hn := toNat_ofNat_of_valid hvalid
        rw [← hn] at hleads
        refine ⟨rest, ?_, hrest⟩
        rw [hleads.utf8EncodeChar, hn, List.cons_append]

/-- Only where there are no bytes is nothing read. -/
theorem eq_nil_of_scan {bs : Bytes} (h : scan bs = []) : bs = [] := by
  rcases bs with _ | ⟨b, bs⟩
  · rfl
  · by_cases hascii : b.toNat < 0x80
    · rw [scan_ascii hascii] at h
      cases h
    · rw [scan_of_not_ascii hascii] at h
      rcases hp : Pending.ofLead? b with _ | p
      · rw [hp] at h
        cases h
      · rw [hp] at h
        exact absurd h (scanFrom_pending_ne_nil p bs)

/-! ### Whole texts -/

/-- An encoded text is read as its characters, whatever follows it. -/
theorem scan_encode_append (s : List Char) (rest : Bytes) :
    scan (encode s ++ rest) = s.map some ++ scan rest := by
  induction s with
  | nil => rfl
  | cons c s ih =>
    rw [encode, List.flatMap_cons, List.append_assoc, scan_utf8EncodeChar_append]
    exact congrArg (some c :: ·) ih

/-- Bytes that are read as a text without a gap are its encoding. -/
theorem eq_encode_of_scan {bs : Bytes} {s : List Char} (h : scan bs = s.map some) :
    bs = encode s := by
  induction s generalizing bs with
  | nil => exact eq_nil_of_scan h
  | cons c s ih =>
    obtain ⟨rest, rfl, hrest⟩ := exists_utf8EncodeChar h
    rw [ih hrest]
    rfl

/-- Bytes are decoded as a text iff they are read as its characters without a gap. -/
theorem decode?_eq_some_iff_scan {bs : Bytes} {s : List Char} :
    decode? bs = some s ↔ scan bs = s.map some := by
  unfold decode?
  generalize scan bs = l
  induction l generalizing s with
  | nil => cases s <;> simp
  | cons o l ih =>
    rw [List.mapM_cons]
    rcases o with _ | c
    · cases s <;> simp
    · cases s with
      | nil => simp [Option.bind_eq_some_iff]
      | cons d s =>
        simp only [id_eq, Option.bind_eq_bind, Option.bind_some, Option.bind_eq_some_iff,
          Option.pure_def, Option.some.injEq, List.cons.injEq, List.map_cons]
        constructor
        · rintro ⟨t, ht, rfl, rfl⟩
          exact ⟨rfl, ih.mp ht⟩
        · rintro ⟨rfl, ht⟩
          exact ⟨s, ih.mpr ht, rfl, rfl⟩

/-- The strict reader accepts exactly the encodings of texts. -/
theorem decode?_eq_some_iff {bs : Bytes} {s : List Char} : decode? bs = some s ↔ bs = encode s := by
  rw [decode?_eq_some_iff_scan]
  constructor
  · exact eq_encode_of_scan
  · rintro rfl
    have hnil : scan [] = [] := rfl
    have h := scan_encode_append s []
    rwa [hnil, List.append_nil, List.append_nil] at h

end Assay.Text.Utf8
