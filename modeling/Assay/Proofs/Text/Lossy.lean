import Assay.Proofs.Text.Utf8

/-!
# Reading in spite of gaps

No character begins with a byte that may follow within one. So the reader is in step again at the
first byte of every encoded text, whatever stands in front of it: what was pending there is a gap,
and what comes after is read as if it stood alone. The bytes behind the text do not matter to it
either, because its last character is complete.

* `IsFollower` — a byte that may follow within a character; `Pending.Bounded` — a pending character
  waits for such bytes only.
* `scanFrom_append` — bytes behind which no follower stands are read apart from what comes next.
* `decodeLossy_append` — a text that is not empty is read as it is, between any bytes whatever.
* `decodeLossy_encode` — reading undoes encoding.
* `IsGap`, `Reads` — what a gap is, apart from how it is found: a maximal invalid part.
* `Pending.followers_or_cutShort` — any bytes settle the character that is pending, or cut it short.
* `reads_iff` — bytes are read as the characters and gaps that they are made of, and there is only
  one way to cut them.
-/

namespace Assay.Text.Utf8

/-- A byte that may follow within a character. -/
def IsFollower (b : UInt8) : Prop := 0x80 ≤ b.toNat ∧ b.toNat ≤ 0xBF

/-- A pending character waits for a byte that may follow. -/
def Pending.Bounded (p : Pending) : Prop := 0x80 ≤ p.low.toNat ∧ p.high.toNat ≤ 0xBF

/-! ### What is pending -/

/-- What a first byte leaves pending waits for a byte that may follow. -/
theorem bounded_of_start {b : UInt8} {p : Pending} (h : (start b).1 = some p) : p.Bounded := by
  unfold start at h
  split at h
  · cases h
  · rcases hp : Pending.ofLead? b with _ | q
    · rw [hp] at h
      cases h
    · rw [hp] at h
      cases h
      exact low_high_of_ofLead? hp

/-- Whatever is pending waits for a byte that may follow. -/
theorem bounded_of_step {pending : Option Pending} {b : UInt8} {p : Pending}
    (h : (step pending b).1 = some p) : p.Bounded := by
  unfold step at h
  split at h
  · exact bounded_of_start h
  · split at h
    · split at h
      · cases h
      · cases h
        exact ⟨Nat.le_refl _, Nat.le_refl _⟩
    · exact bounded_of_start h

/-- A byte that may not follow closes a gap, and is read again as a first byte. -/
theorem step_of_not_isFollower {p : Pending} (hp : p.Bounded) {b : UInt8} (hb : ¬ IsFollower b) :
    step (some p) b = ((start b).1, none :: (start b).2) := by
  have hrefused : p.accepts b = false := by
    rw [← Bool.not_eq_true]
    intro haccepts
    obtain ⟨hlow, hhigh⟩ := Pending.accepts_iff.mp haccepts
    exact hb ⟨Nat.le_trans hp.1 hlow, Nat.le_trans hhigh hp.2⟩
  rw [step, hrefused]
  rfl

/-! ### Falling into step -/

/-- Bytes are read one at a time. -/
theorem scanFrom_cons (pending : Option Pending) (b : UInt8) (rest : Bytes) :
    scanFrom pending (b :: rest) =
      (step pending b).2 ++ scanFrom (step pending b).1 rest := by
  cases pending <;> rfl

/-- Bytes in front of one that may not follow are read as if they ended there. -/
theorem scanFrom_append {rest : Bytes} (hrest : ∀ b ∈ rest.head?, ¬ IsFollower b)
    {pending : Option Pending} (hpending : ∀ p, pending = some p → p.Bounded) (bs : Bytes) :
    scanFrom pending (bs ++ rest) = scanFrom pending bs ++ scan rest := by
  induction bs generalizing pending with
  | nil =>
    rcases pending with _ | p
    · rfl
    · rcases rest with _ | ⟨b, rest⟩
      · rfl
      · -- the pending character is cut short here
        rw [List.nil_append, scanFrom_cons, step_of_not_isFollower (hpending p rfl) (hrest b rfl),
          scan, scanFrom_cons]
        rfl
  | cons b bs ih =>
    rw [List.cons_append, scanFrom_cons, scanFrom_cons, ih fun p => bounded_of_step,
      List.append_assoc]

/-- The first byte of a character's encoding is none that may follow. -/
theorem not_isFollower_of_mem_head? (c : Char) (rest : Bytes) :
    ∀ b ∈ (String.utf8EncodeChar c ++ rest).head?, ¬ IsFollower b := by
  have hfirst : ∃ b bs, String.utf8EncodeChar c = b :: bs ∧ ¬ IsFollower b := by
    by_cases hascii : c.toNat < 0x80
    · refine ⟨_, [], utf8EncodeChar_ascii hascii, fun hb => ?_⟩
      have := toNat_ofNat_of_lt (n := c.toNat) (by omega)
      have := hb.1
      omega
    · obtain ⟨b, k, -, hleads⟩ := exists_leads c.valid (Nat.le_of_not_lt hascii)
      refine ⟨b, _, hleads.utf8EncodeChar, fun hb => ?_⟩
      have := hb.2
      cases hleads <;> omega
  obtain ⟨b, bs, hencode, hb⟩ := hfirst
  intro b' hb'
  rw [hencode] at hb'
  cases hb'
  exact hb

/-- A text that is not empty is read as its characters, and what stands on either side is read as if
it stood alone. -/
theorem scan_append_encode_append {s : List Char} (hs : s ≠ []) (before after : Bytes) :
    scan (before ++ (encode s ++ after)) = scan before ++ (s.map some ++ scan after) := by
  rw [← scan_encode_append]
  refine scanFrom_append ?_ (fun p hp => by cases hp) before
  obtain ⟨c, s, rfl⟩ := List.exists_cons_of_ne_nil hs
  rw [encode, List.flatMap_cons, List.append_assoc]
  exact not_isFollower_of_mem_head? c _

/-! ### Texts -/

/-- A text that is not empty is read as it is, whatever bytes stand around it. -/
theorem decodeLossy_append {s : List Char} (hs : s ≠ []) (before after : Bytes) :
    decodeLossy (before ++ (encode s ++ after)) =
      decodeLossy before ++ (s ++ decodeLossy after) := by
  unfold decodeLossy
  rw [scan_append_encode_append hs, List.map_append, List.map_append, List.map_map]
  simp

/-- A text may not be empty here: bytes that are gaps apart may be a character together. -/
example : decodeLossy [0xC3] ++ decodeLossy [0xA9] ≠ decodeLossy ([0xC3] ++ [0xA9]) := by decide

/-- Reading undoes encoding. -/
theorem decodeLossy_encode (s : List Char) : decodeLossy (encode s) = s := by
  have hscan := scan_encode_append s []
  rw [List.append_nil] at hscan
  unfold decodeLossy
  rw [hscan, List.map_append, List.map_map]
  simp [scan, scanFrom]

/-- Texts with the same encoding are the same. -/
theorem encode_injective : Function.Injective encode :=
  Function.LeftInverse.injective decodeLossy_encode

/-! ### Gaps -/

/-- Bytes with which the encoding of some character begins. -/
def Begins (bs : Bytes) : Prop := ∃ c, bs <+: String.utf8EncodeChar c

/-- A maximal invalid part, and what stands behind it: no character stands here, the part is one
with which a character may begin, or else a single byte, and no longer one would do. -/
structure IsGap (part rest : Bytes) : Prop where
  ne_nil : part ≠ []
  invalid : ∀ c more, part ++ rest ≠ String.utf8EncodeChar c ++ more
  begins : Begins part ∨ part.length = 1
  maximal : ∀ longer, longer <+: part ++ rest → Begins longer → longer.length ≤ part.length

/-- Bytes as a sequence of characters and maximal invalid parts. -/
inductive Reads : Bytes → List (Option Char) → Prop
  | nil : Reads [] []
  | char {rest : Bytes} {l : List (Option Char)} (c : Char) (later : Reads rest l) :
      Reads (String.utf8EncodeChar c ++ rest) (some c :: l)
  | gap {part rest : Bytes} {l : List (Option Char)} (here : IsGap part rest)
      (later : Reads rest l) : Reads (part ++ rest) (none :: l)

/-- Of two maximal invalid parts in the same place, neither is longer than the other. -/
theorem IsGap.length_le {part rest part' rest' : Bytes} (h : IsGap part rest)
    (h' : IsGap part' rest') (heq : part ++ rest = part' ++ rest') :
    part.length ≤ part'.length := by
  rcases h.begins with hbegins | hone
  · refine h'.maximal part ?_ hbegins
    rw [← heq]
    exact List.prefix_append _ _
  · rw [hone]
    exact List.length_pos_iff.mpr h'.ne_nil

/-- There is one maximal invalid part at most. -/
theorem IsGap.unique {part rest part' rest' : Bytes} (h : IsGap part rest)
    (h' : IsGap part' rest') (heq : part ++ rest = part' ++ rest') :
    part = part' ∧ rest = rest' :=
  List.append_inj heq (Nat.le_antisymm (h.length_le h' heq) (h'.length_le h heq.symm))

/-! ### Characters that are cut short -/

namespace Pending

/-- A pending character is cut short behind `part`: a character that it may become goes on with
these bytes, none goes on any further with the bytes behind them, and the reader finds a gap. -/
structure CutShort (p : Pending) (part rest : Bytes) : Prop where
  begins : ∃ n, p.Awaits n ∧ part <+: followers n p.after
  maximal : ∀ n longer, p.Awaits n → longer <+: part ++ rest → longer <+: followers n p.after →
    longer.length ≤ part.length
  gap : scanFrom (some p) (part ++ rest) = none :: scan rest

variable {p : Pending} {b : UInt8} {k : Nat}

/-- The first follower holds the six bits in front of those of the others. -/
theorem exists_followers_eq_cons (n k : Nat) :
    ∃ later, followers n k = UInt8.ofNat (n / 0x40 ^ k % 0x40 + 0x80) :: later := by
  cases k with
  | zero =>
    rw [Nat.pow_zero, Nat.div_one]
    exact ⟨[], rfl⟩
  | succ k => exact ⟨_, rfl⟩

/-- After the second byte, any followers will do. -/
theorem awaits_of_div {n bits : Nat} (h : n / 0x40 ^ (k + 1) = bits) :
    Awaits ⟨bits, k, 0x80, 0xBF⟩ n := by
  refine ⟨h, ?_, ?_⟩
  all_goals
    simp only [UInt8.reduceToNat]
    omega

/-- With a byte that it accepts, a pending character awaits what it did, of all that goes on with
this byte. -/
theorem awaits_extended_iff (hp : p.Bounded) (hb : p.accepts b = true) (hafter : p.after = k + 1)
    {n : Nat} :
    Awaits ⟨p.extended b, k, 0x80, 0xBF⟩ n ↔
      p.Awaits n ∧ followers n p.after = b :: followers n k := by
  rw [hafter, followers]
  constructor
  · intro h
    obtain ⟨hawaits, hbyte⟩ := awaits_of_extended hp.1 hp.2 hb (hafter ▸ h.bits)
    rw [hafter] at hbyte
    exact ⟨hawaits, congrArg (· :: followers n k) hbyte⟩
  · rintro ⟨hawaits, hbyte⟩
    have hbits := (hawaits.next (b := b) (by rw [hafter]; exact (List.cons.inj hbyte).1.symm)).2
    rw [hafter] at hbits
    exact awaits_of_div hbits.symm

/-- With the last byte, a pending character is settled. -/
theorem exists_awaits_of_after_eq_zero (hp : p.Bounded) (hb : p.accepts b = true)
    (hafter : p.after = 0) : ∃ n, p.Awaits n ∧ followers n p.after = [b] := by
  obtain ⟨hawaits, hbyte⟩ := awaits_of_extended (n := p.extended b) hp.1 hp.2 hb (by
    rw [hafter, Nat.pow_zero, Nat.div_one])
  rw [hafter, Nat.pow_zero, Nat.div_one] at hbyte
  refine ⟨_, hawaits, ?_⟩
  rw [hafter, followers, hbyte]

/-- Nothing that is awaited goes on with a byte that is refused. -/
theorem cutShort_of_refused (hawaits : ∃ n, p.Awaits n) {rest : Bytes}
    (hrest : ∀ b ∈ rest.head?, p.accepts b = false) : p.CutShort [] rest where
  begins := hawaits.imp fun _ hn => ⟨hn, List.nil_prefix⟩
  maximal n longer hn hlonger hfollowers := by
    rcases longer with _ | ⟨b, longer⟩
    · exact Nat.le_refl 0
    · obtain ⟨later, hlater⟩ := exists_followers_eq_cons n p.after
      obtain ⟨more, hmore⟩ := hlonger
      rw [hlater] at hfollowers
      have haccepts := (hn.next (List.cons_prefix_cons.mp hfollowers).1).1
      rw [List.nil_append] at hmore
      rw [hrest b (by rw [← hmore]; rfl)] at haccepts
      cases haccepts
  gap := by
    rcases rest with _ | ⟨b, rest⟩
    · rfl
    · rw [List.nil_append, scanFrom_cons, step, hrest b rfl, scan, scanFrom_cons]
      rfl

/-- What is cut short later is cut short with one byte more in front. -/
theorem CutShort.cons (hp : p.Bounded) (hb : p.accepts b = true) (hafter : p.after = k + 1)
    {part rest : Bytes} (h : CutShort ⟨p.extended b, k, 0x80, 0xBF⟩ part rest) :
    p.CutShort (b :: part) rest where
  begins := by
    obtain ⟨n, hn, hpart⟩ := h.begins
    obtain ⟨hawaits, hfollowers⟩ := (awaits_extended_iff hp hb hafter).mp hn
    refine ⟨n, hawaits, ?_⟩
    rw [hfollowers]
    exact List.cons_prefix_cons.mpr ⟨rfl, hpart⟩
  maximal n longer hn hlonger hfollowers := by
    rcases longer with _ | ⟨c, longer⟩
    · exact Nat.zero_le _
    · obtain ⟨rfl, hlater⟩ := List.cons_prefix_cons.mp hlonger
      rw [hafter, followers] at hfollowers
      obtain ⟨hc, hfollowers⟩ := List.cons_prefix_cons.mp hfollowers
      have hnext := (awaits_extended_iff hp hb hafter).mpr
        ⟨hn, by rw [hafter, followers, ← hc]⟩
      exact Nat.succ_le_succ (h.maximal n longer hnext hlater hfollowers)
  gap := by
    rw [List.cons_append, scanFrom_cons, step, hb, hafter]
    exact h.gap

/-- Any bytes settle the character that is pending, or it is cut short. -/
theorem followers_or_cutShort (hp : p.Bounded) (hawaits : ∃ n, p.Awaits n) (bs : Bytes) :
    (∃ n rest, p.Awaits n ∧ bs = followers n p.after ++ rest) ∨
      ∃ part rest, bs = part ++ rest ∧ p.CutShort part rest := by
  induction bs generalizing p with
  | nil =>
    exact .inr ⟨[], [], rfl, cutShort_of_refused hawaits fun _ h => by cases h⟩
  | cons b bs ih =>
    rcases hb : p.accepts b with _ | _
    · refine .inr ⟨[], b :: bs, rfl, cutShort_of_refused hawaits fun c hc => ?_⟩
      cases hc
      exact hb
    · rcases hafter : p.after with _ | k
      · obtain ⟨n, hn, hfollowers⟩ := exists_awaits_of_after_eq_zero hp hb hafter
        rw [hafter] at hfollowers
        exact .inl ⟨n, bs, hn, by rw [hfollowers]; rfl⟩
      · -- the rest is about the character with the bits of this byte
        have hsome : ∃ n, Awaits ⟨p.extended b, k, 0x80, 0xBF⟩ n :=
          ⟨p.extended b * 0x40 ^ (k + 1),
            awaits_of_div (Nat.mul_div_cancel _ (Nat.pos_of_neZero _))⟩
        rcases ih ⟨Nat.le_refl _, Nat.le_refl _⟩ hsome with
          ⟨n, rest, hn, rfl⟩ | ⟨part, rest, rfl, hcut⟩
        · obtain ⟨hawaits, hfollowers⟩ := (awaits_extended_iff hp hb hafter).mp hn
          rw [hafter] at hfollowers
          exact .inl ⟨n, rest, hawaits, by rw [hfollowers]; rfl⟩
        · exact .inr ⟨b :: part, rest, rfl, hcut.cons hp hb hafter⟩

end Pending

/-! ### Reading gaps -/

/-- A character that begins with a byte from 128 on is one that this leading byte awaits. -/
theorem awaits_of_utf8EncodeChar {b : UInt8} {bs : Bytes} {c : Char}
    (h : String.utf8EncodeChar c = b :: bs) (hb : ¬ b.toNat < 0x80) :
    ∃ p, Pending.ofLead? b = some p ∧ p.Awaits c.toNat ∧ bs = followers c.toNat p.after := by
  by_cases hascii : c.toNat < 0x80
  · rw [utf8EncodeChar_ascii hascii] at h
    obtain ⟨rfl, -⟩ := List.cons.inj h
    rw [toNat_ofNat_of_lt (by omega)] at hb
    exact absurd hascii hb
  · obtain ⟨lead, k, -, hleads⟩ := exists_leads c.valid (Nat.le_of_not_lt hascii)
    obtain ⟨p, hp, rfl, hawaits⟩ := hleads.ofLead? c.valid
    rw [hleads.utf8EncodeChar] at h
    obtain ⟨rfl, rfl⟩ := List.cons.inj h
    exact ⟨p, hp, hawaits, rfl⟩

/-- A leading byte awaits some character: one of those with the lowest byte that it accepts. -/
theorem exists_awaits_of_ofLead? {b : UInt8} {p : Pending} (h : Pending.ofLead? b = some p) :
    ∃ n, p.Awaits n := by
  have haccepts : p.accepts p.low = true := by
    revert h
    fun_cases Pending.ofLead? b
    all_goals
      intro h
      cases h
    all_goals rfl
  obtain ⟨hlow, hhigh⟩ := low_high_of_ofLead? h
  exact ⟨p.extended p.low * 0x40 ^ p.after, (Pending.awaits_of_extended hlow hhigh haccepts
    (Nat.mul_div_cancel _ (Nat.pow_pos (by decide)))).1⟩

/-- A leading byte and the followers of a code point that it awaits are the encoding of a
character. -/
theorem exists_utf8EncodeChar_eq {b : UInt8} {p : Pending} (h : Pending.ofLead? b = some p)
    {n : Nat} (hn : p.Awaits n) : ∃ c, String.utf8EncodeChar c = b :: followers n p.after := by
  obtain ⟨hvalid, hleads⟩ := leads_of_ofLead? h hn
  have hc := toNat_ofNat_of_valid hvalid
  rw [← hc] at hleads
  refine ⟨_, hleads.utf8EncodeChar.trans ?_⟩
  rw [hc]

/-- Which bytes begin a character, from 128 on: a leading byte, and followers of a code point that
it awaits. -/
theorem begins_cons_iff {b : UInt8} (hb : ¬ b.toNat < 0x80) {bs : Bytes} :
    Begins (b :: bs) ↔
      ∃ p n, Pending.ofLead? b = some p ∧ p.Awaits n ∧ bs <+: followers n p.after := by
  constructor
  · rintro ⟨c, tail, htail⟩
    obtain ⟨p, hp, hawaits, hfollowers⟩ := awaits_of_utf8EncodeChar htail.symm hb
    exact ⟨p, c.toNat, hp, hawaits, tail, hfollowers⟩
  · rintro ⟨p, n, hp, hawaits, hbs⟩
    obtain ⟨c, hc⟩ := exists_utf8EncodeChar_eq hp hawaits
    refine ⟨c, ?_⟩
    rw [hc]
    exact List.cons_prefix_cons.mpr ⟨rfl, hbs⟩

/-- Where a gap is read, no character stands. -/
theorem ne_utf8EncodeChar_of_scan {bs : Bytes} {l : List (Option Char)} (h : scan bs = none :: l)
    (c : Char) (more : Bytes) : bs ≠ String.utf8EncodeChar c ++ more := by
  rintro rfl
  rw [scan_utf8EncodeChar_append] at h
  cases h

/-- A byte from 128 on that leads nothing is a gap of its own. -/
theorem scan_of_ofLead?_eq_none {b : UInt8} (hb : ¬ b.toNat < 0x80)
    (hlead : Pending.ofLead? b = none) (rest : Bytes) :
    scan (b :: rest) = none :: scan rest := by
  rw [scan_of_not_ascii hb, hlead]

/-- A leading byte whose character is cut short is read as one gap. -/
theorem Pending.CutShort.scan {b : UInt8} (hb : ¬ b.toNat < 0x80) {p : Pending}
    (hlead : ofLead? b = some p) {part rest : Bytes} (h : p.CutShort part rest) :
    Utf8.scan (b :: part ++ rest) = none :: Utf8.scan rest := by
  rw [List.cons_append, scan_of_not_ascii hb, hlead]
  exact h.gap

/-- A byte that begins no character is a maximal invalid part. -/
theorem isGap_of_ofLead?_eq_none {b : UInt8} (hb : ¬ b.toNat < 0x80)
    (hlead : Pending.ofLead? b = none) (rest : Bytes) : IsGap [b] rest where
  ne_nil := List.cons_ne_nil _ _
  invalid := ne_utf8EncodeChar_of_scan (scan_of_ofLead?_eq_none hb hlead rest)
  begins := .inr rfl
  maximal longer hlonger hbegins := by
    rcases longer with _ | ⟨c, longer⟩
    · exact Nat.zero_le _
    · obtain ⟨rfl, -⟩ := List.cons_prefix_cons.mp hlonger
      obtain ⟨p, n, hp, -⟩ := (begins_cons_iff hb).mp hbegins
      rw [hlead] at hp
      cases hp

/-- A leading byte and the bytes behind which its character is cut short are a maximal invalid
part. -/
theorem isGap_of_cutShort {b : UInt8} (hb : ¬ b.toNat < 0x80) {p : Pending}
    (hlead : Pending.ofLead? b = some p) {part rest : Bytes} (h : p.CutShort part rest) :
    IsGap (b :: part) rest where
  ne_nil := List.cons_ne_nil _ _
  invalid := ne_utf8EncodeChar_of_scan (h.scan hb hlead)
  begins := by
    obtain ⟨n, hn, hpart⟩ := h.begins
    exact .inl ((begins_cons_iff hb).mpr ⟨p, n, hlead, hn, hpart⟩)
  maximal longer hlonger hbegins := by
    rcases longer with _ | ⟨c, longer⟩
    · exact Nat.zero_le _
    · obtain ⟨rfl, hlater⟩ := List.cons_prefix_cons.mp hlonger
      obtain ⟨q, n, hq, hn, hfollowers⟩ := (begins_cons_iff hb).mp hbegins
      rw [hlead] at hq
      cases hq
      exact Nat.succ_le_succ (h.maximal n longer hn hlater hfollowers)

/-- Where no character stands, there is a maximal invalid part, and it is read as one gap. -/
theorem exists_isGap {bs : Bytes} (hne : bs ≠ [])
    (hinvalid : ∀ c more, bs ≠ String.utf8EncodeChar c ++ more) :
    ∃ part rest, bs = part ++ rest ∧ IsGap part rest ∧ scan bs = none :: scan rest := by
  obtain ⟨b, bs, rfl⟩ := List.exists_cons_of_ne_nil hne
  have hb : ¬ b.toNat < 0x80 := by
    intro hascii
    obtain ⟨rest, hrest, -⟩ := exists_utf8EncodeChar (scan_ascii hascii bs)
    exact hinvalid _ _ hrest
  rcases hlead : Pending.ofLead? b with _ | p
  · exact ⟨[b], bs, rfl, isGap_of_ofLead?_eq_none hb hlead bs, scan_of_ofLead?_eq_none hb hlead bs⟩
  · rcases Pending.followers_or_cutShort (low_high_of_ofLead? hlead)
      (exists_awaits_of_ofLead? hlead) bs with ⟨n, rest, hn, rfl⟩ | ⟨part, rest, rfl, hcut⟩
    · -- the followers would settle a character
      obtain ⟨c, hc⟩ := exists_utf8EncodeChar_eq hlead hn
      refine absurd ?_ (hinvalid c rest)
      rw [hc]
      rfl
    · exact ⟨b :: part, rest, rfl, isGap_of_cutShort hb hlead hcut, hcut.scan hb hlead⟩

/-- Bytes are read as the characters and the maximal invalid parts that they are made of. -/
theorem reads_scan (bs : Bytes) : Reads bs (scan bs) := by
  induction hlength : bs.length using Nat.strongRecOn generalizing bs with
  | ind n ih =>
    by_cases hne : bs = []
    · rw [hne]
      exact .nil
    · by_cases hchar : ∃ c more, bs = String.utf8EncodeChar c ++ more
      · obtain ⟨c, more, rfl⟩ := hchar
        rw [scan_utf8EncodeChar_append]
        refine .char c (ih more.length ?_ more rfl)
        have hpos := c.utf8Size_pos
        rw [List.length_append, String.length_utf8EncodeChar] at hlength
        omega
      · obtain ⟨part, rest, rfl, hgap, hscan⟩ := exists_isGap hne fun c more h => hchar ⟨c, more, h⟩
        rw [hscan]
        refine .gap hgap (ih rest.length ?_ rest rfl)
        have hpos := List.length_pos_iff.mpr hgap.ne_nil
        rw [List.length_append] at hlength
        omega

/-- There is no other way to cut bytes into characters and maximal invalid parts. -/
theorem reads_iff {bs : Bytes} {l : List (Option Char)} : Reads bs l ↔ scan bs = l := by
  constructor
  · intro h
    induction h with
    | nil => rfl
    | char c _ ih => rw [scan_utf8EncodeChar_append, ih]
    | gap here _ ih =>
      obtain ⟨part, rest, heq, hgap, hscan⟩ :=
        exists_isGap (List.append_ne_nil_of_left_ne_nil here.ne_nil _) here.invalid
      obtain ⟨rfl, rfl⟩ := here.unique hgap heq
      rw [hscan, ih]
  · rintro rfl
    exact reads_scan bs

end Assay.Text.Utf8
