import DocSentences.Text.Utf8
import Mathlib.Tactic.SplitIfs

/-!
# Text and its bytes

The bytes that encode a text are read back as that text. A character is encoded as one byte or as a
leading byte and up to three more, each of which the leading byte asks for.
-/

namespace DocSentences.Utf8

/-! ## Leading bytes -/

/-- What a leading byte announces, as a function of its number. -/
theorem continuation_eq (lead : UInt8) :
    continuation lead =
      if lead.toNat < 0x80 then some (0, 0x80, 0xBF)
      else if lead.toNat < 0xC2 then none
      else if lead.toNat < 0xE0 then some (1, 0x80, 0xBF)
      else if lead.toNat = 0xE0 then some (2, 0xA0, 0xBF)
      else if lead.toNat = 0xED then some (2, 0x80, 0x9F)
      else if lead.toNat < 0xF0 then some (2, 0x80, 0xBF)
      else if lead.toNat = 0xF0 then some (3, 0x90, 0xBF)
      else if lead.toNat < 0xF4 then some (3, 0x80, 0xBF)
      else if lead.toNat = 0xF4 then some (3, 0x80, 0x8F)
      else none := by
  simp [continuation, UInt8.lt_iff_toNat_lt, ← UInt8.toNat_inj]

theorem continuation_one {lead : UInt8} (hmost : lead.toNat < 0x80) :
    continuation lead = some (0, 0x80, 0xBF) := by
  rw [continuation_eq, if_pos hmost]

theorem continuation_two {lead : UInt8} (hleast : 0xC2 ≤ lead.toNat) (hmost : lead.toNat < 0xE0) :
    continuation lead = some (1, 0x80, 0xBF) := by
  rw [continuation_eq, if_neg (by omega), if_neg (by omega), if_pos hmost]

/-- Whether a leading byte can be followed by a byte. -/
def CanFollow (lead next : Nat) : Prop :=
  0x80 ≤ next ∧ next ≤ 0xBF ∧ (lead = 0xE0 → 0xA0 ≤ next) ∧ (lead = 0xED → next ≤ 0x9F) ∧
    (lead = 0xF0 → 0x90 ≤ next) ∧ (lead = 0xF4 → next ≤ 0x8F)

/-- A leading byte of three allows every second byte that may follow it. -/
theorem continuation_three (lead : UInt8) (hleast : 0xE0 ≤ lead.toNat) (hmost : lead.toNat < 0xF0) :
    ∃ least most, continuation lead = some (2, least, most) ∧
      ∀ next, CanFollow lead.toNat next → least.toNat ≤ next ∧ next ≤ most.toNat := by
  rw [continuation_eq, if_neg (by omega), if_neg (by omega), if_neg (by omega)]
  split_ifs with hE0 hED
  · exact ⟨_, _, rfl, fun next hnext => ⟨hnext.2.2.1 hE0, hnext.2.1⟩⟩
  · exact ⟨_, _, rfl, fun next hnext => ⟨hnext.1, hnext.2.2.2.1 hED⟩⟩
  · exact ⟨_, _, rfl, fun next hnext => ⟨hnext.1, hnext.2.1⟩⟩

theorem continuation_four (lead : UInt8) (hleast : 0xF0 ≤ lead.toNat) (hmost : lead.toNat ≤ 0xF4) :
    ∃ least most, continuation lead = some (3, least, most) ∧
      ∀ next, CanFollow lead.toNat next → least.toNat ≤ next ∧ next ≤ most.toNat := by
  rw [continuation_eq, if_neg (by omega), if_neg (by omega), if_neg (by omega), if_neg (by omega),
    if_neg (by omega), if_neg (by omega)]
  split_ifs with hF0 hfour hF4
  · exact ⟨_, _, rfl, fun next hnext => ⟨hnext.2.2.2.2.1 hF0, hnext.2.1⟩⟩
  · exact ⟨_, _, rfl, fun next hnext => ⟨hnext.1, hnext.2.1⟩⟩
  · exact ⟨_, _, rfl, fun next hnext => ⟨hnext.1, hnext.2.2.2.2.2 hF4⟩⟩
  · omega

/-! ## Characters -/

/-- A leading byte is kept until the bytes it announces have come. -/
theorem readLossy_lead {lead : UInt8} {due : Nat} {least most : UInt8} (hdue : due ≠ 0)
    (h : continuation lead = some (due, least, most)) (rest : List UInt8) :
    readLossy none (lead :: rest) = readLossy (some ⟨leadBits lead due, due, least, most⟩) rest := by
  rw [readLossy, h]
  split
  · next heq => simp_all
  · next heq => simp_all
  · next heq => simp_all

/-- A byte within its bounds is taken into the character that is pending, and completes it when it
is the last one due. -/
theorem readLossy_due {p : Pending} {byte : UInt8} (hleast : p.least.toNat ≤ byte.toNat)
    (hmost : byte.toNat ≤ p.most.toNat) (rest : List UInt8) :
    readLossy (some p) (byte :: rest) =
      if p.due ≤ 1 then some (Char.ofNat (p.code * 0x40 + byte.toNat % 0x40)) :: readLossy none rest
      else readLossy (some ⟨p.code * 0x40 + byte.toNat % 0x40, p.due - 1, 0x80, 0xBF⟩) rest := by
  have hbounds : (p.least ≤ byte && byte ≤ p.most) = true := by
    simp [UInt8.le_iff_toNat_le, hleast, hmost]
  rw [readLossy, hbounds]
  rfl

/-- The last byte that is due ends the character. -/
theorem readLossy_last {p : Pending} (hdue : p.due = 1) {next : Nat} (hleast : p.least.toNat ≤ next)
    (hmost : next ≤ p.most.toNat) (rest : List UInt8) :
    readLossy (some p) (UInt8.ofNat next :: rest) =
      some (Char.ofNat (p.code * 0x40 + next % 0x40)) :: readLossy none rest := by
  have hnext : (UInt8.ofNat next).toNat = next :=
    UInt8.toNat_ofNat_of_lt (Nat.lt_of_le_of_lt hmost p.most.toNat_lt)
  rw [readLossy_due (by rwa [hnext]) (by rwa [hnext]), if_pos (Nat.le_of_eq hdue), hnext]

/-- After a byte that is due, and not the last one, any further one will do. -/
theorem readLossy_more {p : Pending} (hdue : 1 < p.due) {next : Nat} (hleast : p.least.toNat ≤ next)
    (hmost : next ≤ p.most.toNat) (rest : List UInt8) :
    readLossy (some p) (UInt8.ofNat next :: rest) =
      readLossy (some ⟨p.code * 0x40 + next % 0x40, p.due - 1, 0x80, 0xBF⟩) rest := by
  have hnext : (UInt8.ofNat next).toNat = next :=
    UInt8.toNat_ofNat_of_lt (Nat.lt_of_le_of_lt hmost p.most.toNat_lt)
  rw [readLossy_due (by rwa [hnext]) (by rwa [hnext]), if_neg (Nat.not_le_of_lt hdue), hnext]

/-- The bytes of a character are read as that character, whatever follows them. -/
theorem readLossy_utf8EncodeChar (c : Char) (rest : List UInt8) :
    readLossy none (String.utf8EncodeChar c ++ rest) = some c :: readLossy none rest := by
  have hvalid : c.toNat < 0xD800 ∨ 0xDFFF < c.toNat ∧ c.toNat < 0x110000 := c.valid
  have hval : c.val.toNat = c.toNat := rfl
  have hbyte : ∀ n < 0x100, (UInt8.ofNat n).toNat = n := fun n hn => UInt8.toNat_ofNat_of_lt hn
  have hcode : ∀ n, n = c.toNat → Char.ofNat n = c := fun n hn => hn ▸ Char.ofNat_toNat c
  -- one case for each number of bytes
  unfold String.utf8EncodeChar
  dsimp only
  rw [hval]
  split_ifs with hone htwo hthree
  · have hlead := hbyte c.toNat (by omega)
    rw [List.singleton_append, readLossy, continuation_one (by omega)]
    simp only [hlead, Char.ofNat_toNat]
  · have hlead := hbyte (c.toNat / 64 % 32 + 192) (by omega)
    rw [List.cons_append, List.cons_append, List.nil_append,
      readLossy_lead (by simp) (continuation_two (by omega) (by omega)),
      readLossy_last rfl (by simp) (by simp; omega), hcode]
    simp only [leadBits, hlead]
    omega
  · have hlead := hbyte (c.toNat / 4096 % 16 + 224) (by omega)
    obtain ⟨least, most, hcontinuation, hbounds⟩ :=
      continuation_three (UInt8.ofNat (c.toNat / 4096 % 16 + 224)) (by omega) (by omega)
    obtain ⟨hleast, hmost⟩ := hbounds (c.toNat / 64 % 64 + 128) (by unfold CanFollow; omega)
    rw [List.cons_append, List.cons_append, List.cons_append, List.nil_append,
      readLossy_lead (by simp) hcontinuation, readLossy_more (by simp) hleast hmost,
      readLossy_last rfl (by simp) (by simp; omega), hcode]
    simp only [leadBits, hlead]
    omega
  · have hlead := hbyte (c.toNat / 262144 % 8 + 240) (by omega)
    obtain ⟨least, most, hcontinuation, hbounds⟩ :=
      continuation_four (UInt8.ofNat (c.toNat / 262144 % 8 + 240)) (by omega) (by omega)
    obtain ⟨hleast, hmost⟩ := hbounds (c.toNat / 4096 % 64 + 128) (by unfold CanFollow; omega)
    rw [List.cons_append, List.cons_append, List.cons_append, List.cons_append, List.nil_append,
      readLossy_lead (by simp) hcontinuation, readLossy_more (by simp) hleast hmost,
      readLossy_more (by simp) (by simp) (by simp; omega),
      readLossy_last rfl (by simp) (by simp; omega), hcode]
    simp only [leadBits, hlead]
    omega

/-- A byte below the leading and the continuing ones is a character of its own. -/
theorem toNat_of_mem_utf8EncodeChar {c : Char} {b : UInt8} (h : b ∈ String.utf8EncodeChar c)
    (hlow : b.toNat < 0x80) : c.toNat = b.toNat := by
  have hval : c.val.toNat = c.toNat := rfl
  have hbyte : ∀ n < 0x100, (UInt8.ofNat n).toNat = n := fun n hn => UInt8.toNat_ofNat_of_lt hn
  have hhigh : ∀ n, 0x80 ≤ n → n < 0x100 → b ≠ UInt8.ofNat n := by
    rintro n hleast hmost rfl
    rw [hbyte n hmost] at hlow
    omega
  unfold String.utf8EncodeChar at h
  dsimp only at h
  rw [hval] at h
  split_ifs at h with hone htwo hthree
  · rw [List.mem_singleton.mp h, hbyte _ (by omega)]
  all_goals
    simp only [List.mem_cons, List.not_mem_nil, or_false] at h
    exfalso
  · rcases h with h | h <;> exact hhigh _ (by omega) (by omega) h
  · rcases h with h | h | h <;> exact hhigh _ (by omega) (by omega) h
  · rcases h with h | h | h | h <;> exact hhigh _ (by omega) (by omega) h

/-- The bytes of a text are read as its characters, none of them replaced. -/
theorem readLossy_encode (s : List Char) : readLossy none (encode s) = s.map some := by
  induction s with
  | nil => rfl
  | cons c rest ih =>
      rw [encode, List.flatMap_cons, readLossy_utf8EncodeChar]
      exact congrArg (some c :: ·) ih

@[simp] theorem decodeLossy_encode (s : List Char) : decodeLossy (encode s) = s := by
  rw [decodeLossy, readLossy_encode, List.map_map]
  exact List.map_id' s

/-- The bytes that encode a text are read as that text. -/
theorem decode?_encode (s : List Char) : decode? (encode s) = some s := by
  rw [decode?, readLossy_encode, List.mapM_map]
  exact List.mapM_pure.trans (by simp)

/-! ## Reading leniently -/

/-- Bytes, or a character that is pending, always leave something that is read. -/
theorem readLossy_ne_nil {pending : Option Pending} {bytes : List UInt8}
    (h : pending.isSome = true ∨ bytes ≠ []) : readLossy pending bytes ≠ [] := by
  fun_induction readLossy pending bytes
  case case2 hnone => exact absurd h (by simpa using hnone)
  -- the bytes of a character that is not finished yet
  case case4 ih => exact ih (.inl rfl)
  case case9 ih => exact ih (.inl rfl)
  all_goals exact List.cons_ne_nil _ _

theorem decodeLossy_ne_nil {bytes : List UInt8} (h : bytes ≠ []) : decodeLossy bytes ≠ [] := by
  simpa [decodeLossy] using readLossy_ne_nil (.inr h)

/-- The character that is being read is none that a single byte encodes. -/
structure Pending.IsHigh (p : Pending) : Prop where
  least : 0x80 ≤ p.least.toNat
  most : p.most.toNat ≤ 0xBF
  code : (if p.due ≤ 1 then 0x80 else 2) ≤ p.code * 0x40 + p.least.toNat % 0x40

/-- A character that is begun by a leading byte has no code below 0x80. -/
theorem isHigh_of_continuation {lead : UInt8} {due : Nat} {least most : UInt8}
    (hdue : due ≠ 0) (h : continuation lead = some (due, least, most)) :
    Pending.IsHigh ⟨leadBits lead due, due, least, most⟩ := by
  rw [continuation_eq] at h
  split_ifs at h
  all_goals
    simp only [Option.some.injEq, Prod.mk.injEq] at h
    obtain ⟨rfl, rfl, rfl⟩ := h
  · exact absurd rfl hdue
  all_goals
    constructor
    all_goals simp [leadBits]
    all_goals omega

theorem eq_toNat_of_ofNat {n : Nat} {c : Char} (hc : c.toNat ≠ 0) (h : Char.ofNat n = c) :
    n = c.toNat := by
  subst h
  by_cases hvalid : n.isValidChar
  · rw [Char.ofNat, dif_pos hvalid]
    rfl
  · rw [Char.ofNat, dif_neg hvalid] at hc
    exact absurd rfl hc

/-- One more byte keeps what is pending from a code below 0x80. -/
theorem Pending.IsHigh.next {p : Pending} (h : p.IsHigh) {byte : UInt8}
    (hbounds : (p.least ≤ byte && byte ≤ p.most) = true) :
    (if p.due ≤ 1 then 0x80 else 2) ≤ p.code * 0x40 + byte.toNat % 0x40 := by
  have hleast := h.least
  have hmost := h.most
  have hcode := h.code
  simp only [Bool.and_eq_true, decide_eq_true_eq, UInt8.le_iff_toNat_le] at hbounds
  omega

section Ascii

variable {c : Char} (hnull : c.toNat ≠ 0) (hlow : c.toNat < 0x80)

include hnull hlow

/-- A character that a single byte encodes is read from that byte only. -/
theorem ofNat_mem_of_mem_readLossy {pending : Option Pending} {bytes : List UInt8}
    (hpending : ∀ p ∈ pending, Pending.IsHigh p) (h : some c ∈ readLossy pending bytes) :
    UInt8.ofNat c.toNat ∈ bytes := by
  have hbyte : ∀ {byte : UInt8}, c = Char.ofNat byte.toNat → UInt8.ofNat c.toNat = byte := by
    intro byte heq
    rw [← eq_toNat_of_ofNat hnull heq.symm, UInt8.ofNat_toNat]
  have hnone : ∀ p ∈ (none : Option Pending), Pending.IsHigh p := fun _ hp => by cases hp
  fun_induction readLossy pending bytes
  case case1 => simp at h
  case case2 => cases h
  -- the last byte that is due, and one after which more are
  case case3 p hbounds code hdue ih =>
    have hcode := (hpending p rfl).next hbounds
    rw [if_pos hdue] at hcode
    rcases List.mem_cons.mp h with heq | hrest
    · have hvalue := eq_toNat_of_ofNat hnull (Option.some.inj heq).symm
      omega
    · exact List.mem_cons_of_mem _ (ih hnone hrest)
  case case4 p hbounds code hdue ih =>
    have hcode := (hpending p rfl).next hbounds
    rw [if_neg hdue] at hcode
    refine List.mem_cons_of_mem _ (ih ?_ h)
    rintro _ ⟨⟩
    exact ⟨Nat.le_refl _, Nat.le_refl _, by dsimp only; split <;> simp <;> omega⟩
  -- a byte that ends an unfinished character and begins anew
  case case5 ih =>
    simp only [List.mem_cons, reduceCtorEq, Option.some.injEq, false_or] at h
    exact List.mem_cons.mpr (h.imp hbyte (ih hnone))
  case case6 hdue hlead ih =>
    simp only [List.mem_cons, reduceCtorEq, false_or] at h
    refine List.mem_cons_of_mem _ (ih ?_ h)
    rintro _ ⟨⟩
    exact isHigh_of_continuation hdue hlead
  case case7 ih =>
    simp only [List.mem_cons, reduceCtorEq, false_or] at h
    exact List.mem_cons_of_mem _ (ih hnone h)
  -- a byte after a finished character
  case case8 ih =>
    simp only [List.mem_cons, Option.some.injEq] at h
    exact List.mem_cons.mpr (h.imp hbyte (ih hnone))
  case case9 hdue hlead ih =>
    refine List.mem_cons_of_mem _ (ih ?_ h)
    rintro _ ⟨⟩
    exact isHigh_of_continuation hdue hlead
  case case10 ih =>
    simp only [List.mem_cons, reduceCtorEq, false_or] at h
    exact List.mem_cons_of_mem _ (ih hnone h)

/-- A character below 0x80 is read only where a byte of that number stands. -/
theorem ofNat_mem_of_mem_decodeLossy {bytes : List UInt8} (h : c ∈ decodeLossy bytes) :
    UInt8.ofNat c.toNat ∈ bytes := by
  obtain ⟨read, hread, heq⟩ := List.mem_map.mp h
  cases read with
  | none =>
      subst heq
      exact absurd hlow (by decide)
  | some d =>
      obtain rfl : d = c := heq
      exact ofNat_mem_of_mem_readLossy hnull hlow (fun _ hp => by cases hp) hread

end Ascii

end DocSentences.Utf8
