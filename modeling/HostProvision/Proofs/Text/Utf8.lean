import HostProvision.Text.Utf8
import Mathlib.Data.List.Basic

/-! # Texts come back from their octets

What was written by `Utf8.encode` is read back as it was. The scan takes the octets of one character
off the front, `Utf8.scan_utf8EncodeChar_append`, whatever follows them; so both readings of the
octets of a text, `Utf8.lossy` and `Utf8.decode?`, give the text. -/

namespace HostProvision

namespace Utf8

/-! ## Lead octets

The lead octet tells how many octets follow, and the range of the first of them. -/

/-- A lead octet of a sequence of two. -/
theorem lead?_of_two {octet : UInt8} (low : 0xC2 ≤ octet.toNat) (high : octet.toNat < 0xE0) :
    lead? octet = some ⟨[octet], octet.toNat - 0xC0, 0, 0x80, 0xBF⟩ := by
  have base : (octet - 0xC0).toNat = octet.toNat - 0xC0 :=
    UInt8.toNat_sub_of_le _ _ (UInt8.le_iff_toNat_le.mpr (Nat.le_trans (by decide) low))
  have short : ¬octet < 0xC2 := fun h => absurd (UInt8.lt_iff_toNat_lt.mp h) (Nat.not_lt.mpr low)
  have two : octet < 0xE0 := UInt8.lt_iff_toNat_lt.mpr high
  simp only [lead?, if_neg short, if_pos two, base]

/-- A lead octet of a sequence of three. The ranges keep overlong forms and surrogates out. -/
theorem lead?_of_three {octet : UInt8} (low : 0xE0 ≤ octet.toNat) (high : octet.toNat < 0xF0) :
    lead? octet = some ⟨[octet], octet.toNat - 0xE0, 1,
      if octet.toNat = 0xE0 then 0xA0 else 0x80, if octet.toNat = 0xED then 0x9F else 0xBF⟩ := by
  have base : (octet - 0xE0).toNat = octet.toNat - 0xE0 :=
    UInt8.toNat_sub_of_le _ _ (UInt8.le_iff_toNat_le.mpr low)
  have short : ¬octet < 0xC2 := fun h =>
    absurd (UInt8.lt_iff_toNat_lt.mp h) (Nat.not_lt.mpr (Nat.le_trans (by decide) low))
  have two : ¬octet < 0xE0 := fun h => absurd (UInt8.lt_iff_toNat_lt.mp h) (Nat.not_lt.mpr low)
  have three : octet < 0xF0 := UInt8.lt_iff_toNat_lt.mpr high
  simp only [lead?, if_neg short, if_neg two, if_pos three, base, ← UInt8.toNat_inj]
  by_cases overlong : octet.toNat = 0xE0
  · simp [overlong]
  · by_cases surrogate : octet.toNat = 0xED <;> simp [overlong, surrogate]

/-- A lead octet of a sequence of four. The ranges keep overlong forms and values above U+10FFFF
out. -/
theorem lead?_of_four {octet : UInt8} (low : 0xF0 ≤ octet.toNat) (high : octet.toNat < 0xF5) :
    lead? octet = some ⟨[octet], octet.toNat - 0xF0, 2,
      if octet.toNat = 0xF0 then 0x90 else 0x80, if octet.toNat = 0xF4 then 0x8F else 0xBF⟩ := by
  have base : (octet - 0xF0).toNat = octet.toNat - 0xF0 :=
    UInt8.toNat_sub_of_le _ _ (UInt8.le_iff_toNat_le.mpr low)
  have beyond (bound : UInt8) (h : bound.toNat ≤ 0xF0) : ¬octet < bound := fun less =>
    absurd (UInt8.lt_iff_toNat_lt.mp less) (Nat.not_lt.mpr (Nat.le_trans h low))
  have apart (other : UInt8) (h : other.toNat < 0xF0) : ¬octet.toNat = other.toNat := by omega
  simp only [lead?, if_neg (beyond 0xC2 (by decide)), if_neg (beyond 0xE0 (by decide)),
    if_neg (beyond 0xF0 (by decide)), base, ← UInt8.toNat_inj, if_neg (apart 0xE0 (by decide)),
    if_neg (apart 0xED (by decide))]
  by_cases overlong : octet.toNat = 0xF0
  · simp [overlong]
  · by_cases last : octet.toNat = 0xF4
    · have four : ¬octet < 0xF4 := fun h => by
        have := UInt8.lt_iff_toNat_lt.mp h
        rw [last] at this
        exact absurd this (by decide)
      simp [last, four]
    · have four : octet < 0xF4 := UInt8.lt_iff_toNat_lt.mpr (by
        change octet.toNat < 0xF4
        omega)
      simp [overlong, last, four]

/-! ## One character -/

/-- A sequence is open after its lead octet. -/
theorem scan_of_lead {octet : UInt8} {pending : Pending} (rest : Bytes)
    (several : 0x80 ≤ octet.toNat) (lead : lead? octet = some pending) :
    scan (octet :: rest) = scanFrom (some pending) rest := by
  have high : ¬octet < 0x80 := fun h =>
    absurd (UInt8.lt_iff_toNat_lt.mp h) (Nat.not_lt.mpr several)
  simp only [scan, scanFrom, start, if_neg high, lead]

/-- A further octet of a sequence carries six bits. -/
theorem toNat_further {bits : Nat} (six : bits < 64) :
    (UInt8.ofNat (bits + 128)).toNat = bits + 128 :=
  UInt8.toNat_ofNat_of_lt' (Nat.lt_of_lt_of_le (Nat.add_lt_add_right six 128) (by decide))

/-- An open sequence accepts a further octet in its range, and takes six bits from it. -/
theorem extend_of_further {pending : Pending} {bits : Nat} (six : bits < 64)
    (low : pending.low.toNat ≤ bits + 128) (high : bits + 128 ≤ pending.high.toNat) :
    pending.accepts (UInt8.ofNat (bits + 128)) = true ∧
      (UInt8.ofNat (bits + 128) - 0x80).toNat = bits := by
  have octet := toNat_further six
  constructor
  · simp only [Pending.accepts, UInt8.le_iff_toNat_le, octet, low, high, decide_true,
      Bool.and_true]
  · have base : (0x80 : UInt8).toNat = 128 := rfl
    rw [UInt8.toNat_sub_of_le _ _ (UInt8.le_iff_toNat_le.mpr (by omega)), octet, base]
    omega

/-- The last octet of a sequence completes its character. -/
theorem scanFrom_last {pending : Pending} {bits : Nat} (rest : Bytes) (six : bits < 64)
    (last : pending.after = 0) (low : pending.low.toNat ≤ bits + 128)
    (high : bits + 128 ≤ pending.high.toNat) :
    scanFrom (some pending) (UInt8.ofNat (bits + 128) :: rest) =
      .scalar (Char.ofNat (pending.payload * 64 + bits)) :: scan rest := by
  obtain ⟨accepted, value⟩ := extend_of_further six low high
  simp only [scanFrom, accepted, if_true, Pending.extend, last, value, scan]

/-- An octet before the last one leaves a sequence open. -/
theorem scanFrom_further {pending : Pending} {bits after : Nat} (rest : Bytes) (six : bits < 64)
    (more : pending.after = after + 1) (low : pending.low.toNat ≤ bits + 128)
    (high : bits + 128 ≤ pending.high.toNat) :
    scanFrom (some pending) (UInt8.ofNat (bits + 128) :: rest) =
      scanFrom (some ⟨pending.octets ++ [UInt8.ofNat (bits + 128)], pending.payload * 64 + bits,
        after, 0x80, 0xBF⟩) rest := by
  obtain ⟨accepted, value⟩ := extend_of_further six low high
  simp only [scanFrom, accepted, if_true, Pending.extend, more, value]

/-- The widest range of a further octet holds all of them. -/
theorem further_bounds {bits : Nat} (six : bits < 64) :
    (0x80 : UInt8).toNat ≤ bits + 128 ∧ bits + 128 ≤ (0xBF : UInt8).toNat := by
  have low : (0x80 : UInt8).toNat = 128 := rfl
  have high : (0xBF : UInt8).toNat = 191 := rfl
  omega

/-- **The octets of a character are scanned as that character**, whatever follows. -/
theorem scan_utf8EncodeChar_append (c : Char) (rest : Bytes) :
    scan (String.utf8EncodeChar c ++ rest) = .scalar c :: scan rest := by
  have valid : c.toNat < 0xD800 ∨ 0xDFFF < c.toNat ∧ c.toNat < 0x110000 := c.valid
  have value : c.val.toNat = c.toNat := rfl
  have size : UInt8.size = 256 := rfl
  have read (n : Nat) (same : n = c.toNat) : Char.ofNat n = c := by
    rw [same, Char.ofNat_toNat]
  -- The cases are those of the encoding, by the length of the sequence.
  simp only [String.utf8EncodeChar, value]
  by_cases one : c.toNat ≤ 127
  · have ascii : UInt8.ofNat c.toNat < 0x80 := by
      rw [UInt8.lt_iff_toNat_lt, UInt8.toNat_ofNat_of_lt' (by omega)]
      exact Nat.lt_succ_of_le one
    rw [if_pos one, List.singleton_append, scan, scanFrom_ascii none _ _ ascii (by simp),
      UInt8.toNat_ofNat_of_lt' (by omega), read _ rfl]
    rfl
  have last : c.toNat % 64 < 64 := Nat.mod_lt _ (by decide)
  have third : c.toNat / 64 % 64 < 64 := Nat.mod_lt _ (by decide)
  have second : c.toNat / 4096 % 64 < 64 := Nat.mod_lt _ (by decide)
  by_cases two : c.toNat ≤ 2047
  · have lead : (UInt8.ofNat (c.toNat / 64 % 32 + 192)).toNat = c.toNat / 64 % 32 + 192 :=
      UInt8.toNat_ofNat_of_lt' (by omega)
    rw [if_neg one, if_pos two, List.cons_append, List.singleton_append,
      scan_of_lead _ (by omega) (lead?_of_two (by omega) (by omega)),
      scanFrom_last rest last rfl (further_bounds last).1 (further_bounds last).2,
      read _ (by simp only [lead]; omega)]
  by_cases three : c.toNat ≤ 65535
  · have lead : (UInt8.ofNat (c.toNat / 4096 % 16 + 224)).toNat = c.toNat / 4096 % 16 + 224 :=
      UInt8.toNat_ofNat_of_lt' (by omega)
    rw [if_neg one, if_neg two, if_pos three, List.cons_append, List.cons_append,
      List.singleton_append, scan_of_lead _ (by omega) (lead?_of_three (by omega) (by omega)),
      scanFrom_further _ third rfl ?low ?high,
      scanFrom_last rest last rfl (further_bounds last).1 (further_bounds last).2,
      read _ (by simp only [lead]; omega)]
    -- The character is neither shorter than that nor a surrogate.
    case low =>
      simp only [lead]
      split
      · simp only [UInt8.reduceToNat]
        omega
      · exact (further_bounds ‹_›).1
    case high =>
      simp only [lead]
      split
      · simp only [UInt8.reduceToNat]
        omega
      · exact (further_bounds ‹_›).2
  · have lead : (UInt8.ofNat (c.toNat / 262144 % 8 + 240)).toNat = c.toNat / 262144 % 8 + 240 :=
      UInt8.toNat_ofNat_of_lt' (by omega)
    rw [if_neg one, if_neg two, if_neg three, List.cons_append, List.cons_append,
      List.cons_append, List.singleton_append,
      scan_of_lead _ (by omega) (lead?_of_four (by omega) (by omega)),
      scanFrom_further _ second rfl ?low ?high,
      scanFrom_further _ third rfl (further_bounds third).1 (further_bounds third).2,
      scanFrom_last rest last rfl (further_bounds last).1 (further_bounds last).2,
      read _ (by simp only [lead]; omega)]
    -- The character is neither shorter than that nor above the last one.
    case low =>
      simp only [lead]
      split
      · simp only [UInt8.reduceToNat]
        omega
      · exact (further_bounds ‹_›).1
    case high =>
      simp only [lead]
      split
      · simp only [UInt8.reduceToNat]
        omega
      · exact (further_bounds ‹_›).2

/-! ## Texts -/

/-- **The octets of a text are scanned as its characters.** -/
theorem scan_encode (text : String) : scan (encode text) = text.toList.map .scalar := by
  rw [encode]
  induction text.toList with
  | nil => rfl
  | cons c rest ih => rw [List.flatMap_cons, scan_utf8EncodeChar_append, ih, List.map_cons]

/-- Nothing of a text is lost when its octets are shown. -/
@[simp] theorem lossy_encode (text : String) : lossy (encode text) = text := by
  have shown : Piece.shown ∘ Piece.scalar = id := rfl
  rw [lossy, scan_encode, List.map_map, shown, List.map_id, String.ofList_toList]

/-- The octets of a text are well formed and stand for it. -/
@[simp] theorem decode?_encode (text : String) : decode? (encode text) = some text := by
  have scalars (chars : List Char) : (chars.map Piece.scalar).mapM Piece.scalar? = some chars := by
    induction chars with
    | nil => rfl
    | cons c rest ih => simp [Piece.scalar?, ih]
  rw [decode?, scan_encode, scalars, Option.map_some, String.ofList_toList]

end Utf8

end HostProvision
