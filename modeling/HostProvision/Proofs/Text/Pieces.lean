import HostProvision.Proofs.Text.Utf8

/-! # The pieces of an octet string

The scan of an octet string neither adds octets nor drops any: each piece stands for the octets from
which it was read.

* `Utf8.Pending.Coherent` says of an open sequence that the character by which it is completed is
  written with the octets that were read. A lead octet opens such a sequence,
  `Utf8.coherent_of_lead?`.
* **The pieces make the octets up again**, `Utf8.flatMap_octets_scan`.
* So an octet below `0x80` that is shown was there, `Utf8.mem_of_mem_encode_lossy`. -/

namespace HostProvision

namespace Utf8

/-- The octets that a piece stands for. -/
def Piece.octets : Piece → Bytes
  | .scalar value => String.utf8EncodeChar value
  | .broken octets => octets

/-! ## Characters by number -/

/-- A number that is a scalar value is that of its character. -/
theorem toNat_ofNat {n : Nat} (valid : n.isValidChar) : (Char.ofNat n).val.toNat = n := by
  rw [Char.ofNat, dif_pos valid]
  rfl

/-- The octets of a character below `0x80`. -/
theorem utf8EncodeChar_ofNat_one {n : Nat} (high : n < 0x80) :
    String.utf8EncodeChar (Char.ofNat n) = [UInt8.ofNat n] := by
  have value := toNat_ofNat (n := n) (.inl (by omega))
  have one : n ≤ 127 := by omega
  simp only [String.utf8EncodeChar, value, if_pos one]

/-- The octets of a character that takes two of them. -/
theorem utf8EncodeChar_ofNat_two {n : Nat} (low : 0x80 ≤ n) (high : n < 0x800) :
    String.utf8EncodeChar (Char.ofNat n) =
      [UInt8.ofNat (n / 64 % 32 + 192), UInt8.ofNat (n % 64 + 128)] := by
  have value := toNat_ofNat (n := n) (.inl (by omega))
  have one : ¬ n ≤ 127 := by omega
  have two : n ≤ 2047 := by omega
  simp only [String.utf8EncodeChar, value, if_neg one, if_pos two]

/-- The octets of a character that takes three of them. -/
theorem utf8EncodeChar_ofNat_three {n : Nat} (low : 0x800 ≤ n) (high : n < 0x10000)
    (valid : n.isValidChar) :
    String.utf8EncodeChar (Char.ofNat n) = [UInt8.ofNat (n / 4096 % 16 + 224),
      UInt8.ofNat (n / 64 % 64 + 128), UInt8.ofNat (n % 64 + 128)] := by
  have one : ¬ n ≤ 127 := by omega
  have two : ¬ n ≤ 2047 := by omega
  have three : n ≤ 65535 := by omega
  simp only [String.utf8EncodeChar, toNat_ofNat valid, if_neg one, if_neg two, if_pos three]

/-- The octets of a character that takes four of them. -/
theorem utf8EncodeChar_ofNat_four {n : Nat} (low : 0x10000 ≤ n) (high : n < 0x110000) :
    String.utf8EncodeChar (Char.ofNat n) = [UInt8.ofNat (n / 262144 % 8 + 240),
      UInt8.ofNat (n / 4096 % 64 + 128), UInt8.ofNat (n / 64 % 64 + 128),
      UInt8.ofNat (n % 64 + 128)] := by
  have value := toNat_ofNat (n := n) (.inr (by omega))
  have one : ¬ n ≤ 127 := by omega
  have two : ¬ n ≤ 2047 := by omega
  have three : ¬ n ≤ 65535 := by omega
  simp only [String.utf8EncodeChar, value, if_neg one, if_neg two, if_neg three]

/-- An octet is given by its number. -/
theorem ofNat_eq (octet : UInt8) {n : Nat} (same : n = octet.toNat) : UInt8.ofNat n = octet := by
  rw [same, UInt8.ofNat_toNat]

/-! ## Open sequences -/

namespace Pending

/-- Whatever completes an open sequence, the character is written with the octets read. -/
inductive Coherent : Pending → Prop where
  /-- One octet is due, or an octet after which the sequence is still coherent. -/
  | intro {pending : Pending}
      (last : pending.after = 0 → ∀ octet, pending.accepts octet = true →
        String.utf8EncodeChar (Char.ofNat (pending.payload * 64 + (octet - 0x80).toNat)) =
          pending.octets ++ [octet])
      (further : ∀ after, pending.after = after + 1 → ∀ octet, pending.accepts octet = true →
        Coherent ⟨pending.octets ++ [octet], pending.payload * 64 + (octet - 0x80).toNat, after,
          0x80, 0xBF⟩) : Coherent pending

variable {octets : Bytes} {payload after : Nat} {low high : UInt8}

/-- An accepted octet is in range, and carries what it is more than `0x80`. -/
theorem bounds_of_accepts {octet : UInt8}
    (accepted : accepts ⟨octets, payload, after, low, high⟩ octet = true)
    (further : 0x80 ≤ low.toNat) :
    low.toNat ≤ octet.toNat ∧ octet.toNat ≤ high.toNat ∧
      (octet - 0x80).toNat = octet.toNat - 0x80 := by
  simp only [accepts, Bool.and_eq_true, decide_eq_true_eq, UInt8.le_iff_toNat_le] at accepted
  refine ⟨accepted.1, accepted.2, UInt8.toNat_sub_of_le _ _ ?_⟩
  exact UInt8.le_iff_toNat_le.mpr (Nat.le_trans further accepted.1)

/-- A sequence to which one octet is due, by the numbers. -/
theorem Coherent.of_last (further : 0x80 ≤ low.toNat)
    (last : ∀ octet : UInt8, low.toNat ≤ octet.toNat → octet.toNat ≤ high.toNat →
      String.utf8EncodeChar (Char.ofNat (payload * 64 + (octet.toNat - 0x80))) =
        octets ++ [octet]) :
    Coherent ⟨octets, payload, 0, low, high⟩ := by
  refine ⟨fun _ octet accepted => ?_, fun _ more => ?_⟩
  · obtain ⟨above, below, carried⟩ := bounds_of_accepts accepted further
    rw [carried]
    exact last octet above below
  · cases more

/-- A sequence to which more octets are due, by the numbers. -/
theorem Coherent.of_further (further : 0x80 ≤ low.toNat)
    (more : ∀ octet : UInt8, low.toNat ≤ octet.toNat → octet.toNat ≤ high.toNat →
      Coherent ⟨octets ++ [octet], payload * 64 + (octet.toNat - 0x80), after, 0x80, 0xBF⟩) :
    Coherent ⟨octets, payload, after + 1, low, high⟩ := by
  refine ⟨fun none => ?_, fun _ same octet accepted => ?_⟩
  · cases none
  · obtain rfl := Nat.succ.inj same
    obtain ⟨above, below, carried⟩ := bounds_of_accepts accepted further
    rw [carried]
    exact more octet above below

end Pending

open Pending

/-- Octets that begin no well-formed sequence of several open none. -/
theorem bounds_of_lead? {octet : UInt8} {pending : Pending} (lead : lead? octet = some pending) :
    0xC2 ≤ octet.toNat ∧ octet.toNat < 0xF5 := by
  simp only [lead?, UInt8.lt_iff_toNat_lt, ← UInt8.toNat_inj, UInt8.reduceToNat] at lead
  constructor
  · refine Nat.le_of_not_lt fun below => ?_
    rw [if_pos below] at lead
    cases lead
  · refine Nat.lt_of_not_le fun beyond => ?_
    have apart (bound : Nat) (small : bound ≤ 0xF4) : ¬ octet.toNat < bound ∧ octet.toNat ≠ bound :=
      ⟨by omega, by omega⟩
    simp only [apart, Nat.reduceLeDiff, if_false] at lead
    cases lead

/-- **A lead octet opens a coherent sequence**: the ranges keep out what would be no character, or
one that is written with fewer octets. -/
theorem coherent_of_lead? {octet : UInt8} {pending : Pending} (lead : lead? octet = some pending) :
    pending.Coherent := by
  obtain ⟨begins, ends⟩ := bounds_of_lead? lead
  by_cases two : octet.toNat < 0xE0
  · rw [lead?_of_two begins two] at lead
    cases lead
    refine .of_last (by decide) fun last low high => ?_
    simp only [UInt8.reduceToNat] at low high
    rw [utf8EncodeChar_ofNat_two (by omega) (by omega), ofNat_eq octet (by omega),
      ofNat_eq last (by omega), List.singleton_append]
  by_cases three : octet.toNat < 0xF0
  · rw [lead?_of_three (by omega) three] at lead
    cases lead
    refine .of_further (by split <;> decide) fun second low high => ?_
    refine .of_last (by decide) fun last lowest highest => ?_
    simp only [UInt8.reduceToNat, apply_ite UInt8.toNat] at low high lowest highest
    -- Neither a character of two octets nor a surrogate is written so.
    have bounds : (octet.toNat = 0xE0 → 0xA0 ≤ second.toNat) ∧ 0x80 ≤ second.toNat := by
      split at low <;> omega
    have bounds' : (octet.toNat = 0xED → second.toNat ≤ 0x9F) ∧ second.toNat ≤ 0xBF := by
      split at high <;> omega
    generalize number : ((octet.toNat - 0xE0) * 64 + (second.toNat - 0x80)) * 64 +
      (last.toNat - 0x80) = n
    rw [utf8EncodeChar_ofNat_three (by omega) (by omega) (by unfold Nat.isValidChar; omega),
      ofNat_eq octet (by omega), ofNat_eq second (by omega), ofNat_eq last (by omega)]
    rfl
  · rw [lead?_of_four (by omega) ends] at lead
    cases lead
    refine .of_further (by split <;> decide) fun second low high => ?_
    refine .of_further (by decide) fun third low' high' => ?_
    refine .of_last (by decide) fun last lowest highest => ?_
    simp only [UInt8.reduceToNat, apply_ite UInt8.toNat] at low high low' high' lowest highest
    -- Neither a character of three octets nor one beyond the last is written so.
    have bounds : (octet.toNat = 0xF0 → 0x90 ≤ second.toNat) ∧ 0x80 ≤ second.toNat := by
      split at low <;> omega
    have bounds' : (octet.toNat = 0xF4 → second.toNat ≤ 0x8F) ∧ second.toNat ≤ 0xBF := by
      split at high <;> omega
    generalize number : (((octet.toNat - 0xF0) * 64 + (second.toNat - 0x80)) * 64 +
      (third.toNat - 0x80)) * 64 + (last.toNat - 0x80) = n
    rw [utf8EncodeChar_ofNat_four (by omega) (by omega), ofNat_eq octet (by omega),
      ofNat_eq second (by omega), ofNat_eq third (by omega), ofNat_eq last (by omega)]
    rfl

/-! ## The scan -/

/-- What was read accounts for some octets: as a piece, or as a coherent open sequence. -/
def Accounts (octets : Bytes) : Piece ⊕ Pending → Prop
  | .inl piece => piece.octets = octets
  | .inr pending => pending.Coherent ∧ pending.octets = octets

/-- An octet that is read with no sequence open is accounted for. -/
theorem accounts_start (octet : UInt8) : Accounts [octet] (start octet) := by
  rw [start]
  split
  · rename_i ascii
    have small : octet.toNat < 0x80 := UInt8.lt_iff_toNat_lt.mp ascii
    show String.utf8EncodeChar (Char.ofNat octet.toNat) = [octet]
    rw [utf8EncodeChar_ofNat_one small, UInt8.ofNat_toNat]
  · split
    · rename_i pending lead
      have begun : pending.octets = [octet] := by
        simp only [lead?] at lead
        repeat' split at lead
        all_goals cases lead
        all_goals rfl
      exact ⟨coherent_of_lead? lead, begun⟩
    · rfl

/-- An octet that continues a coherent sequence is accounted for. -/
theorem Pending.Coherent.accounts_extend {pending : Pending} (coherent : pending.Coherent)
    {octet : UInt8} (accepted : pending.accepts octet = true) :
    Accounts (pending.octets ++ [octet]) (pending.extend octet) := by
  obtain ⟨last, further⟩ := coherent
  rw [extend]
  cases due : pending.after with
  | zero => exact last due octet accepted
  | succ after => exact ⟨further after due octet accepted, rfl⟩

/-- The pieces of what follows an octet, from what was read up to it. -/
def scanBehind (rest : Bytes) : Piece ⊕ Pending → List Piece
  | .inl piece => piece :: scanFrom none rest
  | .inr longer => scanFrom (some longer) rest

/-- The scan with no sequence open goes on behind the octet it starts with. -/
theorem scanFrom_none_cons (octet : UInt8) (rest : Bytes) :
    scanFrom none (octet :: rest) = scanBehind rest (start octet) :=
  rfl

/-- The scan with a sequence open goes on behind an octet that continues it, and starts anew with
any other. -/
theorem scanFrom_some_cons (pending : Pending) (octet : UInt8) (rest : Bytes) :
    scanFrom (some pending) (octet :: rest) =
      if pending.accepts octet then scanBehind rest (pending.extend octet)
      else .broken pending.octets :: scanBehind rest (start octet) :=
  rfl

/-- The pieces that are read make up the octets of the open sequence and those that follow. -/
theorem flatMap_octets_scanFrom (octets : Bytes) (pending : Option Pending)
    (coherent : ∀ p ∈ pending, p.Coherent) :
    (scanFrom pending octets).flatMap Piece.octets =
      (pending.map Pending.octets).getD [] ++ octets := by
  induction octets generalizing pending with
  | nil => cases pending <;> simp [scanFrom, Piece.octets]
  | cons octet rest ih =>
    have continued {read : Piece ⊕ Pending} {taken : Bytes} (accounts : Accounts taken read) :
        (scanBehind rest read).flatMap Piece.octets = taken ++ rest := by
      cases read with
      | inl piece =>
        have same : piece.octets = taken := accounts
        rw [scanBehind, List.flatMap_cons, ih none (by simp), same]
        rfl
      | inr longer =>
        obtain ⟨coherent, rfl⟩ := accounts
        exact ih (some longer) (by simpa using coherent)
    cases pending with
    | none =>
      rw [scanFrom_none_cons]
      exact continued (accounts_start octet)
    | some pending =>
      rw [scanFrom_some_cons]
      split
      · rename_i accepted
        have h := continued ((coherent pending rfl).accounts_extend accepted)
        rw [List.append_assoc] at h
        exact h
      · rw [List.flatMap_cons]
        exact congrArg (pending.octets ++ ·) (continued (accounts_start octet))

/-- **The pieces make the octets up again.** -/
theorem flatMap_octets_scan (octets : Bytes) : (scan octets).flatMap Piece.octets = octets :=
  flatMap_octets_scanFrom octets none (by simp)

/-! ## What is shown -/

/-- **An octet below `0x80` that is shown was there**: what is shown for ill-formed octets has none
of these. -/
theorem mem_of_mem_encode_lossy {octets : Bytes} {octet : UInt8} (ascii : octet < 0x80)
    (mem : octet ∈ encode (lossy octets)) : octet ∈ octets := by
  rw [encode, lossy, String.toList_ofList, List.flatMap_map] at mem
  obtain ⟨piece, read, written⟩ := List.mem_flatMap.mp mem
  rw [← flatMap_octets_scan octets]
  refine List.mem_flatMap.mpr ⟨piece, read, ?_⟩
  cases piece with
  | scalar value => exact written
  | broken octets =>
    have large : ((String.utf8EncodeChar replacement).any fun other => other < 0x80) = false := by
      decide
    exact absurd (decide_eq_true ascii) (List.any_eq_false.mp large octet written)

end Utf8

end HostProvision
