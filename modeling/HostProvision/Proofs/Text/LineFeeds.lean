import HostProvision.Proofs.Text.Pieces
import HostProvision.Text.Lines

/-! # Line feeds in octet strings

A line feed is one octet that no sequence of several octets holds, so an octet string may be cut at
its line feeds before it is read as text or after.

* The scan goes over an octet below `0x80` as if nothing stood before it,
  `Utf8.scan_append_ascii`.
* **Reading as text and cutting at line feeds commute**, `Utf8.pieces_lossy`, for all octet strings,
  well formed or not.
* Where no U+FFFD is shown the octets are well formed, `Utf8.decode?_of_replacement_not_mem`. -/

namespace HostProvision

namespace Utf8

/-- The octet that is a line feed. -/
abbrev lineFeed : UInt8 := 0x0A

/-! ## Open sequences

An octet below `0x80` continues no sequence, whatever octets were read before. -/

/-- A lead octet is followed by octets from `0x80` on. -/
theorem le_low_of_lead? {octet : UInt8} {pending : Pending} (lead : lead? octet = some pending) :
    0x80 ≤ pending.low := by
  simp only [lead?] at lead
  repeat' split at lead
  all_goals cases lead
  all_goals dsimp only
  all_goals decide

/-- The sequence that is opened by an octet goes on from `0x80` on. -/
theorem le_low_of_start {octet : UInt8} {pending : Pending} (opened : start octet = .inr pending) :
    0x80 ≤ pending.low := by
  rw [start] at opened
  split at opened
  · cases opened
  · split at opened
    · rename_i lead
      cases opened
      exact le_low_of_lead? lead
    · cases opened

/-- A sequence that is continued goes on from `0x80` on. -/
theorem le_low_of_extend {octet : UInt8} {pending longer : Pending}
    (continued : pending.extend octet = .inr longer) : 0x80 ≤ longer.low := by
  rw [Pending.extend] at continued
  split at continued
  · cases continued
  · cases continued
    exact UInt8.le_refl _

/-! ## The scan -/

/-- What follows an octet below `0x80` is scanned as if nothing stood before it. -/
theorem scanFrom_append_ascii (before after : Bytes) {octet : UInt8} (ascii : octet < 0x80)
    (pending : Option Pending) (bounded : ∀ p ∈ pending, 0x80 ≤ p.low) :
    scanFrom pending (before ++ octet :: after) =
      scanFrom pending before ++ .scalar (Char.ofNat octet.toNat) :: scan after := by
  induction before generalizing pending with
  | nil =>
    rw [List.nil_append, scanFrom_ascii pending octet after ascii bounded]
    cases pending <;> rfl
  | cons first before ih =>
    have onward {read : Piece ⊕ Pending} (low : ∀ p, read = .inr p → 0x80 ≤ p.low) :
        scanBehind (before ++ octet :: after) read =
          scanBehind before read ++ .scalar (Char.ofNat octet.toNat) :: scan after := by
      cases read with
      | inl piece => exact congrArg (piece :: ·) (ih none (by simp))
      | inr longer => exact ih (some longer) (by simpa using low longer rfl)
    cases pending with
    | none =>
      rw [List.cons_append, scanFrom_none_cons, scanFrom_none_cons]
      exact onward fun _ => le_low_of_start
    | some pending =>
      rw [List.cons_append, scanFrom_some_cons, scanFrom_some_cons]
      split
      · exact onward fun _ => le_low_of_extend
      · exact congrArg (_ :: ·) (onward fun _ => le_low_of_start)

/-- An octet below `0x80` stands for itself, wherever it stands. -/
theorem scan_append_ascii (before after : Bytes) {octet : UInt8} (ascii : octet < 0x80) :
    scan (before ++ octet :: after) =
      scan before ++ .scalar (Char.ofNat octet.toNat) :: scan after :=
  scanFrom_append_ascii before after ascii none (by simp)

/-! ## Texts and their lines -/

/-- A line feed is shown as one. -/
theorem toList_lossy_append_lineFeed (before after : Bytes) :
    (lossy (before ++ lineFeed :: after)).toList =
      (lossy before).toList ++ '\n' :: (lossy after).toList := by
  have ascii : lineFeed < 0x80 := by decide
  simp only [lossy, String.toList_ofList, scan_append_ascii before after ascii, List.map_append,
    List.map_cons]
  rfl

/-- Without a line feed, none is shown. -/
theorem lineFeed_not_mem_lossy {octets : Bytes} (none : lineFeed ∉ octets) :
    '\n' ∉ (lossy octets).toList := by
  intro shown
  refine none (mem_of_mem_encode_lossy (by decide) ?_)
  exact List.mem_flatMap.mpr ⟨'\n', shown, by decide⟩

/-- **Reading as text and cutting at line feeds commute.** -/
theorem pieces_lossy (octets : Bytes) :
    Text.pieces (lossy octets).toList =
      (octets.splitOn lineFeed).map fun piece => (lossy piece).toList := by
  by_cases mem : lineFeed ∈ octets
  · -- Both are cut at the first line feed, and so are the shorter rests.
    obtain ⟨before, after, rfl, none⟩ := List.eq_append_cons_of_mem mem
    rw [toList_lossy_append_lineFeed, Text.pieces,
      List.splitOn_append_cons_self_of_not_mem (lineFeed_not_mem_lossy none), ← Text.pieces,
      pieces_lossy after, List.splitOn_append_cons_self_of_not_mem none, List.map_cons]
  · rw [Text.pieces, List.splitOn_eq_singleton (lineFeed_not_mem_lossy mem),
      List.splitOn_eq_singleton mem, List.map_singleton]
  termination_by octets.length
  decreasing_by
    subst_vars
    simp only [List.length_append, List.length_cons]
    omega

/-! ## Well-formed octets -/

/-- Octets that stand for a text are the octets of that text. -/
theorem decode?_eq_some_iff {octets : Bytes} {text : String} :
    decode? octets = some text ↔ octets = encode text := by
  refine ⟨fun read => ?_, fun same => same ▸ decode?_encode text⟩
  obtain ⟨chars, scalars, rfl⟩ := Option.map_eq_some_iff.mp read
  have written (pieces : List Piece) (chars : List Char)
      (scalars : pieces.mapM Piece.scalar? = some chars) :
      pieces.flatMap Piece.octets = chars.flatMap String.utf8EncodeChar := by
    induction pieces generalizing chars with
    | nil => cases scalars; rfl
    | cons piece pieces ih =>
      simp only [List.mapM_cons, Option.bind_eq_bind, Option.bind_eq_some_iff] at scalars
      obtain ⟨c, scalar, rest, scalars, same⟩ := scalars
      cases same
      cases piece with
      | scalar value =>
        cases scalar
        rw [List.flatMap_cons, List.flatMap_cons, ih rest scalars]
        rfl
      | broken octets => cases scalar
  rw [← flatMap_octets_scan octets, written _ _ scalars, encode, String.toList_ofList]

/-- Where no ill-formed octets are shown, there are none. -/
theorem decode?_of_replacement_not_mem {octets : Bytes}
    (clean : replacement ∉ (lossy octets).toList) : decode? octets = some (lossy octets) := by
  have scalars (pieces : List Piece) (clean : replacement ∉ pieces.map Piece.shown) :
      pieces.mapM Piece.scalar? = some (pieces.map Piece.shown) := by
    induction pieces with
    | nil => rfl
    | cons piece pieces ih =>
      rw [List.map_cons, List.mem_cons, not_or] at clean
      cases piece with
      | scalar value => simp [Piece.scalar?, Piece.shown, ih clean.2]
      | broken octets => exact absurd rfl clean.1
  rw [lossy, String.toList_ofList] at clean
  rw [decode?, scalars _ clean, Option.map_some, lossy]

end Utf8

end HostProvision
