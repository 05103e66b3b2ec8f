import HostProvision.Proofs.Json.Grammar

/-! # Numbers and strings as they are read

A number is read by its phases and a string into a draft, one character at a time. Here both are held
against the grammar.

* `NumberPhase.Follows` says what may follow a phase up to the end of a number, and
  `NumberPhase.leadsTo_step?_iff` that a step goes on in the same way. So **the phases tell apart what
  spells a number**, `spellsNumber_iff`.
* `Draft.add` adds an element of a string to a draft, and **a finished draft is the text of its
  elements**, `Draft.finish_foldl_add`. -/

namespace HostProvision

namespace Json

/-! ## Numbers -/

namespace NumberPhase

/-- The phase after some more characters, if they all continue the number. -/
def walk? (phase : NumberPhase) : List Char → Option NumberPhase
  | [] => some phase
  | c :: rest => (phase.step? c).bind fun next => next.walk? rest

/-- Which characters may follow a phase up to the end of the number. -/
def Follows : NumberPhase → List Char → Prop
  | .minus, chars => Unsigned chars
  | .zero, chars => Decimals chars
  | .whole, chars => ∃ digits decimals, chars = digits ++ decimals ∧ AllDigits digits ∧
      Decimals decimals
  | .point, chars => ∃ digits exponent, chars = digits ++ exponent ∧ digits ≠ [] ∧
      AllDigits digits ∧ ExponentPart exponent
  | .fraction, chars => ∃ digits exponent, chars = digits ++ exponent ∧ AllDigits digits ∧
      ExponentPart exponent
  | .mark, chars => ∃ sign digits, chars = sign ++ digits ∧ ExponentSign sign ∧ digits ≠ [] ∧
      AllDigits digits
  | .sign, chars => chars ≠ [] ∧ AllDigits chars
  | .exponent, chars => AllDigits chars

/-- A number ends exactly where nothing more need follow. -/
theorem follows_nil_iff {phase : NumberPhase} : phase.Follows [] ↔ phase.complete = true := by
  have noWhole : ¬ WholePart [] := nofun
  cases phase <;>
    simp [Follows, complete, Unsigned, Decimals, noWhole, FractionPart.none, ExponentPart.none,
      AllDigits]

/-- A step leads on to what may follow. -/
def LeadsTo (rest : List Char) (next : Option NumberPhase) : Prop :=
  ∃ phase, next = some phase ∧ phase.Follows rest

variable {c : Char} {rest : List Char}

@[simp] theorem not_leadsTo_none : ¬ LeadsTo rest none :=
  nofun

@[simp] theorem leadsTo_some_iff {phase : NumberPhase} :
    LeadsTo rest (some phase) ↔ phase.Follows rest := by
  simp [LeadsTo]

/-- A digit leads on inside an exponent. -/
theorem leadsTo_digitOfExponent_iff :
    LeadsTo rest (step?.digitOfExponent c) ↔ AllDigits (c :: rest) := by
  by_cases digit : c.isDigit = true <;> simp [step?.digitOfExponent, digit, Follows, AllDigits]

/-- The mark of an exponent leads on behind the fraction. -/
theorem leadsTo_afterFraction_iff :
    LeadsTo rest (step?.afterFraction c) ↔ ExponentPart (c :: rest) := by
  by_cases marked : c = 'e' ∨ c = 'E'
  · have step : step?.afterFraction c = some .mark := by
      rcases marked with rfl | rfl <;> rfl
    rw [step, leadsTo_some_iff]
    constructor
    · rintro ⟨sign, digits, rfl, signed, solid, all⟩
      exact .some marked signed solid all
    · intro h
      cases h with
      | some _ signed solid all => exact ⟨_, _, rfl, signed, solid, all⟩
  · have step : step?.afterFraction c = none := by
      simpa [step?.afterFraction] using not_or.mp marked
    rw [step]
    refine ⟨fun h => absurd h not_leadsTo_none, fun h => ?_⟩
    cases h with
    | some other => exact absurd other marked

/-- A point leads on behind the whole part, and so does the mark of an exponent. -/
theorem leadsTo_afterWhole_iff :
    LeadsTo rest (step?.afterWhole c) ↔ Decimals (c :: rest) := by
  by_cases point : c = '.'
  · subst point
    have step : step?.afterWhole '.' = some .point := rfl
    rw [step, leadsTo_some_iff]
    constructor
    · rintro ⟨digits, exponent, rfl, solid, all, h⟩
      exact ⟨'.' :: digits, exponent, rfl, .some solid all, h⟩
    · rintro ⟨fraction, exponent, same, hfraction, hexponent⟩
      cases hfraction with
      | none =>
        subst same
        cases hexponent with
        | some marked => simp at marked
      | some solid all =>
        obtain ⟨-, rfl⟩ := List.cons.inj same
        exact ⟨_, exponent, rfl, solid, all, hexponent⟩
  · rw [step?.afterWhole, if_neg point, leadsTo_afterFraction_iff]
    constructor
    · intro h
      exact ⟨[], c :: rest, rfl, .none, h⟩
    · rintro ⟨fraction, exponent, same, hfraction, hexponent⟩
      cases hfraction with
      | none => exact same ▸ hexponent
      | some => exact absurd (List.cons.inj same).1 point

/-- Digits that may go on lead on to more of them. -/
theorem exists_digits_append_iff {tail : List Char → Prop}
    (solid : ∀ more, tail (c :: more) → c.isDigit = false) :
    (∃ digits more, c :: rest = digits ++ more ∧ AllDigits digits ∧ tail more) ↔
      if c.isDigit then ∃ digits more, rest = digits ++ more ∧ AllDigits digits ∧ tail more
      else tail (c :: rest) := by
  constructor
  · rintro ⟨digits, more, same, all, h⟩
    cases digits with
    | nil =>
      subst same
      rw [solid rest h]
      exact h
    | cons first digits =>
      obtain ⟨rfl, rfl⟩ := List.cons.inj same
      obtain ⟨digit, all⟩ := List.forall_mem_cons.mp all
      rw [if_pos digit]
      exact ⟨digits, more, rfl, all, h⟩
  · split
    · rintro ⟨digits, more, rfl, all, h⟩
      rename_i digit
      exact ⟨c :: digits, more, rfl, List.forall_mem_cons.mpr ⟨digit, all⟩, h⟩
    · exact fun h => ⟨[], c :: rest, rfl, List.forall_mem_nil _, h⟩

/-- No digit begins an exponent. -/
theorem not_isDigit_of_exponentPart (h : ExponentPart (c :: rest)) : c.isDigit = false := by
  cases h with
  | some marked => rcases marked with rfl | rfl <;> rfl

/-- No digit begins what follows a whole part. -/
theorem not_isDigit_of_decimals (h : Decimals (c :: rest)) : c.isDigit = false := by
  obtain ⟨fraction, exponent, same, hfraction, hexponent⟩ := h
  cases hfraction with
  | none =>
    obtain rfl : c :: rest = exponent := same
    exact not_isDigit_of_exponentPart hexponent
  | some => exact (List.cons.inj same).1 ▸ rfl

/-- A sign or a digit leads on behind the mark of an exponent. -/
theorem leadsTo_mark_iff : LeadsTo rest (step? .mark c) ↔ Follows .mark (c :: rest) := by
  by_cases signed : c = '+' ∨ c = '-'
  · have step : step? .mark c = some .sign := by
      rcases signed with rfl | rfl <;> rfl
    have sign : ExponentSign [c] := by
      rcases signed with rfl | rfl <;> constructor
    have notDigit : ¬ c.isDigit = true := by
      rcases signed with rfl | rfl <;> decide
    rw [step, leadsTo_some_iff]
    constructor
    · rintro ⟨solid, all⟩
      exact ⟨[c], rest, rfl, sign, solid, all⟩
    · rintro ⟨sign, digits, same, hsign, solid, all⟩
      cases hsign with
      | none =>
        obtain rfl : c :: rest = digits := same
        exact absurd (all c List.mem_cons_self) notDigit
      | plus | minus => exact (List.cons.inj same).2 ▸ ⟨solid, all⟩
  · have step : step? .mark c = step?.digitOfExponent c := by
      simpa [step?] using fun h => absurd h signed
    rw [step, leadsTo_digitOfExponent_iff]
    constructor
    · intro all
      exact ⟨[], c :: rest, rfl, .none, List.cons_ne_nil c rest, all⟩
    · rintro ⟨sign, digits, same, hsign, solid, all⟩
      cases hsign with
      | none => exact same ▸ all
      | plus => exact absurd (.inl (List.cons.inj same).1) signed
      | minus => exact absurd (.inr (List.cons.inj same).1) signed

/-- A digit leads on behind the sign of a number. -/
theorem leadsTo_minus_iff : LeadsTo rest (step? .minus c) ↔ Unsigned (c :: rest) := by
  by_cases zero : c = '0'
  · subst zero
    have step : step? .minus '0' = some .zero := rfl
    rw [step, leadsTo_some_iff]
    constructor
    · intro h
      exact ⟨['0'], rest, rfl, .zero, h⟩
    · rintro ⟨whole, decimals, same, hwhole, h⟩
      cases hwhole with
      | zero => exact (List.cons.inj same).2 ▸ h
      | other digit nonzero => exact absurd (List.cons.inj same).1.symm nonzero
  · by_cases digit : c.isDigit = true
    · have step : step? .minus c = some .whole := by simp [step?, zero, digit]
      rw [step, leadsTo_some_iff]
      constructor
      · rintro ⟨digits, decimals, rfl, all, h⟩
        exact ⟨c :: digits, decimals, rfl, .other digit zero all, h⟩
      · rintro ⟨whole, decimals, same, hwhole, h⟩
        cases hwhole with
        | zero => exact absurd (List.cons.inj same).1 zero
        | other digit nonzero all => exact ⟨_, decimals, (List.cons.inj same).2, all, h⟩
    · have step : step? .minus c = none := by simp [step?, zero, digit]
      rw [step]
      refine ⟨fun h => absurd h not_leadsTo_none, ?_⟩
      rintro ⟨whole, decimals, same, hwhole, h⟩
      cases hwhole with
      | zero => exact absurd (List.cons.inj same).1 zero
      | other other => exact absurd ((List.cons.inj same).1 ▸ other) digit

/-- **One step goes on as the grammar does.** -/
theorem leadsTo_step?_iff {phase : NumberPhase} :
    LeadsTo rest (phase.step? c) ↔ phase.Follows (c :: rest) := by
  cases phase with
  | minus => exact leadsTo_minus_iff
  | zero => exact leadsTo_afterWhole_iff
  | whole =>
    rw [Follows, exists_digits_append_iff fun more => not_isDigit_of_decimals, step?]
    split
    · exact leadsTo_some_iff
    · exact leadsTo_afterWhole_iff
  | point =>
    by_cases digit : c.isDigit = true
    · rw [step?, if_pos digit, leadsTo_some_iff]
      constructor
      · rintro ⟨digits, exponent, rfl, all, h⟩
        exact ⟨c :: digits, exponent, rfl, List.cons_ne_nil c digits,
          List.forall_mem_cons.mpr ⟨digit, all⟩, h⟩
      · rintro ⟨digits, exponent, same, solid, all, h⟩
        obtain ⟨first, digits, rfl⟩ := List.exists_cons_of_ne_nil solid
        exact ⟨digits, exponent, (List.cons.inj same).2, (List.forall_mem_cons.mp all).2, h⟩
    · rw [step?, if_neg digit]
      refine ⟨fun h => absurd h not_leadsTo_none, ?_⟩
      rintro ⟨digits, exponent, same, solid, all, h⟩
      obtain ⟨first, digits, rfl⟩ := List.exists_cons_of_ne_nil solid
      obtain rfl := (List.cons.inj same).1
      exact absurd (all c List.mem_cons_self) digit
  | fraction =>
    rw [Follows, exists_digits_append_iff fun more => not_isDigit_of_exponentPart, step?]
    split
    · exact leadsTo_some_iff
    · exact leadsTo_afterFraction_iff
  | mark => exact leadsTo_mark_iff
  | sign => exact leadsTo_digitOfExponent_iff.trans (by simp [Follows])
  | exponent => exact leadsTo_digitOfExponent_iff

/-- The characters that a phase can be walked along to the end of a number. -/
theorem exists_walk?_iff {phase : NumberPhase} {chars : List Char} :
    (∃ last, phase.walk? chars = some last ∧ last.complete = true) ↔ phase.Follows chars := by
  induction chars generalizing phase with
  | nil => simp [walk?, follows_nil_iff]
  | cons c rest ih =>
    simp only [walk?, Option.bind_eq_some_iff, ← leadsTo_step?_iff, LeadsTo, ← ih]
    constructor
    · rintro ⟨last, ⟨next, stepped, walked⟩, complete⟩
      exact ⟨next, stepped, last, walked, complete⟩
    · rintro ⟨next, stepped, last, walked, complete⟩
      exact ⟨last, ⟨next, stepped, walked⟩, complete⟩

/-- The first character of a number leads on to the others. -/
theorem leadsTo_start?_iff : LeadsTo rest (start? c) ↔ SpellsNumber (c :: rest) := by
  have notSign : ¬ Unsigned ('-' :: rest) := by
    rw [← leadsTo_minus_iff]
    exact not_leadsTo_none
  by_cases sign : c = '-'
  · subst sign
    have step : start? '-' = some .minus := rfl
    rw [step, leadsTo_some_iff]
    constructor
    · exact fun h => .inr ⟨rest, rfl, h⟩
    · rintro (h | ⟨unsigned, same, h⟩)
      · exact absurd h notSign
      · exact (List.cons.inj same).2 ▸ h
  · have step : start? c = step? .minus c := by simp [start?, step?, sign]
    rw [step, leadsTo_minus_iff]
    refine ⟨.inl, ?_⟩
    rintro (h | ⟨unsigned, same, h⟩)
    · exact h
    · exact absurd (List.cons.inj same).1 sign

end NumberPhase

/-- **The phases tell apart what spells a number.** -/
theorem spellsNumber_iff {lexeme : List Char} : SpellsNumber lexeme ↔
    ∃ c rest first last, lexeme = c :: rest ∧ NumberPhase.start? c = some first ∧
      first.walk? rest = some last ∧ last.complete = true := by
  cases lexeme with
  | nil =>
    constructor
    · rintro (h | ⟨unsigned, same, -⟩)
      · cases NumberPhase.follows_nil_iff.mp (show NumberPhase.Follows .minus [] from h)
      · cases same
    · rintro ⟨c, rest, -, -, same, -⟩
      cases same
  | cons c rest =>
    rw [← NumberPhase.leadsTo_start?_iff, NumberPhase.LeadsTo]
    simp only [← NumberPhase.exists_walk?_iff]
    constructor
    · rintro ⟨first, begun, last, walked, complete⟩
      exact ⟨c, rest, first, last, rfl, begun, walked, complete⟩
    · rintro ⟨_, _, first, last, same, begun, walked, complete⟩
      cases same
      exact ⟨first, begun, last, walked, complete⟩

/-! ## Strings -/

namespace Draft

/-- Adds an element to a draft. -/
def add (draft : Draft) : Element → Draft
  | .plain c => draft.push c
  | .unit number => draft.pushUnit number

/-- A unit that no leading surrogate waits for. -/
theorem pushUnit_of_none (chars : Option (List Char)) (number : Nat) :
    pushUnit ⟨chars, none⟩ number =
      if IsLeading number then ⟨chars, some number⟩
      else if IsTrailing number then ⟨none, none⟩
      else ⟨chars.map (Char.ofNat number :: ·), none⟩ := by
  simp only [pushUnit, IsLeading, IsTrailing, Bool.and_eq_true, decide_eq_true_eq]
  congr

/-- A unit that a leading surrogate waits for. -/
theorem pushUnit_of_some (chars : Option (List Char)) (leading number : Nat) :
    pushUnit ⟨chars, some leading⟩ number =
      if IsTrailing number then ⟨chars.map (pairChar leading number :: ·), none⟩
      else ⟨none, none⟩ := by
  simp only [pushUnit, IsTrailing, pairChar, Bool.and_eq_true, decide_eq_true_eq]
  congr

/-- A draft that has met an unpaired surrogate stays without a text. -/
theorem finish_foldl_add_of_none (leading : Option Nat) (elements : List Element) :
    (elements.foldl add ⟨none, leading⟩).finish = none := by
  induction elements generalizing leading with
  | nil => cases leading <;> rfl
  | cons element rest ih =>
    have broken : (add ⟨none, leading⟩ element).chars = none := by
      cases element with
      | plain c => cases leading <;> rfl
      | unit number =>
        cases leading with
        | none =>
          rw [add, pushUnit_of_none]
          split <;> [skip; split] <;> rfl
        | some leading =>
          rw [add, pushUnit_of_some]
          split <;> rfl
    have same : add ⟨none, leading⟩ element = ⟨none, (add ⟨none, leading⟩ element).leading⟩ :=
      congrArg (mk · _) broken
    rw [List.foldl_cons, same, ih]

/-- A character that was read last comes before those that are still to be read. -/
theorem map_ofList_cons (read : List Char) (c : Char) (chars : Option (List Char)) :
    (chars.map fun chars => String.ofList ((c :: read).reverse ++ chars)) =
      (chars.map (c :: ·)).map fun chars => String.ofList (read.reverse ++ chars) := by
  cases chars <;> simp

/-- What a draft comes to with some more elements: a leading surrogate is the first of them. -/
theorem finish_foldl_add_of_some (read : List Char) {leading : Option Nat}
    (surrogate : ∀ number ∈ leading, IsLeading number) (elements : List Element) :
    (elements.foldl add ⟨some read, leading⟩).finish =
      (Element.join? (leading.toList.map .unit ++ elements)).map fun chars =>
        String.ofList (read.reverse ++ chars) := by
  have alone : ∀ number ∈ (none : Option Nat), IsLeading number := by simp
  induction elements generalizing read leading with
  | nil =>
    cases leading with
    | none => simp [finish, Element.join?]
    | some number => simp [finish, Element.join?, surrogate number rfl]
  | cons element rest ih =>
    cases leading with
    | none =>
      cases element with
      | plain c => exact (ih (c :: read) alone).trans (map_ofList_cons read c _)
      | unit number =>
        rw [List.foldl_cons, add, pushUnit_of_none]
        by_cases begins : IsLeading number
        -- The unit waits for its partner, so the elements are the same as before.
        · rw [if_pos begins, ih read (by simpa using begins)]
          rfl
        · rw [if_neg begins]
          by_cases ends : IsTrailing number
          · rw [if_pos ends, finish_foldl_add_of_none]
            simp [Element.join?_unit_of_not_isLeading begins, ends]
          · rw [if_neg ends, Option.map_some, ih _ alone, map_ofList_cons]
            simp [Element.join?_unit_of_not_isLeading begins, ends]
    | some leading =>
      have begins : IsLeading leading := surrogate leading rfl
      cases element with
      | plain c =>
        rw [List.foldl_cons, add, push, finish_foldl_add_of_none]
        simp [Element.join?, begins]
      | unit number =>
        rw [List.foldl_cons, add, pushUnit_of_some]
        by_cases ends : IsTrailing number
        · rw [if_pos ends, Option.map_some, ih _ alone, map_ofList_cons]
          simp [Element.join?, begins, ends]
        · rw [if_neg ends, finish_foldl_add_of_none]
          simp [Element.join?, begins, ends]

/-- **A finished draft is the text of its elements.** -/
theorem finish_foldl_add (elements : List Element) :
    (elements.foldl add .empty).finish = Element.text? elements :=
  finish_foldl_add_of_some [] (by simp) elements

end Draft

end Json

end HostProvision
