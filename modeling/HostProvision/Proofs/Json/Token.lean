import HostProvision.Proofs.Json.Lexeme
import Mathlib.Data.List.Chain

/-! # Texts and their tokens

A text is scanned character by character, so a spelled token is followed through the automaton, with
any text after it.

* A number ends where it is followed by something that does not continue it, `Delimits`; every other
  token ends by itself. **A spelled token is read**, `Token.scanFrom?_spelled`.
* `Token.Parts` says which tokens may follow a number, and **tokens that are spelled one after another
  are read**, `Token.scan?_of_spelling`, if none of them follows a number that may not.
* `Scan.Reads` says of any state what is still to be read there, and `Scan.reads_step` that a step
  goes on in the same way. So **what is read is spelled**, `Token.spelling_of_scan?`. -/

namespace HostProvision

namespace Json

/-- Whether a number that is complete ends before a text. -/
def Delimits (text : List Char) : Prop :=
  ∀ c ∈ text.head?, ∀ phase : NumberPhase, phase.complete = true → phase.step? c = none

/-- A number ends with the text. -/
@[simp] theorem delimits_nil : Delimits [] := by
  simp [Delimits]

/-- A number ends before a character that no complete number goes on with. -/
@[simp] theorem delimits_cons_iff {c : Char} {rest : List Char} :
    Delimits (c :: rest) ↔
      ∀ phase : NumberPhase, phase.complete = true → phase.step? c = none := by
  simp [Delimits]

namespace Token

/-! ## From a spelling to the tokens -/

variable {rest : List Char}

/-- A character that completes tokens is passed over. -/
theorem scanFrom?_cons {state next : Scan} {c : Char} {tokens : List Token}
    (h : state.step? c = some (tokens, next)) :
    scanFrom? state (c :: rest) = (scanFrom? next rest).map (tokens ++ ·) := by
  rw [scanFrom?, h]

/-- A character that completes no token is passed over. -/
theorem scanFrom?_cons_of_silent {state next : Scan} {c : Char}
    (h : state.step? c = some ([], next)) :
    scanFrom? state (c :: rest) = scanFrom? next rest := by
  rw [scanFrom?_cons h]
  exact congrFun Option.map_id (scanFrom? next rest)

/-- Insignificant whitespace is passed over. -/
theorem scanFrom?_blanks {blanks : List Char} (blank : Blanks blanks) :
    scanFrom? .between (blanks ++ rest) = scanFrom? .between rest := by
  induction blanks with
  | nil => rfl
  | cons c blanks ih =>
    obtain ⟨space, blank⟩ := List.forall_mem_cons.mp blank
    have passed : Scan.step? .between c = some ([], .between) := if_pos space
    rw [List.cons_append, scanFrom?_cons_of_silent passed, ih blank]

/-- A literal name is read letter by letter. -/
theorem scanFrom?_word (letter : Char) (due : List Char) (token : Token) :
    scanFrom? (.word (letter :: due) token) (letter :: due ++ rest) =
      (scanFrom? .between rest).map (token :: ·) := by
  induction due generalizing letter with
  | nil =>
    have completed : Scan.step? (.word [letter] token) letter = some ([token], .between) := by
      simp [Scan.step?]
    exact scanFrom?_cons completed
  | cons next due ih =>
    have continued : Scan.step? (.word (letter :: next :: due) token) letter =
        some ([], .word (next :: due) token) := by
      simp [Scan.step?]
    rw [List.cons_append, scanFrom?_cons_of_silent continued, ih]

/-- Insignificant whitespace is one of four characters. -/
theorem eq_of_isSpace {c : Char} (space : Scan.isSpace c = true) :
    c = ' ' ∨ c = '\n' ∨ c = '\t' ∨ c = '\r' := by
  simpa [Scan.isSpace, or_assoc] using space

/-- A character that begins a number begins no other token. -/
theorem start?_of_number {c : Char} {first : NumberPhase}
    (h : NumberPhase.start? c = some first) :
    Scan.start? c = some ([], .number first [c]) := by
  have notSpace : ¬ Scan.isSpace c = true := by
    intro space
    rcases eq_of_isSpace space with rfl | rfl | rfl | rfl <;> cases h
  unfold Scan.start?
  rw [if_neg notSpace]
  split
  case h_11 => rw [h, Option.map_some]
  -- No number begins with any of the characters that are named there.
  all_goals cases h

/-- A number is read up to a text that delimits it. -/
theorem scanFrom?_number {phase last : NumberPhase} {more : List Char}
    (walked : phase.walk? more = some last) (complete : last.complete = true)
    (delimited : Delimits rest) (lexeme : List Char) :
    scanFrom? (.number phase lexeme) (more ++ rest) =
      (scanFrom? .between rest).map (.number (lexeme.reverse ++ more) :: ·) := by
  induction more generalizing phase lexeme with
  | nil =>
    obtain rfl := Option.some.inj walked
    rw [List.append_nil, List.nil_append]
    cases rest with
    | nil => simp [scanFrom?, Scan.finish?, complete]
    | cons c rest =>
      have ends := delimits_cons_iff.mp delimited phase complete
      simp only [scanFrom?, Scan.step?, ends, complete, if_true]
      cases Scan.start? c with
      | none => rfl
      | some begun => simp [Option.map_map, Function.comp_def]
  | cons c more ih =>
    rw [NumberPhase.walk?] at walked
    obtain ⟨next, stepped, walked⟩ := Option.bind_eq_some_iff.mp walked
    have continued : Scan.step? (.number phase lexeme) c =
        some ([], .number next (c :: lexeme)) := by
      simp only [Scan.step?, stepped]
    rw [List.cons_append, scanFrom?_cons_of_silent continued, ih walked]
    simp

/-- A unit is read digit by digit. -/
theorem scanFrom?_unit {digits : List Char} {due value number : Nat} (draft : Draft)
    (length : digits.length = due + 1) (h : hexNumber? value digits = some number) :
    scanFrom? (.unit draft (due + 1) value) (digits ++ rest) =
      scanFrom? (.text (draft.pushUnit number)) rest := by
  induction due generalizing digits value with
  | zero =>
    obtain ⟨c, rfl⟩ := List.length_eq_one_iff.mp length
    obtain ⟨digit, read, last⟩ := Option.bind_eq_some_iff.mp h
    obtain rfl := Option.some.inj last
    exact scanFrom?_cons_of_silent (by simp [Scan.step?, read])
  | succ due ih =>
    obtain ⟨c, digits, rfl⟩ := List.exists_cons_of_length_eq_add_one length
    obtain ⟨digit, read, h⟩ := Option.bind_eq_some_iff.mp h
    have continued : Scan.step? (.unit draft (due + 2) value) c =
        some ([], .unit draft (due + 1) (value * 16 + digit)) := by
      simp [Scan.step?, read]
    rw [List.cons_append, scanFrom?_cons_of_silent continued]
    exact ih (Nat.succ.inj length) h

/-- A spelled element is read into the draft. -/
theorem scanFrom?_element {element : Element} {spelled : List Char} (h : element.Spells spelled)
    (draft : Draft) : scanFrom? (.text draft) (spelled ++ rest) =
      scanFrom? (.text (draft.add element)) rest := by
  have opens : Scan.step? (.text draft) '\\' = some ([], .escape draft) := rfl
  cases h with
  | itself printable quote backslash =>
    refine scanFrom?_cons_of_silent ?_
    rw [Scan.step?, if_neg quote, if_neg backslash, if_neg (Nat.not_lt.mpr printable)]
    rfl
  | @short name c named =>
    have notUnit : name ≠ 'u' := by
      rintro rfl
      cases named
    refine (scanFrom?_cons_of_silent opens).trans (scanFrom?_cons_of_silent ?_)
    simp [Scan.step?, notUnit, named, Draft.add]
  | numbered four value =>
    have begins : Scan.step? (.escape draft) 'u' = some ([], .unit draft 4 0) := rfl
    refine (scanFrom?_cons_of_silent opens).trans ((scanFrom?_cons_of_silent begins).trans ?_)
    exact scanFrom?_unit draft four value

/-- Spelled elements are read into the draft one after another. -/
theorem scanFrom?_elements {elements : List Element} {body : List Char}
    (h : Elements elements body) (draft : Draft) :
    scanFrom? (.text draft) (body ++ rest) =
      scanFrom? (.text (elements.foldl Draft.add draft)) rest := by
  induction h generalizing draft with
  | nil => rfl
  | cons first _ ih => rw [List.append_assoc, scanFrom?_element first, ih, List.foldl_cons]

/-- **A spelled token is read**, and the reading then stands between two tokens. A number must not
be continued by the text after it. -/
theorem scanFrom?_spelled {token : Token} {spelled : List Char} (h : token.Spells spelled)
    (delimited : ∀ lexeme, token = .number lexeme → Delimits rest) :
    scanFrom? .between (spelled ++ rest) = (scanFrom? .between rest).map (token :: ·) := by
  have word {begun : Char} (letter : Char) (due : List Char) {token : Token}
      (begins : Scan.step? .between begun = some ([], .word (letter :: due) token)) :
      scanFrom? .between (begun :: letter :: due ++ rest) =
        (scanFrom? .between rest).map (token :: ·) := by
    rw [List.cons_append, scanFrom?_cons_of_silent begins, scanFrom?_word]
  cases token with
  | openArray | closeArray | openObject | closeObject | comma | colon =>
    subst h
    rfl
  | null =>
    subst h
    exact word 'u' ['l', 'l'] rfl
  | bool value =>
    subst h
    cases value with
    | true => exact word 'r' ['u', 'e'] rfl
    | false => exact word 'a' ['l', 's', 'e'] rfl
  | number lexeme =>
    obtain ⟨rfl, number⟩ := h
    obtain ⟨c, more, first, last, rfl, begun, walked, complete⟩ := spellsNumber_iff.mp number
    have opens : Scan.step? .between c = some ([], .number first [c]) := start?_of_number begun
    rw [List.cons_append, scanFrom?_cons_of_silent opens,
      scanFrom?_number walked complete (delimited _ rfl)]
    rfl
  | text value =>
    obtain ⟨elements, body, read, rfl, rfl⟩ := h
    have opens : Scan.step? .between '"' = some ([], .text .empty) := rfl
    have closes (draft : Draft) :
        Scan.step? (.text draft) '"' = some ([.text draft.finish], .between) := rfl
    rw [List.cons_append, scanFrom?_cons_of_silent opens, List.append_assoc,
      scanFrom?_elements read, List.singleton_append, scanFrom?_cons (closes _),
      Draft.finish_foldl_add]
    rfl

/-- Whether a token may stand right behind another one: behind a number only what ends it. -/
def Parts (first second : Token) : Prop :=
  ∀ lexeme, first = .number lexeme → second = .comma ∨ second = .closeArray ∨ second = .closeObject

/-- A number ends before a token that may stand behind it. -/
theorem delimits_of_spelling {tokens : List Token} (h : Spelling tokens rest)
    (ends : ∀ token ∈ tokens.head?, token = .comma ∨ token = .closeArray ∨ token = .closeObject) :
    Delimits rest := by
  have blank {c : Char} {more : List Char} (space : Scan.isSpace c = true) :
      Delimits (c :: more) := by
    refine delimits_cons_iff.mpr fun phase complete => ?_
    rcases eq_of_isSpace space with rfl | rfl | rfl | rfl <;> cases phase <;> rfl
  cases h with
  | nil space =>
    cases rest with
    | nil => exact delimits_nil
    | cons c rest => exact blank (List.forall_mem_cons.mp space).1
  | @cons blanks spelled rest token tokens space first others =>
    cases blanks with
    | cons c blanks => exact blank (List.forall_mem_cons.mp space).1
    | nil =>
      rcases ends token rfl with rfl | rfl | rfl <;>
      · subst first
        refine delimits_cons_iff.mpr fun phase complete => ?_
        cases phase <;> rfl

/-- **Tokens that are spelled one after another are read**, if behind each number stands something
that ends it. -/
theorem scan?_of_spelling {tokens : List Token} {chars : List Char} (h : Spelling tokens chars)
    (parted : tokens.IsChain Parts) : scan? chars = some tokens := by
  induction h with
  | @nil blanks blank =>
    rw [scan?, ← List.append_nil blanks, scanFrom?_blanks blank]
    rfl
  | cons blank first others ih =>
    obtain ⟨ends, parted⟩ := List.isChain_cons.mp parted
    have delimited := fun lexeme same =>
      delimits_of_spelling others fun token next => ends token next lexeme same
    rw [scan?, scanFrom?_blanks blank, scanFrom?_spelled first delimited]
    exact congrArg _ (ih parted)

end Token

/-! ## From the tokens to a spelling -/

namespace Scan

variable {tokens : List Token} {rest : List Char}

/-- What is still to be read inside a string: its elements and its end, and other tokens. -/
def ReadsText (draft : Draft) (tokens : List Token) (chars : List Char) : Prop :=
  ∃ elements body rest others, Elements elements body ∧ chars = body ++ '"' :: rest ∧
    tokens = .text (elements.foldl Draft.add draft).finish :: others ∧ Spelling others rest

/-- What is still to be read where the reading stands: the rest of a token and other tokens. -/
def Reads : Scan → List Token → List Char → Prop
  | .between, tokens, chars => Spelling tokens chars
  | .word due token, tokens, chars => ∃ rest others, chars = due ++ rest ∧
      tokens = token :: others ∧ Spelling others rest
  | .number phase lexeme, tokens, chars => ∃ more rest others, chars = more ++ rest ∧
      phase.Follows more ∧ tokens = .number (lexeme.reverse ++ more) :: others ∧
      Spelling others rest
  | .text draft, tokens, chars => ReadsText draft tokens chars
  | .escape draft, tokens, chars => ∃ element spelled rest, element.Spells ('\\' :: spelled) ∧
      chars = spelled ++ rest ∧ ReadsText (draft.add element) tokens rest
  | .unit draft due value, tokens, chars => ∃ digits number rest, digits.length = max due 1 ∧
      hexNumber? value digits = some number ∧ chars = digits ++ rest ∧
      ReadsText (draft.pushUnit number) tokens rest

/-- An element is read inside a string. -/
theorem ReadsText.element {element : Element} {spelled : List Char} {draft : Draft}
    (first : element.Spells spelled) (h : ReadsText (draft.add element) tokens rest) :
    ReadsText draft tokens (spelled ++ rest) := by
  obtain ⟨elements, body, rest, others, spelt, rfl, rfl, h⟩ := h
  exact ⟨element :: elements, spelled ++ body, rest, others, .cons first spelt,
    (List.append_assoc ..).symm, rfl, h⟩

/-- A token is read before others. -/
theorem reads_token {token : Token} {spelled : List Char} (first : token.Spells spelled)
    (h : Spelling tokens rest) : Spelling (token :: tokens) (spelled ++ rest) :=
  .cons (List.forall_mem_nil _) first h

/-- A token that has a single spelling is read before others. -/
theorem reads_sole {token : Token} (sole : token.Spells token.chars) (h : Spelling tokens rest) :
    Spelling (token :: tokens) (token.chars ++ rest) :=
  reads_token sole h

/-! ### One step

Each state goes on as what is still to be read there says. -/

variable {next : Scan} {c : Char} {done : List Token}

/-- What is begun between two tokens is read as a token, or is whitespace. -/
theorem reads_start (begun : start? c = some (done, next)) (h : next.Reads tokens rest) :
    Spelling (done ++ tokens) (c :: rest) := by
  unfold start? at begun
  split at begun
  · rename_i space
    cases begun
    have blank : Blanks [c] := List.forall_mem_singleton.mpr space
    exact Spelling.blanks_append blank h
  · split at begun
    case h_10 =>
      cases begun
      obtain ⟨elements, body, rest, others, spelled, rfl, rfl, h⟩ := h
      have text : Token.Spells (.text (elements.foldl Draft.add .empty).finish)
          ('"' :: (body ++ ['"'])) :=
        ⟨elements, body, spelled, rfl, Draft.finish_foldl_add elements⟩
      simpa using reads_token text h
    case h_11 =>
      obtain ⟨phase, number, same⟩ := Option.map_eq_some_iff.mp begun
      cases same
      obtain ⟨more, rest, others, rfl, follows, rfl, h⟩ := h
      have spelled : Token.Spells (.number (c :: more)) (c :: more) :=
        ⟨rfl, NumberPhase.leadsTo_start?_iff.mp ⟨phase, number, follows⟩⟩
      exact reads_token spelled h
    -- A literal name has letters left to be read; any other token is one character.
    case h_7 | h_8 | h_9 =>
      cases begun
      obtain ⟨rest, others, rfl, rfl, h⟩ := h
      exact reads_sole rfl h
    all_goals
      cases begun
      exact reads_sole rfl h

/-- A letter of a literal name is the one that is due. -/
theorem reads_word {due : List Char} {token : Token}
    (stepped : step? (.word due token) c = some (done, next)) (h : next.Reads tokens rest) :
    (Scan.word due token).Reads (done ++ tokens) (c :: rest) := by
  cases due with
  | nil => cases stepped
  | cons letter due =>
    have same : c = letter := by
      by_contra other
      cases due <;> simp [step?, other] at stepped
    subst same
    cases due with
    | nil =>
      have completed : step? (.word [c] token) c = some ([token], .between) := by simp [step?]
      cases completed.symm.trans stepped
      exact ⟨rest, tokens, rfl, rfl, h⟩
    | cons next due =>
      have continued : step? (.word (c :: next :: due) token) c =
          some ([], .word (next :: due) token) := by simp [step?]
      cases continued.symm.trans stepped
      obtain ⟨rest, others, rfl, rfl, h⟩ := h
      exact ⟨rest, others, rfl, rfl, h⟩

/-- A character continues a number, or a complete number ends before what the character begins. -/
theorem reads_number {phase : NumberPhase} {lexeme : List Char}
    (stepped : step? (.number phase lexeme) c = some (done, next)) (h : next.Reads tokens rest) :
    (Scan.number phase lexeme).Reads (done ++ tokens) (c :: rest) := by
  rw [step?] at stepped
  split at stepped
  · rename_i next continued
    cases stepped
    obtain ⟨more, rest, others, rfl, follows, rfl, h⟩ := h
    refine ⟨c :: more, rest, others, rfl, ?_, by simp, h⟩
    exact NumberPhase.leadsTo_step?_iff.mp ⟨next, continued, follows⟩
  · split at stepped
    · rename_i complete
      obtain ⟨⟨begun, next⟩, started, same⟩ := Option.map_eq_some_iff.mp stepped
      cases same
      exact ⟨[], c :: rest, begun ++ tokens, rfl, NumberPhase.follows_nil_iff.mpr complete,
        by simp, reads_start started h⟩
    · cases stepped

/-- A character of a string ends it, begins an escape or stands for itself. -/
theorem reads_text {draft : Draft} (stepped : step? (.text draft) c = some (done, next))
    (h : next.Reads tokens rest) : ReadsText draft (done ++ tokens) (c :: rest) := by
  rw [step?] at stepped
  split at stepped
  · rename_i quote
    subst quote
    cases stepped
    exact ⟨[], [], rest, tokens, .nil, rfl, rfl, h⟩
  · rename_i quote
    split at stepped
    · rename_i backslash
      subst backslash
      cases stepped
      obtain ⟨element, spelled, rest, first, rfl, h⟩ := h
      exact h.element first
    · rename_i backslash
      split at stepped
      · cases stepped
      · rename_i printable
        cases stepped
        exact ReadsText.element (.itself (Nat.not_lt.mp printable) quote backslash) h

/-- A character behind a backslash begins a unit or names what the escape stands for. -/
theorem reads_escape {draft : Draft} (stepped : step? (.escape draft) c = some (done, next))
    (h : next.Reads tokens rest) : (Scan.escape draft).Reads (done ++ tokens) (c :: rest) := by
  rw [step?] at stepped
  split at stepped
  · rename_i unit
    subst unit
    cases stepped
    obtain ⟨digits, number, rest, four, value, rfl, h⟩ := h
    exact ⟨.unit number, 'u' :: digits, rest, .numbered four value, rfl, h⟩
  · obtain ⟨value, named, same⟩ := Option.map_eq_some_iff.mp stepped
    cases same
    exact ⟨.plain value, [c], rest, .short named, rfl, h⟩

/-- A digit of a unit is the last one, or others follow. -/
theorem reads_unit {draft : Draft} {due value : Nat}
    (stepped : step? (.unit draft due value) c = some (done, next))
    (h : next.Reads tokens rest) :
    (Scan.unit draft due value).Reads (done ++ tokens) (c :: rest) := by
  obtain ⟨digit, read, same⟩ := Option.map_eq_some_iff.mp stepped
  have single : hexNumber? value [c] = some (value * 16 + digit) := by simp [hexNumber?, read]
  by_cases last : due ≤ 1
  · simp only [if_pos last] at same
    cases same
    exact ⟨[c], _, rest, by simp [last], single, rfl, h⟩
  · simp only [if_neg last] at same
    cases same
    obtain ⟨digits, number, rest, length, more, rfl, h⟩ := h
    refine ⟨c :: digits, number, rest, ?_, ?_, rfl, h⟩
    · rw [List.length_cons, length]
      omega
    · rw [hexNumber?, read]
      exact more

/-- **A step goes on as it was to be read.** -/
theorem reads_step {state : Scan} (stepped : state.step? c = some (done, next))
    (h : next.Reads tokens rest) : state.Reads (done ++ tokens) (c :: rest) := by
  cases state with
  | between => exact reads_start stepped h
  | word due token => exact reads_word stepped h
  | number phase lexeme => exact reads_number stepped h
  | text draft => exact reads_text stepped h
  | escape draft => exact reads_escape stepped h
  | unit draft due value => exact reads_unit stepped h

/-- At the end of a text nothing is still to be read. -/
theorem reads_finish {state : Scan} (finished : state.finish? = some tokens) :
    state.Reads tokens [] := by
  cases state with
  | between =>
    cases finished
    exact .nil (List.forall_mem_nil _)
  | number phase lexeme =>
    rw [finish?] at finished
    split at finished
    · rename_i complete
      cases finished
      exact ⟨[], [], [], rfl, NumberPhase.follows_nil_iff.mpr complete,
        by rw [List.append_nil], .nil (List.forall_mem_nil _)⟩
    · cases finished
  | _ => cases finished

end Scan

/-- What is read from anywhere was still to be read there. -/
theorem Token.reads_of_scanFrom? {state : Scan} {chars : List Char} {tokens : List Token}
    (h : scanFrom? state chars = some tokens) : state.Reads tokens chars := by
  induction chars generalizing state tokens with
  | nil => exact Scan.reads_finish h
  | cons c rest ih =>
    rw [scanFrom?] at h
    split at h
    · cases h
    · rename_i done next stepped
      obtain ⟨others, read, rfl⟩ := Option.map_eq_some_iff.mp h
      exact Scan.reads_step stepped (ih read)

/-- **What is read is spelled.** -/
theorem Token.spelling_of_scan? {chars : List Char} {tokens : List Token}
    (h : scan? chars = some tokens) : Spelling tokens chars :=
  reads_of_scanFrom? h

namespace Token

/-! ## Written tokens -/

/-- A written hexadecimal digit has its value. -/
theorem hexDigit?_digitChar {n : Nat} (h : n < 16) : hexDigit? (Nat.digitChar n) = some n := by
  have all : ∀ digit : Fin 16, hexDigit? (Nat.digitChar digit) = some digit.val := by decide
  exact all ⟨n, h⟩

/-- The four digits of a control character stand for it. -/
theorem hexNumber?_hexPair {n : Nat} (control : n < 0x20) :
    hexNumber? 0 ('0' :: '0' :: hexPair n) = some n := by
  have zero : hexDigit? '0' = some 0 := rfl
  have number : n / 16 % 16 * 16 + n % 16 = n := by omega
  simp [hexPair, hexNumber?, zero, hexDigit?_digitChar (Nat.mod_lt _ (by decide : 0 < 16)), number]

/-- A written character spells an element that stands for it. -/
theorem exists_element_of_escaped (c : Char) :
    ∃ element : Element, element.Spells (escaped c) ∧
      ∀ rest, Element.join? (element :: rest) = (Element.join? rest).map (c :: ·) := by
  unfold escaped
  split
  case h_8 quote backslash _ _ _ _ _ =>
    by_cases control : c.toNat < 0x20
    · rw [if_pos control]
      refine ⟨.unit c.toNat, .numbered rfl (hexNumber?_hexPair control), fun rest => ?_⟩
      have leading : ¬ IsLeading c.toNat := fun h => absurd h.1 (by omega)
      have trailing : ¬ IsTrailing c.toNat := fun h => absurd h.1 (by omega)
      rw [Element.join?_unit_of_not_isLeading leading, if_neg trailing, Char.ofNat_toNat]
    · rw [if_neg control]
      exact ⟨.plain c, .itself (Nat.not_lt.mp control) quote backslash, fun _ => rfl⟩
  all_goals exact ⟨.plain _, .short rfl, fun _ => rfl⟩

/-- Written characters spell elements that stand for them. -/
theorem exists_elements_of_escaped (chars : List Char) :
    ∃ elements, Elements elements (chars.flatMap escaped) ∧
      Element.join? elements = some chars := by
  induction chars with
  | nil => exact ⟨[], .nil, rfl⟩
  | cons c rest ih =>
    obtain ⟨element, spelled, joined⟩ := exists_element_of_escaped c
    obtain ⟨elements, others, same⟩ := ih
    refine ⟨element :: elements, .cons spelled others, ?_⟩
    rw [joined, same, Option.map_some]

/-- **A written token is spelled**, a number if it is spelled as one. -/
theorem spells_chars {token : Token} (h : ∀ lexeme, token = .number lexeme → SpellsNumber lexeme) :
    token.Spells token.chars := by
  cases token with
  | number lexeme => exact ⟨rfl, h lexeme rfl⟩
  | text value =>
    cases value with
    | none =>
      have surrogate : hexNumber? 0 ['d', '8', '0', '0'] = some 0xD800 := by decide
      exact ⟨[.unit 0xD800], _, .cons (.numbered rfl surrogate) .nil, rfl, by decide⟩
    | some text =>
      obtain ⟨elements, spelled, joined⟩ := exists_elements_of_escaped text.toList
      refine ⟨elements, _, spelled, rfl, ?_⟩
      rw [Element.text?, joined, Option.map_some, String.ofList_toList]
  | _ => rfl

end Token

end Json

end HostProvision
