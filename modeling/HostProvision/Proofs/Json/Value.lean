import HostProvision.Proofs.Json.Token

/-! # Texts and their values

The tokens of a value lead a reader through it, whatever containers are open, and a reader that has
read a value has read its tokens.

* `Value.isChain_tokens` says that the tokens of a value keep its numbers apart, and
  `Value.run?_tokens` that they lead a reader past the value; either follows the structure of values.
* `Reader.consumed` are the tokens that a reader has read, and `Reader.consumed_step?` the step.
* **A text is read as the value that it spells**, `Value.parse?_eq_some_iff`: there is nothing else
  that it could be read as, and a text that spells nothing is refused.
* So a written value is read back, `Value.parse?_render`. -/

namespace HostProvision

namespace Json

namespace Value

open Token (Parts)

/-- Whether the numbers among some tokens are spelled as numbers. -/
def AllSpelled (tokens : List Token) : Prop :=
  ∀ lexeme, .number lexeme ∈ tokens → SpellsNumber lexeme

@[simp] theorem allSpelled_nil : AllSpelled [] := by
  simp [AllSpelled]

@[simp] theorem allSpelled_cons_iff {token : Token} {more : List Token} :
    AllSpelled (token :: more) ↔
      (∀ lexeme, token = .number lexeme → SpellsNumber lexeme) ∧ AllSpelled more := by
  simp [AllSpelled, or_imp, forall_and, eq_comm]

@[simp] theorem allSpelled_append_iff {first second : List Token} :
    AllSpelled (first ++ second) ↔ AllSpelled first ∧ AllSpelled second := by
  simp [AllSpelled, or_imp, forall_and]

/-- Whether the numbers of a value are spelled as numbers. -/
def IsSpelled (value : Value) : Prop :=
  AllSpelled value.tokens

/-- Written tokens are spelled one after another. -/
theorem spelling_render {tokens : List Token} (h : AllSpelled tokens) :
    Spelling tokens (Token.render tokens) := by
  induction tokens with
  | nil => exact .nil (List.forall_mem_nil _)
  | cons token more ih =>
    obtain ⟨number, others⟩ := allSpelled_cons_iff.mp h
    rw [Token.render_cons]
    exact .cons (List.forall_mem_nil _) (Token.spells_chars number) (ih others)

/-! ## From the text to its tokens -/

/-- The tokens of two parts are kept apart if those of each part are, and the second part begins with
a token that ends a number. -/
theorem isChain_append_cons {first second : List Token} {token : Token}
    (h : first.IsChain Parts) (ends : token = .comma ∨ token = .closeArray ∨ token = .closeObject)
    (h' : (token :: second).IsChain Parts) : (first ++ token :: second).IsChain Parts := by
  refine List.isChain_append.mpr ⟨h, h', fun last _ next begins => ?_⟩
  obtain rfl := Option.some.inj begins
  exact fun _ _ => ends

/-- A token that is no number may stand before any other. -/
theorem isChain_cons_of_not_number {tokens : List Token} {token : Token}
    (other : ∀ lexeme, token ≠ .number lexeme) (h : tokens.IsChain Parts) :
    (token :: tokens).IsChain Parts :=
  List.isChain_cons.mpr ⟨fun _ _ lexeme same => absurd same (other lexeme), h⟩

mutual

/-- The tokens of a value keep its numbers apart. -/
theorem isChain_tokens (value : Value) : value.tokens.IsChain Parts := by
  match value with
  | .null | .bool value | .text value | .number lexeme => exact List.isChain_singleton _
  | .array items =>
    refine isChain_cons_of_not_number nofun ?_
    exact isChain_append_cons (isChain_itemTokens items) (by simp) (List.isChain_singleton _)
  | .object members =>
    refine isChain_cons_of_not_number nofun ?_
    exact isChain_append_cons (isChain_memberTokens members) (by simp) (List.isChain_singleton _)

/-- The tokens of items keep their numbers apart. -/
theorem isChain_itemTokens (items : List Value) : (itemTokens items).IsChain Parts := by
  match items with
  | [] => exact List.isChain_nil
  | [last] => exact isChain_tokens last
  | item :: next :: rest =>
    refine isChain_append_cons (isChain_tokens item) (by simp) ?_
    exact isChain_cons_of_not_number nofun (isChain_itemTokens (next :: rest))

/-- The tokens of members keep their numbers apart. -/
theorem isChain_memberTokens (members : List (Option String × Value)) :
    (memberTokens members).IsChain Parts := by
  match members with
  | [] => exact List.isChain_nil
  | [(key, last)] =>
    refine isChain_cons_of_not_number nofun (isChain_cons_of_not_number nofun ?_)
    exact isChain_tokens last
  | (key, value) :: next :: rest =>
    refine isChain_cons_of_not_number nofun (isChain_cons_of_not_number nofun ?_)
    refine isChain_append_cons (isChain_tokens value) (by simp) ?_
    exact isChain_cons_of_not_number nofun (isChain_memberTokens (next :: rest))

end

/-! ## From the tokens to the value -/

/-- The first item of an array is read like any other. -/
theorem run?_arrayStart (item : Value) (rest : List Value) (stack : List Frame)
    (more : List Token) :
    (Reader.arrayStart stack).run? (itemTokens (item :: rest) ++ more) =
      (Reader.anyValue (.array [] :: stack)).run? (itemTokens (item :: rest) ++ more) := by
  have first (tokens : List Token) : (Reader.arrayStart stack).run? (item.tokens ++ tokens) =
      (Reader.anyValue (.array [] :: stack)).run? (item.tokens ++ tokens) := by
    cases item <;> rfl
  cases rest with
  | nil => exact first more
  | cons next rest =>
    rw [itemTokens, List.append_assoc]
    exact first _

/-- The first key of an object is read like any other. -/
theorem run?_objectStart (member : Option String × Value) (rest : List (Option String × Value))
    (stack : List Frame) (more : List Token) :
    (Reader.objectStart stack).run? (memberTokens (member :: rest) ++ more) =
      (Reader.nextKey [] stack).run? (memberTokens (member :: rest) ++ more) := by
  cases rest <;> rfl

mutual

/-- The tokens of a value lead a reader past it. -/
theorem run?_tokens (value : Value) (stack : List Frame) :
    (Reader.anyValue stack).run? value.tokens = some (.after value stack) := by
  match value with
  | .null | .bool value | .text value | .number lexeme | .array [] | .object [] => rfl
  | .array (item :: rest) =>
    show (Reader.arrayStart stack).run? (itemTokens (item :: rest) ++ [.closeArray]) = _
    rw [run?_arrayStart, run?_itemTokens (item :: rest) (List.cons_ne_nil item rest)]
    rfl
  | .object (member :: rest) =>
    show (Reader.objectStart stack).run? (memberTokens (member :: rest) ++ [.closeObject]) = _
    rw [run?_objectStart, run?_memberTokens (member :: rest) (List.cons_ne_nil member rest)]
    rfl

/-- The tokens of items lead a reader to the end of their array. -/
theorem run?_itemTokens (items : List Value) (nonempty : items ≠ []) (before : List Value)
    (stack : List Frame) :
    (Reader.anyValue (.array before :: stack)).run? (itemTokens items ++ [.closeArray]) =
      some (.after (.array (before.reverse ++ items)) stack) := by
  match items with
  | [] => exact absurd rfl nonempty
  | [item] =>
    rw [itemTokens, Reader.run?_append, run?_tokens item]
    simp [Reader.run?, Reader.step?]
  | item :: next :: rest =>
    rw [itemTokens, List.append_assoc, Reader.run?_append, run?_tokens item]
    show (Reader.anyValue (.array (item :: before) :: stack)).run?
      (itemTokens (next :: rest) ++ [.closeArray]) = _
    rw [run?_itemTokens (next :: rest) (List.cons_ne_nil next rest)]
    simp

/-- The tokens of members lead a reader to the end of their object. -/
theorem run?_memberTokens (members : List (Option String × Value)) (nonempty : members ≠ [])
    (before : List (Option String × Value)) (stack : List Frame) :
    (Reader.nextKey before stack).run? (memberTokens members ++ [.closeObject]) =
      some (.after (.object (before.reverse ++ members)) stack) := by
  match members with
  | [] => exact absurd rfl nonempty
  | [(key, value)] =>
    show (Reader.anyValue (.object before key :: stack)).run? (value.tokens ++ [.closeObject]) = _
    rw [Reader.run?_append, run?_tokens value]
    simp [Reader.run?, Reader.step?]
  | (key, value) :: next :: rest =>
    show (Reader.anyValue (.object before key :: stack)).run?
      (value.tokens ++ .comma :: memberTokens (next :: rest) ++ [.closeObject]) = _
    rw [List.append_assoc, Reader.run?_append, run?_tokens value]
    show (Reader.nextKey ((key, value) :: before) stack).run?
      (memberTokens (next :: rest) ++ [.closeObject]) = _
    rw [run?_memberTokens (next :: rest) (List.cons_ne_nil next rest)]
    simp

end

/-! ## From the value to its tokens -/

/-- The tokens of items that have others behind them. -/
def leadingItemTokens (items : List Value) : List Token :=
  items.flatMap fun item => item.tokens ++ [.comma]

/-- The tokens of members that have others behind them. -/
def leadingMemberTokens (members : List (Option String × Value)) : List Token :=
  members.flatMap fun (key, value) => .text key :: .colon :: value.tokens ++ [.comma]

/-- The last item ends the tokens of items. -/
theorem itemTokens_append_singleton (items : List Value) (last : Value) :
    itemTokens (items ++ [last]) = leadingItemTokens items ++ last.tokens := by
  induction items with
  | nil => rfl
  | cons item rest ih =>
    obtain ⟨next, more, same⟩ := List.exists_cons_of_ne_nil (List.append_ne_nil_of_right_ne_nil
      rest (List.cons_ne_nil last []))
    rw [List.cons_append, same, itemTokens, ← same, ih]
    simp [leadingItemTokens]

/-- The last member ends the tokens of members. -/
theorem memberTokens_append_singleton (members : List (Option String × Value))
    (key : Option String) (last : Value) :
    memberTokens (members ++ [(key, last)]) =
      leadingMemberTokens members ++ .text key :: .colon :: last.tokens := by
  induction members with
  | nil => rfl
  | cons member rest ih =>
    obtain ⟨next, more, same⟩ := List.exists_cons_of_ne_nil (List.append_ne_nil_of_right_ne_nil
      rest (List.cons_ne_nil (key, last) []))
    rw [List.cons_append, same, memberTokens, ← same, ih]
    simp [leadingMemberTokens]

/-- The tokens that were read of an open container. -/
def Frame.consumed : Frame → List Token
  | .array before => .openArray :: leadingItemTokens before.reverse
  | .object before key =>
    .openObject :: leadingMemberTokens before.reverse ++ [.text key, .colon]

/-- The tokens that were read of open containers, of which the innermost comes first. -/
def stackTokens (stack : List Frame) : List Token :=
  stack.reverse.flatMap Frame.consumed

@[simp] theorem stackTokens_cons (frame : Frame) (stack : List Frame) :
    stackTokens (frame :: stack) = stackTokens stack ++ frame.consumed := by
  simp [stackTokens]

/-- The tokens that a reader has read. -/
def Reader.consumed : Reader → List Token
  | .anyValue stack => stackTokens stack
  | .arrayStart stack => stackTokens stack ++ [.openArray]
  | .objectStart stack => stackTokens stack ++ [.openObject]
  | .nextKey before stack =>
    stackTokens stack ++ .openObject :: leadingMemberTokens before.reverse
  | .colon before key stack =>
    stackTokens stack ++ .openObject :: leadingMemberTokens before.reverse ++ [.text key]
  | .after value stack => stackTokens stack ++ value.tokens

/-- The first token of a value is read. -/
theorem consumed_start? {stack : List Frame} {token : Token} {next : Reader}
    (h : Reader.start? stack token = some next) : next.consumed = stackTokens stack ++ [token] := by
  cases token <;> cases h <;> rfl

/-- **A reader has read one more token** after each step. -/
theorem consumed_step? {reader next : Reader} {token : Token}
    (h : reader.step? token = some next) : next.consumed = reader.consumed ++ [token] := by
  rw [Reader.step?.eq_def] at h
  split at h
  case h_1 => exact consumed_start? h
  case h_3 =>
    rw [consumed_start? h]
    simp [Reader.consumed, Frame.consumed, leadingItemTokens]
  case h_12 => cases h
  -- A container that was closed has the tokens of its items, or members, and its brackets.
  all_goals
    cases h
    simp [Reader.consumed, Frame.consumed, leadingItemTokens, leadingMemberTokens, tokens,
      itemTokens, memberTokens, itemTokens_append_singleton, memberTokens_append_singleton]

/-- A reader has read the tokens that it was led through. -/
theorem consumed_run? {reader next : Reader} {tokens : List Token}
    (h : reader.run? tokens = some next) : next.consumed = reader.consumed ++ tokens := by
  induction tokens generalizing reader with
  | nil =>
    cases h
    exact (List.append_nil _).symm
  | cons token rest ih =>
    obtain ⟨middle, stepped, h⟩ := Option.bind_eq_some_iff.mp h
    rw [ih h, consumed_step? stepped, List.append_assoc, List.singleton_append]

/-- **Tokens stand for the value whose tokens they are**, and for no other. -/
theorem ofTokens?_eq_some_iff {tokens : List Token} {value : Value} :
    ofTokens? tokens = some value ↔ tokens = value.tokens := by
  constructor
  · intro h
    obtain ⟨reader, run, finished⟩ := Option.bind_eq_some_iff.mp h
    have read := consumed_run? run
    -- Nothing but a value without open containers can be finished.
    match reader, finished with
    | .after value [], rfl => exact read.symm
  · rintro rfl
    rw [ofTokens?, run?_tokens]
    rfl

/-! ## From the text to the value and back -/

/-- **A text is read as the value that it spells**, and it is refused if it spells none. -/
theorem parse?_eq_some_iff {text : String} {value : Value} :
    parse? text = some value ↔ value.Spells text := by
  constructor
  · intro h
    obtain ⟨tokens, scanned, read⟩ := Option.bind_eq_some_iff.mp h
    obtain rfl := ofTokens?_eq_some_iff.mp read
    exact Token.spelling_of_scan? scanned
  · intro h
    rw [parse?, Token.scan?_of_spelling h (isChain_tokens value), Option.bind_some]
    exact ofTokens?_eq_some_iff.mpr rfl

/-- **A written value is read back**, if its numbers are spelled as numbers. -/
theorem parse?_render {value : Value} (spelled : value.IsSpelled) :
    parse? value.render = some value := by
  rw [parse?_eq_some_iff, Spells, render, String.toList_ofList]
  exact spelling_render spelled

end Value

end Json

end HostProvision
